import Cubbies.Proofs.AudioHeader
import Cubbies.Proofs.MessageFields
import Cubbies.Proofs.PlaylistAccess

set_option autoImplicit false

/-! # Entries that are missing and names that are too long

A step is `none` if it dereferences an entry of the playlist or a field of a command that is not there, or
copies a text past the end of its array. `handler_defined_iff` says when that happens to the handler in a
run from power-on: in the four states that look up the current audio, if it is not in the playlist or its
name is too long for the arrays it is copied to, and nowhere else; the answers of a question, whose names
are looked up again without a check, are safe in every run. `steps_defined` is what a maintainer wants of
it: with playlists in the direction files, an index that is in the playlist or just behind it where the
box goes back, and BLE clients that keep to the protocol, it happens in no task. Nothing is said here of a
player that is used before `SYS_INIT`, of members read before they are written and of a poll without a
message. -/

namespace Cubbies

open CString

namespace Box

/-! ## The answers of a question -/

/-- The entry that the answers of a question are named after. -/
def AnswerNamed (b : Box) : Prop :=
  ∃ name, b.playlistName b.audioIndex = some name ∧ name.length < 50

/-- Where the answers of a question are still to come, it is there. -/
def AnswerOk (b : Box) : Prop :=
  b.position ∈ [.waitQnaResp, .incorrectAnsTry1, .correctAns] → AnswerNamed b

theorem Asking.answerNamed {name : Bytes} {played : List Bytes} {b : Box} (h : Asking name played b) :
    AnswerNamed b := ⟨name, h.entry, h.short⟩

theorem AnswerOk.of_not_mem {b : Box}
    (h : b.position ∉ [.waitQnaResp, .incorrectAnsTry1, .correctAns]) : AnswerOk b :=
  fun hmem => absurd hmem h

theorem AnswerOk.same {b b' : Box} (h : AnswerOk b) (hjson : b'.json = b.json)
    (hindex : b'.audioIndex = b.audioIndex)
    (hpos : b'.position ∈ [.waitQnaResp, .incorrectAnsTry1, .correctAns] →
      b.position ∈ [.waitQnaResp, .incorrectAnsTry1, .correctAns]) : AnswerOk b' := by
  intro hmem
  obtain ⟨name, hname, hshort⟩ := h (hpos hmem)
  refine ⟨name, ?_, hshort⟩
  unfold playlistName at hname ⊢
  rw [hjson, hindex]
  exact hname

theorem writeFrame_audioIndex (b : Box) (now address len : ℕ) (data : Bytes) :
    (b.writeFrame now address len data).audioIndex = b.audioIndex := by
  by_cases hreg : writeReg? address len = some .nextPrev
  · unfold writeFrame
    rw [hreg]
    dsimp only [writeRegister]
    split_ifs
    · unfold previous
      split_ifs <;> rfl
    · unfold Box.next
      split_ifs <;> rfl
    · rfl
  · exact (writeFrame_sameQuestion b now address len data hreg).1.audioIndex

section

variable [CJson]

theorem task_audioIndex {b b' : Box} {e : BoxEvent} (he : ∀ env, e ≠ .handler env)
    (h : b.step e = some b') : b'.audioIndex = b.audioIndex := by
  cases e with
  | handler env => exact absurd rfl (he env)
  | read now data =>
      obtain rfl := Option.some.inj h
      obtain ⟨state, tick, toy, presense, before, turnTable, commands, dl, battery, charging, uid,
        present, heq⟩ := readFrame_touches b now data
      rw [heq]
  | write now address len data =>
      obtain rfl := Option.some.inj h
      exact writeFrame_audioIndex b now address len data
  | ble now uuid value s =>
      obtain ⟨state, tick, ssid, password, user1, user2, dl, rfl⟩ := onWrite_fields h
      rfl
  | pipeline writer =>
      obtain rfl := Option.some.inj h
      rfl
  | station e =>
      obtain rfl := Option.some.inj h
      rfl

/-- None of the states to which the other tasks send the box is one of a question. -/
theorem AnswerOk.task {b b' : Box} {e : BoxEvent} (hok : AnswerOk b) (he : ∀ env, e ≠ .handler env)
    (h : b.step e = some b') : AnswerOk b' := by
  rcases task_position he h with hmoved | ⟨hpos, -⟩
  · refine .of_not_mem fun hmem => ?_
    revert hmem hmoved
    generalize b'.position = s
    revert s
    decide
  · exact hok.same (task_json he h) (task_audioIndex he h) fun hmem => hpos ▸ hmem

theorem AnswerOk.handler {b b' : Box} {env : HandlerEnv} (hok : AnswerOk b)
    (h : b.handler env = some b') : AnswerOk b' := by
  by_cases hwait : b.state = .waitForPlayer
  · rw [handler_waitForPlayer hwait] at h
    obtain rfl := Option.some.inj h
    have hsame := handleWaitForPlayer_sameQuestion b env
    rcases (handleWaitForPlayer_keeps env hwait).2 with hpos | ⟨-, hpos⟩
    · exact hok.same hsame.json hsame.audioIndex fun hmem => hpos ▸ hmem
    · exact .of_not_mem (by rw [hpos]; decide)
  · have hnext := handler_position h hwait
    have hat := position_of_state rfl hwait
    unfold Box.handler at h
    cases hstate : b.state <;> simp only [hstate] at h hnext hat hwait
    -- three states lead to the wait for an answer
    case playQna =>
      intro _
      have hplay := h
      unfold handlePlayQna at hplay
      obtain ⟨name, hname, -, -⟩ := playCurrent_spec hplay
      exact (handlePlayQna_asking h hname).1.answerNamed
    case incorrectAnsTry1 =>
      intro _
      obtain ⟨name, hname, hshort⟩ := hok (by rw [hat]; decide)
      have hasked : Asking name b.plays b := ⟨hname, hshort, rfl⟩
      obtain ⟨b₁, hb₁, hasking, -⟩ := handleIncorrectAnsTry1_asking hasked env.now
      obtain rfl := Option.some.inj (hb₁.symm.trans h)
      exact hasking.answerNamed
    case waitQnaResp =>
      obtain rfl := Option.some.inj h
      have hsame : SameQuestion b (b.handleWaitQnaResp env.now) := by
        rcases handleWaitQnaResp_cases b env.now with heq | ⟨s, -, heq⟩
        · rw [heq]
          exact .refl b
        · rw [heq]
          exact .setState b _ _
      exact hok.same hsame.json hsame.audioIndex fun _ => by rw [hat]; decide
    case waitForPlayer => exact absurd trivial hwait
    all_goals
      refine .of_not_mem fun hmem => ?_
      revert hmem hnext
      generalize b'.position = s
      revert s
      decide

theorem AnswerOk.step {b b' : Box} {e : BoxEvent} (hok : AnswerOk b) (h : b.step e = some b') :
    AnswerOk b' := by
  cases e with
  | handler env => exact hok.handler h
  | _ => exact hok.task (by simp) h

end

/-! ## The current audio -/

theorem audioLocation_eq {name suffix : Bytes} (hfits : name.length + suffix.length < 80) :
    audioLocation name suffix = some (audioFile name suffix) := by
  have hfolder : (str "/sdcard/media/audio/").length = 20 := by decide
  refine if_pos ?_
  rw [List.length_append, List.length_append, hfolder]
  omega

/-- `location[100]` and `playerFilename[50]` hold the path and the name. -/
theorem playCurrent_defined_iff (b : Box) (now : ℕ) (goBack : SystemState) :
    (∃ b', b.playCurrent now goBack = some b') ↔
      ∃ name, b.playlistName b.currentIndex = some name ∧ name.length < 50 := by
  constructor
  · rintro ⟨b', h⟩
    obtain ⟨name, hname, hshort, -⟩ := playCurrent_spec h
    exact ⟨name, hname, hshort⟩
  · rintro ⟨name, hname, hshort⟩
    have hentry : { b with audioIndex := b.currentIndex }.playlistName b.currentIndex = some name :=
      hname
    have hsuffix : (str ".mp3").length = 4 := by decide
    have hlocation : audioLocation name (str ".mp3") = some (audioFile name (str ".mp3")) :=
      audioLocation_eq (by omega)
    have hfile : strcpy 50 name = some name := if_pos hshort
    unfold playCurrent
    simp only [hentry, hlocation, hfile, Option.bind_eq_bind, Option.bind_some]
    exact ⟨_, rfl⟩

theorem handleReadAudioHeader_defined_iff (b : Box) (now : ℕ) :
    (∃ b', b.handleReadAudioHeader now = some b') ↔
      ∃ name, b.playlistName b.currentIndex = some name ∧ name.length < 76 := by
  have hsuffix : (str ".mp3").length = 4 := by decide
  constructor
  · rintro ⟨b', h⟩
    obtain ⟨b₁, hread, -⟩ := Option.map_eq_some_iff.1 h
    obtain ⟨location, hlocation, -⟩ := Option.map_eq_some_iff.1 hread
    obtain ⟨name, hname, hlocation⟩ := Option.bind_eq_some_iff.1 hlocation
    obtain ⟨hfits, -⟩ := Option.ite_none_right_eq_some.1 hlocation
    have hfolder : (str "/sdcard/media/audio/").length = 20 := by decide
    rw [List.length_append, List.length_append, hfolder] at hfits
    exact ⟨name, hname, by omega⟩
  · rintro ⟨name, hname, hshort⟩
    unfold handleReadAudioHeader readHeader
    rw [hname, Option.bind_some, audioLocation_eq (by omega)]
    exact ⟨_, rfl⟩

/-- The current audio is in the playlist where it is looked up, and its name fits the arrays there. -/
def EntryFits (b : Box) : Prop :=
  (b.state = .readAudioHeader →
      ∃ name, b.playlistName b.currentIndex = some name ∧ name.length < 76) ∧
    (b.state ∈ [.playNormalAudio, .playQna, .playActivity] →
      ∃ name, b.playlistName b.currentIndex = some name ∧ name.length < 50)

/-- A short entry under the number of the audio is enough. -/
theorem EntryFits.of_entry {b : Box} (h : b.state ∈ accessStates → ∃ j name, b.json = some j ∧
    j.getObjectItem (unsigned (b.indexx.toNat + 1)) = some (.string name) ∧ name.length < 50) :
    b.EntryFits := by
  have hentry (hstate : b.state ∈ accessStates) :
      ∃ name, b.playlistName b.currentIndex = some name ∧ name.length < 50 := by
    obtain ⟨j, name, hjson, hitem, hshort⟩ := h hstate
    refine ⟨name, ?_, hshort⟩
    unfold playlistName currentIndex
    rw [hjson, Option.bind_some, hitem]
    rfl
  constructor
  · intro hread
    obtain ⟨name, hname, hshort⟩ := hentry (by rw [hread]; decide)
    exact ⟨name, hname, by omega⟩
  · exact fun hplay => hentry (List.mem_cons_of_mem _ hplay)

section

variable [CJson]

/-- **When a handler step is defined**, in a box in which the answers of a question are. -/
theorem AnswerOk.defined_iff {b : Box} (hok : AnswerOk b) (env : HandlerEnv) :
    (∃ b', b.handler env = some b') ↔ b.EntryFits := by
  have hanswer : b.state ∈ [.waitQnaResp, .incorrectAnsTry1, .correctAns] → AnswerNamed b := by
    intro hmem
    refine hok ?_
    rwa [position_of_state rfl fun hwait => absurd (hwait ▸ hmem) (by decide)]
  unfold Box.handler EntryFits
  cases hstate : b.state <;> simp only [hstate] at hanswer ⊢
  case readAudioHeader =>
    rw [handleReadAudioHeader_defined_iff]
    simp
  case playNormalAudio =>
    unfold handlePlayNormalAudio
    rw [playCurrent_defined_iff]
    simp
  case playQna =>
    unfold handlePlayQna
    rw [playCurrent_defined_iff]
    simp only [reduceCtorEq, false_imp_iff, true_and, List.mem_cons, true_or, or_true, true_imp_iff]
    exact Iff.rfl
  case playActivity =>
    unfold handlePlayActivity
    rw [playCurrent_defined_iff]
    simp only [reduceCtorEq, false_imp_iff, true_and, List.mem_cons, true_or, or_true, true_imp_iff]
    exact Iff.rfl
  case incorrectAnsTry1 =>
    obtain ⟨name, hname, hshort⟩ := hanswer (by decide)
    have hasked : Asking name b.plays b := ⟨hname, hshort, rfl⟩
    obtain ⟨b', hb', -⟩ := handleIncorrectAnsTry1_asking hasked env.now
    exact iff_of_true ⟨b', hb'⟩ (by simp)
  case correctAns =>
    obtain ⟨name, hname, hshort⟩ := hanswer (by decide)
    have hasked : Asking name b.plays b := ⟨hname, hshort, rfl⟩
    obtain ⟨b', hb', -⟩ := handleCorrectAns_asking hasked env.now
    exact iff_of_true ⟨b', hb'⟩ (by simp)
  all_goals exact iff_of_true ⟨_, rfl⟩ (by simp)

/-! ## Runs -/

/-- **The only handler steps that are `none`.** In every run from power-on, whatever the frames, BLE writes
and direction files, the handler finds the entries it looks up, and their names fit, exactly unless the
current audio is looked up and is not in the playlist, or has a name too long for the arrays there. -/
theorem handler_defined_iff {ok : Box → BoxEvent → Prop} {card : Card} {wifi : Wifi}
    {battery charging : UInt8} {b : Box} (h : Box.Reached ok card wifi battery charging b)
    (env : HandlerEnv) : (∃ b', b.handler env = some b') ↔ b.EntryFits := by
  have hok : AnswerOk b := h.invariant (I := AnswerOk)
    (.of_not_mem (by rw [position_of_state (s := .post) rfl (by simp)]; decide))
    fun _ _ _ hok _ hstep => hok.step hstep
  exact hok.defined_iff env

omit [CJson] in
/-- The first audio of a toy is about to be played: the step is defined, as the entry fits. -/
theorem handler_defined_iff_first : ∃ b, Runs.runList (@step listParser) twoToys firstToy = some b ∧
    b.EntryFits ∧ ∃ b', @handler listParser b (quietEnv 0 .other) = some b' := by
  have hrun : ((Runs.runGuarded (@step listParser) (fun _ _ => True) twoToys firstToy).bind
      fun b => @handler listParser b (quietEnv 0 .other)).isSome = true := by decide +kernel
  obtain ⟨b', hb'⟩ := Option.isSome_iff_exists.1 hrun
  obtain ⟨b, hb, hstep⟩ := Option.bind_eq_some_iff.1 hb'
  exact ⟨b, Runs.runList_of_runGuarded hb, (@handler_defined_iff listParser _ _ _ _ _ _
    (Runs.reached_of_runGuarded firstToy hb) (quietEnv 0 .other)).1 ⟨b', hstep⟩, b', hstep⟩

/-- The strings of a playlist fit `playerFilename`. -/
def ShortNames (j : Json) : Prop :=
  ∀ key name, j.getObjectItem key = some (.string name) → name.length < 50

/-- A direction file that is read holds a playlist with short names, where the box goes back it is in its
playlist or just behind it, and a BLE write carries what is read of it or is refused. -/
def WellFed (b : Box) : BoxEvent → Prop
  | .handler _ =>
      (b.state = .getDirection → ∀ t ∈ b.textRead,
        ∃ j n, CJson.parse t = some j ∧ 0 < n ∧ Playlist j n ∧ ShortNames j) ∧
      (b.state = .playPrevious → 0 < b.indexx ∧ b.indexx.toNat ≤ b.playlistSize)
  | .ble _ uuid value _ => b.Complete uuid value ∨ b.Refused uuid value
  | _ => True

theorem WellFed.usesPlaylist {b : Box} {e : BoxEvent} (h : b.WellFed e) : b.UsesPlaylist e := by
  cases e with
  | handler env =>
      refine ⟨fun hstate t ht => ?_, h.2⟩
      obtain ⟨j, n, hparse, hpos, hlist, -⟩ := h.1 hstate t ht
      exact ⟨j, n, hparse, hpos, hlist⟩
  | _ => trivial

/-- What holds of a box whose direction files hold playlists with short names. -/
structure Fed (b : Box) : Prop where
  access : b.AccessOk
  listed : b.Listed
  short : ∀ j, b.json = some j → ShortNames j
  answer : b.AnswerOk

omit [CJson] in
theorem fed_boot (card : Card) (wifi : Wifi) (battery charging : UInt8) :
    Fed (boot card wifi battery charging) where
  access := accessOk_boot card wifi battery charging
  listed _ hjson := by cases hjson
  short _ hjson := by cases hjson
  answer := .of_not_mem (by rw [position_of_state (s := .post) rfl (by simp)]; decide)

theorem Fed.step {b b' : Box} {e : BoxEvent} (h : b.Fed) (hok : b.WellFed e)
    (hstep : b.step e = some b') : b'.Fed := by
  -- what is loaded afterwards was loaded before, or is in the direction file that is read
  have hloaded : b'.json = b.json ∨ ∃ j n, b'.json = some j ∧ Playlist j n ∧ ShortNames j := by
    cases e with
    | handler env =>
        rcases handler_json hstep with hsame | ⟨hload, t, ht, hparse⟩
        · exact .inl hsame
        · obtain ⟨j, n, hj, -, hlist, hshort⟩ := hok.1 hload t ht
          exact .inr ⟨j, n, hparse.trans hj, hlist, hshort⟩
    | _ => exact .inl (task_json (by simp) hstep)
  refine ⟨(h.access.step hstep).1 (hok.usesPlaylist.findsEntry h.listed), ?_, ?_,
    h.answer.step hstep⟩
  · intro j hjson
    rcases hloaded with hsame | ⟨j', n, hj', hlist, -⟩
    · exact h.listed j (hsame ▸ hjson)
    · obtain rfl := Option.some.inj (hj'.symm.trans hjson)
      exact ⟨n, hlist⟩
  · intro j hjson
    rcases hloaded with hsame | ⟨j', n, hj', -, hshort⟩
    · exact h.short j (hsame ▸ hjson)
    · obtain rfl := Option.some.inj (hj'.symm.trans hjson)
      exact hshort

omit [CJson] in
theorem Fed.entryFits {b : Box} (h : b.Fed) : b.EntryFits := by
  refine EntryFits.of_entry fun hstate => ?_
  obtain ⟨fields, name, hjson, hitem⟩ := h.access.of_state hstate
  exact ⟨_, name, hjson, hitem, h.short _ hjson _ name hitem⟩

/-- **No step is `none`.** In every run from power-on in which the direction files that are read hold
playlists with short names, the box goes back only from an index that is in its playlist or just behind it,
and BLE clients keep to the protocol, every next such step of any task finds the entries and fields it
looks up, and the texts it copies fit. -/
theorem steps_defined {card : Card} {wifi : Wifi} {battery charging : UInt8} {b : Box}
    (h : Box.Reached WellFed card wifi battery charging b) {e : BoxEvent} (hok : b.WellFed e) :
    ∃ b', b.step e = some b' := by
  have hfed : b.Fed := h.invariant (fed_boot card wifi battery charging)
    fun _ _ _ hfed hok hstep => hfed.step hok hstep
  cases e with
  | handler env => exact (hfed.answer.defined_iff env).2 hfed.entryFits
  | ble now uuid value s =>
      rcases hok with hcomplete | hrefused
      · exact onWrite_complete now s hcomplete
      · exact ⟨b, onWrite_refused now s hrefused⟩
  | read now data => exact ⟨_, rfl⟩
  | write now address len data => exact ⟨_, rfl⟩
  | pipeline writer => exact ⟨_, rfl⟩
  | station ev => exact ⟨_, rfl⟩

end

/-! ## A toy with two audios -/

theorem listJson_short : ShortNames listJson := by
  intro key name hname
  have hchild := Downloader.mem_children_of_getObjectItem hname
  rcases List.mem_cons.1 hchild with h | h
  · obtain rfl := Json.string.inj h
    decide
  · obtain rfl := Json.string.inj (List.mem_singleton.1 h)
    decide

/-- Handler steps at this toy's direction file, and read frames. -/
def AtList (b : Box) : BoxEvent → Prop
  | .handler _ => (b.state = .getDirection → b.textRead = some listText) ∧ b.state ≠ .playPrevious
  | .read _ _ => True
  | _ => False

instance (b : Box) : ∀ e : BoxEvent, Decidable (b.AtList e)
  | .handler _ => inferInstanceAs (Decidable (_ ∧ _))
  | .read _ _ => inferInstanceAs (Decidable True)
  | .write _ _ _ _ => inferInstanceAs (Decidable False)
  | .ble _ _ _ _ => inferInstanceAs (Decidable False)
  | .pipeline _ => inferInstanceAs (Decidable False)
  | .station _ => inferInstanceAs (Decidable False)

theorem AtList.wellFed {b : Box} {e : BoxEvent} (h : b.AtList e) : @WellFed listParser b e := by
  cases e with
  | handler env =>
      refine ⟨fun hstate t ht => ?_, fun hback => absurd hback h.2⟩
      rw [h.1 hstate] at ht
      obtain rfl := Option.some.inj ht
      exact ⟨listJson, 2, if_pos rfl, by decide, listJson_playlist, listJson_short⟩
  | read _ _ => trivial
  | _ => exact h.elim

/-- The toy is placed, and its first audio is played. -/
theorem steps_defined_first : ∃ b b', Runs.runList (@step listParser) twoToys firstToy = some b ∧
    b.state = .playNormalAudio ∧ @step listParser b handlerStep = some b' := by
  have hrun : (Runs.runGuarded (@step listParser) AtList twoToys firstToy).any
      (fun b => b.state = .playNormalAudio) = true := by decide +kernel
  obtain ⟨b, hb, hstate⟩ := (Option.any_eq_true _ _).1 hrun
  have hplays : b.state = .playNormalAudio := of_decide_eq_true hstate
  have hat : b.AtList handlerStep := by
    show (b.state = .getDirection → b.textRead = some listText) ∧ b.state ≠ .playPrevious
    rw [hplays]
    exact ⟨by simp, by simp⟩
  obtain ⟨b', hb'⟩ := @steps_defined listParser _ _ _ _ _
    ((Runs.reached_of_runGuarded firstToy hb).mono fun _ _ => AtList.wellFed) handlerStep hat.wellFed
  exact ⟨b, b', Runs.runList_of_runGuarded hb, hplays, hb'⟩

end Box

end Cubbies
