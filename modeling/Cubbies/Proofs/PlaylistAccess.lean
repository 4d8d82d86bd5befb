import Cubbies.Proofs.DirectionFile
import Cubbies.Proofs.LowBattery
import Cubbies.Proofs.PlaylistOrder

set_option autoImplicit false

/-! # Whether the current audio is in the playlist

Four states take the name of the current audio from `json` without a check. Three steps decide which
audio that is: `SYS_GET_DIRECTION` when it has read a direction file, `SYS_PLAY_NEXT` when there are
more fields, and `SYS_PLAY_PREVIOUS`. None of them looks for the field. `access_valid` says that nothing
else matters: the accesses are valid in every run in which these steps find their audio, and the first
such step that does not leads to one that is not. -/

namespace Cubbies

open CString

namespace Box

/-- The states that read the current audio's field of `json`. -/
def accessStates : List SystemState :=
  [.readAudioHeader, .playNormalAudio, .playQna, .playActivity]

/-- `json` is an object with a string under the number of the audio `indexx`. -/
def HasEntry (json : Option Json) (indexx : UInt8) : Prop :=
  ∃ fields name, json = some (.object fields) ∧
    (Json.object fields).getObjectItem (unsigned (indexx.toNat + 1)) = some (.string name)

/-- The same as a look-up. -/
theorem hasEntry_iff (json : Option Json) (indexx : UInt8) :
    HasEntry json indexx ↔
      ((json.bind fun j => j.stringField? (unsigned (indexx.toNat + 1))).isSome = true) := by
  constructor
  · rintro ⟨fields, name, rfl, hentry⟩
    simp [Json.stringField?, hentry, Json.valuestring?]
  · intro h
    obtain ⟨name, hname⟩ := Option.isSome_iff_exists.1 h
    obtain ⟨j, rfl, hfield⟩ := Option.bind_eq_some_iff.1 hname
    obtain ⟨item, hitem, hstring⟩ := Option.bind_eq_some_iff.1 hfield
    cases item with
    | string s =>
        cases j with
        | object fields => exact ⟨fields, s, rfl, hitem⟩
        | _ => cases hitem
    | _ => cases hstring

instance (json : Option Json) (indexx : UInt8) : Decidable (HasEntry json indexx) :=
  decidable_of_iff _ (hasEntry_iff json indexx).symm

/-- The field of the current audio is there when the box is at a state that reads it. -/
def AccessOk (b : Box) : Prop := b.position ∈ accessStates → HasEntry b.json b.indexx

theorem AccessOk.of_position {b : Box} (h : b.position ∉ accessStates) : b.AccessOk :=
  fun hmem => absurd hmem h

theorem AccessOk.of_mem {b : Box} {l : List SystemState} (h : b.position ∈ l)
    (hl : ∀ s ∈ l, s ∉ accessStates) : b.AccessOk := .of_position (hl _ h)

theorem AccessOk.of_state {b : Box} (h : b.AccessOk) (hstate : b.state ∈ accessStates) :
    HasEntry b.json b.indexx := by
  refine h ?_
  rwa [position_of_state rfl fun hwait => absurd (hwait ▸ hstate) (by decide)]

/-- A step that keeps playlist and position. -/
theorem AccessOk.of_core {b b' : Box} (h : b.AccessOk) (hcore : b'.core = b.core)
    (hpos : b'.position ∈ accessStates → b.position ∈ accessStates) : b'.AccessOk := by
  intro hmem
  have hjson : b'.json = b.json := congrArg Core.json hcore
  have hindexx : b'.indexx = b.indexx := congrArg Core.indexx hcore
  rw [hjson, hindexx]
  exact h (hpos hmem)

/-! ## The steps that go on to an audio -/

theorem playlistSize_advance (b : Box) : b.advance.playlistSize = b.playlistSize := by
  unfold playlistSize
  rw [show b.advance.json = b.json from json_skipCurrentAudio b]

/-- With a battery that is not low the next audio is read. -/
theorem readOrShutDown_full {b : Box} (h : ¬ b.LowBattery) (now : ℕ) :
    b.readOrShutDown now = b.setState now .readAudioHeader := by
  unfold readOrShutDown batteryCheck
  split
  · next hrange =>
      have hcharging : b.chargingState > 0 := by
        refine UInt8.lt_of_le_of_ne (UInt8.zero_le) fun hzero => h (.inr ⟨hrange.1, ?_, hzero.symm⟩)
        have hlt := hrange.2
        rw [UInt8.lt_iff_toNat_lt] at hlt
        rw [UInt8.le_iff_toNat_le]
        exact Nat.le_of_lt_succ hlt
      rw [if_pos hcharging]
  · split
    · next hempty => exact absurd (.inl hempty) h
    · rfl

section

variable [CJson]

/-- The playlist and the index with which a handler step goes on to an audio. -/
def movesTo (b : Box) : Option (Option Json × UInt8) :=
  match b.state with
  | .getDirection =>
      if b.LowBattery then none else b.textRead.map fun t => (CJson.parse t, 0)
  | .playNext =>
      if b.LowBattery ∨ b.playlistSize ≤ (b.indexx + 1).toNat then none
      else some (b.json, b.indexx + 1)
  | .playPrevious => some (b.json, if b.indexx > 0 then b.indexx - 1 else b.indexx)
  | _ => none

/-- A handler step that goes on to an audio finds it in the playlist. -/
def FindsEntry (b : Box) : BoxEvent → Prop
  | .handler _ => ∀ m ∈ b.movesTo, HasEntry m.1 m.2
  | _ => True

instance (b : Box) : ∀ e : BoxEvent, Decidable (b.FindsEntry e)
  | .handler _ => inferInstanceAs (Decidable (∀ m ∈ b.movesTo, HasEntry m.1 m.2))
  | .read _ _ => inferInstanceAs (Decidable True)
  | .write _ _ _ _ => inferInstanceAs (Decidable True)
  | .ble _ _ _ _ => inferInstanceAs (Decidable True)
  | .pipeline _ => inferInstanceAs (Decidable True)
  | .station _ => inferInstanceAs (Decidable True)

theorem handleGetDirection_movesTo {b : Box} {m : Option Json × UInt8} (hstate : b.state = .getDirection)
    (hm : b.movesTo = some m) (now : ℕ) :
    (b.handleGetDirection now).state = .readAudioHeader ∧
      (b.handleGetDirection now).json = m.1 ∧ (b.handleGetDirection now).indexx = m.2 := by
  simp only [movesTo, hstate] at hm
  split at hm
  · cases hm
  · next hlow =>
      obtain ⟨t, ht, rfl⟩ := Option.map_eq_some_iff.1 hm
      obtain ⟨direction, hdirection, ht⟩ := Option.bind_eq_some_iff.1 ht
      obtain ⟨content, hcontent, rfl⟩ := Option.map_eq_some_iff.1 ht
      have hloaded : ¬ (b.loadPlaylist content).LowBattery := hlow
      unfold handleGetDirection
      simp only [hdirection, hcontent]
      rw [readOrShutDown_full hloaded]
      obtain ⟨hcore, hread, -⟩ := showTheme_same ((b.loadPlaylist content).setState now .readAudioHeader)
      exact ⟨hread, congrArg Core.json hcore, congrArg Core.indexx hcore⟩

/-- **A step that goes on to an audio** leads to the header of just that audio. -/
theorem handler_movesTo {b b' : Box} {env : HandlerEnv} {m : Option Json × UInt8}
    (hm : b.movesTo = some m) (h : b.handler env = some b') :
    b'.state = .readAudioHeader ∧ b'.json = m.1 ∧ b'.indexx = m.2 := by
  cases hstate : b.state
  case getDirection =>
    simp only [handler, hstate, Option.some.injEq] at h
    exact h ▸ handleGetDirection_movesTo hstate hm env.now
  case playNext =>
    simp only [handler, hstate, Option.some.injEq] at h
    simp only [movesTo, hstate] at hm
    split at hm
    · cases hm
    · next hstays =>
        obtain rfl := Option.some.inj hm
        obtain ⟨hlow, hmore⟩ := not_or.1 hstays
        have hadvanced : ¬ b.advance.LowBattery := by
          unfold advance skipCurrentAudio
          split <;> exact hlow
        have hindexx : b.advance.indexx = b.indexx + 1 := rfl
        unfold handlePlayNext at h
        dsimp only at h
        rw [playlistSize_advance, hindexx, if_neg hmore, readOrShutDown_full hadvanced] at h
        rw [← h]
        exact ⟨rfl, json_skipCurrentAudio b, rfl⟩
  case playPrevious =>
    simp only [handler, hstate, Option.some.injEq] at h
    simp only [movesTo, hstate, Option.some.injEq] at hm
    rw [← h, ← hm]
    exact ⟨rfl, json_skipCurrentAudio b, rfl⟩
  all_goals simp [movesTo, hstate] at hm

/-! ## All other steps -/

theorem handleGetDirection_stays {b : Box} (hstate : b.state = .getDirection)
    (hm : b.movesTo = none) (now : ℕ) :
    (b.handleGetDirection now).position ∈ [.error, .downloadWifiConn, .shutMeDown] := by
  have hpos : (b.handleGetDirection now).position = .readAudioHeader ∨
      (b.handleGetDirection now).position ∈ [.error, .downloadWifiConn, .shutMeDown] := by
    rcases handleGetDirection_spec b now with ⟨-, hmem⟩ | ⟨content, -, hmem⟩
    · simp only [List.mem_cons, List.not_mem_nil, or_false] at hmem ⊢
      tauto
    · simp only [List.mem_cons, List.not_mem_nil, or_false] at hmem ⊢
      tauto
  refine hpos.resolve_left fun hread => ?_
  by_cases hlow : b.LowBattery
  · exact handleGetDirection_low hlow now (hread ▸ by decide)
  · simp only [movesTo, hstate, if_neg hlow, Option.map_eq_none_iff] at hm
    unfold handleGetDirection at hread
    split at hread
    · rw [position_setState (by simp)] at hread
      cases hread
    · next direction hdirection =>
        rw [textRead, hdirection, Option.bind_some, Option.map_eq_none_iff] at hm
        rw [hm] at hread
        dsimp only at hread
        rw [(showTheme_keeps _).2, position_setState (by simp)] at hread
        cases hread

theorem handlePlayNext_stays {b : Box} (hstate : b.state = .playNext) (hm : b.movesTo = none)
    (now : ℕ) : (b.handlePlayNext now).position ∈ [.playingComplete, .shutMeDown] := by
  simp only [movesTo, hstate] at hm
  split at hm
  · next hstays =>
      rcases (handlePlayNext_keeps b now).2 with hend | ⟨hmore, hpos⟩
      · rw [hend]
        exact List.mem_cons_self
      · have hlow : b.LowBattery := by
          refine hstays.resolve_right fun hend => ?_
          rw [playlistSize_advance] at hmore
          exact absurd hmore (Nat.not_lt.2 hend)
        rcases List.mem_cons.1 hpos with hread | hshut
        · exact absurd (hread ▸ by decide) (handlePlayNext_low hlow now)
        · exact List.mem_cons_of_mem _ hshut
  · cases hm

/-- **A step that goes on to no audio** leads to no state that reads the playlist, other than from one
such state to the next. -/
theorem AccessOk.handler {b b' : Box} {env : HandlerEnv} (hinv : b.AccessOk)
    (hm : b.movesTo = none) (h : b.handler env = some b') : b'.AccessOk := by
  by_cases hwait : b.state = .waitForPlayer
  · rw [handler_waitForPlayer hwait] at h
    obtain rfl := Option.some.inj h
    obtain ⟨hkeeps, hpos⟩ := handleWaitForPlayer_keeps env hwait
    rcases hpos with hsame | ⟨-, hnext⟩
    · exact hinv.of_core hkeeps.core fun hmem => hsame ▸ hmem
    · exact .of_position (hnext ▸ by decide)
  · have hnext := handler_position h hwait
    have hat := position_of_state rfl hwait
    unfold Box.handler at h
    cases hstate : b.state <;> simp only [hstate] at h hnext hat hwait
    case getDirection =>
      obtain rfl := Option.some.inj h
      exact .of_mem (handleGetDirection_stays hstate hm env.now) (by decide)
    case playNext =>
      obtain rfl := Option.some.inj h
      exact .of_mem (handlePlayNext_stays hstate hm env.now) (by decide)
    case playPrevious => simp [movesTo, hstate] at hm
    case readAudioHeader =>
      have hread : b.position ∈ accessStates := by
        rw [hat]
        decide
      exact hinv.of_core (handleReadAudioHeader_keeps h).1.core fun _ => hread
    case waitForPlayer => exact absurd trivial hwait
    -- the others lead away from the playlist
    all_goals exact .of_mem hnext (by decide)

/-- The other tasks load nothing. -/
theorem task_json {b b' : Box} {e : BoxEvent} (he : ∀ env, e ≠ .handler env)
    (h : b.step e = some b') : b'.json = b.json := by
  cases e with
  | handler env => exact absurd rfl (he env)
  | read now data =>
      obtain rfl := Option.some.inj h
      obtain ⟨state, tick, toy, presense, before, turnTable, commands, dl, battery, charging, uid,
        present, heq⟩ := readFrame_touches b now data
      rw [heq]
  | write now address len data =>
      obtain rfl := Option.some.inj h
      rcases writeFrame_outcome b now address len data with ⟨-, -, hb'⟩ | ⟨-, -, -, hb'⟩ |
        ⟨hcore, -⟩
      · rw [hb']
        rfl
      · rw [hb']
        rfl
      · exact congrArg Core.json hcore
  | ble now uuid value s =>
      rcases onWrite_outcome h with ⟨-, hcore, -⟩ | ⟨hcore, -⟩
      · exact congrArg Core.json hcore
      · exact congrArg Core.json hcore
  | pipeline writer =>
      obtain rfl := Option.some.inj h
      rfl
  | station e =>
      obtain rfl := Option.some.inj h
      rfl

/-- None of the states to which the other tasks send the box reads the playlist. -/
theorem AccessOk.task {b b' : Box} {e : BoxEvent} (hinv : b.AccessOk)
    (he : ∀ env, e ≠ .handler env) (h : b.step e = some b') : b'.AccessOk := by
  rcases task_position he h with hpos | ⟨hpos, hindexx⟩
  · exact .of_mem hpos (by decide)
  · intro hmem
    rw [task_json he h, hindexx]
    exact hinv (hpos ▸ hmem)

/-! ## Runs -/

/-- **One step**: it goes on to an audio, or keeps the accesses valid. -/
theorem AccessOk.step {b b' : Box} {e : BoxEvent} (hinv : b.AccessOk) (h : b.step e = some b') :
    (b.FindsEntry e → b'.AccessOk) ∧
      ((b'.state ∈ accessStates → HasEntry b'.json b'.indexx) ↔ b.FindsEntry e) := by
  have hkept (hb' : b'.AccessOk) (hfinds : b.FindsEntry e) :
      (b.FindsEntry e → b'.AccessOk) ∧
        ((b'.state ∈ accessStates → HasEntry b'.json b'.indexx) ↔ b.FindsEntry e) :=
    ⟨fun _ => hb', iff_of_true hb'.of_state hfinds⟩
  cases e with
  | handler env =>
      cases hm : b.movesTo with
      | none =>
          refine hkept (hinv.handler hm h) ?_
          intro m hmem
          rw [hm] at hmem
          cases hmem
      | some m =>
          obtain ⟨hread, hjson, hindexx⟩ := handler_movesTo hm h
          have hfinds : b.FindsEntry (.handler env) ↔ HasEntry b'.json b'.indexx := by
            rw [hjson, hindexx]
            show (∀ m' ∈ b.movesTo, HasEntry m'.1 m'.2) ↔ HasEntry m.1 m.2
            rw [hm]
            exact ⟨fun hall => hall m rfl, fun hentry m' hmem => Option.some.inj hmem ▸ hentry⟩
          rw [hfinds]
          refine ⟨fun hentry _ => hentry, fun hall => hall ?_, fun hentry _ => hentry⟩
          rw [hread]
          decide
  | _ => exact hkept (hinv.task (by simp) h) trivial

omit [CJson] in
theorem accessOk_boot (card : Card) (wifi : Wifi) (battery charging : UInt8) :
    (boot card wifi battery charging).AccessOk :=
  .of_position (by rw [position_of_state (s := .post) rfl (by simp)]; decide)

/-- **Every playlist access is valid exactly as long as every step to an audio finds it.** After a run
of steps that do, a state that reads the playlist finds the current audio's field; and the state the
next step leads to does if and only if that step finds its audio too. -/
theorem access_valid {card : Card} {wifi : Wifi} {battery charging : UInt8} {b : Box}
    (h : Box.Reached FindsEntry card wifi battery charging b) :
    (b.state ∈ accessStates → HasEntry b.json b.indexx) ∧
      ∀ e b', b.step e = some b' →
        ((b'.state ∈ accessStates → HasEntry b'.json b'.indexx) ↔ b.FindsEntry e) := by
  have hinv : b.AccessOk := by
    refine h.invariant (I := AccessOk) (accessOk_boot card wifi battery charging) ?_
    intro b e b' hinv hok hstep
    exact (hinv.step hstep).1 hok
  exact ⟨hinv.of_state, fun e b' hstep => (hinv.step hstep).2⟩

/-! ## Direction files that hold playlists -/

/-- Where a direction file is read it holds a playlist, and where the box goes back it is in its playlist
or just behind it. -/
def UsesPlaylist (b : Box) : BoxEvent → Prop
  | .handler _ =>
      (b.state = .getDirection →
        ∀ t ∈ b.textRead, ∃ j n, CJson.parse t = some j ∧ 0 < n ∧ Playlist j n) ∧
      (b.state = .playPrevious → 0 < b.indexx ∧ b.indexx.toNat ≤ b.playlistSize)
  | _ => True

/-- What is loaded is a playlist. -/
def Listed (b : Box) : Prop := ∀ j, b.json = some j → ∃ n, Playlist j n

omit [CJson] in
theorem hasEntry_of_playlist {j : Json} {n : ℕ} {i : UInt8} (hlist : Playlist j n)
    (hi : i.toNat < n) : HasEntry (some j) i := by
  obtain ⟨fields, rfl, -⟩ := hlist.size
  obtain ⟨name, hname⟩ := hlist.entries i.toNat hi
  exact ⟨fields, name, rfl, hname⟩

omit [CJson] in
/-- Below the size of what is loaded there is an audio. -/
theorem Listed.hasEntry {b : Box} (h : b.Listed) {i : UInt8} (hi : i.toNat < b.playlistSize) :
    HasEntry b.json i := by
  cases hjson : b.json with
  | none =>
      unfold playlistSize at hi
      rw [hjson] at hi
      exact absurd hi (Nat.not_lt_zero _)
  | some j =>
      obtain ⟨n, hlist⟩ := h j hjson
      rw [playlistSize_eq hjson hlist] at hi
      exact hasEntry_of_playlist hlist hi

theorem UsesPlaylist.findsEntry {b : Box} {e : BoxEvent} (h : b.UsesPlaylist e) (hlisted : b.Listed) :
    b.FindsEntry e := by
  cases e with
  | handler env =>
      obtain ⟨hload, hback⟩ := h
      intro m hm
      cases hstate : b.state
      case getDirection =>
        simp only [movesTo, hstate] at hm
        split at hm
        · cases hm
        · obtain ⟨t, ht, rfl⟩ := Option.map_eq_some_iff.1 hm
          obtain ⟨j, n, hparse, hpos, hlist⟩ := hload hstate t ht
          rw [hparse]
          exact hasEntry_of_playlist hlist hpos
      case playNext =>
        simp only [movesTo, hstate] at hm
        split at hm
        · cases hm
        · next hstays =>
            obtain rfl := Option.some.inj hm
            exact hlisted.hasEntry (Nat.lt_of_not_le fun hend => hstays (.inr hend))
      case playPrevious =>
        obtain ⟨hpos, hsize⟩ := hback hstate
        simp only [movesTo, hstate] at hm
        obtain rfl := Option.some.inj hm
        dsimp only
        rw [if_pos hpos]
        refine hlisted.hasEntry (Nat.lt_of_succ_le ?_)
        rw [Nat.succ_eq_add_one, toNat_pred hpos]
        exact hsize
      all_goals simp [movesTo, hstate] at hm
  | _ => trivial

/-- The handler loads nothing but what it reads from a direction file. -/
theorem handler_json {b b' : Box} {env : HandlerEnv} (h : b.handler env = some b') :
    b'.json = b.json ∨
      b.state = .getDirection ∧ ∃ t, b.textRead = some t ∧ b'.json = CJson.parse t := by
  rcases handler_outcome h with ⟨hkeeps, -⟩ | ⟨-, -, hkeeps, -⟩ | ⟨content, hstate, -, -⟩ |
    ⟨-, hkeeps, -⟩ | ⟨i, -, hkeeps, -⟩ | ⟨goBack, -, hplays, -⟩ | ⟨-, rfl⟩
  · exact .inl (congrArg Core.json hkeeps.core)
  · exact .inl (congrArg Core.json hkeeps.core)
  · simp only [handler, hstate, Option.some.injEq] at h
    cases ht : b.textRead with
    | some t => exact .inr ⟨hstate, t, rfl, h ▸ handleGetDirection_json b env.now ht⟩
    | none =>
        refine .inl ?_
        rw [← h]
        unfold handleGetDirection
        split
        · rfl
        · next direction hdirection =>
            rw [textRead, hdirection, Option.bind_some, Option.map_eq_none_iff] at ht
            rw [ht]
            exact congrArg Core.json (showTheme_keeps (b.setState env.now .downloadWifiConn)).1.core
  · exact .inl ((congrArg Core.json hkeeps.core).trans (json_skipCurrentAudio b))
  · exact .inl ((congrArg Core.json hkeeps.core).trans (json_skipCurrentAudio b))
  · exact .inl (congrArg Core.json hplays.core)
  · exact .inl (congrArg Core.json (handleInitUserIdCheck_spec b env).1)

/-- **With playlists in the direction files** every access is valid, as long as the box does not go back
from further behind the end of its playlist. -/
theorem access_valid_of_playlists {card : Card} {wifi : Wifi} {battery charging : UInt8} {b : Box}
    (h : Box.Reached UsesPlaylist card wifi battery charging b) (hstate : b.state ∈ accessStates) :
    HasEntry b.json b.indexx := by
  have hlisted : (boot card wifi battery charging).Listed := fun j hjson => by cases hjson
  have hboot := And.intro (accessOk_boot card wifi battery charging) hlisted
  refine (h.invariant (I := fun b : Box => b.AccessOk ∧ b.Listed) hboot ?_).1.of_state hstate
  rintro b e b' ⟨hinv, hlisted⟩ hok hstep
  refine ⟨(hinv.step hstep).1 (hok.findsEntry hlisted), ?_⟩
  intro j hjson
  cases e with
  | handler env =>
      rcases handler_json hstep with hsame | ⟨hload, t, ht, hparse⟩
      · exact hlisted j (hsame.symm.trans hjson)
      · obtain ⟨j', n, hparse', -, hlist⟩ := hok.1 hload t ht
        obtain rfl : j' = j := Option.some.inj (hparse'.symm.trans (hparse.symm.trans hjson))
        exact ⟨n, hlist⟩
  | _ =>
      have hsame := task_json (by simp) hstep
      exact hlisted j (hsame.symm.trans hjson)

/-- An evaluation shows that a run ends where a field is read that is not there. -/
theorem invalid_of_run {b₀ : Box} (es : List BoxEvent)
    (h : (Runs.runList step b₀ es).map
      (fun b => decide (b.state ∈ accessStates ∧ ¬ HasEntry b.json b.indexx)) = some true) :
    ∃ b, Runs.Reached (fun b e b' => step b e = some b') (fun _ _ => True) b₀ b ∧
      b.state ∈ accessStates ∧ ¬ HasEntry b.json b.indexx := by
  obtain ⟨b, hb, hinvalid⟩ := Option.map_eq_some_iff.1 h
  exact ⟨b, Runs.reached_of_runList _ hb, of_decide_eq_true hinvalid⟩

end

/-! ## Accesses without an entry -/

/-- The first toy's direction file holds a text that is no JSON. -/
def damagedToy : Box :=
  boot ((twoToysCard.writeFile (directionPath (uidText Downloader.uidX) (str "north"))
    (str "x")).getD twoToysCard) (Wifi.boot none) 0 0

/-- A direction file that does not parse: the toy is placed, and its playlist is used. And a box that
never read a playlist: the button for the next audio was pressed during one tone and that for the
previous audio during another. -/
theorem access_invalid :
    (∃ b, Runs.Reached (fun b e b' => @step listParser b e = some b') (fun _ _ => True) damagedToy b ∧
      b.state ∈ accessStates ∧ ¬ HasEntry b.json b.indexx) ∧
    ∃ b, Runs.Reached (fun b e b' => @step listParser b e = some b') (fun _ _ => True)
        chargedBox b ∧
      b.state ∈ accessStates ∧ ¬ HasEntry b.json b.indexx := by
  constructor
  · exact @invalid_of_run listParser _ firstToy.dropLast (by decide +kernel)
  · exact @invalid_of_run listParser _ (secondShutdown ++ [handlerStep, previousFrame, handlerStep])
      (by decide +kernel)

/-- A toy with a playlist of two audios: when the first is read, it is there. -/
theorem access_valid_first : ∃ b, Runs.runList (@step listParser) twoToys firstToy = some b ∧
    b.state = .playNormalAudio ∧ HasEntry b.json b.indexx := by
  have hrun : ((@Runs.runGuarded _ _ (@step listParser) (@FindsEntry listParser) _ twoToys firstToy).map
      Box.state) = some .playNormalAudio := by
    decide +kernel
  obtain ⟨b, hb, hstate⟩ := Option.map_eq_some_iff.1 hrun
  refine ⟨b, Runs.runList_of_runGuarded hb, hstate, ?_⟩
  exact (@access_valid listParser _ _ _ _ _ (Runs.reached_of_runGuarded firstToy hb)).1
    (hstate ▸ by decide)

end Box

end Cubbies
