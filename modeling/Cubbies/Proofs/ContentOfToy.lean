import Cubbies.Proofs.Shutdown

set_option autoImplicit false

/-! # Whose content is played

The playlist outlives the toy it was read for: `json` is only replaced by `SYS_GET_DIRECTION`, while
`toy` changes with every tag. `ListUse` says what a position of the handler relies on, and `CoreOk` that
it may: the toy is on the box, and where the playlist is used it is this toy's. The handler keeps that
by itself but for one branch, the resumption in `SYS_TOY_DETECTED`; an exchanged tag and a button
pressed during a tone can break it too. `Suits` excludes exactly these steps. -/

namespace Cubbies

open CString

namespace Box

/-! ## What a position relies on -/

/-- What the handler does with the playlist from a position on, before it reads one again: nothing;
nothing, but it goes on with the toy on the box; step to the next audio; use the current audio. -/
inductive ListUse where
  | none
  | toy
  | next
  | current
  deriving DecidableEq

def listUse : SystemState → ListUse
  | .toyDetected | .playToy | .playingComplete | .getDirection => .toy
  | .playNext | .resumePlaying | .waitActivityResp => .next
  | .readAudioHeader | .playPrevious | .playActivity | .playQna | .waitQnaResp
  | .incorrectAnsTry1 | .correctAns | .playNormalAudio => .current
  | _ => .none

namespace Core

/-- The playlist was read from the folder of the toy on the box. -/
def OwnList (c : Core) : Prop := c.loaded = some c.toy

/-- The current audio is the last of the playlist. -/
def AtEnd (c : Core) : Prop := (c.json.map Json.getArraySize).getD 0 ≤ (c.indexx + 1).toNat

/-- What the handler is about to do with the playlist, it may do. -/
def Allows (c : Core) : ListUse → Prop
  | .none => True
  | .toy => c.toyPresenseFlag = true
  | .next => c.toyPresenseFlag = true ∧ (c.OwnList ∨ c.AtEnd)
  | .current => c.toyPresenseFlag = true ∧ c.OwnList

/-- The box may be at the position `s`. -/
def Ok (c : Core) (s : SystemState) : Prop := c.Allows (listUse s)

instance (c : Core) : Decidable c.OwnList := inferInstanceAs (Decidable (_ = _))

instance (c : Core) : Decidable c.AtEnd := inferInstanceAs (Decidable (_ ≤ _))

instance (c : Core) : ∀ use : ListUse, Decidable (c.Allows use)
  | .none => inferInstanceAs (Decidable True)
  | .toy => inferInstanceAs (Decidable (_ = _))
  | .next => inferInstanceAs (Decidable (_ ∧ (c.OwnList ∨ c.AtEnd)))
  | .current => inferInstanceAs (Decidable (_ ∧ c.OwnList))

instance (c : Core) (s : SystemState) : Decidable (c.Ok s) :=
  inferInstanceAs (Decidable (c.Allows (listUse s)))

/-- A position that relies on no more is fine as well. -/
theorem Ok.mono {c : Core} {s t : SystemState} (h : c.Ok s)
    (hle : (listUse t).ctorIdx ≤ (listUse s).ctorIdx) : c.Ok t := by
  unfold Ok at h ⊢
  cases ht : listUse t with
  | none => trivial
  | toy =>
      cases hs : listUse s with
      | none => simp [hs, ht, ListUse.ctorIdx] at hle
      | toy => rwa [hs] at h
      | next => rw [hs] at h; exact h.1
      | current => rw [hs] at h; exact h.1
  | next =>
      cases hs : listUse s with
      | none => simp [hs, ht, ListUse.ctorIdx] at hle
      | toy => simp [hs, ht, ListUse.ctorIdx] at hle
      | next => rwa [hs] at h
      | current => rw [hs] at h; exact ⟨h.1, .inl h.2⟩
  | current =>
      cases hs : listUse s with
      | none => simp [hs, ht, ListUse.ctorIdx] at hle
      | toy => simp [hs, ht, ListUse.ctorIdx] at hle
      | next => simp [hs, ht, ListUse.ctorIdx] at hle
      | current => rwa [hs] at h

/-- The same for one position out of a list. -/
theorem Ok.mono_of_mem {c : Core} {s t : SystemState} {l : List SystemState} (h : c.Ok s)
    (ht : t ∈ l) (hle : ∀ t ∈ l, (listUse t).ctorIdx ≤ (listUse s).ctorIdx) : c.Ok t :=
  h.mono (hle t ht)

end Core

/-- **The invariant.** -/
structure CoreOk (b : Box) : Prop where
  ok : b.core.Ok b.position
  present : b.core.toyPresenseFlag = b.core.tagPresentFlag

/-- A step that keeps the core to a position that is fine with it. -/
theorem CoreOk.of_core {b b' : Box} (h : CoreOk b) (hcore : b'.core = b.core)
    (hok : b.core.Ok b'.position) : CoreOk b' :=
  ⟨by rw [hcore]; exact hok, by rw [hcore]; exact h.present⟩

/-- A step that keeps core and position. -/
theorem CoreOk.of_eq {b b' : Box} (h : CoreOk b) (hcore : b'.core = b.core)
    (hstate : b'.state = b.state) (hback : b'.playerGoBackToState = b.playerGoBackToState) :
    CoreOk b' := by
  refine h.of_core hcore ?_
  have hpos : b'.position = b.position := by
    unfold position
    rw [hstate, hback]
  rw [hpos]
  exact h.ok

/-- Without a tag nothing relies on the toy. -/
theorem listUse_none_of_absent {b : Box} (hinv : CoreOk b) (hflag : b.tagPresentFlag = false) :
    listUse b.position = .none := by
  have habsent : ¬ b.core.toyPresenseFlag = true := by
    rw [hinv.present]
    simp [core, hflag]
  have hok := hinv.ok
  unfold Core.Ok at hok
  cases huse : listUse b.position with
  | none => rfl
  | toy => rw [huse] at hok; exact absurd hok habsent
  | next => rw [huse] at hok; exact absurd hok.1 habsent
  | current => rw [huse] at hok; exact absurd hok.1 habsent

/-- From `b` to `b'` an audio of a playlist is started. -/
def StartsAudio (b b' : Box) : Prop :=
  ∃ new location, b'.commands = new ++ b.commands ∧ .play location ∈ new ∧
    audioFolder <+: location

theorem not_startsAudio_of_quiet {b b' : Box} (h : Quiet b b') : ¬ StartsAudio b b' := by
  rintro ⟨new, location, hnew, hmem, haudio⟩
  obtain ⟨new', hnew', hquiet⟩ := h
  obtain rfl := List.append_cancel_right (hnew.symm.trans hnew')
  exact hquiet location hmem haudio

theorem startsAudio_of_commands {b b' : Box} {location : Bytes}
    (h : b'.commands = .play location :: b.commands) (haudio : audioFolder <+: location) :
    StartsAudio b b' := ⟨[.play location], location, h, by simp, haudio⟩

/-! ## The steps that may change whose content is played -/

/-- The steps the box copes with. -/
def Suits (b : Box) : BoxEvent → Prop
  | .handler env =>
      b.state = .toyDetected → b.resumes env.now = true → b.core.OwnList ∨ b.core.AtEnd
  | .read _ data =>
      b.Exchanges data → listUse b.position ≠ .current ∧ (listUse b.position = .next → b.core.AtEnd)
  | .write _ address len data =>
      b.state = .waitForPlayer →
        (PressesNext address len data → b.core.Ok .playNext) ∧
          (PressesPrevious address len data → b.indexx > 0 → b.core.Ok .playPrevious)
  | _ => True

instance (b : Box) : ∀ e : BoxEvent, Decidable (b.Suits e)
  | .handler env =>
      inferInstanceAs (Decidable (b.state = .toyDetected → b.resumes env.now = true →
        b.core.OwnList ∨ b.core.AtEnd))
  | .read _ data =>
      inferInstanceAs (Decidable (b.Exchanges data →
        listUse b.position ≠ .current ∧ (listUse b.position = .next → b.core.AtEnd)))
  | .write _ address len data =>
      inferInstanceAs (Decidable (b.state = .waitForPlayer →
        (PressesNext address len data → b.core.Ok .playNext) ∧
          (PressesPrevious address len data → b.indexx > 0 → b.core.Ok .playPrevious)))
  | .ble _ _ _ _ => inferInstanceAs (Decidable True)
  | .pipeline _ => inferInstanceAs (Decidable True)
  | .station _ => inferInstanceAs (Decidable True)

theorem readFrame_coreOk {b : Box} {now : ℕ} {data : Bytes} (hsuits : b.Suits (.read now data))
    (hinv : CoreOk b) : CoreOk (b.readFrame now data) := by
  rcases readFrame_outcome b now data with ⟨-, hstate, hpresence, hflag, -⟩ |
    ⟨hnew, hcore, hstate, hback, -⟩ | ⟨hcore, hstate, hback, -⟩
  · refine ⟨?_, hpresence.trans hflag.symm⟩
    rw [position_of_state hstate (by simp)]
    trivial
  · have hpos : (b.readFrame now data).position = b.position := by
      unfold position
      rw [hstate, hback]
    refine ⟨?_, by rw [hcore]⟩
    rw [hcore, hpos]
    unfold Core.Ok
    rcases hnew with hflag | hexchanges
    · rw [listUse_none_of_absent hinv hflag]
      trivial
    · obtain ⟨hcurrent, hend⟩ := hsuits hexchanges
      cases huse : listUse b.position with
      | none => trivial
      | toy => rfl
      | next => exact ⟨rfl, .inr (hend huse)⟩
      | current => exact absurd huse hcurrent
  · exact hinv.of_eq hcore hstate hback

section

variable [CJson]

/-! ## The handler -/

/-- What a handler step does to toy and playlist. -/
inductive HandlerOutcome (b : Box) (env : HandlerEnv) (b' : Box) : Prop
  /-- it keeps them and leads to a position that is as fine as the one before -/
  | keeps : Keeps b b' → (b.core.Ok b.position → b.core.Ok b'.position) → HandlerOutcome b env b'
  | resumes : b.state = .toyDetected → b.resumes env.now = true → Keeps b b' →
      b'.position = .resumePlaying → HandlerOutcome b env b'
  | loads (content : Bytes) : b.state = .getDirection → Keeps (b.loadPlaylist content) b' →
      b'.position ∈ [SystemState.readAudioHeader, .shutMeDown] → HandlerOutcome b env b'
  | advances : b.state = .playNext → Keeps b.advance b' →
      b'.position = .playingComplete ∨ ¬ b.core.AtEnd ∧
        b'.position ∈ [SystemState.readAudioHeader, .shutMeDown] → HandlerOutcome b env b'
  | goesBack (i : UInt8) : b.state = .playPrevious →
      Keeps { b.skipCurrentAudio with indexx := i } b' → b'.position = .readAudioHeader →
      HandlerOutcome b env b'
  | plays (goBack : SystemState) : listUse b.position = .current → Plays b b' goBack →
      listUse goBack = .current ∨ listUse goBack = .next → HandlerOutcome b env b'
  | verifies : b.state = .initUserIdCheck → b' = b.handleInitUserIdCheck env →
      HandlerOutcome b env b'

theorem HandlerOutcome.of_mem {b b' : Box} {env : HandlerEnv} {s : SystemState}
    {l : List SystemState} (hat : b.position = s) (h : Keeps b b' ∧ b'.position ∈ l)
    (hle : ∀ t ∈ l, (listUse t).ctorIdx ≤ (listUse s).ctorIdx) : HandlerOutcome b env b' :=
  .keeps h.1 fun hok => (hat ▸ hok).mono_of_mem h.2 hle

theorem HandlerOutcome.of_eq {b b' : Box} {env : HandlerEnv} {s t : SystemState}
    (hat : b.position = s) (h : Keeps b b' ∧ b'.position = t)
    (hle : (listUse t).ctorIdx ≤ (listUse s).ctorIdx) : HandlerOutcome b env b' :=
  .keeps h.1 fun hok => h.2 ▸ (hat ▸ hok).mono hle

/-- A state that waits stays or goes on. -/
theorem HandlerOutcome.of_stays {b b' : Box} {env : HandlerEnv} {s : SystemState}
    {l : List SystemState} (hat : b.position = s) (h : Keeps b b' ∧ b'.position ∈ b.position :: l)
    (hle : ∀ t ∈ l, (listUse t).ctorIdx ≤ (listUse s).ctorIdx) : HandlerOutcome b env b' := by
  refine .keeps h.1 fun hok => ?_
  rcases List.mem_cons.1 h.2 with hpos | hpos
  · rwa [hpos]
  · exact (hat ▸ hok).mono_of_mem hpos hle

theorem handler_outcome {b b' : Box} {env : HandlerEnv} (h : b.handler env = some b') :
    HandlerOutcome b env b' := by
  have hat {s : SystemState} (hstate : b.state = s) (hs : s ≠ .waitForPlayer) :
      b.position = s := position_of_state hstate hs
  unfold handler at h
  cases hstate : b.state <;> simp only [hstate] at h
  case post =>
    obtain rfl := Option.some.inj h
    exact .of_mem (hat hstate (by simp)) (handlePost_keeps b env.now) (by decide)
  case init =>
    obtain rfl := Option.some.inj h
    exact .of_eq (hat hstate (by simp)) (handleInit_keeps b env.now) (by decide)
  case idle =>
    obtain rfl := Option.some.inj h
    obtain ⟨hkeeps, hpos⟩ := handleIdle_keeps b env.now
    rcases hpos with hpos | ⟨hpos, hpresent⟩
    · exact .of_stays (hat hstate (by simp)) ⟨hkeeps, hpos⟩ (by decide)
    · exact .keeps hkeeps fun _ => by rw [hpos]; exact hpresent
  case initWifiCheck =>
    obtain rfl := Option.some.inj h
    exact .of_mem (hat hstate (by simp)) (handleInitWifiCheck_keeps b env) (by decide)
  case initUserIdCheck => exact .verifies hstate (Option.some.inj h).symm
  case waitForPlayer =>
    obtain rfl := Option.some.inj h
    obtain ⟨hkeeps, hpos⟩ := handleWaitForPlayer_keeps env hstate
    refine .keeps hkeeps fun hok => ?_
    rcases hpos with hpos | ⟨hactivity, hpos⟩
    · rwa [hpos]
    · rw [hpos]
      rw [hactivity] at hok
      exact hok.mono (by decide)
  case toyDetected =>
    obtain rfl := Option.some.inj h
    obtain ⟨hkeeps, hpos⟩ := handleToyDetected_keeps b env.now
    by_cases hresumes : b.resumes env.now = true
    · exact .resumes hstate hresumes hkeeps (by rw [hpos, if_pos hresumes])
    · rw [if_neg hresumes] at hpos
      refine .of_mem (l := [.playToy, .downloadWifiConn]) (hat hstate (by simp)) ⟨hkeeps, ?_⟩
        (by decide)
      rw [hpos]
      split_ifs <;> simp
  case playToy =>
    obtain rfl := Option.some.inj h
    exact .of_eq (hat hstate (by simp)) ⟨.setState b _ _, position_setState (by simp)⟩ (by decide)
  case playingComplete =>
    obtain rfl := Option.some.inj h
    exact .of_eq (hat hstate (by simp)) ⟨.setState b _ _, position_setState (by simp)⟩ (by decide)
  case playNext =>
    obtain rfl := Option.some.inj h
    obtain ⟨hkeeps, hpos⟩ := handlePlayNext_keeps b env.now
    refine .advances hstate hkeeps ?_
    rcases hpos with hpos | ⟨hmore, hpos⟩
    · exact .inl hpos
    · have hjson : b.advance.json = b.json :=
        congrArg Core.json (setIndexx_spec (Keeps.skipCurrentAudio b) (b.indexx + 1)).1
      refine .inr ⟨fun hend => ?_, hpos⟩
      unfold playlistSize at hmore
      rw [hjson] at hmore
      exact absurd hend (Nat.not_le.2 hmore)
  case playPrevious =>
    obtain rfl := Option.some.inj h
    obtain ⟨i, hkeeps, hpos⟩ := handlePlayPrevious_keeps b env.now
    exact .goesBack i hstate hkeeps hpos
  case resumePlaying =>
    obtain rfl := Option.some.inj h
    exact .of_eq (hat hstate (by simp)) (resumePlaying_keeps b env.now) (by decide)
  case getDirection =>
    obtain rfl := Option.some.inj h
    rcases handleGetDirection_spec b env.now with hkeeps | ⟨content, hkeeps, hpos⟩
    · exact .of_mem (hat hstate (by simp)) hkeeps (by decide)
    · exact .loads content hstate hkeeps hpos
  case error =>
    obtain rfl := Option.some.inj h
    exact .keeps (.refl b) id
  case readAudioHeader =>
    exact .of_mem (hat hstate (by simp)) (handleReadAudioHeader_keeps h) (by decide)
  case playActivity =>
    exact .plays _ (by rw [hat hstate (by simp)]; rfl) (handlePlayActivity_plays h) (.inr rfl)
  case waitActivityResp =>
    obtain rfl := Option.some.inj h
    exact .of_stays (hat hstate (by simp)) (handleWaitActivityResp_keeps b env.now) (by decide)
  case playQna =>
    exact .plays _ (by rw [hat hstate (by simp)]; rfl) (handlePlayQna_plays h) (.inl rfl)
  case waitQnaResp =>
    obtain rfl := Option.some.inj h
    exact .of_stays (hat hstate (by simp)) (handleWaitQnaResp_keeps b env.now) (by decide)
  case incorrectAnsTry1 =>
    exact .plays _ (by rw [hat hstate (by simp)]; rfl) (handleIncorrectAnsTry1_plays h) (.inl rfl)
  case correctAns =>
    exact .plays _ (by rw [hat hstate (by simp)]; rfl) (handleCorrectAns_plays h) (.inr rfl)
  case playNormalAudio =>
    exact .plays _ (by rw [hat hstate (by simp)]; rfl) (playCurrent_plays h) (.inr rfl)
  case downloadWifiConn =>
    obtain rfl := Option.some.inj h
    exact .of_stays (hat hstate (by simp)) (handleDownloadWifiConn_keeps b env) (by decide)
  case downloadToy =>
    obtain rfl := Option.some.inj h
    exact .of_eq (hat hstate (by simp)) (handleDownloadToy_keeps b env) (by decide)
  case wifiConnectErr =>
    obtain rfl := Option.some.inj h
    exact .of_eq (hat hstate (by simp))
      ⟨.toneThen b _ _ isTone_invalidWifiCredsTone, position_toneThen (by simp)⟩ (by decide)
  case wifiCredMissingErr =>
    obtain rfl := Option.some.inj h
    exact .of_eq (hat hstate (by simp))
      ⟨.toneThen b _ _ isTone_pleaseEnterWifiCredsTone, position_toneThen (by simp)⟩ (by decide)
  case shutMeDown =>
    obtain rfl := Option.some.inj h
    exact .of_eq (hat hstate (by simp)) (handleShutMeDown_keeps b env.now) (by decide)
  case turnOff =>
    obtain rfl := Option.some.inj h
    exact .of_eq (t := .turnOff) (hat hstate (by simp))
      ⟨.of_eq rfl rfl rfl, position_of_state rfl (by simp)⟩ (by decide)

/-- A handler step starts no audio of a playlist, or the playlist is the toy's. -/
theorem handler_starts {b b' : Box} {env : HandlerEnv} (h : b.handler env = some b')
    (hinv : CoreOk b) : Quiet b b' ∨ b.core.toyPresenseFlag = true ∧ b.core.OwnList := by
  rcases handler_outcome h with ⟨hkeeps, -⟩ | ⟨-, -, hkeeps, -⟩ | ⟨content, -, hkeeps, -⟩ |
    ⟨-, hkeeps, -⟩ | ⟨i, -, hkeeps, -⟩ | ⟨goBack, huse, -, -⟩ | ⟨-, rfl⟩
  · exact .inl hkeeps.quiet
  · exact .inl hkeeps.quiet
  · exact .inl hkeeps.quiet
  · exact .inl ((setIndexx_spec (Keeps.skipCurrentAudio b) (b.indexx + 1)).2.2.trans hkeeps.quiet)
  · exact .inl ((setIndexx_spec (Keeps.skipCurrentAudio b) i).2.2.trans hkeeps.quiet)
  · have hok := hinv.ok
    unfold Core.Ok at hok
    rw [huse] at hok
    exact .inr hok
  · exact .inl (handleInitUserIdCheck_spec b env).2.1

/-- The playlist that was just read is the toy's. -/
theorem ownList_loadPlaylist (b : Box) (content : Bytes) : (b.loadPlaylist content).core.OwnList :=
  rfl

theorem handler_coreOk {b b' : Box} {env : HandlerEnv} (h : b.handler env = some b')
    (hsuits : b.Suits (.handler env)) (hinv : CoreOk b) : CoreOk b' := by
  have hok := hinv.ok
  rcases handler_outcome h with ⟨hkeeps, hnext⟩ | ⟨hstate, hresumes, hkeeps, hpos⟩ |
    ⟨content, hstate, hkeeps, hpos⟩ | ⟨hstate, hkeeps, hpos⟩ | ⟨i, hstate, hkeeps, hpos⟩ |
    ⟨goBack, huse, hplays, hback⟩ | ⟨hstate, rfl⟩
  · exact hinv.of_core hkeeps.core (hnext hok)
  · rw [position_of_state hstate (by simp)] at hok
    refine hinv.of_core hkeeps.core ?_
    rw [hpos]
    exact ⟨hok, hsuits hstate hresumes⟩
  · rw [position_of_state hstate (by simp)] at hok
    refine CoreOk.of_core (b := b.loadPlaylist content) ⟨?_, hinv.present⟩ hkeeps.core ?_
    · have hat : (b.loadPlaylist content).position = .getDirection :=
        position_of_state hstate (by simp)
      rw [hat]
      exact hok
    · have hread : (b.loadPlaylist content).core.Ok .readAudioHeader :=
        ⟨hok, ownList_loadPlaylist b content⟩
      exact hread.mono_of_mem hpos (by decide)
  · rw [position_of_state hstate (by simp)] at hok
    have hcore : b'.core = { b.core with indexx := b.indexx + 1 } :=
      hkeeps.core.trans (setIndexx_spec (Keeps.skipCurrentAudio b) (b.indexx + 1)).1
    refine ⟨?_, by rw [hcore]; exact hinv.present⟩
    rw [hcore]
    obtain ⟨hpresent, hlist⟩ := hok
    rcases hpos with hpos | ⟨hmore, hpos⟩
    · rw [hpos]
      exact hpresent
    · have hread : { b.core with indexx := b.indexx + 1 }.Ok .readAudioHeader :=
        ⟨hpresent, hlist.resolve_right hmore⟩
      exact hread.mono_of_mem hpos (by decide)
  · rw [position_of_state hstate (by simp)] at hok
    have hcore : b'.core = { b.core with indexx := i } :=
      hkeeps.core.trans (setIndexx_spec (Keeps.skipCurrentAudio b) i).1
    refine ⟨?_, by rw [hcore]; exact hinv.present⟩
    rw [hcore, hpos]
    exact hok
  · refine hinv.of_core hplays.core ?_
    rw [hplays.position]
    refine hok.mono ?_
    rw [huse]
    rcases hback with hback | hback
    · rw [hback]
    · rw [hback]
      decide
  · obtain ⟨hcore, -, hpos⟩ := handleInitUserIdCheck_spec b env
    refine hinv.of_core hcore ?_
    rw [position_of_state hstate (by simp)] at hpos hok
    exact hok.mono_of_mem hpos (by decide)

/-! ## All tasks -/

theorem step_coreOk {b b' : Box} {e : BoxEvent} (h : b.step e = some b') (hsuits : b.Suits e)
    (hinv : CoreOk b) : CoreOk b' := by
  cases e with
  | handler env => exact handler_coreOk h hsuits hinv
  | read now data =>
      obtain rfl := Option.some.inj h
      exact readFrame_coreOk hsuits hinv
  | write now address len data =>
      obtain rfl := Option.some.inj h
      rcases writeFrame_outcome b now address len data with ⟨hpress, hwait, heq⟩ |
        ⟨hpress, hwait, hpos, heq⟩ | ⟨hcore, hstate, hback, -⟩
      · rw [heq]
        refine hinv.of_core rfl ?_
        rw [position_setState (by simp)]
        exact (hsuits hwait).1 hpress
      · rw [heq]
        refine hinv.of_core rfl ?_
        rw [position_setState (by simp)]
        exact (hsuits hwait).2 hpress hpos
      · exact hinv.of_eq hcore hstate hback
  | ble now uuid value s =>
      rcases onWrite_outcome h with ⟨-, hcore, hstate, -⟩ | ⟨hcore, hstate, hback, -⟩
      · refine hinv.of_core hcore ?_
        have hmem : b'.position ∈ [SystemState.initWifiCheck, .initUserIdCheck] := by
          rwa [position_of_state rfl]
          rintro hwait
          rw [hwait] at hstate
          simp at hstate
        have hfree : b.core.Ok .initWifiCheck := trivial
        exact hfree.mono_of_mem hmem (by decide)
      · exact hinv.of_eq hcore hstate hback
  | pipeline writer =>
      obtain rfl := Option.some.inj h
      exact hinv.of_eq rfl rfl rfl
  | station e =>
      obtain rfl := Option.some.inj h
      exact hinv.of_eq rfl rfl rfl

theorem coreOk_of_reached {card : Card} {wifi : Wifi} {battery charging : UInt8} {b : Box}
    (h : Reached Suits card wifi battery charging b) : CoreOk b :=
  Runs.Reached.invariant h ⟨trivial, rfl⟩ fun _ _ _ hinv hsuits hs => step_coreOk hs hsuits hinv

/-- **The content played is the toy's.** In runs of steps the box copes with, a handler step that
starts an audio of a playlist finds the toy on the box and the playlist read from its folder. -/
theorem startsAudio_ownList {card : Card} {wifi : Wifi} {battery charging : UInt8} {b b' : Box}
    {env : HandlerEnv} (hb : Reached Suits card wifi battery charging b)
    (hstep : b.handler env = some b') (hstarts : StartsAudio b b') :
    b.toyPresenseFlag = true ∧ b.loaded = some b.toy :=
  (handler_starts hstep (coreOk_of_reached hb)).resolve_left fun hquiet =>
    not_startsAudio_of_quiet hquiet hstarts

/-- In some run from `b₀` a handler step starts an audio of a playlist that is not the toy's. -/
def PlaysOther (b₀ : Box) : Prop :=
  ∃ b b' env, Runs.Reached (fun b e b' => step b e = some b') (fun _ _ => True) b₀ b ∧
    b.handler env = some b' ∧ StartsAudio b b' ∧
    ¬ (b.toyPresenseFlag = true ∧ b.loaded = some b.toy)

/-- Whether the last handler step of a run starts the audio at `location`. -/
def playsAt (b₀ : Box) (before : List BoxEvent) (env : HandlerEnv) (location : Bytes) :
    Option (Bool × Bool) :=
  (Runs.runList step b₀ before).bind fun b =>
    (b.handler env).map fun b' =>
      (decide (b'.commands = .play location :: b.commands), decide (b.loaded = some b.toy))

theorem playsOther_of_playsAt {b₀ : Box} {before : List BoxEvent} {env : HandlerEnv}
    {location : Bytes} (haudio : audioFolder <+: location)
    (h : b₀.playsAt before env location = some (true, false)) : PlaysOther b₀ := by
  obtain ⟨b, hb, hlast⟩ := Option.bind_eq_some_iff.1 h
  obtain ⟨b', hb', heq⟩ := Option.map_eq_some_iff.1 hlast
  rw [Prod.mk.injEq] at heq
  refine ⟨b, b', env, Runs.reached_of_runList _ hb, hb',
    startsAudio_of_commands (of_decide_eq_true heq.1) haudio, ?_⟩
  rintro ⟨-, hown⟩
  exact absurd hown (of_decide_eq_false heq.2)

end

/-! ## Three ways to play the content of another toy -/

/-- A playlist of two audios, as text and parsed. -/
def listText : Bytes := str "\x7b\"1\":\"a\",\"2\":\"b\"\x7d"

def listJson : Json := .object [(str "1", .string (str "a")), (str "2", .string (str "b"))]

/-- A parser that knows this text. -/
@[reducible] def listParser : CJson := ⟨fun s => if s = listText then some listJson else none⟩

def toyFolder (uid : Uid) : Bytes := str "/sdcard/media/toys/" ++ uidText uid

/-- A card with two downloaded toys and the tone for a new toy. -/
def twoToysCard : Card where
  dirs := [str "/sdcard", str "/sdcard/media", str "/sdcard/media/toys",
    toyFolder Downloader.uidX, toyFolder Downloader.uidY]
  files := [(toyDetectTone, []),
    (directionPath (uidText Downloader.uidX) (str "north"), listText),
    (verifyPath (uidText Downloader.uidX), []),
    (directionPath (uidText Downloader.uidY) (str "north"), listText),
    (verifyPath (uidText Downloader.uidY), [])]
  files_nodup := by decide +kernel
  files_in_dirs := by decide +kernel

def twoToys : Box := boot twoToysCard (Wifi.boot none) 0 0

def toneEnds : BoxEvent := .handler (quietEnv 0 .finished)

/-- The first toy is placed; its first audio is about to be played. -/
def firstToy : List BoxEvent :=
  [tagFrame Downloader.uidX 100, handlerStep, handlerStep, handlerStep, toneEnds] ++
    List.replicate 4 handlerStep

/-- The first audio plays, and the toy is exchanged for the second one without a frame between. -/
def exchangeRun : List BoxEvent :=
  firstToy ++ [handlerStep, tagFrame Downloader.uidY 100, toneEnds, handlerStep, handlerStep]

/-- The button for the next audio is pressed while the tone for the second toy plays. -/
def nextRun : List BoxEvent :=
  firstToy ++ [handlerStep, tagFrame noUid 100, tagFrame Downloader.uidY 100, handlerStep, nextFrame,
    handlerStep, handlerStep]

/-- The second toy is taken off again during its tone, and put back. -/
def resumeRun : List BoxEvent :=
  firstToy ++ [handlerStep, tagFrame noUid 100, tagFrame Downloader.uidY 100, handlerStep,
    tagFrame noUid 100, handlerStep, tagFrame Downloader.uidY 100] ++ List.replicate 5 handlerStep

def firstAudio : Bytes := str "/sdcard/media/audio/a.mp3"

def secondAudio : Bytes := str "/sdcard/media/audio/b.mp3"

/-- The first audio of the first toy. -/
theorem startsAudio_ownList_first : ∃ b b', @Box.handler listParser b (quietEnv 0 .other) = some b' ∧
    StartsAudio b b' ∧ b.toyPresenseFlag = true ∧ b.loaded = some b.toy := by
  have hrun : (@Runs.runGuarded _ _ (@step listParser) Suits _ twoToys firstToy).isSome = true := by
    decide +kernel
  have hplays : (@playsAt listParser twoToys firstToy (quietEnv 0 .other) firstAudio) =
      some (true, true) := by decide +kernel
  obtain ⟨b, hb⟩ := Option.isSome_iff_exists.1 hrun
  obtain ⟨b₁, hb₁, hlast⟩ := Option.bind_eq_some_iff.1 hplays
  obtain rfl : b₁ = b := Option.some.inj (hb₁.symm.trans (Runs.runList_of_runGuarded hb))
  obtain ⟨b', hb', heq⟩ := Option.map_eq_some_iff.1 hlast
  rw [Prod.mk.injEq] at heq
  have hstarts : StartsAudio b₁ b' :=
    startsAudio_of_commands (of_decide_eq_true heq.1) (by decide)
  exact ⟨b₁, b', hb', hstarts, @startsAudio_ownList listParser _ _ _ _ _ _ _
    (Runs.reached_of_runGuarded firstToy hb) hb' hstarts⟩

/-- Each of the three runs ends with the second audio of the first toy's playlist, played with the
second toy on the box. -/
theorem plays_other_toy : @PlaysOther listParser twoToys ∧
    ∀ before ∈ [exchangeRun, nextRun, resumeRun],
      @playsAt listParser twoToys before (quietEnv 0 .other) secondAudio = some (true, false) := by
  have hruns : ∀ before ∈ [exchangeRun, nextRun, resumeRun],
      @playsAt listParser twoToys before (quietEnv 0 .other) secondAudio = some (true, false) := by
    decide +kernel
  exact ⟨@playsOther_of_playsAt listParser _ _ _ _ (by decide) (hruns exchangeRun (by simp)), hruns⟩

end Box

end Cubbies
