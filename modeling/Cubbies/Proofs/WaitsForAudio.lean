import Cubbies.Proofs.Completions
import Cubbies.Proofs.ResumeWindow

set_option autoImplicit false

/-! # The wait for the player has something to wait for

A step that enters `SYS_WAIT_FOR_PLAYER` has just started or resumed an audio (`handler_waits`). While
the box waits, an audio that ends leaves a `FINISHED` report, which is taken in the step that leaves the
wait. An ear stops a question for good, and then leads on itself. `waits_for_something` says that this
is all, as long as no ear stops another audio and `SYS_IDLE` does not stop its own tone. -/

namespace Cubbies

open CString

namespace Box

/-! ## Steps that enter the wait -/

/-- The box does not wait, or an audio was started last. -/
def Ready (b : Box) : Prop :=
  b.state ≠ .waitForPlayer ∨ ∃ location rest, b.commands = .play location :: rest

theorem Ready.setState (b : Box) (now : ℕ) {s : SystemState} (hs : s ≠ .waitForPlayer) :
    (b.setState now s).Ready := .inl hs

theorem Ready.of_eq {b b' : Box} (h : b.Ready) (hstate : b'.state = b.state)
    (hcommands : b'.commands = b.commands) : b'.Ready := by
  unfold Ready
  rw [hstate, hcommands]
  exact h

theorem Ready.playThen (b : Box) (now : ℕ) (location : Bytes) (goBack : SystemState) :
    (b.playThen now location goBack).Ready :=
  .inr ⟨location, b.commands, commands_play b location⟩

theorem Ready.toneThen (b : Box) (now : ℕ) (tone : Bytes) {s : SystemState}
    (hs : s ≠ .waitForPlayer) : (b.toneThen now tone s).Ready := by
  unfold Box.toneThen
  split
  · exact .playThen b now tone s
  · exact .setState b now hs

theorem Ready.batteryCheck {b charging full : Box} (now : ℕ) (hcharging : charging.Ready)
    (hfull : full.Ready) : (b.batteryCheck now charging full).Ready := by
  unfold Box.batteryCheck
  split_ifs
  · exact hcharging
  · exact .toneThen b now batLowTone (by simp)
  · exact .setState _ _ (by simp)
  · exact hfull

theorem Ready.readOrShutDown (b : Box) (now : ℕ) : (b.readOrShutDown now).Ready :=
  .batteryCheck now (.setState _ _ (by simp)) (.setState _ _ (by simp))

theorem Ready.showTheme {b : Box} (h : b.Ready) : b.showTheme.Ready := by
  have hlight : ∀ c, (b.lightTheme c).Ready := fun _ => h.of_eq rfl rfl
  unfold Box.showTheme
  split
  · split
    · exact h
    · exact hlight _
  · exact h

theorem handlePlayNext_ready (b : Box) (now : ℕ) : (b.handlePlayNext now).Ready := by
  unfold handlePlayNext
  dsimp only
  split
  · exact .setState _ _ (by simp)
  · exact .readOrShutDown b.advance now

theorem handleDownloadWifiConn_ready {b : Box} (env : HandlerEnv) (h : b.Ready) :
    (b.handleDownloadWifiConn env).Ready := by
  unfold handleDownloadWifiConn
  dsimp only
  split_ifs
  · exact .toneThen _ _ _ (by simp)
  · exact .setState _ _ (by simp)
  · exact .setState _ _ (by simp)
  · exact h.of_eq rfl rfl

theorem playCurrent_ready {b b' : Box} {now : ℕ} {goBack : SystemState}
    (h : b.playCurrent now goBack = some b') : b'.Ready := by
  simp only [playCurrent, Option.bind_eq_bind, Option.bind_eq_some_iff] at h
  obtain ⟨name, -, location, -, playerFilename, -, hb⟩ := h
  rw [← Option.some.inj hb]
  exact .playThen _ now location goBack

theorem playAnswer_ready {b b' : Box} {now : ℕ} {suffix : Bytes} {goBack : SystemState}
    (h : b.playAnswer now suffix goBack = some b') : b'.Ready := by
  simp only [playAnswer, Option.bind_eq_bind, Option.bind_eq_some_iff] at h
  obtain ⟨name, -, location, -, hb⟩ := h
  rw [← Option.some.inj hb]
  exact .playThen b now location goBack

/-! ### `SYS_IDLE` -/

/-- `SYS_IDLE` plays the tone of the empty battery and stops the pipeline in the same step. -/
def StopsTone (b : Box) (now : ℕ) : Prop :=
  b.state = .idle ∧ timeSpent now b.idleSinceTick 300000 = false ∧
    (28 ≤ b.batteryLevel ∧ b.batteryLevel < 35 ∧ ¬ b.chargingState > 0 ∧ b.hasFile batLowTone) ∧
      b.goneTooLong now = true

instance (b : Box) (now : ℕ) : Decidable (b.StopsTone now) :=
  inferInstanceAs (Decidable (_ ∧ _ ∧ (_ ∧ _ ∧ _ ∧ _) ∧ _))

theorem idleRemoval_ready {b : Box} (now : ℕ)
    (h : b.state ≠ .waitForPlayer ∨ b.Ready ∧ b.goneTooLong now = false) :
    (b.idleRemoval now).Ready := by
  rw [idleRemoval_eq]
  split
  · next hgone =>
      have hnot : ¬ (b.Ready ∧ b.goneTooLong now = false) := by
        intro hready
        exact absurd (hgone.symm.trans hready.2) (by simp)
      exact .inl (h.resolve_right hnot)
  · rcases h with hstate | ⟨hready, -⟩
    · exact .inl hstate
    · exact hready.of_eq rfl rfl

/-- A toy on the box: the tone for it plays, or the box goes on. -/
theorem idleToy_ready {b : Box} (now : ℕ) (hpresent : b.toyPresenseFlag = true) :
    (b.idleToy now).Ready ∧ (b.idleToy now).goneTooLong now = false := by
  refine ⟨?_, ?_⟩
  · unfold idleToy
    rw [if_pos hpresent]
    dsimp only
    split
    · exact .toneThen _ now toyDetectTone (by simp)
    · exact .setState _ _ (by simp)
  · have hthere := (idleToy_of_present now hpresent).2
    unfold goneTooLong
    rw [hthere]
    simp

theorem goneTooLong_congr {b b₁ : Box} (now : ℕ) (hmemory : KeepsMemory b b₁)
    (hflag : b₁.toyPresenseFlag = b.toyPresenseFlag) : b₁.goneTooLong now = b.goneTooLong now := by
  have honce : b₁.toyPlacedOnce = b.toyPlacedOnce := congrArg Memory.toyPlacedOnce hmemory
  unfold goneTooLong
  rw [removalTick_congr now hmemory hflag, hflag, honce]

/-- The parts after the battery check, from a box that does not wait or plays the tone of the empty
battery. -/
theorem idleParts_ready {b : Box} (now : ℕ)
    (h : b.state ≠ .waitForPlayer ∨ b.Ready ∧ b.goneTooLong now = false) :
    ((b.idleToy now).idleRemoval now).Ready := by
  cases hpresent : b.toyPresenseFlag with
  | true => exact idleRemoval_ready now (.inr (idleToy_ready now hpresent))
  | false =>
      rw [idleToy_of_absent now hpresent]
      exact idleRemoval_ready now h

theorem handleIdle_ready {b : Box} {now : ℕ} (hstate : b.state = .idle) :
    (b.handleIdle now).Ready ∨ b.StopsTone now := by
  have hidle : b.state ≠ .waitForPlayer := by simp [hstate]
  unfold handleIdle
  split
  · exact .inl (.setState b now (by simp))
  · next hspent =>
      unfold batteryCheck
      split_ifs with hlow hcharging hempty
      -- of the four outcomes of the battery check only the tone waits
      · exact .inl (idleParts_ready now (.inl (show _ ≠ _ by simp [setState])))
      · by_cases htone : b.hasFile batLowTone
        · cases hgone : b.goneTooLong now with
          | true =>
              exact .inr ⟨hstate, by simpa using hspent, ⟨hlow.1, hlow.2, hcharging, htone⟩, hgone⟩
          | false =>
              have hcore := (Keeps.toneThen b now .shutMeDown isTone_batLowTone).core
              refine .inl (idleParts_ready now (.inr ⟨.toneThen b now batLowTone (by simp), ?_⟩))
              have hlasting := playerClosed_lasting.toneThen b now batLowTone .shutMeDown
              rw [goneTooLong_congr now hlasting.memory (congrArg Core.toyPresenseFlag hcore)]
              exact hgone
        · unfold toneThen
          rw [if_neg htone]
          exact .inl (idleParts_ready now (.inl (show _ ≠ _ by simp [setState])))
      · exact .inl (idleParts_ready now (.inl (show _ ≠ _ by simp [setState])))
      · exact .inl (idleParts_ready now (.inl hidle))

section

variable [CJson]

/-- **A handler step and the wait.** It does not wait or has started an audio; it has resumed the one
that was paused; it goes on waiting; or it has stopped its own tone. -/
inductive WaitStep (b : Box) (env : HandlerEnv) (b' : Box) : Prop
  | ready : b'.Ready → WaitStep b env b'
  | resumes : b.writer = .paused → b'.writer = .paused → b'.commands = .resume :: b.commands →
      WaitStep b env b'
  | waits : b.Listens → env.message ≠ .finished →
      b' = { b with isResponseRequiredFlag := b'.isResponseRequiredFlag } → WaitStep b env b'
  | stopsTone : b.StopsTone env.now → WaitStep b env b'

omit [CJson] in
theorem handleWaitForPlayer_waits {b : Box} (env : HandlerEnv) (hstate : b.state = .waitForPlayer)
    (hreturn : b.playerGoBackToState ≠ .waitForPlayer) :
    WaitStep b env (b.handleWaitForPlayer env) := by
  by_cases hear : b.LeavesOnEar
  · obtain ⟨s, hs, heq⟩ := handleWaitForPlayer_leaves env hear
    have hleft : s ≠ .waitForPlayer := by
      rintro rfl
      exact absurd hs (by decide)
    rw [heq]
    exact .ready (.setState _ _ hleft)
  · have heq := handleWaitForPlayer_listens env (b := b) ⟨hstate, hear⟩
    cases hmessage : env.message with
    | finished =>
        rw [hmessage] at heq
        rw [heq]
        exact .ready (.setState _ _ hreturn)
    | stopped =>
        rw [hmessage] at heq
        rw [heq]
        exact .waits ⟨hstate, hear⟩ (by simp [hmessage]) rfl
    | other =>
        rw [hmessage] at heq
        rw [heq]
        exact .waits ⟨hstate, hear⟩ (by simp [hmessage]) rfl

omit [CJson] in
theorem resumePlaying_waits (b : Box) (env : HandlerEnv) :
    WaitStep b env (b.resumePlaying env.now) := by
  unfold Box.resumePlaying
  split
  · next hpaused => exact .resumes hpaused hpaused rfl
  · exact .ready (.setState b _ (by simp))

theorem handler_waits {b b' : Box} {env : HandlerEnv} (h : b.handler env = some b')
    (hreturn : b.state = .waitForPlayer → b.playerGoBackToState ≠ .waitForPlayer) :
    WaitStep b env b' := by
  have hset {b₁ : Box} {s : SystemState} (hs : s ≠ .waitForPlayer) :
      WaitStep b env (b₁.setState env.now s) := .ready (.setState b₁ env.now hs)
  have hstays {b₁ : Box} {s : SystemState} (hstate : b₁.state = s) (hs : s ≠ .waitForPlayer) :
      WaitStep b env b₁ := .ready (.inl (hstate.trans_ne hs))
  unfold handler at h
  cases hstate : b.state <;> simp only [hstate] at h
  case readAudioHeader =>
    obtain ⟨b₁, -, rfl⟩ := Option.map_eq_some_iff.1 h
    exact hset (by split_ifs <;> simp)
  case playNormalAudio => exact .ready (playCurrent_ready h)
  case playQna => exact .ready (playCurrent_ready h)
  case playActivity => exact .ready (playCurrent_ready h)
  case incorrectAnsTry1 =>
    obtain ⟨b₁, hplay, rfl⟩ := Option.map_eq_some_iff.1 h
    exact .ready ((playAnswer_ready hplay).of_eq rfl rfl)
  case correctAns =>
    obtain ⟨b₁, hplay, rfl⟩ := Option.map_eq_some_iff.1 h
    exact .ready ((playAnswer_ready hplay).of_eq rfl rfl)
  -- the states that always step
  all_goals obtain rfl := Option.some.inj h
  case post => exact .ready (.batteryCheck env.now (.setState b _ (by simp)) (.setState b _ (by simp)))
  case init => exact .ready (.toneThen _ env.now startupTone (by simp))
  case idle =>
    rcases handleIdle_ready hstate with hready | hstops
    · exact .ready hready
    · exact .stopsTone hstops
  case initWifiCheck =>
    unfold handleInitWifiCheck
    dsimp only
    split
    · exact hset (by simp)
    · exact hset (by simp)
  case initUserIdCheck =>
    have hinert := verifyUserIdWithServer_inert b env.verify
    unfold handleInitUserIdCheck
    dsimp only
    split
    · exact hset (by simp)
    · exact hstays (hinert.state.trans hstate) (by simp)
  case waitForPlayer => exact handleWaitForPlayer_waits env hstate (hreturn hstate)
  case toyDetected =>
    refine hstays (handleToyDetected_next b env.now) ?_
    split_ifs <;> simp
  case getDirection =>
    show WaitStep b env (b.handleGetDirection env.now)
    unfold handleGetDirection
    split
    · exact hset (by simp)
    · split
      · exact .ready (Ready.readOrShutDown _ env.now).showTheme
      · exact .ready (Ready.setState b env.now (by simp)).showTheme
  case playNext => exact .ready (handlePlayNext_ready b env.now)
  case resumePlaying => exact resumePlaying_waits b env
  case waitQnaResp =>
    rcases handleWaitQnaResp_cases b env.now with heq | ⟨s, hs, heq⟩
    · rw [heq]
      exact hstays hstate (by simp)
    · rw [heq]
      refine hset ?_
      rintro rfl
      exact absurd hs (by decide)
  case waitActivityResp =>
    show WaitStep b env (b.handleWaitActivityResp env.now)
    unfold handleWaitActivityResp
    split
    · exact hset (by simp)
    · exact hstays hstate (by simp)
  case downloadWifiConn =>
    exact .ready (handleDownloadWifiConn_ready env (.inl (by simp [hstate])))
  case wifiConnectErr => exact .ready (.toneThen b env.now invalidWifiCredsTone (by simp))
  case wifiCredMissingErr => exact .ready (.toneThen b env.now pleaseEnterWifiCredsTone (by simp))
  case shutMeDown => exact .ready (.toneThen _ env.now shutdownTone (by simp))
  case error => exact hstays hstate (by simp)
  case turnOff => exact hstays (s := .turnOff) rfl (by simp)
  all_goals exact hset (by simp)

end

/-! ## The other tasks and the wait -/

/-- What the wait depends on is as before, and nothing was asked of the pipeline. -/
structure SameWait (b b' : Box) : Prop where
  state : b'.state = b.state
  goBack : b'.playerGoBackToState = b.playerGoBackToState
  writer : b'.writer = b.writer
  ears : (b'.leftEarButtonState || b'.rightEarButtonState) =
    (b.leftEarButtonState || b.rightEarButtonState)
  commands : b'.commands = b.commands

/-- The frame is the press of an ear. -/
def PressesEar (address len : ℕ) (data : Bytes) : Prop :=
  writeReg? address len = some .answerOption ∧ (byteAt data 0 = 1 ∨ byteAt data 0 = 2)

instance (address len : ℕ) (data : Bytes) : Decidable (PressesEar address len data) :=
  inferInstanceAs (Decidable (_ ∧ _))

/-- The outcomes of a write frame for the wait. -/
inductive WaitWrite (b : Box) (address len : ℕ) (data : Bytes) (b' : Box) : Prop
  | leaves : b'.state ≠ .waitForPlayer → WaitWrite b address len data b'
  | same : SameWait b b' → WaitWrite b address len data b'
  | pauses : b.writer = .running → SameWait (b.command .pause) b' → WaitWrite b address len data b'
  | resumes : b.writer = .paused → SameWait (b.command .resume) b' → WaitWrite b address len data b'
  | ear (pressed : Box) : PressesEar address len data → b' = pressed.skipQuestion →
      SameWait { b with leftEarButtonState := true } pressed →
      pressed.isResponseRequiredFlag = b.isResponseRequiredFlag → WaitWrite b address len data b'

theorem writeFrame_waits (b : Box) (now address len : ℕ) (data : Bytes) :
    WaitWrite b address len data (b.writeFrame now address len data) := by
  have hsame : WaitWrite b address len data b := .same ⟨rfl, rfl, rfl, rfl, rfl⟩
  unfold writeFrame
  cases hreg : writeReg? address len with
  | none => exact hsame
  | some reg =>
      cases reg with
      | volumeControl =>
          dsimp only [writeRegister]
          split_ifs
          · exact .same ⟨rfl, rfl, rfl, rfl, rfl⟩
          · exact .same ⟨rfl, rfl, rfl, rfl, rfl⟩
          · exact hsame
      | playPause =>
          dsimp only [writeRegister]
          split
          · unfold playPauseToggle
            split
            · next hwriter => exact .pauses hwriter ⟨rfl, rfl, rfl, rfl, rfl⟩
            · next hwriter => exact .resumes hwriter ⟨rfl, rfl, rfl, rfl, rfl⟩
            · exact hsame
          · exact hsame
      | nextPrev =>
          dsimp only [writeRegister]
          split_ifs
          · rcases previous_cases b now with h | h
            · rw [h]
              exact hsame
            · rw [h]
              exact .leaves (by simp [setState])
          · rcases next_cases b now with h | h
            · rw [h]
              exact hsame
            · rw [h]
              exact .leaves (by simp [setState])
          · exact hsame
      | answerOption =>
          dsimp only [writeRegister]
          split_ifs with hleft hright
          · exact .ear _ ⟨hreg, .inl hleft⟩ rfl ⟨rfl, rfl, rfl, rfl, rfl⟩ rfl
          · exact .ear _ ⟨hreg, .inr hright⟩ rfl ⟨rfl, rfl, rfl, by simp, rfl⟩ rfl
          · exact hsame
      | chargingStatus => exact .same ⟨rfl, rfl, rfl, rfl, rfl⟩
      | batteryPercent => exact .same ⟨rfl, rfl, rfl, rfl, rfl⟩
      | turnTablePosition => exact .same ⟨rfl, rfl, rfl, rfl, rfl⟩

/-- The frame is the press of an ear that stops an audio the wait does not leave for an ear. -/
def StopsOther (b : Box) (address len : ℕ) (data : Bytes) : Prop :=
  PressesEar address len data ∧ b.state = .waitForPlayer ∧
    (b.playerGoBackToState ≠ .waitQnaResp ∧ b.playerGoBackToState ≠ .waitActivityResp) ∧
      b.isResponseRequiredFlag = true ∧ b.writer ≠ .other

instance (b : Box) (address len : ℕ) (data : Bytes) : Decidable (b.StopsOther address len data) :=
  inferInstanceAs (Decidable (_ ∧ _ ∧ (_ ∧ _) ∧ _ ∧ _))

end Box

namespace AudioBox

/-! ## The invariant -/

/-- What the wait of the box is for: an audio, its end, or an ear. -/
def Attended (a : AudioBox) : Prop :=
  a.box.state = .waitForPlayer →
    (a.box.writer = .running ∨ a.box.writer = .paused) ∨
      (∃ r ∈ a.reports, r.message = .finished) ∨ a.box.LeavesOnEar

/-- A step that asks nothing of the pipeline and leaves the `FINISHED` reports. -/
theorem Attended.of_same {a : AudioBox} {b : Box} {reports : List Report} (h : a.Attended)
    (hsame : Box.SameWait { a.box with commands := [] } b)
    (hreports : (∃ r ∈ a.reports, r.message = .finished) → ∃ r ∈ reports, r.message = .finished) :
    ({ a with box := b, reports := reports }.executeAll b.commands).Attended := by
  have hcommands : b.commands = [] := hsame.commands
  rw [hcommands]
  intro hwait
  have hwaits : a.box.state = .waitForPlayer := hsame.state.symm.trans hwait
  rcases h hwaits with hwriter | hfinished | ⟨hback, hear⟩
  · exact .inl (hwriter.imp hsame.writer.trans hsame.writer.trans)
  · exact .inr (.inl (hreports hfinished))
  · refine .inr (.inr ⟨?_, hsame.ears.trans hear⟩)
    exact hback.imp hsame.goBack.trans hsame.goBack.trans

/-- An audio that was started last runs. -/
theorem attended_of_ready {a : AudioBox} (h : a.box.Ready)
    (hfiles : ∀ location ∈ a.box.plays, a.box.hasFile location) :
    (a.executeAll a.box.commands).Attended := by
  intro hwait
  rw [executeAll_box] at hwait
  obtain ⟨location, rest, hcommands⟩ := h.resolve_left (not_not_intro hwait)
  have hfile : a.box.hasFile location := by
    refine hfiles location (List.mem_reverse.2 (List.mem_filterMap.2 ⟨.play location, ?_, rfl⟩))
    rw [hcommands]
    exact List.mem_cons_self
  refine .inl (.inl ?_)
  rw [hcommands]
  have hcard : (a.executeAll rest).box.hasFile location := by
    rw [executeAll_box]
    exact hfile
  exact if_pos hcard

theorem attended_of_state {a : AudioBox} (h : a.box.state ≠ .waitForPlayer)
    (commands : List PlayerCommand) : (a.executeAll commands).Attended := by
  intro hwait
  rw [executeAll_box] at hwait
  exact absurd hwait h

/-- The pipeline takes up the audio that was paused. -/
theorem attended_of_resume {a : AudioBox} (hwriter : a.box.writer = .paused) :
    (a.executeAll [.resume]).Attended := by
  intro _
  refine .inl (.inl ?_)
  show (a.execute .resume).box.writer = .running
  unfold execute
  dsimp only
  rw [if_pos hwriter]
  rfl

theorem attended_of_pause {a : AudioBox} (hwriter : a.box.writer = .running) :
    (a.executeAll [.pause]).Attended := by
  intro _
  refine .inl (.inr ?_)
  show (a.execute .pause).box.writer = .paused
  unfold execute
  dsimp only
  rw [if_pos hwriter]
  rfl

/-- With an ear pressed it is as it was, or better. -/
theorem Attended.pressed {a : AudioBox} (h : a.Attended) :
    Attended { a with box := { a.box with leftEarButtonState := true } } := by
  intro hwait
  rcases h hwait with hwriter | hfinished | ⟨hback, -⟩
  · exact .inl hwriter
  · exact .inr (.inl hfinished)
  · exact .inr (.inr ⟨hback, rfl⟩)

section

variable [CJson]

/-! ## Steps -/

/-- The audio files that a step starts are on the card. -/
def PlaysFiles (a : AudioBox) : AudioEvent → Prop
  | .task e => ∀ b ∈ a.taskStep e, ∀ location ∈ b.plays, b.hasFile location
  | _ => True

/-- The steps that leave an audio to the wait. -/
def LeavesAudio (a : AudioBox) : AudioEvent → Prop
  | .task (.handler env) => ¬ a.box.StopsTone env.now
  | .task (.write _ address len data) => ¬ a.box.StopsOther address len data
  | _ => True

omit [CJson] in
/-- The report that a step takes while it goes on waiting is no `FINISHED`. -/
theorem finished_remaining {a : AudioBox} {env : HandlerEnv} (h : a.heard ≠ .finished)
    (hfinished : ∃ r ∈ a.reports, r.message = .finished) :
    ∃ r ∈ a.remaining (.handler env), r.message = .finished := by
  obtain ⟨r, hr, hmessage⟩ := hfinished
  refine ⟨r, ?_, hmessage⟩
  unfold remaining
  dsimp only
  split
  -- a report is taken: it is the first one, and no `FINISHED`
  · cases hreports : a.reports with
    | nil =>
        rw [hreports] at hr
        exact absurd hr List.not_mem_nil
    | cons r₀ rest =>
        rw [hreports] at hr
        rcases List.mem_cons.1 hr with rfl | hr
        · refine absurd ?_ h
          unfold heard
          rw [hreports]
          exact hmessage
        · exact hr
  · exact hr

theorem handler_attended {a : AudioBox} {b : Box} {env : HandlerEnv}
    (hb : a.taskStep (.handler env) = some b) (hfiles : ∀ location ∈ b.plays, b.hasFile location)
    (hok : ¬ a.box.StopsTone env.now)
    (hreturn : a.box.state = .waitForPlayer → a.box.playerGoBackToState ≠ .waitForPlayer)
    (hinv : a.Attended) :
    ({ a with box := b, reports := a.remaining (.handler env) }.executeAll b.commands).Attended := by
  have hstep : Box.handler { a.box with commands := [] } { env with message := a.heard } = some b :=
    hb
  rcases Box.handler_waits hstep hreturn with hready | ⟨-, hwriter, hcommands⟩ |
    ⟨-, hmessage, heq⟩ | hstops
  · exact attended_of_ready hready hfiles
  · rw [hcommands]
    exact attended_of_resume hwriter
  · have hsame : Box.SameWait { a.box with commands := [] } b := by
      rw [heq]
      exact ⟨rfl, rfl, rfl, rfl, rfl⟩
    exact hinv.of_same hsame (finished_remaining hmessage)
  · exact absurd hstops hok

omit [CJson] in
theorem ear_attended {a : AudioBox} {b pressed : Box} {address len : ℕ} {data : Bytes}
    (hpress : Box.PressesEar address len data) (hb : b = pressed.skipQuestion)
    (hsame : Box.SameWait { a.box with commands := [], leftEarButtonState := true } pressed)
    (hflag : pressed.isResponseRequiredFlag = a.box.isResponseRequiredFlag)
    (hok : ¬ a.box.StopsOther address len data) (hinv : a.Attended) :
    ({ a with box := b }.executeAll b.commands).Attended := by
  by_cases hstop : pressed.isResponseRequiredFlag = true ∧
      (pressed.writer = .running ∨ pressed.writer = .paused)
  -- the audio is stopped: it is that of a question or an activity, and the ear leads on
  · have heq : b = pressed.command .stop := by
      rw [hb]
      unfold Box.skipQuestion Box.skipCurrentAudio
      rw [if_pos hstop.1, if_pos hstop.2]
    intro hwait
    rw [executeAll_box] at hwait ⊢
    have hstate : a.box.state = .waitForPlayer := by
      rw [heq] at hwait
      exact hsame.state.symm.trans hwait
    have hwriter : a.box.writer ≠ .other := by
      have hkept : pressed.writer = a.box.writer := hsame.writer
      intro hother
      rcases hstop.2 with h | h
      · exact absurd ((hkept.trans hother).symm.trans h) (by simp)
      · exact absurd ((hkept.trans hother).symm.trans h) (by simp)
    have hback : a.box.playerGoBackToState = .waitQnaResp ∨
        a.box.playerGoBackToState = .waitActivityResp := by
      by_contra hother
      rw [not_or] at hother
      exact hok ⟨hpress, hstate, hother, hflag.symm.trans hstop.1, hwriter⟩
    have hgoBack : b.playerGoBackToState = a.box.playerGoBackToState := by
      rw [heq]
      exact hsame.goBack
    refine .inr (.inr ⟨hback.imp hgoBack.trans hgoBack.trans, ?_⟩)
    rw [heq]
    exact hsame.ears
  -- nothing is stopped
  · have heq : b = pressed := by
      rw [hb]
      unfold Box.skipQuestion Box.skipCurrentAudio
      by_cases hrequired : pressed.isResponseRequiredFlag = true
      · rw [if_pos hrequired, if_neg fun h => hstop ⟨hrequired, h⟩]
      · rw [if_neg hrequired]
    rw [heq]
    exact hinv.pressed.of_same hsame id

omit [CJson] in
theorem writeFrame_attended {a : AudioBox} (now address len : ℕ) (data : Bytes)
    (hok : ¬ a.box.StopsOther address len data) (hinv : a.Attended) :
    ({ a with box := Box.writeFrame { a.box with commands := [] } now address len data }.executeAll
      (Box.writeFrame { a.box with commands := [] } now address len data).commands).Attended := by
  have hwrite := Box.writeFrame_waits { a.box with commands := [] } now address len data
  generalize Box.writeFrame { a.box with commands := [] } now address len data = b at hwrite ⊢
  rcases hwrite with hleaves | hsame | ⟨hwriter, hsame⟩ | ⟨hwriter, hsame⟩ |
    ⟨pressed, hpress, hb, hsame, hflag⟩
  · exact attended_of_state hleaves b.commands
  · exact hinv.of_same hsame id
  · rw [hsame.commands]
    exact attended_of_pause (hsame.writer.trans hwriter)
  · rw [hsame.commands]
    exact attended_of_resume (hsame.writer.trans hwriter)
  · exact ear_attended hpress hb hsame hflag hok hinv

/-- **The invariant**, with the states a wait returns to. -/
structure Waiting (a : AudioBox) : Prop where
  attended : a.Attended
  returns : a.box.state = .waitForPlayer → a.box.playerGoBackToState ∈ Box.returnStates

omit [CJson] in
theorem Waiting.goBack_ne {a : AudioBox} (h : a.Waiting) (hwait : a.box.state = .waitForPlayer) :
    a.box.playerGoBackToState ≠ .waitForPlayer := by
  intro hback
  have hmem := h.returns hwait
  rw [hback] at hmem
  exact absurd hmem (by decide)

theorem taskStep_returns {a : AudioBox} {e : BoxEvent} {b : Box} (h : a.taskStep e = some b)
    (hinv : a.Waiting) (hwait : b.state = .waitForPlayer) :
    b.playerGoBackToState ∈ Box.returnStates := by
  obtain ⟨e', hstep⟩ := taskStep_step h
  have hcall : Box.call { a.box with commands := [] } (.task e') = some b := hstep
  rcases Box.call_waits hcall hwait with hsets | ⟨hwaited, hback⟩
  · exact hsets.1
  · rw [hback]
    exact hinv.returns hwaited

theorem taskStep_attended {a : AudioBox} {e : BoxEvent} {b : Box} (h : a.taskStep e = some b)
    (hfiles : ∀ location ∈ b.plays, b.hasFile location) (hok : a.LeavesAudio (.task e))
    (hinv : a.Waiting) :
    ({ a with box := b, reports := a.remaining e }.executeAll b.commands).Attended := by
  cases e with
  | handler env => exact handler_attended h hfiles hok hinv.goBack_ne hinv.attended
  | read now data =>
      obtain rfl := Option.some.inj h
      by_cases hremoves : Box.Removes { a.box with commands := [] } data
      · have hidle := Box.readFrame_removes now hremoves
        refine attended_of_state (fun hwait => ?_) _
        have hstate : SystemState.idle = .waitForPlayer := hidle.symm.trans hwait
        exact absurd hstate (by simp)
      · obtain ⟨dl, battery, charging, toy, presense, uid, present, heq⟩ :=
          Box.readFrame_fields now hremoves
        have hsame : Box.SameWait { a.box with commands := [] }
            (Box.readFrame { a.box with commands := [] } now data) := by
          rw [heq]
          exact ⟨rfl, rfl, rfl, rfl, rfl⟩
        exact hinv.attended.of_same hsame id
  | write now address len data =>
      obtain rfl := Option.some.inj h
      exact writeFrame_attended now address len data hok hinv.attended
  | ble now uuid value s =>
      obtain ⟨state, tick, ssid, password, user1, user2, dl, heq⟩ := Box.onWrite_fields h
      rcases Box.onWrite_outcome h with ⟨-, -, hstate, -⟩ | ⟨-, hstate, hback, -⟩
      · refine attended_of_state (fun hwait => ?_) b.commands
        have hmoved : b.state = .waitForPlayer := hwait
        rw [hmoved] at hstate
        exact absurd hstate (by decide)
      · have hsame : Box.SameWait { a.box with commands := [] } b := by
          refine ⟨hstate, hback, ?_, ?_, ?_⟩
          · rw [heq]
          · rw [heq]
          · rw [heq]
        exact hinv.attended.of_same hsame id
  | pipeline writer => cases h
  | station e =>
      obtain rfl := Option.some.inj h
      exact hinv.attended.of_same ⟨rfl, rfl, rfl, rfl, rfl⟩ id

/-- **One step.** -/
theorem step_waiting {a a' : AudioBox} {e : AudioEvent} (h : a.step e = some a')
    (hfiles : a.PlaysFiles e) (hok : a.LeavesAudio e) (hinv : a.Waiting) : a'.Waiting := by
  cases e with
  | task e =>
      obtain ⟨b, hb, rfl⟩ := Option.map_eq_some_iff.1 h
      refine ⟨taskStep_attended hb (hfiles b hb) hok hinv, ?_⟩
      have hreturns := taskStep_returns hb hinv
      rw [executeAll_box]
      exact hreturns
  | ends =>
      obtain ⟨-, heq⟩ := Option.ite_none_right_eq_some.1 h
      obtain rfl := Option.some.inj heq
      have hqueued : ⟨.finished, a.audio⟩ ∈ (a.report .finished).reports := mem_report.2 (.inr rfl)
      exact ⟨fun _ => .inr (.inl ⟨_, hqueued, rfl⟩), hinv.returns⟩
  | message =>
      obtain rfl := Option.some.inj h
      refine ⟨fun hwait => ?_, hinv.returns⟩
      refine (hinv.attended hwait).imp_right (Or.imp_left ?_)
      rintro ⟨r, hr, hmessage⟩
      exact ⟨r, mem_report.2 (.inl hr), hmessage⟩

/-- **The wait has something to wait for.** In runs from the start of a question or an activity whose
audio files are on the card, while the box waits for the player an audio runs or is paused, or a
`FINISHED` report is queued, or an ear was pressed and the next handler step leaves for it. Left out are
the presses of an ear that stop an audio the wait does not leave for an ear, and a step of `SYS_IDLE`
that stops its own tone. -/
theorem waits_for_something {a₀ a : AudioBox}
    (hstart : a₀.box.state = .playQna ∨ a₀.box.state = .playActivity)
    (hrun : Reached (fun a e => a.PlaysFiles e ∧ a.LeavesAudio e) a₀ a)
    (hwait : a.box.state = .waitForPlayer) :
    (a.box.writer = .running ∨ a.box.writer = .paused) ∨
      (∃ r ∈ a.reports, r.message = .finished) ∨ a.box.LeavesOnEar := by
  have hnot : a₀.box.state ≠ .waitForPlayer := by
    rcases hstart with h | h
    · rw [h]
      simp
    · rw [h]
      simp
  -- the box does not wait yet
  have hfirst : a₀.Waiting := ⟨fun h => absurd h hnot, fun h => absurd h hnot⟩
  have hinv : a.Waiting :=
    hrun.invariant hfirst fun _ _ _ hinv hok hs => step_waiting hs hok.1 hok.2 hinv
  exact hinv.attended hwait

end

/-! ## Waits for nothing -/

instance [CJson] (a : AudioBox) : ∀ e : AudioEvent, Decidable (a.PlaysFiles e)
  | .task e => inferInstanceAs (Decidable (∀ b ∈ a.taskStep e, ∀ location ∈ b.plays, b.hasFile location))
  | .ends => inferInstanceAs (Decidable True)
  | .message => inferInstanceAs (Decidable True)

instance (a : AudioBox) : ∀ e : AudioEvent, Decidable (a.LeavesAudio e)
  | .task (.handler env) => inferInstanceAs (Decidable (¬ a.box.StopsTone env.now))
  | .task (.write _ address len data) => inferInstanceAs (Decidable (¬ a.box.StopsOther address len data))
  | .task (.read _ _) => inferInstanceAs (Decidable True)
  | .task (.ble _ _ _ _) => inferInstanceAs (Decidable True)
  | .task (.pipeline _) => inferInstanceAs (Decidable True)
  | .task (.station _) => inferInstanceAs (Decidable True)
  | .ends => inferInstanceAs (Decidable True)
  | .message => inferInstanceAs (Decidable True)

/-- The box waits, no audio runs or is paused, and no `FINISHED` report is queued. -/
def WaitsForNothing (a : AudioBox) : Prop :=
  a.box.state = .waitForPlayer ∧ a.box.writer = .other ∧ a.Drained

instance (a : AudioBox) : Decidable a.WaitsForNothing := inferInstanceAs (Decidable (_ ∧ _ ∧ _))

/-- The question is about to be asked. -/
def asked : AudioBox :=
  { questionToy with
    box :=
      { questionToy.box with
        state := .playQna
        toy := uidText Downloader.uidX
        toyPresenseFlag := true
        toyPlacedOnce := true
        tagPresentFlag := true
        batteryLevel := 100
        json := some Box.listJson
        headerData := { Box.askedBox.headerData with A := 0 } } }

/-- The last item is a question, with a low battery, and the toy has been gone for long. -/
def askedAlone : AudioBox :=
  { asked with
    box :=
      { asked.box with
        toy := []
        toyPresenseFlag := false
        tagPresentFlag := false
        toyRemovalTick := 1
        batteryLevel := 30
        indexx := 1 } }

/-- An ear is pressed during the question. -/
def earRun : List AudioEvent := handlerSteps 1 ++ [.task Box.leftEarFrame]

/-- And again during the answer. -/
def earTwiceRun : List AudioEvent := earRun ++ handlerSteps 3 ++ [.task Box.leftEarFrame]

/-- The next button is pressed during the last item, and the box goes on to `SYS_IDLE` without a
playlist. -/
def idleRun : List AudioEvent := handlerSteps 1 ++ [.task Box.nextFrame] ++ handlerSteps 7

/-- The ear that stops the question leaves the wait with an ear. -/
theorem earRun_waits : ∃ a,
    @Reached Box.listParser (fun a e => @PlaysFiles Box.listParser a e ∧ a.LeavesAudio e) asked a ∧
      a.box.state = .waitForPlayer ∧ ((a.box.writer = .running ∨ a.box.writer = .paused) ∨
        (∃ r ∈ a.reports, r.message = .finished) ∨ a.box.LeavesOnEar) := by
  let := Box.listParser
  have hends : (Runs.runGuarded step (fun a e => a.PlaysFiles e ∧ a.LeavesAudio e) asked earRun).map
      (fun a => decide (a.box.state = .waitForPlayer)) = some true := by
    decide +kernel
  obtain ⟨a, ha, hready⟩ := Option.map_eq_some_iff.1 hends
  have hwait : a.box.state = .waitForPlayer := of_decide_eq_true hready
  have hrun := Runs.reached_of_runGuarded _ ha
  exact ⟨a, hrun, hwait, waits_for_something (.inl rfl) hrun hwait⟩

/-- An evaluation shows that a run waits for nothing. -/
theorem waitsForNothing_of_run [CJson] (a₀ : AudioBox) (es : List AudioEvent) (ear : Bool)
    (h : (Runs.runGuarded step PlaysFiles a₀ es).map
      (fun a => (decide a.WaitsForNothing, decide a.box.LeavesOnEar)) = some (true, ear)) :
    ∃ a, Reached PlaysFiles a₀ a ∧ a.WaitsForNothing ∧ (a.box.LeavesOnEar ↔ ear = true) := by
  obtain ⟨a, ha, heq⟩ := Option.map_eq_some_iff.1 h
  rw [Prod.mk.injEq] at heq
  obtain ⟨hnothing, hear⟩ := heq
  exact ⟨a, Runs.reached_of_runGuarded _ ha, of_decide_eq_true hnothing, by rw [← hear]; simp⟩

/-- From the start of a question the box comes to wait for nothing: an ear stops the question, and the
ear leads on; an ear stops the answer, and nothing does; `SYS_IDLE` stops its own tone. -/
theorem waits_for_nothing :
    (asked.box.state = .playQna ∧ askedAlone.box.state = .playQna) ∧
      (∃ a, @Reached Box.listParser (@PlaysFiles Box.listParser) asked a ∧ a.WaitsForNothing ∧
        a.box.LeavesOnEar) ∧
      (∃ a, @Reached Box.listParser (@PlaysFiles Box.listParser) asked a ∧ a.WaitsForNothing ∧
        ¬ a.box.LeavesOnEar) ∧
      ∃ a, @Reached Box.listParser (@PlaysFiles Box.listParser) askedAlone a ∧ a.WaitsForNothing ∧
        ¬ a.box.LeavesOnEar := by
  let := Box.listParser
  obtain ⟨a, hrun, hnothing, hear⟩ :=
    waitsForNothing_of_run asked earRun true (by decide +kernel)
  obtain ⟨a', hrun', hnothing', hear'⟩ :=
    waitsForNothing_of_run asked earTwiceRun false (by decide +kernel)
  obtain ⟨a'', hrun'', hnothing'', hear''⟩ :=
    waitsForNothing_of_run askedAlone idleRun false (by decide +kernel)
  refine ⟨⟨rfl, rfl⟩, ⟨a, hrun, hnothing, hear.2 rfl⟩, ⟨a', hrun', hnothing', fun h => ?_⟩,
    a'', hrun'', hnothing'', fun h => ?_⟩
  · exact absurd (hear'.1 h) (by simp)
  · exact absurd (hear''.1 h) (by simp)

end AudioBox

end Cubbies
