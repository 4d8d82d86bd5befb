import Cubbies.Proofs.ReturnState
import Cubbies.Proofs.Shutdown

set_option autoImplicit false

/-! # The return state of `SYS_WAIT_FOR_PLAYER`

A step that ends in `SYS_WAIT_FOR_PLAYER` has set the return state, or found the box waiting for the
same state (`call_waits`), and the attempt of a question is 1 or 2 until its answer is there
(`call_attempt`). `waitForPlayer_discipline` says what follows for every run of calls. -/

namespace Cubbies

open CString

namespace Box

section

variable [CJson]

/-! ## The attempt of a question -/

/-- Where the box waits for an answer, or will, it counts the first or the second attempt. -/
def AttemptOk (b : Box) : Prop :=
  b.position = .waitQnaResp → b.qnaAttempt = 1 ∨ b.qnaAttempt = 2

omit [CJson] in
theorem AttemptOk.of_mem {b : Box} {l : List SystemState} (h : b.position ∈ l)
    (hl : .waitQnaResp ∉ l) : AttemptOk b := fun hpos => absurd (hpos ▸ h) hl

omit [CJson] in
theorem AttemptOk.of_eq {b b' : Box} (h : AttemptOk b) (hpos : b'.position = b.position)
    (hattempt : b'.qnaAttempt = b.qnaAttempt) : AttemptOk b' := by
  intro hat
  rw [hattempt]
  exact h (hpos.symm.trans hat)

omit [CJson] in
/-- A step that leaves state and return state alone. -/
theorem AttemptOk.of_same {b b' : Box} (h : AttemptOk b) (hstate : b'.state = b.state)
    (hback : b'.playerGoBackToState = b.playerGoBackToState)
    (hattempt : b'.qnaAttempt = b.qnaAttempt) : AttemptOk b' := by
  refine h.of_eq ?_ hattempt
  unfold position
  rw [hstate, hback]

omit [CJson] in
theorem play_qnaAttempt (b : Box) (location : Bytes) :
    (b.play location).qnaAttempt = b.qnaAttempt := by
  unfold play readVolume
  split <;> rfl

omit [CJson] in
theorem handleWaitForPlayer_same (b : Box) (env : HandlerEnv) :
    (b.handleWaitForPlayer env).qnaAttempt = b.qnaAttempt ∧
      (b.handleWaitForPlayer env).playerGoBackToState = b.playerGoBackToState := by
  have htoggle : b.playPauseToggle.qnaAttempt = b.qnaAttempt ∧
      b.playPauseToggle.playerGoBackToState = b.playerGoBackToState := by
    unfold playPauseToggle
    split <;> exact ⟨rfl, rfl⟩
  have hcheck : (b.checkPlayingCompleted env.message).2.qnaAttempt = b.qnaAttempt ∧
      (b.checkPlayingCompleted env.message).2.playerGoBackToState = b.playerGoBackToState := by
    unfold checkPlayingCompleted
    split <;> exact ⟨rfl, rfl⟩
  unfold handleWaitForPlayer
  dsimp only
  split_ifs
  · exact htoggle
  · exact htoggle
  · exact hcheck
  · exact hcheck

omit [CJson] in
theorem handleWaitQnaResp_qnaAttempt (b : Box) (now : ℕ) :
    (b.handleWaitQnaResp now).qnaAttempt = b.qnaAttempt := by
  rcases handleWaitQnaResp_cases b now with h | ⟨s, -, h⟩
  · rw [h]
  · rw [h]
    rfl

omit [CJson] in
theorem handlePlayQna_qnaAttempt {b b' : Box} {now : ℕ} (h : b.handlePlayQna now = some b') :
    b'.qnaAttempt = 1 := by
  unfold handlePlayQna playCurrent at h
  simp only [Option.bind_eq_bind, Option.bind_eq_some_iff] at h
  obtain ⟨name, -, location, -, playerFilename, -, hb⟩ := h
  rw [← Option.some.inj hb]
  exact play_qnaAttempt _ location

/-- **An answer and a timeout lead out** of `SYS_WAIT_QNA_RESP`. -/
theorem handleWaitQnaResp_leaves {b : Box} {env : HandlerEnv} (hstate : b.state = .waitQnaResp)
    (hattempt : AttemptOk b)
    (hanswer : b.leftEarButtonState = true ∨ b.rightEarButtonState = true ∨
      timeSpent env.now b.responseWaitTick 10000 = true) :
    ∃ b', b.handler env = some b' ∧ b'.state ∈ [.incorrectAnsTry1, .correctAns] := by
  have htwo := hattempt (position_of_state hstate (by simp))
  have hwrong : (b.afterWrongAnswer env.now).state ∈ [.incorrectAnsTry1, .correctAns] := by
    unfold afterWrongAnswer
    rcases htwo with h | h
    · rw [if_pos h]
      simp [setState]
    · rw [if_neg (by rw [h]; decide), if_pos h]
      simp [setState]
  refine ⟨b.handleWaitQnaResp env.now, by simp only [handler, hstate], ?_⟩
  have hresp : (if b.leftEarButtonState then (0 : ℤ) else if b.rightEarButtonState then 1 else 5) =
      5 → timeSpent env.now b.responseWaitTick 10000 = true := by
    rcases hanswer with hleft | hright | hlate
    · rw [hleft]
      simp
    · rw [hright]
      split <;> simp
    · exact fun _ => hlate
  unfold handleWaitQnaResp
  generalize (if b.leftEarButtonState then (0 : ℤ) else if b.rightEarButtonState then 1 else 5) =
    resp at hresp ⊢
  dsimp only
  split
  · split
    · simp [setState]
    · exact hwrong
  · next hfive =>
      rw [if_pos (hresp (not_not.1 hfive))]
      exact hwrong

theorem handler_attempt {b b' : Box} {env : HandlerEnv} (h : b.handler env = some b')
    (hok : AttemptOk b) : AttemptOk b' := by
  by_cases hwait : b.state = .waitForPlayer
  · rw [handler_waitForPlayer hwait] at h
    obtain rfl := Option.some.inj h
    rcases (handleWaitForPlayer_keeps env hwait).2 with hpos | ⟨-, hpos⟩
    · exact hok.of_eq hpos (handleWaitForPlayer_same b env).1
    · exact .of_mem (l := [.playNext]) (by simp [hpos]) (by decide)
  · have hnext := handler_position h hwait
    unfold handler at h
    cases hstate : b.state <;> simp only [hstate] at h hnext hwait
    -- three states lead to the wait for an answer
    case playQna => exact fun _ => .inl (handlePlayQna_qnaAttempt h)
    case incorrectAnsTry1 =>
      obtain ⟨b₁, -, rfl⟩ := Option.map_eq_some_iff.1 h
      exact fun _ => .inr rfl
    case waitQnaResp =>
      obtain rfl := Option.some.inj h
      rcases List.mem_cons.1 (handleWaitQnaResp_keeps b env.now).2 with hpos | hpos
      · exact hok.of_eq hpos (handleWaitQnaResp_qnaAttempt b env.now)
      · exact .of_mem hpos (by decide)
    case waitForPlayer => exact absurd trivial hwait
    all_goals exact .of_mem hnext (by decide)

/-! ## Calls from the other tasks -/

theorem task_qnaAttempt {b b' : Box} {e : BoxEvent} (he : ∀ env, e ≠ .handler env)
    (h : b.step e = some b') : b'.qnaAttempt = b.qnaAttempt := by
  cases e with
  | handler env => exact absurd rfl (he env)
  | read now data =>
      obtain rfl := Option.some.inj h
      obtain ⟨state, tick, toy, presense, before, turnTable, commands, dl, battery, charging, uid,
        present, heq⟩ := readFrame_touches b now data
      rw [heq]
  | write now address len data =>
      obtain rfl := Option.some.inj h
      exact congrArg Handled.qnaAttempt (writeFrame_handled b now address len data)
  | ble now uuid value s => exact congrArg Handled.qnaAttempt (onWrite_handled h)
  | pipeline writer =>
      obtain rfl := Option.some.inj h
      rfl
  | station e =>
      obtain rfl := Option.some.inj h
      rfl

omit [CJson] in
theorem set_same (b : Box) (s : Setter) : (b.set s).state = b.state ∧
    (b.set s).playerGoBackToState = b.playerGoBackToState ∧
    (b.set s).qnaAttempt = b.qnaAttempt := by
  cases s <;> exact ⟨rfl, rfl, rfl⟩

omit [CJson] in
theorem next_cases (b : Box) (now : ℕ) : b.next now = b ∨ b.next now = b.setState now .playNext := by
  unfold next
  split
  · exact .inr rfl
  · exact .inl rfl

omit [CJson] in
theorem previous_cases (b : Box) (now : ℕ) :
    b.previous now = b ∨ b.previous now = b.setState now .playPrevious := by
  unfold previous
  split
  · split
    · exact .inr rfl
    · exact .inl rfl
  · exact .inl rfl

/-- **A call that ends in `SYS_WAIT_FOR_PLAYER`** sets the return state, or the box waited before for
the same state. -/
theorem call_waits {b b' : Box} {c : Call} (h : b.call c = some b')
    (hwait : b'.state = .waitForPlayer) :
    Sets (·.call c) b b' ∨
      (b.state = .waitForPlayer ∧ b'.playerGoBackToState = b.playerGoBackToState) := by
  cases c with
  | task e =>
      have hstep : b.step e = some b' := h
      cases e with
      | handler env =>
          by_cases hstate : b.state = .waitForPlayer
          · obtain rfl := Option.some.inj ((handler_waitForPlayer hstate env).symm.trans hstep)
            exact .inr ⟨hstate, (handleWaitForPlayer_same b env).2⟩
          · exact .inl (handler_sets h hstate hwait)
      | _ =>
          rcases task_states (by simp) hstep with hmoved | ⟨hstate, hback, -⟩
          · exact absurd (hwait ▸ hmoved) (by decide)
          · exact .inr ⟨hstate.symm.trans hwait, hback⟩
  | setToy toy =>
      obtain rfl := Option.some.inj h
      exact .inr ⟨hwait, rfl⟩
  | resetToy now =>
      obtain rfl := Option.some.inj h
      cases hwait
  | next now =>
      obtain rfl := Option.some.inj h
      rcases next_cases b now with heq | heq
      · rw [heq] at hwait ⊢
        exact .inr ⟨hwait, rfl⟩
      · rw [heq] at hwait
        cases hwait
  | previous now =>
      obtain rfl := Option.some.inj h
      rcases previous_cases b now with heq | heq
      · rw [heq] at hwait ⊢
        exact .inr ⟨hwait, rfl⟩
      · rw [heq] at hwait
        cases hwait
  | resumePlaying now =>
      obtain rfl := Option.some.inj h
      exact .inl (Alike.sets (·.resumePlaying now) (fun s => resumePlaying_alike b s now) hwait)
  | systemInitialize now ssid password user1 =>
      have hstate := (systemInitialize_spec h).2.1
      rw [hwait] at hstate
      cases hstate
  | verifyUserID now userToCheck userNo =>
      have hstate := (verifyUserID_spec h).2.1
      rw [hwait] at hstate
      cases hstate
  | set s =>
      obtain rfl := Option.some.inj h
      obtain ⟨hstate, hback, -⟩ := set_same b s
      exact .inr ⟨hstate.symm.trans hwait, hback⟩

/-- **A call keeps the attempt** in step with the state. -/
theorem call_attempt {b b' : Box} {c : Call} (h : b.call c = some b') (hok : AttemptOk b) :
    AttemptOk b' := by
  have hleft : ∀ {b' : Box} {s : SystemState}, b'.state = s → s ≠ .waitForPlayer →
      s ≠ .waitQnaResp → AttemptOk b' := by
    intro b' s hstate hs hqna
    exact .of_mem (l := [s]) (by simp [position_of_state hstate hs]) (by simpa using hqna.symm)
  cases c with
  | task e =>
      have hstep : b.step e = some b' := h
      cases e with
      | handler env => exact handler_attempt h hok
      | _ =>
          rcases task_position (by simp) hstep with hmoved | ⟨hsame, -⟩
          · exact .of_mem hmoved (by decide)
          · exact hok.of_eq hsame (task_qnaAttempt (by simp) hstep)
  | setToy toy =>
      obtain rfl := Option.some.inj h
      exact hok.of_same rfl rfl rfl
  | resetToy now =>
      obtain rfl := Option.some.inj h
      exact hleft (s := .idle) rfl (by simp) (by simp)
  | next now =>
      obtain rfl := Option.some.inj h
      rcases next_cases b now with heq | heq
      · rw [heq]
        exact hok
      · rw [heq]
        exact hleft (s := .playNext) rfl (by simp) (by simp)
  | previous now =>
      obtain rfl := Option.some.inj h
      rcases previous_cases b now with heq | heq
      · rw [heq]
        exact hok
      · rw [heq]
        exact hleft (s := .playPrevious) rfl (by simp) (by simp)
  | resumePlaying now =>
      obtain rfl := Option.some.inj h
      exact .of_mem (l := [.playNext]) (by simp [(resumePlaying_keeps b now).2]) (by decide)
  | systemInitialize now ssid password user1 =>
      exact hleft (systemInitialize_spec h).2.1 (by simp) (by simp)
  | verifyUserID now userToCheck userNo =>
      exact hleft (verifyUserID_spec h).2.1 (by simp) (by simp)
  | set s =>
      obtain rfl := Option.some.inj h
      obtain ⟨hstate, hback, hattempt⟩ := set_same b s
      exact hok.of_same hstate hback hattempt

/-! ## Runs of calls -/

/-- The runs of calls from `b₀` with calls that meet `ok`. -/
def CallsReach (ok : Box → Call → Prop) (b₀ b : Box) : Prop :=
  Runs.Reached (fun b c b' => call b c = some b') ok b₀ b

/-- The box waits since a call that set the return state it has. -/
def SetOnEntry (b₀ b : Box) : Prop :=
  ∃ b₁ c b₂, CallsReach (fun _ _ => True) b₀ b₁ ∧ b₁.call c = some b₂ ∧
    b₂.state = .waitForPlayer ∧ Sets (·.call c) b₁ b₂ ∧
    CallsReach (fun b _ => b.state = .waitForPlayer) b₂ b ∧
    b.playerGoBackToState = b₂.playerGoBackToState

theorem call_setOnEntry {b₀ b b' : Box} {c : Call} (hrun : CallsReach (fun _ _ => True) b₀ b)
    (h : b.call c = some b') (hset : b.state = .waitForPlayer → SetOnEntry b₀ b)
    (hwait : b'.state = .waitForPlayer) : SetOnEntry b₀ b' := by
  rcases call_waits h hwait with hsets | ⟨hstate, hback⟩
  · exact ⟨b, c, b', hrun, h, hwait, hsets, .start, rfl⟩
  · obtain ⟨b₁, c₁, b₂, hrun₁, h₁, hwait₂, hsets, hwaits, hsame⟩ := hset hstate
    exact ⟨b₁, c₁, b₂, hrun₁, h₁, hwait₂, hsets, hwaits.step hstate h, hback.trans hsame⟩

theorem callsReach_invariant {card : Card} {wifi : Wifi} {battery charging : UInt8} {b : Box}
    (h : CallsReach (fun _ _ => True) (boot card wifi battery charging) b) :
    (b.state = .waitForPlayer → SetOnEntry (boot card wifi battery charging) b) ∧ AttemptOk b := by
  have hstart : (boot card wifi battery charging).position = .post := rfl
  induction h with
  | start =>
      refine ⟨?_, .of_mem (l := [.post]) (by simp [hstart]) (by decide)⟩
      intro hwait
      cases hwait
  | step hrun _ hcall ih =>
      exact ⟨call_setOnEntry hrun hcall ih.1, call_attempt hcall ih.2⟩

/-- **The discipline of the return state.** After any calls in any order, a box that waits for the
player has a return state out of the eight, and the call that entered the wait set it. A box that waits
for an answer, or will when the audio has ended, counts attempt 1 or 2; so an answer and a timeout
lead out of `SYS_WAIT_QNA_RESP`. -/
theorem waitForPlayer_discipline {card : Card} {wifi : Wifi} {battery charging : UInt8} {b : Box}
    (h : CallsReach (fun _ _ => True) (boot card wifi battery charging) b) :
    (b.state = .waitForPlayer →
      b.playerGoBackToState ∈ returnStates ∧ SetOnEntry (boot card wifi battery charging) b) ∧
    (b.state = .waitQnaResp ∨
        (b.state = .waitForPlayer ∧ b.playerGoBackToState = .waitQnaResp) →
      b.qnaAttempt = 1 ∨ b.qnaAttempt = 2) ∧
    (b.state = .waitQnaResp → ∀ env : HandlerEnv,
      b.leftEarButtonState = true ∨ b.rightEarButtonState = true ∨
        timeSpent env.now b.responseWaitTick 10000 = true →
      ∃ b', b.handler env = some b' ∧ b'.state ∈ [.incorrectAnsTry1, .correctAns]) := by
  obtain ⟨hset, hattempt⟩ := callsReach_invariant h
  refine ⟨fun hwait => ?_, ?_, fun hstate env => handleWaitQnaResp_leaves hstate hattempt⟩
  · have hentry := hset hwait
    obtain ⟨b₁, c, b₂, -, -, -, hsets, -, hsame⟩ := hset hwait
    rw [hsame]
    exact ⟨hsets.1, hentry⟩
  · rintro (hstate | ⟨hwait, hback⟩)
    · exact hattempt (position_of_state hstate (by simp))
    · exact hattempt ((position_of_wait hwait).trans hback)

end

/-- A box whose battery is used up plays the shutdown tone. -/
theorem waitForPlayer_discipline_tone :
    ∃ b, b.state = .waitForPlayer ∧ b.playerGoBackToState ∈ returnStates ∧
      @SetOnEntry writeParser chargedBox b := by
  let := writeParser
  have hrun : (Runs.runList call chargedBox ((runsDown ++ [handlerStep]).map .task)).map Box.state =
      some .waitForPlayer := by decide +kernel
  obtain ⟨b, hb, hstate⟩ := Option.map_eq_some_iff.1 hrun
  exact ⟨b, hstate, (waitForPlayer_discipline (Runs.reached_of_runList _ hb)).1 hstate⟩

end Box

end Cubbies
