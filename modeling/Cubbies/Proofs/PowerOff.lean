import Cubbies.Proofs.LowBattery
import Cubbies.Proofs.PlayerFrame
import Cubbies.Proofs.ProfileFrame
import Cubbies.Proofs.StackRefinement

set_option autoImplicit false

/-! # Being switched off

The box cannot cut its own power: `SYS_TURN_OFF` sets the power register, and the base, which polls it,
does the rest. `switchesOff_of_powerState` reads a run backwards from a register that is set: to the step in
`SYS_TURN_OFF`, the one in `SYS_SHUT_ME_DOWN` before it, and the decision before that, with nothing else
happening to the position of the box in between. `power_byte_latched` is what the base sees of it. -/

namespace Cubbies

open CString Runs

namespace Box

variable [CJson]

/-! ## The request -/

/-- Only `SYS_TURN_OFF` asks to be switched off. -/
theorem handler_powerState {b b' : Box} {env : HandlerEnv} (h : b.handler env = some b') :
    b'.powerState = b.powerState ∨ b.state = .turnOff ∧ b'.powerState = 1 := by
  by_cases hoff : b.state = .turnOff
  · simp only [handler, hoff, Option.some.injEq] at h
    subst h
    exact .inr ⟨hoff, rfl⟩
  · refine .inl ?_
    by_cases hcheck : b.state = .initUserIdCheck
    · simp only [handler, hcheck, Option.some.injEq] at h
      subst h
      obtain ⟨user1, user2, hprofile⟩ := handleInitUserIdCheck_profile b env
      exact congrArg Profile.powerState hprofile
    · exact congrArg Profile.powerState (handler_profile h hcheck hoff)

/-- A step of another task does not. -/
theorem task_powerState {b b' : Box} {e : BoxEvent} (he : ∀ env, e ≠ .handler env)
    (h : b.step e = some b') : b'.powerState = b.powerState := by
  cases e with
  | handler env => exact absurd rfl (he env)
  | read now data =>
      obtain rfl := Option.some.inj h
      exact congrArg Profile.powerState (profile_readFrame b now data)
  | write now address len data =>
      obtain rfl := Option.some.inj h
      exact congrArg Profile.powerState (profile_writeFrame b now address len data)
  | ble now uuid value s => exact (onWrite_profile h).2.2
  | pipeline writer =>
      obtain rfl := Option.some.inj h
      rfl
  | station e =>
      obtain rfl := Option.some.inj h
      rfl

/-- **One step**: the register is set in `SYS_TURN_OFF` and kept by everything else. -/
theorem step_powerState {b b' : Box} {e : BoxEvent} (h : b.step e = some b') :
    b'.powerState = b.powerState ∨
      (∃ env, e = .handler env) ∧ b.state = .turnOff ∧ b'.powerState = 1 := by
  by_cases he : ∃ env, e = .handler env
  · obtain ⟨env, rfl⟩ := he
    exact (handler_powerState h).imp_right fun hset => ⟨⟨env, rfl⟩, hset⟩
  · exact .inl (task_powerState (fun env heq => he ⟨env, heq⟩) h)

/-! ## The decision -/

/-- The step decides to shut down: on a battery that is too low, or after five minutes of idling. -/
def DecidesShutdown (b : Box) (now : ℕ) : Prop :=
  (b.state ∈ [SystemState.post, .idle, .getDirection, .playNext] ∧ b.LowBattery) ∨
    (b.state = .idle ∧ timeSpent now b.idleSinceTick 300000 = true)

instance (b : Box) (now : ℕ) : Decidable (b.DecidesShutdown now) := inferInstanceAs (Decidable (_ ∨ _))

section

omit [CJson]

/-- A battery that is not low passes the check. -/
theorem batteryCheck_good {b : Box} (h : ¬ b.LowBattery) (now : ℕ) (charging full : Box) :
    b.batteryCheck now charging full = charging ∨ b.batteryCheck now charging full = full := by
  have hlevel : ¬ b.batteryLevel < 28 := fun hlow => h (.inl hlow)
  unfold batteryCheck
  split_ifs with hrange hcharging
  · exact .inl rfl
  · refine absurd (.inr ⟨hrange.1, ?_, ?_⟩) h
    · have hupper := hrange.2
      rw [UInt8.lt_iff_toNat_lt] at hupper
      rw [UInt8.le_iff_toNat_le]
      exact Nat.le_of_lt_succ hupper
    · exact UInt8.le_antisymm (UInt8.not_lt.1 hcharging) UInt8.zero_le
  · exact .inr rfl

/-- The check before an audio decides by the battery only. -/
theorem lowBattery_of_readOrShutDown {b : Box} {now : ℕ}
    (h : (b.readOrShutDown now).position = .shutMeDown) : b.LowBattery := by
  by_contra hgood
  have hread : (b.setState now .readAudioHeader).position = .readAudioHeader :=
    position_setState (by simp)
  unfold readOrShutDown at h
  rcases batteryCheck_good hgood now (b.setState now .readAudioHeader)
    (b.setState now .readAudioHeader) with hcheck | hcheck <;>
      exact absurd (hread.symm.trans (hcheck ▸ h)) (by simp)

theorem lowBattery_of_handlePost {b : Box} {now : ℕ}
    (h : (b.handlePost now).position = .shutMeDown) : b.LowBattery := by
  by_contra hgood
  have hinit : (b.setState now .init).position = .init := position_setState (by simp)
  unfold handlePost at h
  rcases batteryCheck_good hgood now (b.setState now .init) (b.setState now .init) with
    hcheck | hcheck <;> exact absurd (hinit.symm.trans (hcheck ▸ h)) (by simp)

theorem decides_of_handleIdle {b : Box} {now : ℕ} (hstate : b.state = .idle)
    (h : (b.handleIdle now).position = .shutMeDown) : b.DecidesShutdown now := by
  rw [handleIdle_position] at h
  split_ifs at h with hlong
  · exact .inr ⟨hstate, hlong⟩
  · refine .inl ⟨by rw [hstate]; decide, ?_⟩
    by_contra hgood
    rcases batteryCheck_good hgood now (b.setState now .init) b with hcheck | hcheck
    · rw [hcheck, position_setState (by simp)] at h
      cases h
    · rw [hcheck, position_of_state hstate (by simp)] at h
      cases h

theorem lowBattery_of_handlePlayNext {b : Box} {now : ℕ}
    (h : (b.handlePlayNext now).position = .shutMeDown) : b.LowBattery := by
  have hadvance : b.advance.LowBattery → b.LowBattery := by
    unfold advance skipCurrentAudio
    split <;> exact id
  unfold handlePlayNext at h
  dsimp only at h
  split at h
  · rw [position_setState (by simp)] at h
    cases h
  · exact hadvance (lowBattery_of_readOrShutDown h)

end

theorem lowBattery_of_handleGetDirection {b : Box} {now : ℕ}
    (h : (b.handleGetDirection now).position = .shutMeDown) : b.LowBattery := by
  unfold handleGetDirection at h
  split at h
  · rw [position_setState (by simp)] at h
    cases h
  · split at h
    · next content _ =>
        rw [(showTheme_keeps _).2] at h
        have hlow : (b.loadPlaylist content).LowBattery := lowBattery_of_readOrShutDown h
        exact hlow
    · rw [(showTheme_keeps _).2, position_setState (by simp)] at h
      cases h

/-- A handler step that changes the position to one of these is one of a few states. -/
theorem state_of_entered {b b' : Box} {env : HandlerEnv} {s : SystemState}
    (h : b.handler env = some b') (hbefore : b.position ≠ s) (hafter : b'.position = s)
    (hs : s ≠ .playNext) : b.state ≠ .waitForPlayer ∧ s ∈ nextPositions b.state := by
  have hwait : b.state ≠ .waitForPlayer := by
    intro hwait
    rw [handler_waitForPlayer hwait, Option.some.injEq] at h
    subst h
    rcases (handleWaitForPlayer_keeps env hwait).2 with hsame | ⟨-, hnext⟩
    · exact hbefore (hsame.symm.trans hafter)
    · exact hs (hafter.symm.trans hnext)
  exact ⟨hwait, hafter ▸ handler_position h hwait⟩

/-- **The decision** to shut down has one of the two causes. -/
theorem handler_decides {b b' : Box} {env : HandlerEnv} (h : b.handler env = some b')
    (hbefore : b.position ≠ .shutMeDown) (hafter : b'.position = .shutMeDown) :
    b.DecidesShutdown env.now := by
  have hmem := (state_of_entered h hbefore hafter (by simp)).2
  unfold handler at h
  cases hstate : b.state <;> simp only [hstate] at h hmem
  case post =>
    obtain rfl := Option.some.inj h
    exact .inl ⟨by rw [hstate]; decide, lowBattery_of_handlePost hafter⟩
  case idle =>
    obtain rfl := Option.some.inj h
    exact decides_of_handleIdle hstate hafter
  case getDirection =>
    obtain rfl := Option.some.inj h
    exact .inl ⟨by rw [hstate]; decide, lowBattery_of_handleGetDirection hafter⟩
  case playNext =>
    obtain rfl := Option.some.inj h
    exact .inl ⟨by rw [hstate]; decide, lowBattery_of_handlePlayNext hafter⟩
  all_goals exact absurd hmem (by decide)

/-- The other tasks send the box to neither of the two. -/
theorem handler_of_entered {b b' : Box} {e : BoxEvent} {s : SystemState} (hs : s ∉ taskStates)
    (h : b.step e = some b') (hbefore : b.position ≠ s) (hafter : b'.position = s) :
    ∃ env, e = .handler env := by
  by_contra hother
  rcases task_position (fun env heq => hother ⟨env, heq⟩) h with hmoved | ⟨hsame, -⟩
  · exact hs (hafter ▸ hmoved)
  · exact hbefore (hsame.symm.trans hafter)

omit [CJson] in
theorem shutMeDown_of_turnOff {s : SystemState} (h : .turnOff ∈ nextPositions s)
    (hs : s ≠ .turnOff) : s = .shutMeDown := by
  cases s <;> revert h hs <;> decide

/-- From the tone to `SYS_TURN_OFF` it takes the message that the audio has ended. -/
theorem finished_of_turnOff {b b' : Box} {e : BoxEvent} (h : b.step e = some b')
    (hpos : b.position = .turnOff) (hbefore : b.state ≠ .turnOff) (hafter : b'.state = .turnOff) :
    ∃ env, e = .handler env ∧ env.message = .finished := by
  have hwait : b.state = .waitForPlayer := by
    by_contra hwait
    exact hbefore (position_of_state rfl hwait ▸ hpos)
  have hback : b.playerGoBackToState = .turnOff := position_of_wait hwait ▸ hpos
  by_cases he : ∃ env, e = .handler env
  · obtain ⟨env, rfl⟩ := he
    refine ⟨env, rfl, ?_⟩
    change b.handler env = some b' at h
    rw [handler_waitForPlayer hwait, Option.some.injEq] at h
    subst h
    unfold handleWaitForPlayer at hafter
    dsimp only at hafter
    rw [if_neg (by simp [hback]), if_neg (by simp [hback])] at hafter
    cases hmessage : env.message with
    | finished => rfl
    | stopped =>
        rw [hmessage, if_neg (by simp [checkPlayingCompleted])] at hafter
        exact absurd hafter hbefore
    | other =>
        rw [hmessage, if_neg (by simp [checkPlayingCompleted])] at hafter
        exact absurd hafter hbefore
  · rcases task_states (fun env heq => he ⟨env, heq⟩) h with hmoved | ⟨hsame, -⟩
    · rw [hafter] at hmoved
      exact absurd hmoved (by decide)
    · exact absurd (hsame.symm.trans hafter) hbefore

/-! ## Runs -/

/-- The history of a box that asks to be switched off: it decided to shut down, ran `SYS_SHUT_ME_DOWN`
with the tone, if there is one, to its end, and ran `SYS_TURN_OFF`. In between it was on its way there all
the time, and since then it has kept asking. -/
def SwitchesOff (trace : List (Box × BoxEvent)) : Prop :=
  ∃ (before : List (Box × BoxEvent)) (b₁ : Box) (env₁ : HandlerEnv) (falling : List (Box × BoxEvent))
    (b₂ : Box) (env₂ : HandlerEnv) (dark : List (Box × BoxEvent)) (b₃ : Box) (env₃ : HandlerEnv)
    (after : List (Box × BoxEvent)),
    trace = before ++ (b₁, .handler env₁) :: falling ++ (b₂, .handler env₂) :: dark ++
      (b₃, .handler env₃) :: after ∧
    b₁.DecidesShutdown env₁.now ∧
    (∀ x ∈ falling, x.1.position = .shutMeDown) ∧
    b₂.state = .shutMeDown ∧
    (∀ x ∈ dark, x.1.position = .turnOff) ∧
    (b₂.hasFile shutdownTone → ∃ x ∈ dark, ∃ env, x.2 = .handler env ∧ env.message = .finished) ∧
    b₃.state = .turnOff ∧
    ∀ x ∈ after, x.1.powerState = 1

variable {ok : Box → BoxEvent → Prop} {card : Card} {wifi : Wifi} {battery charging : UInt8}
  {trace : List (Box × BoxEvent)} {b : Box}

/-- The register holds zero or one. -/
theorem powerState_range (h : Path (fun b e b' => step b e = some b') ok
    (boot card wifi battery charging) trace b) : b.powerState = 0 ∨ b.powerState = 1 := by
  refine h.reached.invariant (I := fun b => b.powerState = 0 ∨ b.powerState = 1) (.inl rfl) ?_
  intro b e b' hrange _ hstep
  rcases step_powerState hstep with hsame | ⟨-, -, hset⟩
  · rw [hsame]
    exact hrange
  · exact .inr hset

/-- From `SYS_SHUT_ME_DOWN` to `SYS_TURN_OFF` with the tone. -/
theorem tone_heard {b₂ b₃ : Box} {env₂ : HandlerEnv} {dark : List (Box × BoxEvent)} {s : Box}
    (hstate : b₂.state = .shutMeDown) (hstep : b₂.handler env₂ = some s)
    (hpath : Path (fun b e b' => step b e = some b') ok s dark b₃) (hoff : b₃.state = .turnOff)
    (hdark : ∀ x ∈ dark, x.1.position = .turnOff) (htone : b₂.hasFile shutdownTone) :
    ∃ x ∈ dark, ∃ env, x.2 = .handler env ∧ env.message = .finished := by
  simp only [handler, hstate, Option.some.injEq] at hstep
  subst hstep
  have hplaying : (b₂.handleShutMeDown env₂.now).state = .waitForPlayer := by
    unfold handleShutMeDown toneThen
    dsimp only
    rw [if_pos (by exact htone)]
    rfl
  obtain ⟨before, x, s', after, rfl, -, -, hx, hnot, hat, -, -⟩ :=
    hpath.since (P := fun b => b.state = .turnOff) (by rw [hplaying]; simp) hoff
  have hmem : x ∈ before ++ x :: after := List.mem_append_right _ List.mem_cons_self
  exact ⟨x, hmem, finished_of_turnOff hx (hdark x hmem) hnot hat⟩

/-- **Nothing else switches the box off.** In every run a power register that is set goes back to a step
in `SYS_TURN_OFF`, this to one in `SYS_SHUT_ME_DOWN`, with the shutdown tone heard to its end in between,
and this to the decision to shut down on a battery that was too low or after five minutes of idling. -/
theorem switchesOff_of_powerState (h : Path (fun b e b' => step b e = some b') ok
    (boot card wifi battery charging) trace b) (hset : b.powerState ≠ 0) : SwitchesOff trace := by
  have hone : b.powerState = 1 := (powerState_range h).resolve_left hset
  have hboot : (boot card wifi battery charging).position = .post :=
    position_of_state rfl (by simp)
  -- the last three turning points, from the last to the first
  obtain ⟨before₃, ⟨b₃, e₃⟩, s₃, after, rfl, hpath₃, -, hstep₃, hunset, hasked, -, hafter⟩ :=
    h.since (P := fun b => b.powerState = 1) (show ¬ (0 : UInt8) = 1 by decide) hone
  obtain ⟨⟨env₃, rfl⟩, hoff, -⟩ := (step_powerState hstep₃).resolve_left
    fun hsame => hunset (hsame.symm.trans hasked)
  have hposition₃ : b₃.position = .turnOff := position_of_state hoff (by simp)
  obtain ⟨before₂, ⟨b₂, e₂⟩, s₂, dark, rfl, hpath₂, -, hstep₂, hlit, hturned, hdarkPath, hdark⟩ :=
    hpath₃.since (P := fun b => b.position = .turnOff) (by rw [hboot]; simp) hposition₃
  obtain ⟨env₂, rfl⟩ := handler_of_entered (by decide) hstep₂ hlit hturned
  have hshut : b₂.state = .shutMeDown := by
    have hmem := (state_of_entered hstep₂ hlit hturned (by simp)).2
    exact shutMeDown_of_turnOff hmem fun hoff => hlit (position_of_state hoff (by simp))
  have hposition₂ : b₂.position = .shutMeDown := position_of_state hshut (by simp)
  obtain ⟨before₁, ⟨b₁, e₁⟩, s₁, falling, rfl, -, -, hstep₁, hup, hdecided, -, hfalling⟩ :=
    hpath₂.since (P := fun b => b.position = .shutMeDown) (by rw [hboot]; simp) hposition₂
  obtain ⟨env₁, rfl⟩ := handler_of_entered (by decide) hstep₁ hup hdecided
  exact ⟨before₁, b₁, env₁, falling, b₂, env₂, dark, b₃, env₃, after, by simp,
    handler_decides hstep₁ hup hdecided, hfalling, hshut, hdark,
    tone_heard hshut hstep₂ hdarkPath hoff hdark, hoff, hafter⟩

omit [CJson] in
/-- The shutdown of a box whose battery is used up. -/
def switchOff : List BoxEvent :=
  [handlerStep, handlerStep, handlerStep, .handler (quietEnv 0 .finished), handlerStep]

end Box

namespace QBSlave

/-! ## On the bus -/

instance (f : Bytes) : Decidable (InWindow f) := inferInstanceAs (Decidable (_ ∧ _))

/-- The power register in a reply, if the request asked for it: the last of the registers. -/
def powerByte? (p : Processed) : Option UInt8 :=
  if byteAt p.frameBuffer 0 = 0x01 ∧ InWindow p.frameBuffer ∧ requestAddress p.frameBuffer ≤ 0x100A ∧
      0x100A < requestAddress p.frameBuffer + requestLen p.frameBuffer then
    some (byteAt p.reply (5 + (0x100A - requestAddress p.frameBuffer)))
  else none

/-- What the base has seen of the power register, in order. -/
def powerBytes (q : QBSlave Box) : Bytes := q.processed.filterMap powerByte?

/-- A reply carries the register as it is. -/
theorem powerByte_reply {q : QBSlave Box} (hsize : 18 ≤ q.framBuffLen) (now recv : ℕ) {v : UInt8}
    (h : powerByte? ⟨q.frameBuffer, recv, q.reply now⟩ = some v) : v = q.app.powerState := by
  unfold powerByte? at h
  obtain ⟨⟨hread, hwindow, hfirst, hlast⟩, hv⟩ := Option.ite_none_right_eq_some.1 h
  dsimp only at hread hwindow hfirst hlast hv
  obtain rfl := Option.some.inj hv
  have hplace : requestAddress q.frameBuffer - 0x1000 + (0x100A - requestAddress q.frameBuffer) = 10 := by
    have := hwindow.1
    omega
  have hheader : (q.frameBuffer.take 5).length = 5 :=
    List.length_take_of_le (by rw [q.size]; omega)
  have hregs := length_window q.app.registers hwindow
  have hbyte := byteAt_window q.app.registers q.frameBuffer
    (i := 0x100A - requestAddress q.frameBuffer) (by omega) (by omega)
  rw [reply_eq hsize, replyData_window hsize hread hwindow, List.append_assoc]
  simp only [byteAt, List.getD_eq_getElem?_getD] at hbyte ⊢
  rw [List.getElem?_append_right (by omega), hheader, Nat.add_sub_cancel_left,
    List.getElem?_append_left (by omega), hbyte]
  simp only [hplace]
  rfl

/-- The bytes of the register so far, none above the one it has. -/
structure PowerSeen (q : QBSlave Box) : Prop where
  sound : Sound q
  range : q.app.powerState = 0 ∨ q.app.powerState = 1
  rising : q.powerBytes.Pairwise (· ≤ ·)
  below : ∀ v ∈ q.powerBytes, v ≤ q.app.powerState

section

variable [CJson]

/-- **One step** of the stack: the register does not fall, and a reply carries it as it is. -/
theorem PowerSeen.step {q q' : QBSlave Box} {e : StackEvent} (h : PowerSeen q)
    (hstep : q.stackStep e = some q') : PowerSeen q' := by
  have hsound : Sound q' := by
    obtain ⟨e', rfl⟩ := stackStep_slave hstep
    exact (h.sound.step e').1
  cases e with
  | byte now recvChar =>
      obtain rfl := Option.some.inj hstep
      exact ⟨hsound, h.range, h.rising, h.below⟩
  | poll now =>
      obtain rfl := Option.some.inj hstep
      by_cases hproc : q.Processes now
      · obtain ⟨e, hevents, -⟩ := h.sound.requestEvents hproc
        have happ := Box.step_processFrame hevents q.app
        have hpower : (qbSlavePoll q now).app.powerState = q.app.powerState := by
          rw [qbSlavePoll_of_processes hproc]
          refine Box.task_powerState (fun env heq => ?_) happ
          obtain ⟨e', hevents', hframe⟩ := h.sound.requestEvents hproc
          rw [hevents] at hevents'
          rw [← List.singleton_inj.1 hevents', heq] at hframe
          cases hframe
        have hbytes : (qbSlavePoll q now).powerBytes =
            q.powerBytes ++ (powerByte? ⟨q.frameBuffer, q.recvByteCount, q.reply now⟩).toList := by
          rw [qbSlavePoll_of_processes hproc]
          exact filterMap_snoc powerByte? q.processed _
        have hnew : ∀ v ∈ (powerByte? ⟨q.frameBuffer, q.recvByteCount, q.reply now⟩).toList,
            v = q.app.powerState := by
          intro v hv
          exact powerByte_reply (by rw [h.sound.len]; decide) now _ (Option.mem_toList.1 hv)
        refine ⟨hsound, hpower ▸ h.range, ?_, ?_⟩
        · rw [hbytes, List.pairwise_append]
          refine ⟨h.rising, ?_, fun u hu v hv => hnew v hv ▸ h.below u hu⟩
          cases powerByte? ⟨q.frameBuffer, q.recvByteCount, q.reply now⟩ with
          | none => exact .nil
          | some v => exact List.pairwise_singleton _ _
        · intro v hv
          rw [hpower]
          rw [hbytes] at hv
          rcases List.mem_append.1 hv with hv | hv
          · exact h.below v hv
          · exact hnew v hv ▸ UInt8.le_refl _
      · obtain ⟨happ, hprocessed⟩ := qbSlavePoll_quiet hproc
        have hbytes : (qbSlavePoll q now).powerBytes = q.powerBytes :=
          congrArg (List.filterMap powerByte?) hprocessed
        exact ⟨hsound, happ ▸ h.range, hbytes ▸ h.rising, by rw [hbytes, happ]; exact h.below⟩
  | task e =>
      obtain ⟨-, htask⟩ := Option.ite_none_left_eq_some.1 hstep
      obtain ⟨app, happ, rfl⟩ := Option.map_eq_some_iff.1 htask
      rcases Box.step_powerState happ with hsame | ⟨-, -, hset⟩
      · exact ⟨hsound, hsame ▸ h.range, h.rising, fun v hv => hsame ▸ h.below v hv⟩
      · refine ⟨hsound, .inr hset, h.rising, fun v hv => ?_⟩
        show v ≤ app.powerState
        rw [hset]
        rcases h.range with hzero | hone
        · exact UInt8.le_trans (hzero ▸ h.below v hv) (by decide)
        · exact hone ▸ h.below v hv

/-- **The request is latched on the bus.** In every run of the stack the base sees the power register at
zero and then, if at all, at one for good, whatever is asked in between; and when it is at one the box has
been through its shutdown. -/
theorem power_byte_latched {ok : Box → BoxEvent → Prop} {now : ℕ} {card : Card} {wifi : Wifi}
    {battery charging : UInt8} {trace : List (QBSlave Box × StackEvent)} {q : QBSlave Box}
    (h : Path (fun q e q' => stackStep q e = some q') (StackOk ok)
      (qbusInit now (Box.boot card wifi battery charging)) trace q) :
    q.powerBytes.Pairwise (· ≤ ·) ∧ (∀ v ∈ q.powerBytes, v = 0 ∨ v = 1) ∧
      (1 ∈ q.powerBytes → ∃ history, history.map Prod.snd = observed boxEvents trace ∧
        Path (fun b e b' => Box.step b e = some b') ok (Box.boot card wifi battery charging) history
          q.app ∧ Box.SwitchesOff history) := by
  have hseen : PowerSeen q := by
    refine h.reached.invariant (I := PowerSeen) ⟨sound_start List.length_replicate now _, .inl rfl,
      .nil, by simp [powerBytes, qbusInit, qbSlaveStart, qbSlaveSetState, qbSlaveInit]⟩ ?_
    exact fun q e q' hI _ hstep => hI.step hstep
  refine ⟨hseen.rising, ?_, ?_⟩
  · intro v hv
    have hle := hseen.below v hv
    rcases hseen.range with hzero | hone
    · exact .inl (UInt8.le_antisymm (hzero ▸ hle) UInt8.zero_le)
    · rw [hone, UInt8.le_iff_toNat_le] at hle
      have hbit : v.toNat = 0 ∨ v.toNat = 1 := Nat.le_one_iff_eq_zero_or_eq_one.1 hle
      exact hbit.imp UInt8.toNat_inj.1 UInt8.toNat_inj.1
  · intro hone
    have hstart : Sound (qbusInit now (Box.boot card wifi battery charging)) :=
      sound_start List.length_replicate now _
    obtain ⟨history, hpath, hevents⟩ := (stack_refines.path hstart h).2
    refine ⟨history, hevents, hpath, Box.switchesOff_of_powerState hpath fun hzero => ?_⟩
    exact absurd (hzero ▸ hseen.below 1 hone) (by decide)

end

/-- The base asks for the last two registers, with a battery level to report. -/
def askPower (battery : UInt8) : List StackEvent :=
  (readRequest [0x10, 0x09, 0x00, 0x02] (List.replicate 8 0) [battery, 0]).map (fun b => .byte 0 b) ++
    [.poll 0, .poll 10000, .poll 20000, .poll 30000]

/-- The box comes up and is asked until it has shut down. -/
def switchOffStack : List StackEvent :=
  askPower 50 ++ [.task Box.handlerStep, .task Box.handlerStep] ++ askPower 20 ++
    Box.switchOff.map .task ++ askPower 20

theorem power_byte_latched_runsDown :
    ∃ q, runList (@stackStep Box.writeParser) (qbusInit 0 Box.chargedBox) switchOffStack = some q ∧
      q.powerBytes = [0, 0, 1] ∧ q.powerBytes.Pairwise (· ≤ ·) := by
  have hruns : (runGuarded (@stackStep Box.writeParser) (StackOk fun _ _ => True)
      (qbusInit 0 Box.chargedBox) switchOffStack).any (fun q => q.powerBytes = [0, 0, 1]) = true := by
    decide +kernel
  obtain ⟨q, hq, hbytes⟩ := (Option.any_eq_true _ _).1 hruns
  exact ⟨q, runList_of_runGuarded hq, of_decide_eq_true hbytes,
    (@power_byte_latched Box.writeParser _ _ _ _ _ _ _ _ (path_of_runGuarded switchOffStack hq)).1⟩

end QBSlave

end Cubbies
