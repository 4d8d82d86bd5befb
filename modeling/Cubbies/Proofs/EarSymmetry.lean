import Cubbies.Proofs.Completions

set_option autoImplicit false

/-! # The two ears in an activity

During the activity audio `SYS_WAIT_FOR_PLAYER` asks for either ear. After it `SYS_WAIT_ACTIVITY_RESP`
asks twice for the left one, so a press of the right ear is not seen there until the ten seconds are
over. `activity_symmetric_iff` compares a run with the run in which all presses are of the other ear:
they go through the same states exactly if whenever that state looks, the time is over or both ears
are pressed or none. -/

namespace Cubbies

open CString

inductive Ear where
  | left
  | right
  deriving DecidableEq

namespace Ear

/-- The value of the answer register for it. -/
def value : Ear → UInt8
  | .left => 1
  | .right => 2

def other : Ear → Ear
  | .left => .right
  | .right => .left

end Ear

/-- What happens in an activity. -/
inductive ActivityEvent where
  | handler (env : HandlerEnv)
  /-- an ear is pressed: a write of the answer register -/
  | press (now : ℕ) (ear : Ear)
  /-- the audio pipeline changes its state -/
  | pipeline (writer : AelState)

namespace ActivityEvent

def event : ActivityEvent → BoxEvent
  | .handler env => .handler env
  | .press now ear => .write now 0x7000 1 [ear.value]
  | .pipeline writer => .pipeline writer

/-- With left and right exchanged. -/
def swap : ActivityEvent → ActivityEvent
  | .press now ear => .press now ear.other
  | e => e

end ActivityEvent

namespace Box

section

variable [CJson]

/-- The states of a run, until `SYS_PLAY_NEXT` is entered. -/
def activityStates : Box → List ActivityEvent → Option (List SystemState)
  | _, [] => some []
  | b, e :: es =>
      if b.state = .playNext then some []
      else (b.step e.event).bind fun b' => (b'.activityStates es).map (b'.state :: ·)

/-- Every step of a run meets `ok`, until `SYS_PLAY_NEXT` is entered. -/
def EveryStep (ok : Box → ActivityEvent → Prop) : Box → List ActivityEvent → Prop
  | _, [] => True
  | b, e :: es => b.state = .playNext ∨ ok b e ∧ ∀ b' ∈ b.step e.event, b'.EveryStep ok es

/-- When `SYS_WAIT_ACTIVITY_RESP` looks, the time is over, or the ears are pressed alike. -/
def EarsAlike (b : Box) : ActivityEvent → Prop
  | .handler env => b.state = .waitActivityResp →
      timeSpent env.now b.responseWaitTick 10000 = true ∨ b.leftEarButtonState = b.rightEarButtonState
  | _ => True

/-- When `SYS_WAIT_ACTIVITY_RESP` looks, a press of either ear ends the wait. -/
def PressEndsWait (b : Box) : ActivityEvent → Prop
  | .handler env => b.state = .waitActivityResp →
      (b.leftEarButtonState = true ∨ b.rightEarButtonState = true) →
        (b.handler env).map Box.state = some .playNext
  | _ => True

theorem EveryStep.mono {ok ok' : Box → ActivityEvent → Prop} {b : Box} {es : List ActivityEvent}
    (h : b.EveryStep ok es) (himp : ∀ b e, ok b e → ok' b e) : b.EveryStep ok' es := by
  induction es generalizing b with
  | nil => trivial
  | cons e es ih =>
      refine h.imp_right ?_
      rintro ⟨hok, hrest⟩
      exact ⟨himp b e hok, fun b' hb' => ih (hrest b' hb')⟩

/-- The run is over when `SYS_PLAY_NEXT` is entered. -/
theorem activityStates_playNext {b : Box} (h : b.state = .playNext) (es : List ActivityEvent) :
    b.activityStates es = some [] := by
  cases es with
  | nil => rfl
  | cons e es => exact if_pos h

/-- A run that enters another state first. -/
theorem activityStates_ne {b : Box} (h : b.state ≠ .playNext) (es : List ActivityEvent) :
    (b.activityStates es).map (b.state :: ·) ≠ some [.playNext] := by
  intro heq
  obtain ⟨states, -, hcons⟩ := Option.map_eq_some_iff.1 heq
  exact h (List.cons.inj hcons).1

end

/-! ## The mirrored box -/

/-- The box with these ears pressed. -/
def withEars (b : Box) (left right : Bool) : Box :=
  { b with leftEarButtonState := left, rightEarButtonState := right }

/-- The box with the other ears pressed. -/
def mirror (b : Box) : Box := b.withEars b.rightEarButtonState b.leftEarButtonState

theorem skipQuestion_withEars (b : Box) (left right : Bool) :
    (b.withEars left right).skipQuestion = b.skipQuestion.withEars left right := by
  unfold skipQuestion skipCurrentAudio
  show (if b.isResponseRequiredFlag = true then
    if b.writer = .running ∨ b.writer = .paused then _ else _ else _) = _
  split
  · split <;> rfl
  · rfl

/-- A press sets its ear and skips the rest of a question. -/
theorem press_withEars (b : Box) (left right : Bool) (now : ℕ) (ear : Ear) :
    (b.withEars left right).writeFrame now 0x7000 1 [ear.value] =
      b.skipQuestion.withEars (ear = .left || left) (ear = .right || right) := by
  cases ear with
  | left => exact skipQuestion_withEars b true right
  | right => exact skipQuestion_withEars b left true

theorem press_eq (b : Box) (now : ℕ) (ear : Ear) :
    b.writeFrame now 0x7000 1 [ear.value] = b.skipQuestion.withEars
      (ear = .left || b.leftEarButtonState) (ear = .right || b.rightEarButtonState) :=
  press_withEars b b.leftEarButtonState b.rightEarButtonState now ear

theorem skipQuestion_stage (b : Box) :
    b.skipQuestion.state = b.state ∧ b.skipQuestion.position = b.position := by
  unfold skipQuestion skipCurrentAudio
  split
  · split <;> exact ⟨rfl, rfl⟩
  · exact ⟨rfl, rfl⟩

/-- The start of the activity forgets earlier presses. -/
theorem handlePlayActivity_withEars (b : Box) (left right : Bool) (now : ℕ) :
    (b.withEars left right).handlePlayActivity now = b.handlePlayActivity now := rfl

theorem handlePlayActivity_mirror {b b' : Box} {now : ℕ} (h : b.handlePlayActivity now = some b') :
    b'.mirror = b' := by
  simp only [handlePlayActivity, playCurrent, Option.bind_eq_bind, Option.bind_eq_some_iff] at h
  obtain ⟨name, -, location, -, playerFilename, -, hb⟩ := h
  obtain rfl := Option.some.inj hb
  unfold playThen play readVolume
  split <;> rfl

theorem playPauseToggle_mirror (b : Box) :
    b.mirror.playPauseToggle = b.playPauseToggle.mirror ∧ b.playPauseToggle.position = b.position := by
  have hwriter : b.mirror.writer = b.writer := rfl
  unfold playPauseToggle
  rw [hwriter]
  cases b.writer <;> exact ⟨rfl, rfl⟩

/-- During an activity an ear leads on to the next audio. -/
theorem handleWaitForPlayer_ear {b : Box} (env : HandlerEnv)
    (hback : b.playerGoBackToState = .waitActivityResp)
    (hear : (b.leftEarButtonState || b.rightEarButtonState) = true) :
    b.handleWaitForPlayer env = b.playPauseToggle.setState env.now .playNext := by
  have hqna : b.playerGoBackToState ≠ .waitQnaResp := by
    rw [hback]
    decide
  unfold handleWaitForPlayer
  dsimp only
  rw [if_neg fun h => hqna h.1, if_pos ⟨hback, hear⟩]

theorem handleWaitForPlayer_mirror {b : Box} (env : HandlerEnv)
    (hback : b.playerGoBackToState = .waitActivityResp) (hstate : b.state = .waitForPlayer) :
    b.mirror.handleWaitForPlayer env = (b.handleWaitForPlayer env).mirror ∧
      ((b.handleWaitForPlayer env).state = .playNext ∨
        (b.handleWaitForPlayer env).position = .waitActivityResp) := by
  have hear : (b.mirror.leftEarButtonState || b.mirror.rightEarButtonState) =
      (b.leftEarButtonState || b.rightEarButtonState) := Bool.or_comm _ _
  by_cases hpressed : (b.leftEarButtonState || b.rightEarButtonState) = true
  · rw [handleWaitForPlayer_ear env hback hpressed,
      handleWaitForPlayer_ear env (show b.mirror.playerGoBackToState = _ from hback)
        (hear.trans hpressed), (playPauseToggle_mirror b).1]
    exact ⟨rfl, .inl rfl⟩
  · have hlistens : b.Listens := ⟨hstate, fun h => hpressed h.2⟩
    have hlistens' : b.mirror.Listens := ⟨hstate, fun h => hpressed (hear.symm.trans h.2)⟩
    have hposition : b.position = .waitActivityResp := (position_of_wait hstate).trans hback
    rw [handleWaitForPlayer_listens env hlistens, handleWaitForPlayer_listens env hlistens']
    cases env.message with
    | finished =>
        refine ⟨rfl, .inr ?_⟩
        rw [hback]
        rfl
    | stopped => exact ⟨rfl, .inr hposition⟩
    | other => exact ⟨rfl, .inr hposition⟩

/-! ## Two runs -/

/-- The second box of a pair: before the activity starts it has any ears pressed, in the activity the
other ones. -/
inductive Mirrored (b : Box) : Box → Prop where
  | before (left right : Bool) : b.state = .playActivity → Mirrored b (b.withEars left right)
  | during : b.state = .playNext ∨ b.position = .waitActivityResp → Mirrored b b.mirror

theorem Mirrored.state {b b' : Box} (h : Mirrored b b') : b'.state = b.state := by
  cases h with
  | before => rfl
  | during => rfl

/-- A press. -/
theorem Mirrored.press {b b' : Box} (h : Mirrored b b') (now : ℕ) (ear : Ear) :
    Mirrored (b.writeFrame now 0x7000 1 [ear.value]) (b'.writeFrame now 0x7000 1 [ear.other.value]) := by
  obtain ⟨hstate, hposition⟩ := skipQuestion_stage b
  rw [press_eq b]
  cases h with
  | before left right hplay =>
      rw [press_withEars]
      exact .before _ _ (hstate.trans hplay)
  | during hstage =>
      have hmirror : b.mirror.writeFrame now 0x7000 1 [ear.other.value] =
          (b.skipQuestion.withEars (ear = .left || b.leftEarButtonState)
            (ear = .right || b.rightEarButtonState)).mirror := by
        unfold mirror
        rw [press_withEars]
        cases ear <;> rfl
      rw [hmirror]
      refine .during ?_
      show b.skipQuestion.state = .playNext ∨ b.skipQuestion.position = .waitActivityResp
      rw [hstate, hposition]
      exact hstage

/-- The states of an activity. -/
theorem activity_states {b : Box} (h : b.position = .waitActivityResp) :
    b.state = .waitActivityResp ∨
      b.state = .waitForPlayer ∧ b.playerGoBackToState = .waitActivityResp := by
  unfold position at h
  split at h
  · next hwait => exact .inr ⟨hwait, h⟩
  · exact .inl h

section

variable [CJson]

/-- The handler, in any state of the activity but the last. -/
theorem Mirrored.handler {b b' : Box} (h : Mirrored b b') (hrun : b.state ≠ .playNext)
    {env : HandlerEnv} (halike : b.EarsAlike (.handler env)) :
    (b.handler env = none ∧ b'.handler env = none) ∨
      ∃ c c', b.handler env = some c ∧ b'.handler env = some c' ∧ Mirrored c c' := by
  have hdispatch : ∀ b : Box, b.state = .playActivity →
      b.handler env = b.handlePlayActivity env.now := by
    intro b hstate
    unfold Box.handler
    rw [hstate]
  cases h with
  | before left right hplay =>
      rw [hdispatch b hplay, hdispatch (b.withEars left right) hplay, handlePlayActivity_withEars]
      cases hstep : b.handlePlayActivity env.now with
      | none => exact .inl ⟨rfl, rfl⟩
      | some c =>
          have hstage := Mirrored.during (.inr (handlePlayActivity_plays hstep).position)
          rw [handlePlayActivity_mirror hstep] at hstage
          exact .inr ⟨c, c, rfl, rfl, hstage⟩
  | during hstage =>
      rcases activity_states (hstage.resolve_left hrun) with hwait | ⟨hwait, hback⟩
      · rw [handler_waitActivityResp hwait, handler_waitActivityResp (b := b.mirror) hwait]
        refine .inr ⟨_, _, rfl, rfl, ?_⟩
        have hresult : b.mirror.handleWaitActivityResp env.now =
            (b.handleWaitActivityResp env.now).mirror := by
          unfold handleWaitActivityResp
          show (if timeSpent env.now b.responseWaitTick 10000 = true ∨ b.rightEarButtonState = true ∨
            b.rightEarButtonState = true then _ else _) = _
          rcases halike hwait with hspent | hears
          · rw [if_pos (.inl hspent), if_pos (.inl hspent)]
            rfl
          · rw [hears]
            split <;> rfl
        rw [hresult]
        refine .during ?_
        unfold handleWaitActivityResp
        split
        · exact .inl rfl
        · exact .inr (position_of_state hwait (by simp))
      · obtain ⟨hresult, hnext⟩ := handleWaitForPlayer_mirror env hback hwait
        rw [handler_waitForPlayer hwait, handler_waitForPlayer (b := b.mirror) hwait, hresult]
        exact .inr ⟨_, _, rfl, rfl, .during hnext⟩

/-- When the ears differ and the time is not over, one of the two boxes stays. -/
theorem Mirrored.parts {b b' : Box} (h : Mirrored b b') {env : HandlerEnv}
    (halike : ¬ b.EarsAlike (.handler env)) :
    ∃ c c', b.handler env = some c ∧ b'.handler env = some c' ∧
      (c.state = .playNext ∧ c'.state ≠ .playNext ∨ c.state ≠ .playNext ∧ c'.state = .playNext) := by
  obtain ⟨hwait, hno⟩ := Classical.not_imp.1 halike
  obtain ⟨hspent, hears⟩ := not_or.1 hno
  cases h with
  | before left right hplay =>
      rw [hplay] at hwait
      cases hwait
  | during hstage =>
      rw [handler_waitActivityResp hwait, handler_waitActivityResp (b := b.mirror) hwait]
      refine ⟨_, _, rfl, rfl, ?_⟩
      have hstays : ∀ b : Box, b.state = .waitActivityResp → b.leftEarButtonState = false →
          timeSpent env.now b.responseWaitTick 10000 ≠ true →
          (b.handleWaitActivityResp env.now).state ≠ .playNext := by
        intro b hstate hleft htime
        unfold handleWaitActivityResp
        rw [if_neg (by simp [hleft, htime]), hstate]
        decide
      have hgoes : ∀ b : Box, b.leftEarButtonState = true →
          (b.handleWaitActivityResp env.now).state = .playNext := by
        intro b hleft
        unfold handleWaitActivityResp
        rw [if_pos (.inr (.inl hleft))]
        rfl
      cases hleft : b.leftEarButtonState with
      | true =>
          have hright : b.rightEarButtonState = false := by
            rw [hleft] at hears
            exact Bool.eq_false_iff.2 fun h => hears h.symm
          exact .inl ⟨hgoes b hleft, hstays b.mirror hwait hright hspent⟩
      | false =>
          have hright : b.rightEarButtonState = true := by
            rw [hleft] at hears
            exact Bool.eq_true_of_not_eq_false fun h => hears h.symm
          exact .inr ⟨hstays b hwait hleft hspent, hgoes b.mirror hright⟩

/-- **One step** of the two runs. -/
theorem Mirrored.step {b b' : Box} (h : Mirrored b b') (hrun : b.state ≠ .playNext)
    {e : ActivityEvent} (halike : b.EarsAlike e) :
    (b.step e.event = none ∧ b'.step e.swap.event = none) ∨
      ∃ c c', b.step e.event = some c ∧ b'.step e.swap.event = some c' ∧ Mirrored c c' := by
  cases e with
  | handler env => exact h.handler hrun halike
  | press now ear => exact .inr ⟨_, _, rfl, rfl, h.press now ear⟩
  | pipeline writer =>
      refine .inr ⟨_, _, rfl, rfl, ?_⟩
      cases h with
      | before left right hplay => exact .before left right hplay
      | during hstage => exact .during hstage

/-- A step in which the ears differ leads to different states. -/
theorem Mirrored.differs {b b' : Box} (h : Mirrored b b') {e : ActivityEvent}
    (halike : ¬ b.EarsAlike e) (es : List ActivityEvent) :
    ((b'.step e.swap.event).bind fun c =>
        (c.activityStates (es.map ActivityEvent.swap)).map (c.state :: ·)) ≠
      (b.step e.event).bind fun c => (c.activityStates es).map (c.state :: ·) := by
  cases e with
  | handler env =>
      obtain ⟨c, c', hc, hc', hparts⟩ := h.parts halike
      show ((b'.handler env).bind _) ≠ ((b.handler env).bind _)
      rw [hc, hc', Option.bind_some, Option.bind_some]
      rcases hparts with ⟨hnext, hother⟩ | ⟨hother, hnext⟩
      · rw [activityStates_playNext hnext, hnext]
        exact activityStates_ne hother _
      · rw [activityStates_playNext hnext, hnext]
        exact (activityStates_ne hother _).symm
  | press now ear => exact absurd trivial halike
  | pipeline writer => exact absurd trivial halike

/-- **A run.** -/
theorem Mirrored.run {b b' : Box} (h : Mirrored b b') (es : List ActivityEvent) :
    b'.activityStates (es.map ActivityEvent.swap) = b.activityStates es ↔ b.EveryStep EarsAlike es := by
  induction es generalizing b b' with
  | nil => exact iff_of_true rfl trivial
  | cons e es ih =>
      rw [List.map_cons]
      by_cases hover : b.state = .playNext
      · rw [activityStates_playNext (h.state.trans hover), activityStates_playNext hover]
        exact iff_of_true rfl (.inl hover)
      unfold activityStates EveryStep
      rw [if_neg hover, if_neg (by rw [h.state]; exact hover)]
      by_cases halike : b.EarsAlike e
      · rcases h.step hover halike with ⟨hnone, hnone'⟩ | ⟨c, c', hc, hc', hmirrored⟩
        · rw [hnone, hnone']
          exact iff_of_true rfl (.inr ⟨halike, by simp⟩)
        · rw [hc, hc', Option.bind_some, Option.bind_some, hmirrored.state]
          have hcons : Function.Injective (Option.map (c.state :: ·)) :=
            Option.map_injective (List.cons_injective (a := c.state))
          rw [hcons.eq_iff, ih hmirrored]
          constructor
          · intro hrest
            refine .inr ⟨halike, ?_⟩
            rintro _ ⟨⟩
            exact hrest
          · rintro (hnext | ⟨-, hrest⟩)
            · exact absurd hnext hover
            · exact hrest c rfl
      · refine iff_of_false (h.differs halike es) fun hstep => ?_
        rcases hstep with hnext | ⟨hgood, -⟩
        · exact hover hnext
        · exact halike hgood

/-- **The two ears.** From `SYS_PLAY_ACTIVITY` until `SYS_PLAY_NEXT`, the run with left and right
exchanged goes through the same states and a press of either ear ends the wait after the audio, exactly
if the ears are pressed alike whenever the wait looks before its time is over. -/
theorem activity_symmetric_iff {b : Box} (h : b.state = .playActivity) (es : List ActivityEvent) :
    (b.activityStates (es.map ActivityEvent.swap) = b.activityStates es ∧
        b.EveryStep PressEndsWait es) ↔
      b.EveryStep EarsAlike es := by
  have hmirrored : Mirrored b b := .before b.leftEarButtonState b.rightEarButtonState h
  have hends : ∀ (b : Box) (e : ActivityEvent), b.EarsAlike e → b.PressEndsWait e := by
    intro b e halike
    cases e with
    | handler env =>
        intro hwait hpressed
        rw [handler_waitActivityResp hwait, Option.map_some, Option.some_inj]
        unfold handleWaitActivityResp
        have hlooks : timeSpent env.now b.responseWaitTick 10000 = true ∨
            b.leftEarButtonState = true ∨ b.leftEarButtonState = true := by
          refine (halike hwait).imp_right fun hears => ?_
          rw [hears, or_self] at hpressed ⊢
          exact hpressed
        rw [if_pos hlooks]
        rfl
    | press now ear => trivial
    | pipeline writer => trivial
  rw [hmirrored.run es]
  exact and_iff_left_of_imp fun hall => hall.mono hends

end

/-! ## An activity -/

instance decidableEveryStep [CJson] (ok : Box → ActivityEvent → Prop)
    [∀ b e, Decidable (ok b e)] : ∀ (b : Box) (es : List ActivityEvent), Decidable (b.EveryStep ok es)
  | _, [] => .isTrue trivial
  | b, e :: es =>
      have := fun b' : Box => decidableEveryStep ok b' es
      inferInstanceAs (Decidable (b.state = .playNext ∨ ok b e ∧ ∀ b' ∈ b.step e.event, _))

instance (b : Box) : ∀ e : ActivityEvent, Decidable (b.EarsAlike e)
  | .handler _ => inferInstanceAs (Decidable (_ → _ ∨ _))
  | .press _ _ | .pipeline _ => inferInstanceAs (Decidable True)

/-- An activity is about to be played. -/
def activityBox : Box :=
  { emptyBattery with
    state := .playActivity
    batteryLevel := 100
    json := some (.object [(str "1", .string (str "dance"))]) }

/-- The audio ends after a second, and an ear is pressed a second later. -/
def lateEarRun (ear : Ear) : List ActivityEvent :=
  [.handler (quietEnv 0 .other), .pipeline .running, .handler (quietEnv 1000000 .finished),
    .pipeline .other, .press 2000000 ear, .handler (quietEnv 2010000 .other)]

/-- An ear is pressed while the audio runs. -/
def earlyEarRun : List ActivityEvent :=
  [.handler (quietEnv 0 .other), .pipeline .running, .press 1000000 .right,
    .handler (quietEnv 1010000 .other)]

/-- A late press of the right ear does not end the wait. -/
theorem lateEarRun_unseen :
    ¬ ∀ (b : Box) (es : List ActivityEvent), b.state = .playActivity →
      @activityStates writeParser b (es.map ActivityEvent.swap) = @activityStates writeParser b es ∧
        @EveryStep writeParser (@PressEndsWait writeParser) b es := by
  intro h
  have hsame := (h activityBox (lateEarRun .right) rfl).1
  revert hsame
  decide +kernel

theorem activity_symmetric_earlyEarRun :
    @activityStates writeParser activityBox (earlyEarRun.map ActivityEvent.swap) =
      @activityStates writeParser activityBox earlyEarRun :=
  ((@activity_symmetric_iff writeParser activityBox rfl earlyEarRun).2 (by decide +kernel)).1

end Box

end Cubbies
