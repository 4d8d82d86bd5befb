import Cubbies.Proofs.DefinedSteps

set_option autoImplicit false

/-! # A playlist does not stall

`playlist_order` says which items can follow each other, not that another item comes. Each handler step
waits (`waits`: for the end of an audio, for an ear, for the ten seconds) or brings the box nearer to the
next item, by the count `stepsToItem`; as long as the toy and the direction stay, the battery is not low
and no user is to be verified (`PlaylistStep`), the other tasks never take it further away.
`playlist_progress` draws the conclusions for a playlist of short names: a part of a run that starts `m`
items has at most 13 (m + 1) handler steps that wait for nothing, every item comes round, and every
handler step finds its entry. -/

namespace Cubbies

open CString

namespace Box

/-! ## Waiting -/

/-- Whether a handler step has something to wait for: the end of an audio that no ear cuts short, a
response or its time-out. -/
def waits (b : Box) (env : HandlerEnv) : Bool :=
  match b.state with
  | .waitForPlayer =>
      env.message ≠ .finished ∧
        ¬ (b.playerGoBackToState ∈ [.waitQnaResp, .waitActivityResp] ∧
          (b.leftEarButtonState || b.rightEarButtonState))
  | .waitQnaResp => (b.verdict? env.now).isNone
  | .waitActivityResp => ¬ (timeSpent env.now b.responseWaitTick 10000 ∨ b.leftEarButtonState)
  | _ => false

/-- A handler step that waits for nothing. -/
def busy : Box × BoxEvent → Bool
  | (b, .handler env) => !b.waits env
  | _ => false

def Mark.isItem : Mark → Bool
  | .item _ => true
  | .back _ => false

/-- A step that starts an item. -/
def startsItem (x : Box × BoxEvent) : Bool := ((stepMark? x).map Mark.isItem).getD false

theorem countP_marks (trace : List (Box × BoxEvent)) :
    (marks trace).countP Mark.isItem = trace.countP startsItem := List.countP_filterMap

theorem startsItem_handler (b : Box) (env : HandlerEnv) :
    startsItem (b, .handler env) = decide (b.state ∈ [.playNormalAudio, .playQna, .playActivity]) := by
  unfold startsItem
  show ((if b.state ∈ _ then some (Mark.item (b.indexx.toNat + 1)) else none).map Mark.isItem).getD false = _
  split
  · next h => rw [decide_eq_true h]; rfl
  · next h => rw [decide_eq_false h]; rfl

/-! ## The count of steps -/

/-- The busy handler steps from a position to the next item that is started, at most. A first attempt may
be followed by the wrong answer's audio and a second one. -/
def itemSteps (attempt : UInt8) : SystemState → ℕ
  | .playNormalAudio | .playQna | .playActivity => 1
  | .readAudioHeader => 2
  | .getDirection | .playPrevious => 3
  | .playToy => 4
  | .playingComplete => 5
  | .playNext => 6
  | .waitActivityResp => 7
  | .correctAns => 8
  | .waitQnaResp => if attempt = 1 then 12 else 9
  | .incorrectAnsTry1 => 11
  | _ => 0

/-- The same for a box: the end of the audio is one step more. -/
def stepsToItem (b : Box) : ℕ :=
  itemSteps b.qnaAttempt b.position + if b.state = .waitForPlayer then 1 else 0

theorem itemSteps_le (attempt : UInt8) (s : SystemState) : itemSteps attempt s ≤ 12 := by
  cases s <;> simp only [itemSteps] <;> first | omega | (split <;> omega)

theorem stepsToItem_le (b : Box) : b.stepsToItem ≤ itemSteps b.qnaAttempt b.position + 1 := by
  unfold stepsToItem
  split <;> omega

theorem stepsToItem_le_thirteen (b : Box) : b.stepsToItem ≤ 13 :=
  (stepsToItem_le b).trans (Nat.succ_le_succ (itemSteps_le _ _))

theorem stepsToItem_of_state {b : Box} {s : SystemState} (h : b.state = s) (hs : s ≠ .waitForPlayer) :
    b.stepsToItem = itemSteps b.qnaAttempt s := by
  unfold stepsToItem
  rw [position_of_state h hs, h, if_neg hs, Nat.add_zero]

theorem stepsToItem_of_wait {b : Box} (h : b.state = .waitForPlayer) :
    b.stepsToItem = itemSteps b.qnaAttempt b.playerGoBackToState + 1 := by
  unfold stepsToItem
  rw [position_of_wait h, if_pos h]

theorem stepsToItem_same {b b' : Box} (hstate : b'.state = b.state)
    (hback : b'.playerGoBackToState = b.playerGoBackToState) (hattempt : b'.qnaAttempt = b.qnaAttempt) :
    b'.stepsToItem = b.stepsToItem := by
  unfold stepsToItem position
  rw [hstate, hback, hattempt]

/-! ## The states with something to wait for -/

theorem checkPlayingCompleted_attempt (b : Box) (message : PlayerMessage) :
    (b.checkPlayingCompleted message).2.qnaAttempt = b.qnaAttempt := by
  unfold checkPlayingCompleted
  split <;> rfl

theorem checkPlayingCompleted_back (b : Box) (message : PlayerMessage) :
    (b.checkPlayingCompleted message).2.playerGoBackToState = b.playerGoBackToState := by
  unfold checkPlayingCompleted
  split <;> rfl

/-- The wait for the player ends, or goes on as it was. -/
theorem handleWaitForPlayer_steps {b : Box} (env : HandlerEnv) (hwait : b.state = .waitForPlayer)
    (hback : b.playerGoBackToState ≠ .waitForPlayer) :
    (b.handleWaitForPlayer env).stepsToItem + (if b.waits env then 0 else 1) ≤ b.stepsToItem := by
  have hends (b₁ : Box) (s : SystemState) (hattempt : b₁.qnaAttempt = b.qnaAttempt)
      (hs : s ≠ .waitForPlayer) (hle : itemSteps b.qnaAttempt s ≤
        itemSteps b.qnaAttempt b.playerGoBackToState) :
      (b₁.setState env.now s).stepsToItem + 1 ≤ b.stepsToItem := by
    rw [stepsToItem_of_wait hwait, stepsToItem_of_state (b := b₁.setState env.now s) rfl hs]
    show itemSteps b₁.qnaAttempt s + 1 ≤ _
    rw [hattempt]
    exact Nat.succ_le_succ hle
  have htoggle : b.playPauseToggle.qnaAttempt = b.qnaAttempt := (SameQuestion.playPauseToggle b).attempt
  have hcases : b.waits env = true ∧ (b.handleWaitForPlayer env).stepsToItem = b.stepsToItem ∨
      (b.handleWaitForPlayer env).stepsToItem + 1 ≤ b.stepsToItem := by
    unfold handleWaitForPlayer
    dsimp only
    split_ifs with hqna hactivity hcompleted
    · refine .inr (hends b.playPauseToggle .waitQnaResp htoggle (by decide) ?_)
      rw [hqna.1]
    · refine .inr (hends b.playPauseToggle .playNext htoggle (by decide) ?_)
      rw [hactivity.1]
      exact Nat.le_succ 6
    · refine .inr (hends _ _ ?_ ?_ ?_)
      · exact checkPlayingCompleted_attempt b env.message
      · rwa [checkPlayingCompleted_back]
      · rw [checkPlayingCompleted_back]
    -- nothing has happened
    · refine .inl ⟨?_, ?_⟩
      · have hmessage : env.message ≠ .finished := fun hm => hcompleted (by rw [hm]; rfl)
        simp only [waits, hwait, decide_eq_true_eq]
        refine ⟨hmessage, ?_⟩
        rintro ⟨hmem, hear⟩
        simp only [List.mem_cons, List.not_mem_nil, or_false] at hmem
        rcases hmem with h | h
        · exact hqna ⟨h, hear⟩
        · exact hactivity ⟨h, hear⟩
      · refine stepsToItem_same ?_ (checkPlayingCompleted_back b _) (checkPlayingCompleted_attempt b _)
        unfold checkPlayingCompleted
        split <;> rfl
  rcases hcases with ⟨hwaits, hsame⟩ | hless
  · rw [hwaits, hsame]
    exact le_rfl
  · split <;> omega

/-- `SYS_WAIT_QNA_RESP` comes to a verdict, or waits. -/
theorem handleWaitQnaResp_steps {b : Box} (env : HandlerEnv) (hstate : b.state = .waitQnaResp)
    (hattempt : b.qnaAttempt = 1 ∨ b.qnaAttempt = 2) :
    (b.handleWaitQnaResp env.now).stepsToItem + (if b.waits env then 0 else 1) ≤ b.stepsToItem := by
  have hwaits : b.waits env = (b.verdict? env.now).isNone := by simp only [waits, hstate]
  rw [hwaits, handleWaitQnaResp_eq env.now hattempt]
  cases hverdict : b.verdict? env.now with
  | none => exact le_rfl
  | some v =>
      have hleaves : ∀ s, s ≠ SystemState.waitForPlayer →
          itemSteps b.qnaAttempt s + 1 ≤ itemSteps b.qnaAttempt .waitQnaResp →
          (b.setState env.now s).stepsToItem + 1 ≤ b.stepsToItem := by
        intro s hs hle
        rw [stepsToItem_of_state hstate (by decide),
          stepsToItem_of_state (b := b.setState env.now s) rfl hs]
        exact hle
      show (b.setState env.now (afterVerdict b.qnaAttempt v)).stepsToItem + 1 ≤ _
      unfold afterVerdict
      split
      · refine hleaves _ (by decide) ?_
        simp only [itemSteps]
        split <;> omega
      · next hwrong =>
          refine hleaves _ (by decide) ?_
          rw [hattempt.resolve_right fun htwo => hwrong (.inr htwo)]
          decide

/-- `SYS_WAIT_ACTIVITY_RESP` goes on, or waits. -/
theorem handleWaitActivityResp_steps {b : Box} (env : HandlerEnv) (hstate : b.state = .waitActivityResp) :
    (b.handleWaitActivityResp env.now).stepsToItem + (if b.waits env then 0 else 1) ≤ b.stepsToItem := by
  have hwaits : b.waits env =
      decide (¬ (timeSpent env.now b.responseWaitTick 10000 ∨ b.leftEarButtonState)) := by
    simp only [waits, hstate]
  rw [hwaits]
  unfold handleWaitActivityResp
  by_cases hgoes : timeSpent env.now b.responseWaitTick 10000 ∨ b.leftEarButtonState
  · rw [if_pos (hgoes.imp_right .inl), stepsToItem_of_state hstate (by decide),
      stepsToItem_of_state (b := b.setState env.now .playNext) (s := .playNext) rfl (by decide)]
    show 6 + _ ≤ 7
    split <;> omega
  · have hstays : ¬ (timeSpent env.now b.responseWaitTick 10000 = true ∨
        b.leftEarButtonState = true ∨ b.leftEarButtonState = true) := by tauto
    rw [if_neg hstays, decide_eq_true hgoes]
    exact le_rfl

section

variable [CJson]

/-! ## Every handler step is defined -/

omit [CJson] in
/-- The current audio of a place in a playlist with short names fits. -/
theorem Place.entryFits {j : Json} {n : ℕ} {marks : List Mark} {b : Box} (hlist : Playlist j n)
    (hshort : ShortNames j) (h : Place j n marks b) : b.EntryFits := by
  refine EntryFits.of_entry fun hstate => ?_
  cases h with
  | ready _ hjson hlt _ =>
      obtain ⟨name, hitem⟩ := hlist.entries _ hlt
      exact ⟨j, name, hjson, hitem, hshort _ name hitem⟩
  | loading hload _ =>
      rw [hload] at hstate
      exact absurd hstate (by decide)
  | ended hend _ =>
      rcases hend with hend | hend <;> rw [hend] at hstate <;> exact absurd hstate (by decide)
  | back hprev _ _ _ _ =>
      rw [hprev] at hstate
      exact absurd hstate (by decide)
  | on hon _ _ _ =>
      rw [position_of_state rfl fun hwait => absurd (hwait ▸ hstate) (by decide)] at hon
      have hdisjoint : ∀ s ∈ accessStates,
          s ∉ [SystemState.waitQnaResp, .incorrectAnsTry1, .correctAns, .waitActivityResp, .playNext] := by
        decide
      exact absurd hon (hdisjoint _ hstate)

/-! ## One step -/

omit [CJson] in
/-- A step from one state to another with a smaller count. -/
theorem stepsToItem_less {b b' : Box} {s s' : SystemState} {c : ℕ} (hstate : b.state = s)
    (hs : s ≠ .waitForPlayer) (hstate' : b'.state = s') (hs' : s' ≠ .waitForPlayer)
    (hless : ∀ attempt attempt', itemSteps attempt' s' + 1 ≤ itemSteps attempt s) (hc : c ≤ 1) :
    b'.stepsToItem + c ≤ b.stepsToItem := by
  rw [stepsToItem_of_state hstate hs, stepsToItem_of_state hstate' hs']
  exact (Nat.add_le_add_left hc _).trans (hless _ _)

/-- **A handler step** that waits for nothing brings the next item nearer, or starts it. -/
theorem Place.handler_steps {j : Json} {n : ℕ} {marks : List Mark} {b b' : Box} {env : HandlerEnv}
    (hsource : b.source.Holds j) (hattempt : AttemptOk b) (h : Place j n marks b)
    (hstep : b.handler env = some b') :
    b'.stepsToItem + (if b.waits env then 0 else 1) ≤
      b.stepsToItem + if b.state ∈ [.playNormalAudio, .playQna, .playActivity] then 13 else 0 := by
  have hone : (if b.waits env then 0 else 1) ≤ 1 := by split <;> omega
  have hless {s t : SystemState} {k : ℕ} (hstate : b.state = s) (hs : s ≠ .waitForPlayer)
      (hstate' : b'.state = t) (ht : t ≠ .waitForPlayer)
      (hle : ∀ attempt attempt', itemSteps attempt' t + 1 ≤ itemSteps attempt s) :
      b'.stepsToItem + (if b.waits env then 0 else 1) ≤ b.stepsToItem + k :=
    (stepsToItem_less hstate hs hstate' ht hle hone).trans (Nat.le_add_right _ _)
  cases h with
  | loading hload _ =>
      simp only [Box.handler, hload] at hstep
      obtain rfl := Option.some.inj hstep
      exact hless hload (by decide) (handleGetDirection_of_holds env.now hsource).1 (by decide)
        fun _ _ => Nat.le_refl 3
  | ended hend _ =>
      rcases hend with hend | hend
      · simp only [Box.handler, hend] at hstep
        obtain rfl := Option.some.inj hstep
        exact hless (t := .getDirection) hend (by decide) rfl (by decide) fun _ _ => Nat.le_refl 4
      · simp only [Box.handler, hend] at hstep
        obtain rfl := Option.some.inj hstep
        exact hless (t := .playToy) hend (by decide) rfl (by decide) fun _ _ => Nat.le_refl 5
  | back hprev _ hpos _ _ =>
      simp only [Box.handler, hprev] at hstep
      obtain rfl := Option.some.inj hstep
      exact hless (t := .readAudioHeader) hprev (by decide) rfl (by decide) fun _ _ => Nat.le_refl 3
  | ready hready hjson hlt _ =>
      by_cases hread : b.state = .readAudioHeader
      · simp only [Box.handler, hread] at hstep
        have hnext := handleReadAudioHeader_state hstep
        simp only [List.mem_cons, List.not_mem_nil, or_false] at hnext
        rcases hnext with hnext | hnext | hnext
        · exact hless hread (by decide) hnext (by decide) fun _ _ => Nat.le_refl 2
        · exact hless hread (by decide) hnext (by decide) fun _ _ => Nat.le_refl 2
        · exact hless hread (by decide) hnext (by decide) fun _ _ => Nat.le_refl 2
      · have hplay : b.state ∈ [.playNormalAudio, .playQna, .playActivity] :=
          (List.mem_cons.1 hready).resolve_left hread
        have hlast : b.stepsToItem = 1 := by
          rw [stepsToItem_of_state rfl (fun hwait => by rw [hwait] at hplay; exact absurd hplay (by decide))]
          simp only [List.mem_cons, List.not_mem_nil, or_false] at hplay
          rcases hplay with hat | hat | hat <;> rw [hat] <;> rfl
        rw [if_pos hplay, hlast]
        have hle := stepsToItem_le_thirteen b'
        omega
  | on hon hjson hlt hlast =>
      refine le_trans ?_ (Nat.le_add_right _ _)
      by_cases hwait : b.state = .waitForPlayer
      · rw [handler_waitForPlayer hwait] at hstep
        obtain rfl := Option.some.inj hstep
        refine handleWaitForPlayer_steps env hwait fun hback => ?_
        rw [position_of_wait hwait, hback] at hon
        exact absurd hon (by decide)
      · have hpos := position_of_state rfl hwait
        rw [hpos] at hon
        simp only [List.mem_cons, List.not_mem_nil, or_false] at hon
        rcases hon with hat | hat | hat | hat | hat
        · simp only [Box.handler, hat] at hstep
          obtain rfl := Option.some.inj hstep
          exact handleWaitQnaResp_steps env hat (hattempt (hpos.trans hat))
        · simp only [Box.handler, hat] at hstep
          have hle := stepsToItem_le b'
          obtain ⟨b₁, -, rfl⟩ := Option.map_eq_some_iff.1 hstep
          rw [(handleIncorrectAnsTry1_plays hstep).position] at hle
          rw [stepsToItem_of_state hat (by decide)]
          exact (Nat.add_le_add hle hone).trans (Nat.le_refl 11)
        · simp only [Box.handler, hat] at hstep
          have hle := stepsToItem_le b'
          rw [(handleCorrectAns_plays hstep).position] at hle
          rw [stepsToItem_of_state hat (by decide)]
          exact (Nat.add_le_add hle hone).trans (Nat.le_refl 8)
        · simp only [Box.handler, hat] at hstep
          obtain rfl := Option.some.inj hstep
          exact handleWaitActivityResp_steps env hat
        · simp only [Box.handler, hat] at hstep
          obtain rfl := Option.some.inj hstep
          obtain ⟨s', hs', hmem⟩ : ∃ s', (b.handlePlayNext env.now).state = s' ∧
              s' ∈ [SystemState.playingComplete, .readAudioHeader] := by
            unfold handlePlayNext
            dsimp only
            split
            · exact ⟨_, rfl, List.mem_cons_self⟩
            · rw [readOrShutDown_eq env.now (by
                rw [show b.advance.batteryLevel = b.batteryLevel from
                  congrArg Source.batteryLevel (source_advance b)]
                exact hsource.battery)]
              exact ⟨_, rfl, List.mem_cons_of_mem _ List.mem_cons_self⟩
          simp only [List.mem_cons, List.not_mem_nil, or_false] at hmem
          rcases hmem with rfl | rfl
          · exact stepsToItem_less hat (by decide) hs' (by decide) (fun _ _ => Nat.le_refl 6) hone
          · exact stepsToItem_less hat (by decide) hs' (by decide) (fun _ _ => Nat.le_add_right 3 3) hone

omit [CJson] in
/-- While an item is on, its end is at least six steps away from the next one. -/
theorem Place.six_le {j : Json} {n : ℕ} {marks : List Mark} {b : Box} (h : Place j n marks b)
    (hwait : b.state = .waitForPlayer) : 6 ≤ b.stepsToItem := by
  have hall : ∀ attempt, ∀ s ∈ [SystemState.waitQnaResp, .incorrectAnsTry1, .correctAns,
      .waitActivityResp, .playNext], 6 ≤ itemSteps attempt s := by
    intro attempt s hs
    simp only [List.mem_cons, List.not_mem_nil, or_false] at hs
    rcases hs with rfl | rfl | rfl | rfl | rfl <;> simp only [itemSteps]
    · split <;> omega
    · omega
    · omega
    · omega
    · omega
  cases h with
  | on hon _ _ _ => exact (hall _ _ hon).trans (Nat.le_add_right _ _)
  | loading hload _ => cases hload.symm.trans hwait
  | ended hend _ => simp [hwait] at hend
  | ready hready _ _ _ => simp [hwait] at hready
  | back hprev _ _ _ _ => cases hprev.symm.trans hwait

/-- **A write frame** takes the next item no further away. -/
theorem Place.write_steps {j : Json} {n : ℕ} {marks : List Mark} {b : Box} (h : Place j n marks b)
    (hattempt : AttemptOk b) (now address len : ℕ) (data : Bytes) :
    (b.writeFrame now address len data).stepsToItem ≤ b.stepsToItem ∧
      AttemptOk (b.writeFrame now address len data) := by
  have hsame := task_qnaAttempt (e := .write now address len data) (fun _ => by simp)
    (rfl : b.step _ = some (b.writeFrame now address len data))
  cases writeFrame_outcome b now address len data with
  | next _ hwait hb =>
      rw [hb, stepsToItem_of_state (b := b.setState now .playNext) (s := .playNext) rfl (by decide)]
      exact ⟨h.six_le hwait, .of_mem (l := [.playNext]) (by simp [position_setState]) (by decide)⟩
  | previous _ hwait _ hb =>
      have hsix := h.six_le hwait
      rw [hb, stepsToItem_of_state (b := b.setState now .playPrevious) (s := .playPrevious) rfl
        (by decide)]
      exact ⟨(Nat.le_add_right 3 3).trans hsix,
        .of_mem (l := [.playPrevious]) (by simp [position_setState]) (by decide)⟩
  | same _ hstate hback _ =>
      exact ⟨(stepsToItem_same hstate hback hsame).le, hattempt.of_same hstate hback hsame⟩

/-! ## Runs -/

/-- What holds along the run of a playlist. -/
structure Playing (j : Json) (n : ℕ) (trace : List (Box × BoxEvent)) (b : Box) : Prop where
  place : Place j n (marks trace) b
  source : b.source.Holds j
  ordered : Ordered n (marks trace)
  attempt : AttemptOk b
  answer : AnswerOk b

/-- **One step** of a run keeps all of it, and the count goes down or an item is started. -/
theorem Playing.step {j : Json} {n : ℕ} {trace : List (Box × BoxEvent)} {b b' : Box}
    {e : BoxEvent} (hlist : Playlist j n) (hone : 1 ≤ n) (hn : n < 256)
    (h : Playing j n trace b) (hok : PlaylistStep b e) (hstep : b.step e = some b') :
    Playing j n (trace ++ [(b, e)]) b' ∧
      b'.stepsToItem + (if busy (b, e) then 1 else 0) ≤
        b.stepsToItem + if startsItem (b, e) then 13 else 0 := by
  obtain ⟨hplace, hsame, hcome⟩ := h.place.step hlist hone hn h.source hok hstep
  have hsplit : marks (trace ++ [(b, e)]) = marks trace ++ (stepMark? (b, e)).toList :=
    Runs.filterMap_snoc stepMark? trace (b, e)
  have hordered : Ordered n (marks (trace ++ [(b, e)])) := by
    rw [hsplit]
    cases hmark : stepMark? (b, e) with
    | none =>
        rw [Option.toList_none, List.append_nil]
        exact h.ordered
    | some m => exact h.ordered.snoc (hcome m hmark)
  rw [← hsplit] at hplace
  have hplaying (hattempt : AttemptOk b') : Playing j n (trace ++ [(b, e)]) b' :=
    ⟨hplace, hsame.holds h.source, hordered, hattempt, h.answer.step hstep⟩
  cases e with
  | handler env =>
      refine ⟨hplaying (handler_attempt hstep h.attempt), ?_⟩
      have hless := h.place.handler_steps h.source h.attempt hstep
      rw [startsItem_handler]
      simpa only [busy, Bool.not_eq_true', decide_eq_true_eq, ← Bool.not_eq_true, ite_not] using hless
  | write now address len data =>
      obtain rfl := Option.some.inj hstep
      obtain ⟨hle, hattempt⟩ := h.place.write_steps h.attempt now address len data
      exact ⟨hplaying hattempt, hle.trans (Nat.le_add_right _ _)⟩
  | pipeline writer =>
      obtain rfl := Option.some.inj hstep
      exact ⟨hplaying h.attempt, Nat.le_add_right _ _⟩
  | station ev =>
      obtain rfl := Option.some.inj hstep
      exact ⟨hplaying h.attempt, Nat.le_add_right _ _⟩
  | read now data =>
      obtain rfl := Option.some.inj hstep
      obtain ⟨presense, uid, heq⟩ := readFrame_toy now hok.1 hok.2.1
      have hstate : (b.readFrame now data).state = b.state := by rw [heq]
      have hback : (b.readFrame now data).playerGoBackToState = b.playerGoBackToState := by rw [heq]
      have hattempt : (b.readFrame now data).qnaAttempt = b.qnaAttempt := by rw [heq]
      exact ⟨hplaying (h.attempt.of_same hstate hback hattempt),
        (stepsToItem_same hstate hback hattempt).le.trans (Nat.le_add_right _ _)⟩
  | ble now uuid value s =>
      have hattempt := task_qnaAttempt (e := .ble now uuid value s) (fun _ => by simp) hstep
      cases onWrite_outcome hstep with
      | verifies hstarts _ _ _ => exact absurd hstarts hok
      | same _ hstate hback _ =>
          exact ⟨hplaying (h.attempt.of_same hstate hback hattempt),
            (stepsToItem_same hstate hback hattempt).le.trans (Nat.le_add_right _ _)⟩

end

/-! ## Round the playlist -/

def Mark.InRange (n : ℕ) : Mark → Prop
  | .item k => 1 ≤ k ∧ k ≤ n
  | .back k => 2 ≤ k ∧ k ≤ n

theorem Follows.inRange {n : ℕ} {m m' : Mark} (hn : 1 ≤ n) (h : Follows n m m') (hm : m.InRange n) :
    m'.InRange n := by
  cases h with
  | next k =>
      have hk : 1 ≤ k ∧ k ≤ n := hm
      show 1 ≤ (if k = n then 1 else k + 1) ∧ (if k = n then 1 else k + 1) ≤ n
      split <;> omega
  | press hk => exact ⟨hk, hm.2⟩
  | @previous k hk =>
      have hle : 2 ≤ k ∧ k ≤ n := hm
      show 1 ≤ k - 1 ∧ k - 1 ≤ n
      omega

theorem Ordered.inRange {n : ℕ} {marks : List Mark} (h : Ordered n marks) (hn : 1 ≤ n) :
    ∀ m ∈ marks, m.InRange n := by
  refine h.follows.induction (Mark.InRange n) marks (fun _ _ hm => hm.inRange hn) fun hne => ?_
  rw [h.first _ (List.head?_eq_some_head hne)]
  exact ⟨le_rfl, hn⟩

/-- The item after the `i`-th of all, counted round and round. -/
theorem Follows.item_succ {n i : ℕ} {m : Mark} (hn : 1 ≤ n) (h : Follows n (.item (i % n + 1)) m)
    (hnone : ∀ k, m ≠ .back k) : m = .item ((i + 1) % n + 1) := by
  cases h with
  | next =>
      congr 1
      rw [← Nat.mod_add_mod]
      have hlt : i % n < n := Nat.mod_lt _ hn
      split
      · next hlast => rw [hlast, Nat.mod_self]
      · next hlast => rw [Nat.mod_eq_of_lt (show i % n + 1 < n by omega)]
  | press _ => exact absurd rfl (hnone _)

/-- **A part with as many items as the playlist has**, and without the previous button, has each. -/
theorem Ordered.covers {n : ℕ} {before part : List Mark} (h : Ordered n (before ++ part)) (hn : 1 ≤ n)
    (hnone : ∀ k, Mark.back k ∉ part) (hlong : n ≤ part.length) {k : ℕ} (hpos : 1 ≤ k) (hk : k ≤ n) :
    Mark.item k ∈ part := by
  have hchain : part.IsChain (Follows n) := (List.isChain_append.1 h.follows).2.1
  obtain ⟨a, ha, hat⟩ : ∃ a < n, ∀ i (hi : i < part.length), part[i] = .item ((a + i) % n + 1) := by
    have hlen : 0 < part.length := by omega
    obtain ⟨a, ha, hfirst⟩ : ∃ a < n, part[0] = .item (a + 1) := by
      have hrange := h.inRange hn part[0] (List.mem_append_right _ (List.getElem_mem hlen))
      cases hm : part[0] with
      | item k =>
          rw [hm] at hrange
          have hk : 1 ≤ k ∧ k ≤ n := hrange
          exact ⟨k - 1, by omega, by rw [Nat.sub_add_cancel hk.1]⟩
      | back k => exact absurd (hm ▸ List.getElem_mem hlen) (hnone k)
    refine ⟨a, ha, fun i => ?_⟩
    induction i with
    | zero =>
        intro _
        have hmod : (a + 0) % n = a := Nat.mod_eq_of_lt ha
        rw [hfirst, hmod]
    | succ i ih =>
        intro hi
        have hfollows := hchain.getElem i hi
        rw [ih (by omega)] at hfollows
        exact hfollows.item_succ hn fun k hback => hnone k (hback ▸ List.getElem_mem hi)
  have hlt : (k - 1 + (n - a)) % n < part.length := (Nat.mod_lt _ hn).trans_le hlong
  have hitem := hat _ hlt
  rw [Nat.add_mod_mod, show a + (k - 1 + (n - a)) = k - 1 + n by omega, Nat.add_mod_right,
    Nat.mod_eq_of_lt (show k - 1 < n by omega), Nat.sub_add_cancel hpos] at hitem
  exact hitem ▸ List.getElem_mem hlt

section

variable [CJson]

/-- **A playlist does not stall.** A part of its run that starts `m` items has at most 13 (m + 1) handler
steps that wait for nothing, and one with more than 13 n of them starts every item unless the previous
button is used; every handler step finds its entry. -/
theorem playlist_progress {b₀ b₁ b : Box} {j : Json} {n : ℕ} (direction content : Bytes)
    {before part : List (Box × BoxEvent)}
    (hsize : ∀ s fields, CJson.parse s = some (.object fields) → 4 * fields.length ≤ s.length)
    (hdirection : direction? b₀.turnTable = some direction)
    (hfile : b₀.dl.card.content? (directionPath b₀.toy direction) = some content)
    (hparse : CJson.parse (text (content.take 1023)) = some j) (hlist : Playlist j n) (hone : 1 ≤ n)
    (hshort : ShortNames j) (hbattery : 35 ≤ b₀.batteryLevel) (hstart : b₀.state = .getDirection)
    (hbefore : Runs.Path (fun b e b' => b.step e = some b') PlaylistStep b₀ before b₁)
    (hrun : Runs.Path (fun b e b' => b.step e = some b') PlaylistStep b₁ part b) :
    part.countP busy ≤ 13 * ((marks part).countP Mark.isItem + 1) ∧
      ((∀ k, Mark.back k ∉ marks part) → 13 * n < part.countP busy →
        ∀ k, 1 ≤ k → k ≤ n → Mark.item k ∈ marks part) ∧
      ∀ env, ∃ b', b.handler env = some b' := by
  have hn : n < 256 := hlist.short hsize hparse
  have hholds : b₀.source.Holds j := ⟨hbattery, direction, content, hdirection, hfile, hparse⟩
  have hplaying₁ : Playing j n before b₁ := by
    refine hbefore.invariant (I := Playing j n) ?_ ?_
    · refine ⟨.loading hstart (.inl ⟨rfl, rfl⟩), hholds, ordered_nil n, ?_, ?_⟩
      · exact .of_mem (l := [.getDirection])
          (List.mem_singleton.2 (position_of_state hstart (by decide))) (by decide)
      · exact .of_not_mem (by rw [position_of_state hstart (by decide)]; decide)
    · exact fun trace b e b' h hok hstep => (h.step hlist hone hn hok hstep).1
  obtain ⟨hplaying, hcount⟩ := hrun.countP_rank_le
    (fun trace b => Playing j n (before ++ trace) b) stepsToItem busy startsItem 13
    (by rw [List.append_nil]; exact hplaying₁)
    (fun trace b e b' h hok hstep => by
      rw [← List.append_assoc]
      exact h.step hlist hone hn hok hstep)
  have hfirst := stepsToItem_le_thirteen b₁
  rw [← countP_marks] at hcount
  have hbound : part.countP busy ≤ 13 * ((marks part).countP Mark.isItem + 1) := by omega
  refine ⟨hbound, fun hnone hmany k hpos hk => ?_,
    fun env => (hplaying.answer.defined_iff env).2 (hplaying.place.entryFits hlist hshort)⟩
  have hmarks : marks (before ++ part) = marks before ++ marks part := List.filterMap_append
  have hordered := hplaying.ordered
  rw [hmarks] at hordered
  have hle : (marks part).countP Mark.isItem ≤ (marks part).length := List.countP_le_length
  exact hordered.covers hone hnone (by omega) hpos hk

end

/-- Both audios of the toy, to the end. -/
def roundRun : List BoxEvent :=
  [handlerStep, handlerStep, handlerStep, toneEnds, handlerStep, handlerStep, handlerStep, toneEnds,
    handlerStep, handlerStep, handlerStep]

theorem roundRun_progress :
    26 < (Runs.history (@step listParser) listedBox (roundRun ++ roundRun ++ roundRun)).countP busy ∧
      ∀ k, 1 ≤ k → k ≤ 2 →
        Mark.item k ∈
          marks (Runs.history (@step listParser) listedBox (roundRun ++ roundRun ++ roundRun)) := by
  let := listParser
  have hends : (Runs.runGuarded step PlaylistStep listedBox
      (roundRun ++ roundRun ++ roundRun)).isSome = true := by decide +kernel
  obtain ⟨b, hrun⟩ := Option.isSome_iff_exists.1 hends
  have hbusy : 26 < (Runs.history step listedBox (roundRun ++ roundRun ++ roundRun)).countP busy := by
    decide +kernel
  refine ⟨hbusy, ?_⟩
  have hnone : ∀ k, Mark.back k ∉
      marks (Runs.history step listedBox (roundRun ++ roundRun ++ roundRun)) := by
    intro k hk
    have hitems : (marks (Runs.history step listedBox (roundRun ++ roundRun ++ roundRun))).all
        Mark.isItem = true := by decide +kernel
    cases List.all_eq_true.1 hitems _ hk
  exact (playlist_progress (str "north") listText listParser_size rfl (by decide +kernel)
    (if_pos (by decide +kernel)) listJson_playlist (by decide) listJson_short (by decide) rfl .start
    (Runs.path_of_runGuarded _ hrun)).2.1 hnone hbusy

end Box

end Cubbies
