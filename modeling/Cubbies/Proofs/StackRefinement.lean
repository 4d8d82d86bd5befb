import Cubbies.Lib.Refinement
import Cubbies.Stack
import Cubbies.Proofs.BufferBounds
import Cubbies.Proofs.ReceivedStream
import Cubbies.Proofs.RequestEffects
import Cubbies.Proofs.Shutdown

set_option autoImplicit false

/-! # The bus carries events of the box

`Box.step` takes a frame as one event. Behind the bus it is many bytes and polls, with steps of other
tasks in between, garbage and frames with a wrong checksum among them. `stack_runs_box` says that this is
no more: every run of the stack is a run of the box, with one event for each frame processed, in order,
and the slave stays within its buffer. What is proved of all runs of the box so holds on the bus. -/

namespace Cubbies

open CString Runs

/-! ## Frames as events -/

/-- What an accepted frame is to the box. -/
def requestEvents (frame : Bytes) (now : ℕ) : List BoxEvent :=
  if byteAt frame 0 = 0x01 then [.read now (frame.drop 5)]
  else if byteAt frame 0 = 0x02 then
    [.write now (word (byteAt frame 1) (byteAt frame 2)) (word (byteAt frame 3) (byteAt frame 4))
      (frame.drop 5)]
  else []

namespace QBSlave

/-- The events of the box a step of the stack stands for. -/
def boxEvents (q : QBSlave Box) : StackEvent → List BoxEvent
  | .byte _ _ => []
  | .poll now => if q.Processes now then requestEvents q.frameBuffer now else []
  | .task e => [e]

@[simp] theorem boxEvents_byte (q : QBSlave Box) (now : ℕ) (c : UInt8) :
    q.boxEvents (.byte now c) = [] := rfl

@[simp] theorem boxEvents_task (q : QBSlave Box) (e : BoxEvent) : q.boxEvents (.task e) = [e] := rfl

theorem boxEvents_poll (q : QBSlave Box) (now : ℕ) :
    q.boxEvents (.poll now) = if q.Processes now then requestEvents q.frameBuffer now else [] := rfl

end QBSlave

/-- The event is that of the frame that was processed. -/
def Processed.Carries (p : Processed) (e : BoxEvent) : Prop :=
  ∃ now, requestEvents p.frameBuffer now = [e]

namespace QBSlave

/-- The frames processed in a step, each with the box as it finds it. -/
def boxCalls (q : QBSlave Box) (e : StackEvent) : List (Box × BoxEvent) :=
  ((q.boxEvents e).filter BoxEvent.isFrame).map fun e => (q.app, e)

theorem filter_observed (trace : List (QBSlave Box × StackEvent)) :
    (observed boxEvents trace).filter BoxEvent.isFrame = (observed boxCalls trace).map Prod.snd := by
  unfold observed
  rw [List.filter_flatMap, List.map_flatMap]
  refine congrArg (fun f => trace.flatMap f) (funext fun x => ?_)
  unfold boxCalls
  rw [List.map_map]
  exact (List.map_id _).symm

/-- The frame was processed, and its reply built, for this call. -/
def Made (p : Processed) (call : Box × BoxEvent) : Prop :=
  ∃ (q : QBSlave Box) (now : ℕ), Sound q ∧ q.Processes now ∧
    p = ⟨q.frameBuffer, q.recvByteCount, q.reply now⟩ ∧ call.1 = q.app ∧
    requestEvents q.frameBuffer now = [call.2]

theorem Made.carries {p : Processed} {call : Box × BoxEvent} (h : Made p call) : p.Carries call.2 := by
  obtain ⟨q, now, -, -, rfl, -, hevents⟩ := h
  exact ⟨now, hevents⟩

end QBSlave

namespace Box

/-- The box uses of a frame no more than its payload. -/
instance : QBusApp.ReadsData Box where
  readFrame_take b now data := by
    refine readFrame_congr b now fun i hi => ?_
    simp only [byteAt, List.getD_eq_getElem?_getD, List.getElem?_take_of_lt hi]
  regWriteCb_take b now address len data := by
    have hfirst : byteAt (data.take 1) 0 = byteAt data 0 := by
      simp [byteAt, List.getD_eq_getElem?_getD]
    show (_, b.writeFrame now address len (data.take 1)) = (_, b.writeFrame now address len data)
    unfold writeFrame
    rw [hfirst]

variable [CJson]

/-- Processing a frame is the step of its event. -/
theorem step_processFrame {frame : Bytes} {now : ℕ} {e : BoxEvent}
    (h : requestEvents frame now = [e]) (b : Box) :
    b.step e = some (processFrame frame now b).app := by
  have happ : (processFrame frame now b).app = (replyBody frame now b).app := rfl
  rw [happ]
  unfold requestEvents at h
  unfold replyBody
  split_ifs at h with hread hwrite
  · obtain rfl := List.singleton_inj.1 h
    rw [if_pos hread]
    dsimp only
    split <;> rfl
  · obtain rfl := List.singleton_inj.1 h
    rw [if_neg hread, if_pos hwrite]
    rfl

end Box

namespace QBSlave

/-- Sending bytes touches neither the box nor the frames processed. -/
theorem sendByte_iterate_kept (n : ℕ) (q : QBSlave Box) :
    (sendByte^[n] q).app = q.app ∧ (sendByte^[n] q).processed = q.processed := by
  induction n generalizing q with
  | zero => exact ⟨rfl, rfl⟩
  | succ n ih =>
      have hone : (sendByte q).app = q.app ∧ (sendByte q).processed = q.processed := by
        unfold sendByte
        split <;> exact ⟨rfl, rfl⟩
      rw [Function.iterate_succ_apply, (ih (sendByte q)).1, (ih (sendByte q)).2]
      exact hone

/-- A poll that processes no frame leaves the box alone. -/
theorem qbSlavePoll_quiet {q : QBSlave Box} {now : ℕ} (h : ¬ q.Processes now) :
    (qbSlavePoll q now).app = q.app ∧ (qbSlavePoll q now).processed = q.processed := by
  unfold qbSlavePoll
  cases hstate : q.qBState with
  | idle =>
      dsimp only
      split_ifs <;> exact ⟨rfl, rfl⟩
  | frameRcv =>
      dsimp only
      split_ifs with hspent hvalid
      · exact absurd ⟨hstate, hspent, hvalid⟩ h
      · exact ⟨rfl, rfl⟩
      · exact ⟨rfl, rfl⟩
  | sendFrame =>
      dsimp only
      unfold qbSlavePortTxEmptyIsr
      split
      · exact sendByte_iterate_kept _ q
      · exact ⟨rfl, rfl⟩
  | init => exact ⟨rfl, rfl⟩
  | stop => exact ⟨rfl, rfl⟩

/-- A processed frame is one event of the box. -/
theorem Sound.requestEvents {q : QBSlave Box} (h : Sound q) {now : ℕ} (hproc : q.Processes now) :
    ∃ e, requestEvents q.frameBuffer now = [e] ∧ e.isFrame = true := by
  unfold Cubbies.requestEvents
  rcases (h.start hproc.1).2 with hcode | hcode
  · exact ⟨_, if_pos hcode, rfl⟩
  · rw [hcode, if_neg (by decide), if_pos rfl]
    exact ⟨_, rfl, rfl⟩

/-- The guard of the box, on the bus: what the step stands for meets it. -/
def StackOk (ok : Box → BoxEvent → Prop) (q : QBSlave Box) (e : StackEvent) : Prop :=
  ∀ e' ∈ q.boxEvents e, ok q.app e'

section

variable [CJson] {ok : Box → BoxEvent → Prop}

/-- A step of the stack is one of the slave. -/
theorem stackStep_slave {q q' : QBSlave Box} {e : StackEvent} (h : q.stackStep e = some q') :
    ∃ e' : QBusEvent Box, q' = q.step e' := by
  cases e with
  | byte now recvChar => exact ⟨⟨now, .byte recvChar⟩, (Option.some.inj h).symm⟩
  | poll now => exact ⟨⟨now, .poll⟩, (Option.some.inj h).symm⟩
  | task e =>
      obtain ⟨-, htask⟩ := Option.ite_none_left_eq_some.1 h
      obtain ⟨app, -, rfl⟩ := Option.map_eq_some_iff.1 htask
      exact ⟨⟨0, .other app⟩, rfl⟩

/-- **One step.** A slave within its buffer stays so, and the box makes the steps it stands for. -/
theorem stack_refines : Refines (fun q e q' => stackStep q e = some q') (StackOk ok) Sound
    (fun b e b' => Box.step b e = some b') ok QBSlave.app boxEvents where
  keeps h _ hstep := by
    obtain ⟨e', rfl⟩ := stackStep_slave hstep
    exact (h.step e').1
  matched {q q' e} hsound hok hstep := by
    cases e with
    | byte now recvChar =>
        obtain rfl := Option.some.inj hstep
        exact .nil q.app
    | poll now =>
        obtain rfl := Option.some.inj hstep
        unfold StackOk at hok
        rw [boxEvents_poll] at hok ⊢
        by_cases hproc : q.Processes now
        · rw [if_pos hproc] at hok
          obtain ⟨e, hevents, -⟩ := hsound.requestEvents hproc
          rw [if_pos hproc, hevents, qbSlavePoll_of_processes hproc]
          rw [hevents] at hok
          exact .single (hok e List.mem_cons_self) (Box.step_processFrame hevents q.app)
        · rw [if_neg hproc, (qbSlavePoll_quiet hproc).1]
          exact .nil q.app
    | task e =>
        obtain ⟨-, htask⟩ := Option.ite_none_left_eq_some.1 hstep
        obtain ⟨app, happ, rfl⟩ := Option.map_eq_some_iff.1 htask
        exact .single (hok e List.mem_cons_self) happ

/-- A frame that is processed adds its call and its reply, and no other step adds either. -/
theorem stackStep_made {q q' : QBSlave Box} {e : StackEvent} (hsound : Sound q)
    (h : q.stackStep e = some q') :
    ∃ new, q'.processed = q.processed ++ new ∧ List.Forall₂ Made new (q.boxCalls e) := by
  cases e with
  | byte now recvChar =>
      obtain rfl := Option.some.inj h
      exact ⟨[], (List.append_nil _).symm, .nil⟩
  | poll now =>
      obtain rfl := Option.some.inj h
      unfold boxCalls
      rw [boxEvents_poll]
      by_cases hproc : q.Processes now
      · obtain ⟨e, hevents, hframe⟩ := hsound.requestEvents hproc
        rw [if_pos hproc, hevents, qbSlavePoll_of_processes hproc, List.filter_cons, if_pos hframe]
        exact ⟨_, rfl, .cons ⟨q, now, hsound, hproc, rfl, rfl, hevents⟩ .nil⟩
      · rw [if_neg hproc, (qbSlavePoll_quiet hproc).2]
        exact ⟨[], (List.append_nil _).symm, .nil⟩
  | task e =>
      obtain ⟨hother, htask⟩ := Option.ite_none_left_eq_some.1 h
      obtain ⟨app, -, rfl⟩ := Option.map_eq_some_iff.1 htask
      unfold boxCalls
      rw [boxEvents_task, List.filter_cons, if_neg hother]
      exact ⟨[], (List.append_nil _).symm, .nil⟩

/-- The frames processed in a run are the calls made in it. -/
theorem path_made {q₀ q : QBSlave Box} {trace : List (QBSlave Box × StackEvent)} (hsound : Sound q₀)
    (h : Path (fun q e q' => stackStep q e = some q') (StackOk ok) q₀ trace q) :
    ∃ new, q.processed = q₀.processed ++ new ∧ List.Forall₂ Made new (observed boxCalls trace) := by
  have hmade := h.invariant (I := fun trace q => Sound q ∧
    ∃ new, q.processed = q₀.processed ++ new ∧ List.Forall₂ Made new (observed boxCalls trace))
    ⟨hsound, [], (List.append_nil _).symm, .nil⟩ ?_
  · exact hmade.2
  · rintro trace q e q' ⟨hsound, new, hprocessed, hall⟩ hok hstep
    obtain ⟨later, hlater, hlaterMade⟩ := stackStep_made hsound hstep
    refine ⟨stack_refines.keeps hsound hok hstep, new ++ later, ?_, ?_⟩
    · rw [hlater, hprocessed, List.append_assoc]
    · rw [observed_snoc]
      exact List.rel_append hall hlaterMade

/-- **The stack runs the box.** Whatever bytes come in and whenever the tasks step, the slave stays
within its buffer, the box behind it makes one event for each frame processed and each step of another
task, in order, and every event that is a frame carries the frame that was processed. -/
theorem stack_runs_box {now : ℕ} {b : Box} {trace : List (QBSlave Box × StackEvent)} {q : QBSlave Box}
    (h : Path (fun q e q' => stackStep q e = some q') (StackOk ok) (qbusInit now b) trace q) :
    Sound q ∧
      RunsOn (fun b e b' => Box.step b e = some b') ok b (observed boxEvents trace) q.app ∧
      List.Forall₂ Processed.Carries q.processed
        ((observed boxEvents trace).filter BoxEvent.isFrame) := by
  have hstart : Sound (qbusInit now b) := sound_start List.length_replicate now b
  obtain ⟨hsound, hruns⟩ := stack_refines.path hstart h
  refine ⟨hsound, hruns, ?_⟩
  obtain ⟨new, hnew, hmade⟩ := path_made hstart h
  obtain rfl : q.processed = new := hnew
  rw [filter_observed, List.forall₂_map_right_iff]
  exact hmade.imp fun _ _ hmade => hmade.carries

end

instance (ok : Box → BoxEvent → Prop) [∀ b e, Decidable (ok b e)] (q : QBSlave Box) (e : StackEvent) :
    Decidable (StackOk ok q e) := inferInstanceAs (Decidable (∀ e' ∈ q.boxEvents e, ok q.app e'))

/-- A read request comes in with a handler step before its last byte; then the slave is polled. -/
def readStack : List StackEvent :=
  (powerRequest.dropLast.map fun b => StackEvent.byte 0 b) ++
    [.poll 0, .task Box.handlerStep] ++ (powerRequest.drop 16).map (fun b => StackEvent.byte 0 b) ++
      [.poll 10000, .poll 20000, .poll 30000]

theorem stack_runs_box_read :
    ∃ q, runList (@stackStep Box.writeParser) (qbusInit 0 Box.emptyBattery) readStack = some q ∧
      q.processed.length = 1 ∧ RunsOn (fun b e b' => @Box.step Box.writeParser b e = some b')
        (fun _ _ => True) Box.emptyBattery
        (observed boxEvents
          (history (@stackStep Box.writeParser) (qbusInit 0 Box.emptyBattery) readStack)) q.app := by
  have hruns : (runGuarded (@stackStep Box.writeParser) (StackOk fun _ _ => True)
      (qbusInit 0 Box.emptyBattery) readStack).any
        (fun q => q.processed.length = 1) = true := by decide +kernel
  obtain ⟨q, hq, hone⟩ := (Option.any_eq_true _ _).1 hruns
  exact ⟨q, runList_of_runGuarded hq, of_decide_eq_true hone,
    (@stack_runs_box Box.writeParser _ _ _ _ _ (path_of_runGuarded readStack hq)).2.1⟩

end QBSlave

end Cubbies
