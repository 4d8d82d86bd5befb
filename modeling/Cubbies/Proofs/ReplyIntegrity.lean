import Cubbies.Lib.Runs
import Cubbies.Proofs.QbusReception

set_option autoImplicit false

/-! # Replies on the line

A reply is built in the buffer that bytes are received into, and waits there for the next poll.
`transmitted_of_spares` says that the slave sends exactly the replies it built as long as no byte that
comes in meanwhile changes one of them; `strayRun_corrupts` is a run in which one does. -/

namespace Cubbies

open CString

namespace QBSlave

variable {σ : Type*}

/-- A reply is in the buffer, and has not been sent. -/
def Waiting (q : QBSlave σ) : Prop := q.qBState = .sendFrame ∧ 0 < q.totalByteToSend

instance (q : QBSlave σ) : Decidable q.Waiting := inferInstanceAs (Decidable (_ ∧ _))

/-- The frames whose replies have been sent. -/
def answered (q : QBSlave σ) : List Processed :=
  if q.Waiting then q.processed.dropLast else q.processed

/-- Where `QBSlavePortByteReceived` stores the next byte. -/
def receivePlace (q : QBSlave σ) : ℕ :=
  if q.recvByteCount < q.framBuffLen then q.recvByteCount else q.framBuffLen - 1

/-- A byte that comes in while a reply waits is not stored in the reply, or is the byte that is there
already. -/
def SparesReply (q : QBSlave σ) (e : QBusEvent σ) : Prop :=
  ∀ b, e.action = .byte b → q.Waiting → q.receivePlace < q.totalByteToSend →
    byteAt q.frameBuffer q.receivePlace = b

/-- What the slave has sent are the replies it built, each of them with its check bytes. -/
structure RepliesIntact (q : QBSlave σ) : Prop where
  transmitted : q.transmitted = (q.answered.map Processed.reply).flatten
  checked : ∀ p ∈ q.processed, crc16Get p.reply = 0

/-! ## The invariant -/

/-- The reply that waits is the last one built, and the others have been sent. -/
structure Keeping (q : QBSlave σ) : Prop where
  len : q.framBuffLen = 100
  checked : ∀ p ∈ q.processed, crc16Get p.reply = 0
  waiting : q.Waiting → q.sentByteCount = 0 ∧ q.totalByteToSend ≤ 18 ∧
    ∃ earlier p, q.processed = earlier ++ [p] ∧ q.frameBuffer.take q.totalByteToSend = p.reply ∧
      q.transmitted = (earlier.map Processed.reply).flatten
  quiet : ¬ q.Waiting → q.transmitted = (q.processed.map Processed.reply).flatten

theorem Keeping.intact {q : QBSlave σ} (h : Keeping q) : RepliesIntact q := by
  refine ⟨?_, h.checked⟩
  unfold answered
  split
  · next hwait =>
      obtain ⟨-, -, earlier, p, hprocessed, -, hsent⟩ := h.waiting hwait
      rw [hprocessed, List.dropLast_concat]
      exact hsent
  · next hquiet => exact h.quiet hquiet

theorem keeping_start {buffer : Bytes} (h : buffer.length = 100) (now : ℕ) (app : σ) :
    Keeping (qbSlaveStart (qbSlaveInit now buffer app)) where
  len := h
  checked _ hp := by cases hp
  waiting hwait := by cases hwait.1
  quiet _ := rfl

/-- A change of state to one in which nothing is sent. -/
theorem Keeping.of_quiet {q q' : QBSlave σ} (h : Keeping q) (hquiet : ¬ q.Waiting)
    (hquiet' : ¬ q'.Waiting) (hlen : q'.framBuffLen = q.framBuffLen)
    (hprocessed : q'.processed = q.processed) (hsent : q'.transmitted = q.transmitted) :
    Keeping q' where
  len := hlen.trans h.len
  checked := hprocessed ▸ h.checked
  waiting hwait := absurd hwait hquiet'
  quiet _ := by rw [hsent, hprocessed, h.quiet hquiet]

/-- A byte comes in. -/
theorem Keeping.byte {q : QBSlave σ} (h : Keeping q) {b : UInt8} (now : ℕ)
    (hspares : q.Waiting → q.receivePlace < q.totalByteToSend →
      byteAt q.frameBuffer q.receivePlace = b) :
    Keeping (qbSlavePortByteReceived q b now) := by
  by_cases hwait : q.Waiting
  · obtain ⟨hzero, hle, earlier, p, hprocessed, hreply, hsent⟩ := h.waiting hwait
    have hkeep : (q.frameBuffer.set q.receivePlace b).take q.totalByteToSend =
        q.frameBuffer.take q.totalByteToSend := by
      by_cases hin : q.receivePlace < q.totalByteToSend
      -- the same byte again
      · have hplace : q.receivePlace < q.frameBuffer.length := by
          rw [q.size, h.len]
          omega
        have hbyte : q.frameBuffer[q.receivePlace] = b := by
          rw [← hspares hwait hin]
          simp [byteAt, hplace]
        rw [← hbyte, List.set_getElem_self]
      · exact List.take_set_of_le (by omega)
    exact ⟨h.len, h.checked, fun _ => ⟨hzero, hle, earlier, p, hprocessed, hkeep.trans hreply, hsent⟩,
      fun hquiet => absurd hwait hquiet⟩
  · exact h.of_quiet hwait hwait rfl rfl rfl

/-! ## Polls -/

section Polls

variable [QBusApp σ]

/-- The reply that `QBSlaveProcessFrame` leaves in the buffer ends with its check bytes. -/
theorem processFrame_reply {buffer : Bytes} (now : ℕ) (app : σ) (h : 18 ≤ buffer.length) :
    (processFrame buffer now app).buffer.take (processFrame buffer now app).totalByteToSend =
      (replyBody buffer now app).buffer.take (replyBody buffer now app).totalByteToSend ++
        checkBytes
          ((replyBody buffer now app).buffer.take (replyBody buffer now app).totalByteToSend) := by
  have hlen := replyBody_length buffer now app
  have htotal := replyBody_total_le buffer now app
  unfold processFrame Reply.addChecksum
  generalize replyBody buffer now app = r at hlen htotal
  have htake : ∀ lo hi : UInt8,
      ((r.buffer.set r.totalByteToSend lo).set (r.totalByteToSend + 1) hi).take
          (r.totalByteToSend + 2) = r.buffer.take r.totalByteToSend ++ [lo, hi] := by
    intro lo hi
    have hlow : r.totalByteToSend < r.buffer.length := by omega
    have hhigh : r.totalByteToSend + 1 < r.buffer.length := by omega
    rw [List.take_add_one, List.take_set_of_le (le_refl _), List.take_add_one,
      List.take_set_of_le (le_refl _)]
    simp [hlow, hhigh]
  exact htake _ _

theorem crc16Get_processFrame {buffer : Bytes} (now : ℕ) (app : σ) (h : 18 ≤ buffer.length) :
    crc16Get ((processFrame buffer now app).buffer.take (processFrame buffer now app).totalByteToSend) =
      0 := by
  rw [processFrame_reply now app h]
  exact crc16Get_append_checkBytes _

/-- A frame is processed. -/
theorem Keeping.process {q : QBSlave σ} (h : Keeping q) (hquiet : ¬ q.Waiting) (now : ℕ) :
    Keeping (qbSlaveSetState (qbSlaveProcessFrame q now) .sendFrame) where
  len := h.len
  checked p hp := by
    rcases List.mem_append.1 hp with hp | hp
    · exact h.checked p hp
    · obtain rfl := List.mem_singleton.1 hp
      exact crc16Get_processFrame now q.app (by rw [q.size, h.len]; omega)
  waiting _ := ⟨rfl, processFrame_total_le _ _ _, q.processed, _, rfl, rfl, h.quiet hquiet⟩
  quiet hquiet' := absurd ⟨rfl, Nat.succ_pos _⟩ hquiet'

omit [QBusApp σ] in
/-- The reply is sent. -/
theorem Keeping.send {q : QBSlave σ} (h : Keeping q) (hwait : q.Waiting) :
    Keeping (sendByte^[q.totalByteToSend] q) := by
  obtain ⟨hzero, hle, earlier, p, hprocessed, hreply, hsent⟩ := h.waiting hwait
  rw [sendByte_iterate _ q (by rw [hzero, h.len]; omega)]
  constructor
  case len => exact h.len
  case checked => exact h.checked
  case waiting =>
    intro hstill
    exact absurd hstill.2 (by simp)
  case quiet =>
    intro _
    simp only [hzero, List.drop_zero, hreply, hsent, hprocessed, List.map_append, List.map_cons,
      List.map_nil, List.flatten_append, List.flatten_singleton]

/-- A poll. -/
theorem Keeping.poll {q : QBSlave σ} (h : Keeping q) (now : ℕ) : Keeping (qbSlavePoll q now) := by
  have hidle : ¬ q.Waiting → Keeping (qbSlaveSetState q .idle) := fun hquiet =>
    h.of_quiet hquiet (fun hwait => by cases hwait.1) rfl rfl rfl
  unfold qbSlavePoll
  cases hstate : q.qBState with
  | idle =>
      have hquiet : ¬ q.Waiting := fun hwait => by cases hstate.symm.trans hwait.1
      dsimp only
      split_ifs
      · exact h.of_quiet hquiet (fun hwait => by cases hwait.1) rfl rfl rfl
      · exact hidle hquiet
      · exact h
  | frameRcv =>
      have hquiet : ¬ q.Waiting := fun hwait => by cases hstate.symm.trans hwait.1
      dsimp only
      split_ifs
      · exact h.process hquiet now
      · exact hidle hquiet
      · exact h
  | sendFrame =>
      dsimp only
      unfold qbSlavePortTxEmptyIsr
      split_ifs with hleft
      · exact h.send ⟨hstate, hleft⟩
      · exact hidle fun hwait => hleft hwait.2
  | init => exact h
  | stop => exact h

/-- **One step** that spares the reply. -/
theorem Keeping.step {q : QBSlave σ} (h : Keeping q) {e : QBusEvent σ} (hspares : SparesReply q e) :
    Keeping (q.step e) := by
  unfold QBSlave.step
  cases hact : e.action with
  | byte b => exact h.byte e.now (hspares b hact)
  | poll => exact h.poll e.now
  | other app => exact ⟨h.len, h.checked, h.waiting, h.quiet⟩

/-- **Replies arrive as they were built**, in every run in which no byte that comes in changes a reply
that waits to be sent. -/
theorem repliesIntact_of_spares {buffer : Bytes} (hbuffer : buffer.length = 100) (now : ℕ) (app : σ)
    {q : QBSlave σ}
    (hrun : Runs.Reached (fun q e q' => q' = QBSlave.step q e) SparesReply
      (qbSlaveStart (qbSlaveInit now buffer app)) q) :
    RepliesIntact q :=
  (hrun.invariant (keeping_start hbuffer now app)
    fun _ _ _ h hspares hstep => hstep ▸ h.step hspares).intact

end Polls

/-! ## A stray byte -/

instance (q : QBSlave σ) (e : QBusEvent σ) : Decidable (SparesReply q e) :=
  match hact : e.action with
  | .byte b =>
      if h : q.Waiting → q.receivePlace < q.totalByteToSend → byteAt q.frameBuffer q.receivePlace = b
      then .isTrue fun b' hb' => by cases hact.symm.trans hb'; exact h
      else .isFalse fun hspares => h (hspares b hact)
  | .poll => .isTrue fun b' hb' => by cases hact.symm.trans hb'
  | .other _ => .isTrue fun b' hb' => by cases hact.symm.trans hb'

/-- A byte that comes in while the reply to `sampleRequest` waits, and then the poll that sends. -/
def strayRun (b : UInt8) : List (QBusEvent Unit) :=
  pollEvent 0 :: (List.zipWith byteEvent [100, 200, 300, 400, 500, 600, 700] sampleRequest ++
    [pollEvent 10000, pollEvent 20000, byteEvent 20100 b, pollEvent 30000])

/-- The reply ends with the byte that happens to come in. -/
theorem repliesIntact_strayRun :
    RepliesIntact ((strayRun 0x99).foldl (@step _ sampleApp) sampleSlave) :=
  let := sampleApp
  repliesIntact_of_spares List.length_replicate 0 ()
    (Runs.reached_foldl_of step sampleSlave (strayRun 0x99) (by decide +kernel))

/-- Another byte is sent as the end of the reply. -/
theorem strayRun_corrupts :
    ((strayRun 0x55).foldl (@step _ sampleApp) sampleSlave).processed.map Processed.reply =
        [[0x01, 0x10, 0x00, 0x00, 0x01, 0x00, 0xC1, 0x99]] ∧
      ((strayRun 0x55).foldl (@step _ sampleApp) sampleSlave).transmitted =
        [0x01, 0x10, 0x00, 0x00, 0x01, 0x00, 0xC1, 0x55] ∧
      crc16Get ((strayRun 0x55).foldl (@step _ sampleApp) sampleSlave).transmitted ≠ 0 ∧
      ¬ RepliesIntact ((strayRun 0x55).foldl (@step _ sampleApp) sampleSlave) := by
  refine ⟨by decide +kernel, by decide +kernel, by decide +kernel, ?_⟩
  rintro ⟨hsent, -⟩
  revert hsent
  decide +kernel

end QBSlave

end Cubbies
