import Cubbies.Lib.Runs
import Cubbies.Tasks
import Cubbies.Proofs.QbusReception

set_option autoImplicit false

/-! # The frame buffer is used within its bounds

The slave's functions once more, now with every access to `frameBuffer` checked: an access at or beyond
`framBuffLen` makes the step fail. `Sound` is the invariant of the slave, `checkedStep_eq` says that
under it no check fails, so that whole schedules run alike with the checks and without. -/

namespace Cubbies

open CString

/-! ## Checked accesses -/

/-- `frameBuffer[i]`. -/
def load (buffer : Bytes) (i : ℕ) : Option UInt8 := buffer[i]?

/-- `frameBuffer[i] = b`. -/
def store (buffer : Bytes) (i : ℕ) (b : UInt8) : Option Bytes :=
  if i < buffer.length then some (buffer.set i b) else none

/-- Read `n` bytes from index `i` on. -/
def loadRange (buffer : Bytes) : ℕ → ℕ → Option Bytes
  | _, 0 => some []
  | i, n + 1 => (load buffer i).bind fun b => (loadRange buffer (i + 1) n).map (b :: ·)

/-- Store bytes from index `i` on. -/
def storeRange (buffer : Bytes) (i : ℕ) : Bytes → Option Bytes
  | [] => some buffer
  | b :: bs => (store buffer i b).bind (storeRange · (i + 1) bs)

theorem load_eq {buffer : Bytes} {i : ℕ} (h : i < buffer.length) :
    load buffer i = some (byteAt buffer i) := by
  simp [load, byteAt, h]

theorem store_eq {buffer : Bytes} {i : ℕ} (b : UInt8) (h : i < buffer.length) :
    store buffer i b = some (buffer.set i b) := if_pos h

theorem loadRange_eq {buffer : Bytes} {i n : ℕ} (h : i + n ≤ buffer.length) :
    loadRange buffer i n = some ((buffer.drop i).take n) := by
  induction n generalizing i with
  | zero => simp [loadRange]
  | succ n ih =>
      have hi : i < buffer.length := by omega
      have hdrop : (buffer.drop i).take (n + 1) =
          byteAt buffer i :: (buffer.drop (i + 1)).take n := by
        rw [List.drop_eq_getElem_cons hi, List.take_succ_cons]
        simp [byteAt, hi]
      rw [loadRange, load_eq hi, ih (by omega), hdrop]
      rfl

theorem storeRange_eq {buffer : Bytes} {i : ℕ} {bytes : Bytes} (h : i + bytes.length ≤ buffer.length) :
    storeRange buffer i bytes = some (writeAt buffer i bytes) := by
  induction bytes generalizing buffer i with
  | nil => rfl
  | cons b bs ih =>
      rw [List.length_cons] at h
      rw [storeRange, store_eq b (by omega), Option.bind_some, ih (by rw [List.length_set]; omega)]
      rfl

theorem length_qbusRegReadCb {address len : ℕ} {registers : Vector UInt8 11} {regs : Bytes}
    (h : qbusRegReadCb address len registers = some regs) : regs.length ≤ 11 := by
  obtain ⟨-, hregs⟩ := Option.ite_none_right_eq_some.1 h
  rw [← Option.some.inj hregs, List.length_take, List.length_drop, Vector.length_toList]
  omega

/-! ## The slave with checks -/

/-- The data bytes the program looks at: the eight bytes of the tag and the two battery bytes of a read
frame, the first byte of a write frame. -/
class QBusApp.ReadsData (σ : Type) [QBusApp σ] : Prop where
  readFrame_take (app : σ) (now : ℕ) (data : Bytes) :
    QBusApp.readFrame app now (data.take 10) = QBusApp.readFrame app now data
  regWriteCb_take (app : σ) (now address len : ℕ) (data : Bytes) :
    QBusApp.regWriteCb app now address len (data.take 1) = QBusApp.regWriteCb app now address len data

section Checked

variable {σ : Type} [QBusApp σ]

/-- The reply to the frame in `buffer` before its checksum. -/
def checkedReplyBody (buffer : Bytes) (now : ℕ) (app : σ) : Option (Reply σ) := do
  let functionCode ← load buffer 0
  let address := word (← load buffer 1) (← load buffer 2)
  let regLen := word (← load buffer 3) (← load buffer 4)
  if functionCode = 0x01 then
    let app := QBusApp.readFrame app now (← loadRange buffer 5 10)
    match qbusRegReadCb address regLen (QBusApp.registers app) with
    | some regs => some ⟨← storeRange buffer 5 regs, 5 + regLen, app⟩
    | none =>
        let buffer ← store buffer 0 (0x80 ||| functionCode)
        some ⟨← store buffer 5 QBRegRetCode.errAddr.code, 6, app⟩
  else if functionCode = 0x02 then
    let written := QBusApp.regWriteCb app now address regLen (← loadRange buffer 5 1)
    let body ←
      if written.1 ≠ .success then store buffer 0 (0x80 ||| functionCode) else some buffer
    some ⟨← store body 5 written.1.code, 6, written.2⟩
  else
    let buffer ← store buffer 0 0x80
    some ⟨← store buffer 5 QBRegRetCode.errFuncCode.code, 6, app⟩

def Reply.checkedAddChecksum (r : Reply σ) : Option (Reply σ) := do
  let checksum := crc16Get (← loadRange r.buffer 0 r.totalByteToSend)
  let buffer ← store r.buffer r.totalByteToSend (checksum &&& 0x00ff).toUInt8
  let buffer ← store buffer (r.totalByteToSend + 1) (checksum >>> 8).toUInt8
  some { r with buffer := buffer, totalByteToSend := r.totalByteToSend + 2 }

/-- `QBSlaveProcessFrame`. -/
def checkedProcessFrame (buffer : Bytes) (now : ℕ) (app : σ) : Option (Reply σ) :=
  (checkedReplyBody buffer now app).bind Reply.checkedAddChecksum

theorem checkedReplyBody_eq [QBusApp.ReadsData σ] {buffer : Bytes} (now : ℕ) (app : σ)
    (h : 16 ≤ buffer.length) : checkedReplyBody buffer now app = some (replyBody buffer now app) := by
  have hdata : ∀ n, n ≤ 11 → loadRange buffer 5 n = some ((buffer.drop 5).take n) := fun n hn =>
    loadRange_eq (by omega)
  unfold checkedReplyBody replyBody
  simp only [load_eq (show 0 < buffer.length by omega), load_eq (show 1 < buffer.length by omega),
    load_eq (show 2 < buffer.length by omega), load_eq (show 3 < buffer.length by omega),
    load_eq (show 4 < buffer.length by omega), hdata 10 (by omega), hdata 1 (by omega),
    Option.bind_eq_bind, Option.bind_some, QBusApp.ReadsData.readFrame_take,
    QBusApp.ReadsData.regWriteCb_take]
  have hstore : ∀ (s : Bytes) (i : ℕ) (b : UInt8), s.length = buffer.length → i < 16 →
      store s i b = some (s.set i b) := fun s i b hs hi => store_eq b (by omega)
  split_ifs with hread hwrite hcode
  · cases hregs : qbusRegReadCb (word (byteAt buffer 1) (byteAt buffer 2))
      (word (byteAt buffer 3) (byteAt buffer 4))
      (QBusApp.registers (QBusApp.readFrame app now (buffer.drop 5))) with
    -- at most as many registers as there are
    | some regs =>
        have hlen := length_qbusRegReadCb hregs
        dsimp only
        rw [storeRange_eq (by omega), Option.bind_some]
    | none =>
        simp only [hstore _ _ _ rfl (show 0 < 16 by omega), Option.bind_some,
          hstore _ _ _ List.length_set (show 5 < 16 by omega)]
  · simp only [hstore _ _ _ rfl (show 0 < 16 by omega), Option.bind_some,
      hstore _ _ _ List.length_set (show 5 < 16 by omega)]
  · simp only [hstore _ _ _ rfl (show 5 < 16 by omega), Option.bind_some]
  · simp only [hstore _ _ _ rfl (show 0 < 16 by omega), Option.bind_some,
      hstore _ _ _ List.length_set (show 5 < 16 by omega)]

theorem checkedProcessFrame_eq [QBusApp.ReadsData σ] {buffer : Bytes} (now : ℕ) (app : σ)
    (h : 18 ≤ buffer.length) :
    checkedProcessFrame buffer now app = some (processFrame buffer now app) := by
  have hlen := replyBody_length buffer now app
  have htotal := replyBody_total_le buffer now app
  unfold checkedProcessFrame processFrame
  rw [checkedReplyBody_eq now app (by omega), Option.bind_some]
  unfold Reply.checkedAddChecksum Reply.addChecksum
  rw [loadRange_eq (by omega)]
  simp only [List.drop_zero, Option.bind_eq_bind, Option.bind_some]
  rw [store_eq _ (by omega), Option.bind_some, store_eq _ (by rw [List.length_set]; omega)]
  rfl

namespace QBSlave

/-- The array with new contents: it keeps its size. -/
def withBuffer (q : QBSlave σ) (buffer : Bytes) : Option (QBSlave σ) :=
  if h : buffer.length = q.framBuffLen then some { q with frameBuffer := buffer, size := h } else none

def checkedValidateFrame (q : QBSlave σ) : Option Bool :=
  if q.recvByteCount < 7 then some false
  else (loadRange q.frameBuffer 0 q.recvByteCount).map fun frame => crc16Get frame = 0

/-- `QBSlaveProcessFrame` at the slave. -/
def checkedProcess (q : QBSlave σ) (now : ℕ) : Option (QBSlave σ) := do
  let r ← checkedProcessFrame q.frameBuffer now q.app
  let q' ← q.withBuffer r.buffer
  some { q' with
    totalByteToSend := r.totalByteToSend
    app := r.app
    processed := q.processed ++
      [⟨q.frameBuffer, q.recvByteCount, r.buffer.take r.totalByteToSend⟩] }

/-- The loop of `QBSlavePortTxEmptyIsr`. -/
def checkedSend : ℕ → QBSlave σ → Option (QBSlave σ)
  | 0, q => some q
  | n + 1, q => do
      let q ←
        if q.sentByteCount < q.framBuffLen then
          (load q.frameBuffer q.sentByteCount).map fun b =>
            { q with transmitted := q.transmitted ++ [b], sentByteCount := q.sentByteCount + 1 }
        else some q
      checkedSend n { q with totalByteToSend := q.totalByteToSend - 1 }

/-- `QBSlavePoll`. -/
def checkedPoll (q : QBSlave σ) (now : ℕ) : Option (QBSlave σ) :=
  match q.qBState with
  | .idle =>
      if q.recvByteCount ≥ 1 then do
        let first ← load q.frameBuffer 0
        if first = 0x01 ∨ first = 0x02 then some (qbSlaveSetState q .frameRcv)
        else some (qbSlaveSetState q .idle)
      else some q
  | .frameRcv =>
      if timeSpent now q.timeOutStartTick 3 then do
        if ← q.checkedValidateFrame then
          (q.checkedProcess now).map (qbSlaveSetState · .sendFrame)
        else some (qbSlaveSetState q .idle)
      else some q
  | .sendFrame =>
      if q.totalByteToSend > 0 then checkedSend q.totalByteToSend q
      else some (qbSlaveSetState q .idle)
  | .init | .stop => some q

/-- `QBSlavePortByteReceived`. -/
def checkedByteReceived (q : QBSlave σ) (byte : UInt8) (now : ℕ) : Option (QBSlave σ) := do
  let at' := if q.recvByteCount < q.framBuffLen then q.recvByteCount else q.framBuffLen - 1
  let q' ← q.withBuffer (← store q.frameBuffer at' byte)
  some { q' with recvByteCount := at' + 1, timeOutStartTick := getStartTime now }

def checkedStep (q : QBSlave σ) (e : QBusEvent σ) : Option (QBSlave σ) :=
  match e.action with
  | .byte b => q.checkedByteReceived b e.now
  | .poll => q.checkedPoll e.now
  | .other app => some { q with app := app }

/-! ## The invariant -/

/-- The states of a slave that has been started. -/
structure Sound (q : QBSlave σ) : Prop where
  len : q.framBuffLen = 100
  states : q.qBState = .idle ∨ q.qBState = .frameRcv ∨ q.qBState = .sendFrame
  count : q.recvByteCount ≤ q.framBuffLen
  /-- what has been sent and what is left are one reply -/
  sending : q.sentByteCount + q.totalByteToSend ≤ 18
  receiving : q.qBState ≠ .sendFrame → q.totalByteToSend = 0
  start : q.qBState = .frameRcv →
    1 ≤ q.recvByteCount ∧ (byteAt q.frameBuffer 0 = 0x01 ∨ byteAt q.frameBuffer 0 = 0x02)
  /-- no frame with another function code has been processed -/
  processed : ∀ p ∈ q.processed, byteAt p.frameBuffer 0 = 0x01 ∨ byteAt p.frameBuffer 0 = 0x02

omit [QBusApp σ] in
theorem sound_start {buffer : Bytes} (h : buffer.length = 100) (now : ℕ) (app : σ) :
    Sound (qbSlaveStart (qbSlaveInit now buffer app)) where
  len := h
  states := .inl rfl
  count := Nat.zero_le _
  sending := Nat.zero_le _
  receiving _ := rfl
  start h := by cases h
  processed _ h := by cases h

omit [QBusApp σ] in
theorem Sound.idle {q : QBSlave σ} (h : Sound q) (hdone : q.totalByteToSend = 0) :
    Sound (qbSlaveSetState q .idle) where
  len := h.len
  states := .inl rfl
  count := Nat.zero_le _
  sending := h.sending
  receiving _ := hdone
  start h := by cases h
  processed := h.processed

omit [QBusApp σ] in
/-- A byte that comes in. -/
theorem Sound.byte {q : QBSlave σ} (h : Sound q) (b : UInt8) (now : ℕ) :
    Sound (qbSlavePortByteReceived q b now) ∧
      q.checkedByteReceived b now = some (qbSlavePortByteReceived q b now) := by
  have hlen := h.len
  have hcount := h.count
  have hsize := q.size
  obtain ⟨i, hi, hlt, hle⟩ : ∃ i, (if q.recvByteCount < q.framBuffLen then q.recvByteCount
      else q.framBuffLen - 1) = i ∧ i < 100 ∧ (1 ≤ q.recvByteCount → 1 ≤ i) := by
    split
    · exact ⟨_, rfl, by omega, fun h => h⟩
    · exact ⟨_, rfl, by omega, fun _ => by omega⟩
  constructor
  · unfold qbSlavePortByteReceived
    simp only [hi]
    constructor
    case len => exact hlen
    case states => exact h.states
    case count =>
      show i + 1 ≤ q.framBuffLen
      omega
    case sending => exact h.sending
    case receiving => exact h.receiving
    -- the first byte of a frame being received stays
    case start =>
      intro hrcv
      obtain ⟨hpos, hfirst⟩ := h.start hrcv
      refine ⟨Nat.succ_le_succ (Nat.zero_le i), ?_⟩
      have hkeep : byteAt (q.frameBuffer.set i b) 0 = byteAt q.frameBuffer 0 := by
        simp only [byteAt, List.getD_eq_getElem?_getD]
        rw [List.getElem?_set_ne (by have := hle hpos; omega)]
      rw [hkeep]
      exact hfirst
    case processed => exact h.processed
  · have hset : (q.frameBuffer.set i b).length = q.framBuffLen := by rw [List.length_set, hsize]
    unfold checkedByteReceived qbSlavePortByteReceived
    simp only [hi, store_eq b (show i < q.frameBuffer.length by omega), Option.bind_eq_bind,
      Option.bind_some, withBuffer, dif_pos hset]

omit [QBusApp σ] in
/-- The loop hands over what is left, from inside the array. -/
theorem checkedSend_eq (n : ℕ) {q : QBSlave σ} (h : q.sentByteCount + n ≤ q.framBuffLen) :
    checkedSend n q = some (sendByte^[n] q) := by
  induction n generalizing q with
  | zero => rfl
  | succ n ih =>
      have hlt : q.sentByteCount < q.framBuffLen := by omega
      have hload := load_eq (show q.sentByteCount < q.frameBuffer.length by rw [q.size]; exact hlt)
      rw [Function.iterate_succ_apply, sendByte_eq hlt, checkedSend, if_pos hlt, hload]
      exact ih (by show q.sentByteCount + 1 + n ≤ q.framBuffLen; omega)

omit [QBusApp σ] in
theorem checkedValidateFrame_eq {q : QBSlave σ} (h : q.recvByteCount ≤ q.framBuffLen) :
    q.checkedValidateFrame = some (qbSlaveValidateFrame q) := by
  unfold checkedValidateFrame qbSlaveValidateFrame
  split
  · rfl
  · rw [loadRange_eq (by rw [q.size]; omega)]
    rfl

omit [QBusApp σ] in
/-- The reply goes out, and the slave waits in `QBS_SEND_FRAME` for one more poll. -/
theorem Sound.send {q : QBSlave σ} (h : Sound q) (hstate : q.qBState = .sendFrame) :
    Sound (sendByte^[q.totalByteToSend] q) := by
  have hroom := h.sending
  rw [sendByte_iterate _ q (by rw [h.len]; omega)]
  constructor
  case len => exact h.len
  case states => exact h.states
  case count => exact h.count
  case sending =>
    show q.sentByteCount + q.totalByteToSend + (q.totalByteToSend - q.totalByteToSend) ≤ 18
    omega
  case receiving => exact fun _ => Nat.sub_self _
  case start =>
    intro hrcv
    rw [show q.qBState = .frameRcv from hrcv] at hstate
    cases hstate
  case processed => exact h.processed

/-- A frame is processed, and its reply is next. -/
theorem Sound.process [QBusApp.ReadsData σ] {q : QBSlave σ} (h : Sound q)
    (hstate : q.qBState = .frameRcv) (now : ℕ) :
    Sound (qbSlaveSetState (qbSlaveProcessFrame q now) .sendFrame) ∧
      q.checkedProcess now = some (qbSlaveProcessFrame q now) := by
  constructor
  · constructor
    case len => exact h.len
    case states => exact .inr (.inr rfl)
    case count => exact h.count
    case sending =>
      show 0 + (processFrame q.frameBuffer now q.app).totalByteToSend ≤ 18
      rw [Nat.zero_add]
      exact processFrame_total_le _ _ _
    case receiving => exact fun hne => absurd rfl hne
    case start => exact fun hrcv => by cases hrcv
    case processed =>
      intro p hp
      rcases List.mem_append.1 hp with hp | hp
      · exact h.processed p hp
      · obtain rfl := List.mem_singleton.1 hp
        exact (h.start hstate).2
  · have hlen : (processFrame q.frameBuffer now q.app).buffer.length = q.framBuffLen := by
      rw [processFrame_length, q.size]
    unfold checkedProcess
    rw [checkedProcessFrame_eq now q.app (by rw [q.size, h.len]; omega)]
    simp only [Option.bind_eq_bind, Option.bind_some, withBuffer, dif_pos hlen]
    rfl

/-- A poll. -/
theorem Sound.poll [QBusApp.ReadsData σ] {q : QBSlave σ} (h : Sound q) (now : ℕ) :
    Sound (qbSlavePoll q now) ∧ q.checkedPoll now = some (qbSlavePoll q now) := by
  have hlen := h.len
  rcases h.states with hstate | hstate | hstate
  · have hdone : q.totalByteToSend = 0 := h.receiving (by rw [hstate]; decide)
    unfold qbSlavePoll checkedPoll
    simp only [hstate]
    by_cases hpos : q.recvByteCount ≥ 1
    · rw [if_pos hpos, if_pos hpos, load_eq (by rw [q.size]; omega)]
      simp only [Option.bind_eq_bind, Option.bind_some]
      by_cases hfirst : byteAt q.frameBuffer 0 = 0x01 ∨ byteAt q.frameBuffer 0 = 0x02
      · rw [if_pos hfirst, if_pos hfirst]
        exact ⟨⟨h.len, .inr (.inl rfl), h.count, h.sending, fun _ => hdone, fun _ => ⟨hpos, hfirst⟩,
          h.processed⟩, rfl⟩
      · rw [if_neg hfirst, if_neg hfirst]
        exact ⟨h.idle hdone, rfl⟩
    · rw [if_neg hpos, if_neg hpos]
      exact ⟨h, rfl⟩
  · have hdone : q.totalByteToSend = 0 := h.receiving (by rw [hstate]; decide)
    unfold qbSlavePoll checkedPoll
    simp only [hstate]
    by_cases hspent : timeSpent now q.timeOutStartTick 3 = true
    · rw [if_pos hspent, if_pos hspent, checkedValidateFrame_eq h.count]
      simp only [Option.bind_eq_bind, Option.bind_some]
      by_cases hvalid : qbSlaveValidateFrame q = true
      · obtain ⟨hsound, hprocess⟩ := h.process hstate now
        rw [if_pos hvalid, if_pos hvalid, hprocess]
        exact ⟨hsound, rfl⟩
      · rw [if_neg hvalid, if_neg hvalid]
        exact ⟨h.idle hdone, rfl⟩
    · rw [if_neg hspent, if_neg hspent]
      exact ⟨h, rfl⟩
  · unfold qbSlavePoll checkedPoll qbSlavePortTxEmptyIsr
    simp only [hstate]
    by_cases hleft : q.totalByteToSend > 0
    · rw [if_pos hleft, if_pos hleft, checkedSend_eq _ (by have := h.sending; omega)]
      exact ⟨h.send hstate, rfl⟩
    · rw [if_neg hleft, if_neg hleft]
      exact ⟨h.idle (by omega), rfl⟩

/-- **One step.** It keeps the invariant, and no access it makes is out of bounds. -/
theorem Sound.step [QBusApp.ReadsData σ] {q : QBSlave σ} (h : Sound q) (e : QBusEvent σ) :
    Sound (q.step e) ∧ q.checkedStep e = some (q.step e) := by
  unfold QBSlave.step checkedStep
  cases e.action with
  | byte b => exact h.byte b e.now
  | poll => exact h.poll e.now
  | other app =>
      exact ⟨⟨h.len, h.states, h.count, h.sending, h.receiving, h.start, h.processed⟩, rfl⟩

/-- **Every schedule.** From the start on, the slave with checked accesses runs as the slave does, and
ends sound: whatever bytes come in, whenever it polls. -/
theorem run_sound [QBusApp.ReadsData σ] {buffer : Bytes} (hbuffer : buffer.length = 100) (now : ℕ)
    (app : σ) (es : List (QBusEvent σ)) :
    Runs.runList checkedStep (qbSlaveStart (qbSlaveInit now buffer app)) es =
        some (es.foldl QBSlave.step (qbSlaveStart (qbSlaveInit now buffer app))) ∧
      Sound (es.foldl QBSlave.step (qbSlaveStart (qbSlaveInit now buffer app))) :=
  Runs.runList_eq_foldl (I := Sound) (fun _ e h => (Sound.step h e).2)
    (fun _ e h => (Sound.step h e).1) (sound_start hbuffer now app) es

end QBSlave

end Checked

/-- More bytes than the array holds, then polls. -/
def overlongRun : List (QBusEvent Unit) :=
  List.replicate 150 (QBSlave.byteEvent 0 0x01) ++ QBSlave.latePolls

theorem overlongRun_sound :
    Runs.runList (@QBSlave.checkedStep _ QBSlave.sampleApp) QBSlave.sampleSlave overlongRun =
        some (overlongRun.foldl (@QBSlave.step _ QBSlave.sampleApp) QBSlave.sampleSlave) ∧
      QBSlave.Sound (overlongRun.foldl (@QBSlave.step _ QBSlave.sampleApp) QBSlave.sampleSlave) :=
  let := QBSlave.sampleApp
  have : QBusApp.ReadsData Unit := ⟨fun _ _ _ => rfl, fun _ _ _ _ _ => rfl⟩
  QBSlave.run_sound List.length_replicate 0 () overlongRun

/-! ## The box behind the bus -/

namespace Box

theorem byteAt_take {data : Bytes} {n i : ℕ} (h : i < n) : byteAt (data.take n) i = byteAt data i := by
  simp [byteAt, List.getD_eq_getElem?_getD, h]

instance : QBusApp.ReadsData Box where
  readFrame_take b now data := by
    have huid : frameUid (data.take 10) = frameUid data := by
      apply Subtype.ext
      refine List.map_congr_left fun i hi => ?_
      exact byteAt_take (by have := List.mem_range.1 hi; omega)
    show readFrame b now (data.take 10) = readFrame b now data
    unfold readFrame
    rw [huid, byteAt_take (by omega), byteAt_take (by omega)]
  regWriteCb_take b now address len data := by
    show (_, b.writeFrame now address len (data.take 1)) = (_, b.writeFrame now address len data)
    unfold writeFrame
    rw [byteAt_take (by omega)]

end Box

end Cubbies
