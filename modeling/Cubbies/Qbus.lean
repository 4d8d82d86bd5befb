import Cubbies.TimeSpent
import Cubbies.Crc16
import Cubbies.Lib.CString

set_option autoImplicit false

/-! # The QBus slave (`qbus_s.cpp`, the read registers of `iot_qbus.cpp`)

The slave collects bytes in one buffer, takes a silence of `QB_FRAME_TIMEOUT_MS` for the end of the
frame, builds its reply in the same buffer and sends it. The program behind the bus is a parameter
`σ` with the three things `QBSlaveProcessFrame` asks of it. `EnableTxRx` is an empty function on this
port and is left out. -/

namespace Cubbies

open CString

inductive QBSlaveState where
  | init
  | idle
  | frameRcv
  | sendFrame
  | stop
  deriving DecidableEq

inductive QBRegRetCode where
  | success
  | errFuncCode
  | errAddr
  deriving DecidableEq

def QBRegRetCode.code : QBRegRetCode → UInt8
  | .success => 0
  | .errFuncCode => 1
  | .errAddr => 2

/-- The program behind the bus. Both kinds of frames act on it at a time in microseconds, and see the
frame buffer from `QB_FRAME_REG_DATA_INDEX` on. -/
class QBusApp (σ : Type*) where
  /-- what `QBSlaveProcessFrame` does on a read frame before the registers are read -/
  readFrame : σ → ℕ → Bytes → σ
  /-- `UpdateDataBuffer`: the `READ_DATA_NUM_REGS` registers -/
  registers : σ → Vector UInt8 11
  /-- `QbusRegWriteCb`, with the time before the address and the number of registers -/
  regWriteCb : σ → ℕ → ℕ → ℕ → Bytes → QBRegRetCode × σ

/-! ## The frame buffer -/

def byteAt (buffer : Bytes) (i : ℕ) : UInt8 := buffer.getD i 0

/-- Two bytes, high one first. -/
def word (high low : UInt8) : ℕ := high.toNat * 256 + low.toNat

/-- Store `bytes` from index `i` on. -/
def writeAt (buffer : Bytes) (i : ℕ) : Bytes → Bytes
  | [] => buffer
  | b :: bs => writeAt (buffer.set i b) (i + 1) bs

@[simp] theorem writeAt_length (buffer : Bytes) (i : ℕ) (bytes : Bytes) :
    (writeAt buffer i bytes).length = buffer.length := by
  induction bytes generalizing buffer i with
  | nil => rfl
  | cons b bs ih => rw [writeAt, ih, List.length_set]

/-- `QbusRegReadCb`: the registers asked for, if they exist. -/
def qbusRegReadCb (address len : ℕ) (registers : Vector UInt8 11) : Option Bytes :=
  if address ≥ 0x1000 ∧ address + len ≤ 0x1000 + 11 then
    some ((registers.toList.drop (address - 0x1000)).take len)
  else none

/-- What processing a frame leaves: the buffer, how many of its bytes are the reply, the program. -/
structure Reply (σ : Type*) where
  buffer : Bytes
  totalByteToSend : ℕ
  app : σ

section ProcessFrame

variable {σ : Type*} [QBusApp σ]

/-- The reply to the frame in `buffer` before its checksum. -/
def replyBody (buffer : Bytes) (now : ℕ) (app : σ) : Reply σ :=
  let functionCode := byteAt buffer 0
  let address := word (byteAt buffer 1) (byteAt buffer 2)
  let regLen := word (byteAt buffer 3) (byteAt buffer 4)
  if functionCode = 0x01 then
    let app := QBusApp.readFrame app now (buffer.drop 5)
    match qbusRegReadCb address regLen (QBusApp.registers app) with
    | some regs => ⟨writeAt buffer 5 regs, 5 + regLen, app⟩
    | none =>
        ⟨(buffer.set 0 (0x80 ||| functionCode)).set 5 QBRegRetCode.errAddr.code, 6, app⟩
  else if functionCode = 0x02 then
    let written := QBusApp.regWriteCb app now address regLen (buffer.drop 5)
    let body :=
      if written.1 ≠ .success then buffer.set 0 (0x80 ||| functionCode) else buffer
    ⟨body.set 5 written.1.code, 6, written.2⟩
  else
    ⟨(buffer.set 0 0x80).set 5 QBRegRetCode.errFuncCode.code, 6, app⟩

/-- Append `Crc16Get` of the reply, low byte first. -/
def Reply.addChecksum (r : Reply σ) : Reply σ :=
  let checksum := crc16Get (r.buffer.take r.totalByteToSend)
  { r with
    buffer := (r.buffer.set r.totalByteToSend (checksum &&& 0x00ff).toUInt8).set
      (r.totalByteToSend + 1) (checksum >>> 8).toUInt8
    totalByteToSend := r.totalByteToSend + 2 }

/-- `QBSlaveProcessFrame` on the frame buffer and the program, at the time `now`. -/
def processFrame (buffer : Bytes) (now : ℕ) (app : σ) : Reply σ :=
  (replyBody buffer now app).addChecksum

theorem replyBody_length (buffer : Bytes) (now : ℕ) (app : σ) :
    (replyBody buffer now app).buffer.length = buffer.length := by
  simp only [replyBody]
  split_ifs with hread hwrite hcode
  -- a read: the registers asked for, or the address error
  · split <;> simp
  · simp
  · simp
  · simp

theorem processFrame_length (buffer : Bytes) (now : ℕ) (app : σ) :
    (processFrame buffer now app).buffer.length = buffer.length := by
  simp [processFrame, Reply.addChecksum, replyBody_length]

/-- The longest reply is a read of all registers. -/
theorem replyBody_total_le (buffer : Bytes) (now : ℕ) (app : σ) :
    (replyBody buffer now app).totalByteToSend ≤ 16 := by
  simp only [replyBody]
  split_ifs with hread hwrite hcode
  · split
    · rename_i hregs
      simp only [qbusRegReadCb, Option.ite_none_right_eq_some] at hregs
      dsimp only
      omega
    · simp
  · simp
  · simp
  · simp

theorem processFrame_total_le (buffer : Bytes) (now : ℕ) (app : σ) :
    (processFrame buffer now app).totalByteToSend ≤ 18 := by
  have := replyBody_total_le buffer now app
  simp only [processFrame, Reply.addChecksum]
  omega

end ProcessFrame

/-! ## The slave -/

/-- One call of `QBSlaveProcessFrame`: what it was called on, and the bytes it built. -/
structure Processed where
  frameBuffer : Bytes
  recvByteCount : ℕ
  reply : Bytes

/-- `qBSlave_st`, the program it serves, and two histories: the bytes handed to `TransmitChar` and
the frames processed. -/
structure QBSlave (σ : Type*) where
  qBState : QBSlaveState
  timeOutStartTick : UInt32
  frameBuffer : Bytes
  framBuffLen : ℕ
  /-- `buffLen` is the size of the array -/
  size : frameBuffer.length = framBuffLen
  recvByteCount : ℕ
  sentByteCount : ℕ
  totalByteToSend : ℕ
  app : σ
  transmitted : Bytes
  processed : List Processed

section Slave

variable {σ : Type*}

/-- `QBSlaveInit` at the time `now`. -/
def qbSlaveInit (now : ℕ) (frameBuff : Bytes) (app : σ) : QBSlave σ where
  qBState := .init
  timeOutStartTick := getStartTime now
  frameBuffer := frameBuff
  framBuffLen := frameBuff.length
  size := rfl
  recvByteCount := 0
  sentByteCount := 0
  totalByteToSend := 0
  app := app
  transmitted := []
  processed := []

def qbSlaveSetState (q : QBSlave σ) (state : QBSlaveState) : QBSlave σ :=
  let q := { q with qBState := state }
  match state with
  | .idle => { q with recvByteCount := 0 }
  | .sendFrame => { q with sentByteCount := 0 }
  | .stop => { q with sentByteCount := 0, recvByteCount := 0 }
  | .init | .frameRcv => q

/-- `QBSlaveStart`. -/
def qbSlaveStart (q : QBSlave σ) : QBSlave σ := qbSlaveSetState q .idle

/-- The bytes received are `f`. -/
def QBSlave.Holds (q : QBSlave σ) (f : Bytes) : Prop :=
  q.recvByteCount = f.length ∧ q.frameBuffer.take f.length = f

def qbSlaveValidateFrame (q : QBSlave σ) : Bool :=
  if q.recvByteCount < 7 then false
  else crc16Get (q.frameBuffer.take q.recvByteCount) = 0

def qbSlaveProcessFrame [QBusApp σ] (q : QBSlave σ) (now : ℕ) : QBSlave σ :=
  let r := processFrame q.frameBuffer now q.app
  { q with
    frameBuffer := r.buffer
    size := by rw [processFrame_length, q.size]
    totalByteToSend := r.totalByteToSend
    app := r.app
    processed := q.processed ++
      [⟨q.frameBuffer, q.recvByteCount, r.buffer.take r.totalByteToSend⟩] }

/-- One pass of the loop of `QBSlavePortTxEmptyIsr`. -/
def sendByte (q : QBSlave σ) : QBSlave σ :=
  let q :=
    if q.sentByteCount < q.framBuffLen then
      { q with
        transmitted := q.transmitted ++ [byteAt q.frameBuffer q.sentByteCount]
        sentByteCount := q.sentByteCount + 1 }
    else q
  { q with totalByteToSend := q.totalByteToSend - 1 }

def qbSlavePortTxEmptyIsr (q : QBSlave σ) : QBSlave σ :=
  if q.totalByteToSend > 0 then sendByte^[q.totalByteToSend] q else qbSlaveSetState q .idle

def qbSlavePoll [QBusApp σ] (q : QBSlave σ) (now : ℕ) : QBSlave σ :=
  match q.qBState with
  | .idle =>
      if q.recvByteCount ≥ 1 then
        if byteAt q.frameBuffer 0 = 0x01 ∨ byteAt q.frameBuffer 0 = 0x02 then
          qbSlaveSetState q .frameRcv
        else qbSlaveSetState q .idle
      else q
  | .frameRcv =>
      if timeSpent now q.timeOutStartTick 3 then
        if qbSlaveValidateFrame q then qbSlaveSetState (qbSlaveProcessFrame q now) .sendFrame
        else qbSlaveSetState q .idle
      else q
  | .sendFrame => qbSlavePortTxEmptyIsr q
  | .init | .stop => q

/-- `QBSlavePortByteReceived`: a byte that does not fit takes the last place. -/
def qbSlavePortByteReceived (q : QBSlave σ) (byte : UInt8) (now : ℕ) : QBSlave σ :=
  let at' := if q.recvByteCount < q.framBuffLen then q.recvByteCount else q.framBuffLen - 1
  { q with
    frameBuffer := q.frameBuffer.set at' byte
    size := by rw [List.length_set, q.size]
    recvByteCount := at' + 1
    timeOutStartTick := getStartTime now }

/-! ## Schedules -/

/-- What happens at the slave: a byte comes in, the QBus task polls, or another task changes the
program. -/
inductive QBusAction (σ : Type*) where
  | byte (b : UInt8)
  | poll
  | other (app : σ)

/-- An action and its time in microseconds. -/
structure QBusEvent (σ : Type*) where
  now : ℕ
  action : QBusAction σ

/-- The byte that comes in, with its time. -/
def QBusEvent.arrival? (e : QBusEvent σ) : Option (ℕ × UInt8) :=
  match e.action with
  | .byte b => some (e.now, b)
  | _ => none

def QBusEvent.isPoll (e : QBusEvent σ) : Bool :=
  match e.action with
  | .poll => true
  | _ => false

def QBSlave.step [QBusApp σ] (q : QBSlave σ) (e : QBusEvent σ) : QBSlave σ :=
  match e.action with
  | .byte b => qbSlavePortByteReceived q b e.now
  | .poll => qbSlavePoll q e.now
  | .other app => { q with app := app }

end Slave

end Cubbies
