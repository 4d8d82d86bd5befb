import Cubbies.Lib.Runs
import Cubbies.Lib.SaturatingBuffer
import Cubbies.Proofs.QbusReception

set_option autoImplicit false

/-! # The bytes a frame is made of

`Receiving` is the slave with all bytes it has received since it last entered `QBS_IDLE`, however many.
The frame it processes is that stream when it fits, and its start and its last byte when it does not
(`frame_of_stream`): `overlongStream` is processed as a frame that was never sent. -/

namespace Cubbies

open CString SaturatingBuffer

/-- The slave, and the bytes received since `QBS_IDLE` was entered. -/
structure Receiving (σ : Type*) where
  slave : QBSlave σ
  stream : Bytes

namespace Receiving

variable {σ : Type*}

/-- `QBSlaveSetState`. -/
def setState (r : Receiving σ) (state : QBSlaveState) : Receiving σ :=
  ⟨qbSlaveSetState r.slave state, if state = .idle then [] else r.stream⟩

/-- `QBSlavePortByteReceived`. -/
def byte (r : Receiving σ) (b : UInt8) (now : ℕ) : Receiving σ :=
  ⟨qbSlavePortByteReceived r.slave b now, r.stream ++ [b]⟩

/-- The slave as `QBSlaveStart` leaves it. -/
def start (now : ℕ) (frameBuff : Bytes) (app : σ) : Receiving σ :=
  setState ⟨qbSlaveInit now frameBuff app, []⟩ .idle

variable [QBusApp σ]

/-- `QBSlavePoll`. -/
def poll (r : Receiving σ) (now : ℕ) : Receiving σ :=
  match r.slave.qBState with
  | .idle =>
      if r.slave.recvByteCount ≥ 1 then
        if byteAt r.slave.frameBuffer 0 = 0x01 ∨ byteAt r.slave.frameBuffer 0 = 0x02 then
          r.setState .frameRcv
        else r.setState .idle
      else r
  | .frameRcv =>
      if timeSpent now r.slave.timeOutStartTick 3 then
        if qbSlaveValidateFrame r.slave then
          { r with slave := qbSlaveProcessFrame r.slave now }.setState .sendFrame
        else r.setState .idle
      else r
  | .sendFrame =>
      if r.slave.totalByteToSend > 0 then
        { r with slave := sendByte^[r.slave.totalByteToSend] r.slave }
      else r.setState .idle
  | .init | .stop => r

def step (r : Receiving σ) (e : QBusEvent σ) : Receiving σ :=
  match e.action with
  | .byte b => r.byte b e.now
  | .poll => r.poll e.now
  | .other app => { r with slave := { r.slave with app := app } }

/-- Without the stream, it is the slave. -/
theorem step_slave (r : Receiving σ) (e : QBusEvent σ) : (r.step e).slave = r.slave.step e := by
  unfold step QBSlave.step
  cases e.action with
  | byte b => rfl
  | other app => rfl
  | poll =>
      show (r.poll e.now).slave = qbSlavePoll r.slave e.now
      unfold poll qbSlavePoll
      cases r.slave.qBState with
      | idle =>
          dsimp only
          split_ifs <;> rfl
      | frameRcv =>
          dsimp only
          split_ifs <;> rfl
      | sendFrame =>
          dsimp only
          unfold qbSlavePortTxEmptyIsr
          split_ifs <;> rfl
      | init => rfl
      | stop => rfl

theorem foldl_slave (r : Receiving σ) (es : List (QBusEvent σ)) :
    (es.foldl step r).slave = es.foldl QBSlave.step r.slave := by
  induction es generalizing r with
  | nil => rfl
  | cons e es ih =>
      rw [List.foldl_cons, List.foldl_cons, ih (r.step e), step_slave]

end Receiving

/-- A poll at the time `now` runs `QBSlaveProcessFrame`. -/
def QBSlave.Processes {σ : Type*} (q : QBSlave σ) (now : ℕ) : Prop :=
  q.qBState = .frameRcv ∧ timeSpent now q.timeOutStartTick 3 = true ∧ qbSlaveValidateFrame q = true

instance {σ : Type*} (q : QBSlave σ) (now : ℕ) : Decidable (q.Processes now) :=
  inferInstanceAs (Decidable (_ ∧ _ ∧ _))

theorem QBSlave.qbSlavePoll_of_processes {σ : Type*} [QBusApp σ] {q : QBSlave σ} {now : ℕ}
    (h : q.Processes now) :
    qbSlavePoll q now = qbSlaveSetState (qbSlaveProcessFrame q now) .sendFrame := by
  obtain ⟨hstate, hspent, hvalid⟩ := h
  unfold qbSlavePoll
  rw [hstate]
  dsimp only
  rw [if_pos hspent, if_pos hvalid]

namespace Receiving

variable {σ : Type*}

/-! ## The invariant -/

/-- Until a reply is built over it, the buffer holds what it keeps of the stream. -/
structure Keeps (r : Receiving σ) : Prop where
  len : r.slave.framBuffLen = 100
  holds : r.slave.qBState ≠ .sendFrame → r.slave.Holds (kept 100 r.stream)

theorem keeps_start {buffer : Bytes} (h : buffer.length = 100) (now : ℕ) (app : σ) :
    Keeps (start now buffer app) where
  len := h
  holds _ := ⟨rfl, rfl⟩

theorem Keeps.idle {r : Receiving σ} (h : Keeps r) : Keeps (r.setState .idle) where
  len := h.len
  holds _ := ⟨rfl, rfl⟩

/-- A byte comes in. -/
theorem Keeps.byte {r : Receiving σ} (h : Keeps r) (b : UInt8) (now : ℕ) : Keeps (r.byte b now) where
  len := h.len
  holds hstate := by
    obtain ⟨hcount, htake⟩ := h.holds hstate
    obtain ⟨hset, hplace⟩ :=
      take_set_kept (by omega) (r.slave.size.trans h.len) htake b
    have hwhere : (if r.slave.recvByteCount < r.slave.framBuffLen then r.slave.recvByteCount
        else r.slave.framBuffLen - 1) = place 100 (kept 100 r.stream).length := by
      rw [hcount, h.len]
      rfl
    unfold Receiving.byte qbSlavePortByteReceived QBSlave.Holds
    simp only [hwhere]
    refine ⟨hplace, ?_⟩
    rw [← hplace]
    exact hset

/-- Sending changes neither the state nor the size of the buffer. -/
theorem sendByte_iterate_state (n : ℕ) (q : QBSlave σ) :
    (sendByte^[n] q).qBState = q.qBState ∧ (sendByte^[n] q).framBuffLen = q.framBuffLen := by
  induction n generalizing q with
  | zero => exact ⟨rfl, rfl⟩
  | succ n ih =>
      have hone : (sendByte q).qBState = q.qBState ∧ (sendByte q).framBuffLen = q.framBuffLen := by
        unfold sendByte
        split <;> exact ⟨rfl, rfl⟩
      rw [Function.iterate_succ_apply, (ih (sendByte q)).1, (ih (sendByte q)).2]
      exact hone

variable [QBusApp σ]

/-- A poll. -/
theorem Keeps.poll {r : Receiving σ} (h : Keeps r) (now : ℕ) : Keeps (r.poll now) := by
  unfold Receiving.poll
  cases hstate : r.slave.qBState with
  | idle =>
      have hholds := h.holds (by rw [hstate]; decide)
      dsimp only
      split_ifs
      · exact ⟨h.len, fun _ => hholds⟩
      · exact h.idle
      · exact h
  | frameRcv =>
      dsimp only
      split_ifs
      -- the reply takes the place of the frame
      · exact ⟨h.len, fun hne => absurd rfl hne⟩
      · exact h.idle
      · exact h
  | sendFrame =>
      dsimp only
      split_ifs
      · obtain ⟨hsame, hlen⟩ := sendByte_iterate_state r.slave.totalByteToSend r.slave
        exact ⟨hlen.trans h.len, fun hne => absurd (hsame.trans hstate) hne⟩
      · exact h.idle
  | init => exact h
  | stop => exact h

/-- **One step.** -/
theorem Keeps.step {r : Receiving σ} (h : Keeps r) (e : QBusEvent σ) : Keeps (r.step e) := by
  unfold Receiving.step
  cases e.action with
  | byte b => exact h.byte b e.now
  | poll => exact h.poll e.now
  | other app => exact ⟨h.len, h.holds⟩

theorem keeps_run {buffer : Bytes} (hbuffer : buffer.length = 100) (t : ℕ) (app : σ)
    (es : List (QBusEvent σ)) : Keeps (es.foldl Receiving.step (start t buffer app)) :=
  (Runs.reached_foldl Receiving.step (start t buffer app) es).invariant (keeps_start hbuffer t app)
    fun _ e _ h _ hstep => hstep ▸ h.step e

/-- **The frame and the stream.** Whenever a frame is processed, a stream that fits is the frame, and
of a longer one the frame is all bytes but the last place, and there the last byte. -/
theorem frame_of_stream {buffer : Bytes} (hbuffer : buffer.length = 100) (t : ℕ) (app : σ)
    (es : List (QBusEvent σ)) (r : Receiving σ) (hr : r = es.foldl Receiving.step (start t buffer app))
    (now : ℕ) (hproc : r.slave.Processes now) :
    (r.stream.length ≤ 100 →
        r.slave.recvByteCount = r.stream.length ∧
          r.slave.frameBuffer.take r.slave.recvByteCount = r.stream) ∧
      (100 < r.stream.length →
        r.slave.recvByteCount = 100 ∧
          r.slave.frameBuffer = r.stream.take 99 ++ r.stream.drop (r.stream.length - 1)) := by
  have hkeeps := keeps_run hbuffer t app es
  rw [← hr] at hkeeps
  obtain ⟨hcount, htake⟩ := hkeeps.holds (by rw [hproc.1]; decide)
  have hlen := length_kept (n := 100) (by omega) r.stream
  constructor
  · intro hfits
    rw [kept_of_le hfits] at hcount htake
    exact ⟨hcount, by rw [hcount]; exact htake⟩
  · intro hover
    have hfull : r.slave.frameBuffer.take 100 = r.slave.frameBuffer :=
      List.take_of_length_le (by rw [r.slave.size, hkeeps.len])
    rw [Nat.min_eq_right hover.le] at hlen
    rw [hlen] at hcount htake
    rw [hfull, kept_of_lt hover] at htake
    exact ⟨hcount, htake⟩

/-! ## A frame that was never sent -/

/-- The slave after `es`. -/
def runOf (app : σ) (es : List (QBusEvent σ)) : Receiving σ :=
  es.foldl Receiving.step (start 0 (List.replicate 100 0) app)

/-- A stream comes in at the time 0. -/
def arrivalsOf (s : Bytes) : List (QBusEvent σ) := s.map fun b => ⟨0, .byte b⟩

/-- A stream comes in, and a poll looks at its first byte. -/
def streamEvents (s : Bytes) : List (QBusEvent σ) := arrivalsOf s ++ [⟨0, .poll⟩]

theorem runOf_arrivalsOf (app : σ) (s : Bytes) :
    (runOf app (arrivalsOf s)).stream = s ∧ (runOf app (arrivalsOf s)).slave.qBState = .idle ∧
      (runOf app (arrivalsOf s)).slave.timeOutStartTick = 0 := by
  induction s using List.reverseRecOn with
  | nil => exact ⟨rfl, rfl, rfl⟩
  | append_singleton s b ih =>
      obtain ⟨hstream, hstate, -⟩ := ih
      have hlast : runOf app (arrivalsOf (s ++ [b])) = (runOf app (arrivalsOf s)).byte b 0 := by
        unfold runOf arrivalsOf
        rw [List.map_append, List.foldl_append]
        rfl
      rw [hlast]
      exact ⟨congrArg (· ++ [b]) hstream, hstate, rfl⟩

/-- Whatever was sent, the next late poll processes what is kept of it, if that is a request. -/
theorem processes_of_kept (app : σ) {s : Bytes} (h : ValidRequest (kept 100 s)) :
    (runOf app (streamEvents s)).slave.Processes 10000 ∧
      (runOf app (streamEvents s)).stream = s ∧
      (runOf app (streamEvents s)).slave.Holds (kept 100 s) := by
  obtain ⟨hstream, hstate, htick⟩ := runOf_arrivalsOf app s
  have hkeeps : Keeps (runOf app (arrivalsOf s)) := keeps_run List.length_replicate 0 app _
  have hpoll : runOf app (streamEvents s) = (runOf app (arrivalsOf s)).poll 0 := by
    unfold runOf streamEvents
    rw [List.foldl_append]
    rfl
  rw [hpoll]
  generalize runOf app (arrivalsOf s) = r at *
  have hholds := hkeeps.holds (by rw [hstate]; decide)
  rw [hstream] at hholds
  obtain ⟨hcount, htake⟩ := hholds
  have hlong := h.long
  -- the start byte is the first one kept
  have hfirst : byteAt r.slave.frameBuffer 0 = byteAt (kept 100 s) 0 := by
    rw [← htake]
    simp [byteAt, List.getD_eq_getElem?_getD, show 0 < (kept 100 s).length by omega]
  have hrcv : r.poll 0 = r.setState .frameRcv := by
    unfold poll
    rw [hstate]
    dsimp only
    rw [if_pos (by omega), if_pos (by rw [hfirst]; exact h.start)]
  rw [hrcv]
  refine ⟨⟨rfl, ?_, ?_⟩, hstream, hcount, htake⟩
  · show timeSpent 10000 r.slave.timeOutStartTick 3 = true
    rw [htick]
    decide
  · show qbSlaveValidateFrame r.slave = true
    unfold qbSlaveValidateFrame
    rw [hcount, htake, if_neg (by omega), h.checksum]
    rfl

/-- A frame of 100 bytes with one byte too many before its last one. -/
def overlongStream (body : Bytes) (extra : UInt8) : Bytes :=
  body ++ [(crc16Get body &&& 0x00ff).toUInt8, extra, (crc16Get body >>> 8).toUInt8]

/-- What is kept of it is the frame. -/
theorem kept_overlongStream {body : Bytes} (hlen : body.length = 98)
    (hstart : byteAt body 0 = 0x01 ∨ byteAt body 0 = 0x02) (extra : UInt8) :
    ValidRequest (kept 100 (overlongStream body extra)) ∧
      (kept 100 (overlongStream body extra)).length = 100 ∧
      (overlongStream body extra).length = 101 := by
  have hkept : kept 100 (overlongStream body extra) =
      body ++ [(crc16Get body &&& 0x00ff).toUInt8, (crc16Get body >>> 8).toUInt8] := by
    unfold overlongStream
    have hbody : body.take 99 = body := List.take_of_length_le (by omega)
    have hnone : body.drop 100 = [] := List.drop_of_length_le (by omega)
    rw [kept_of_lt (by simp [hlen])]
    simp [List.take_append, List.drop_append, hlen, hbody, hnone]
  have hfirst : ∀ rest, byteAt (body ++ rest) 0 = byteAt body 0 := by
    intro rest
    simp [byteAt, List.getD_eq_getElem?_getD, hlen]
  rw [hkept]
  refine ⟨⟨?_, ?_, ?_, crc16Get_append_checkBytes body⟩, ?_, ?_⟩
  · simp [hlen]
  · simp [hlen]
  · rw [hfirst]
    exact hstart
  · simp [hlen]
  · simp [overlongStream, hlen]

end Receiving

namespace Receiving

/-- A read frame of zeros. -/
def zeroBody : Bytes := 0x01 :: List.replicate 97 0

/-- The slave of the sample program after `es`. -/
def sampleRun (es : List (QBusEvent Unit)) : Receiving Unit := @runOf _ QBSlave.sampleApp () es

/-- A frame of 100 bytes is processed, though 101 have come in. -/
theorem overlongStream_processed :
    ¬ ∀ (es : List (QBusEvent Unit)) (now : ℕ), (sampleRun es).slave.Processes now →
      (sampleRun es).stream.length = (sampleRun es).slave.recvByteCount ∧
        (sampleRun es).slave.frameBuffer.take (sampleRun es).slave.recvByteCount =
          (sampleRun es).stream := by
  intro h
  have hlength : zeroBody.length = 98 := by
    rw [zeroBody, List.length_cons, List.length_replicate]
  obtain ⟨hvalid, hkept, hsent⟩ := kept_overlongStream hlength (.inl rfl) 0x55
  obtain ⟨hproc, hstream, hcount, -⟩ := @processes_of_kept _ QBSlave.sampleApp () _ hvalid
  obtain ⟨hlen, -⟩ := h (streamEvents (overlongStream zeroBody 0x55)) 10000 hproc
  unfold sampleRun at hlen
  rw [hstream, hcount, hkept, hsent] at hlen
  omega

/-- A request that fits. -/
theorem frame_of_stream_sample :
    (sampleRun (streamEvents QBSlave.sampleRequest)).slave.frameBuffer.take
        (sampleRun (streamEvents QBSlave.sampleRequest)).slave.recvByteCount =
      (sampleRun (streamEvents QBSlave.sampleRequest)).stream := by
  have hproc : (sampleRun (streamEvents QBSlave.sampleRequest)).slave.Processes 10000 := by
    decide +kernel
  have hfits : (sampleRun (streamEvents QBSlave.sampleRequest)).stream.length ≤ 100 := by
    decide +kernel
  generalize hrun : sampleRun (streamEvents QBSlave.sampleRequest) = r at *
  exact ((@frame_of_stream _ QBSlave.sampleApp _ List.length_replicate 0 () _ r hrun.symm
    10000 hproc).1 hfits).2

end Receiving

end Cubbies
