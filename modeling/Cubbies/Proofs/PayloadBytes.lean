import Mathlib.Control.Monad.Writer
import Cubbies.Proofs.ReceivedStream
import Cubbies.Proofs.BufferBounds
import Cubbies.Proofs.Shutdown

set_option autoImplicit false

/-! # Which bytes of a frame count as data

`loggedFrame` is the part of `QBSlaveProcessFrame` that acts on the box, with a log of the places whose
bytes it uses as data. A read frame uses ten of them, a write frame at most one, whatever the length of
the frame: `payload_iff` says which frames are long enough, `shortRead` is one that is not. -/

namespace Cubbies

open CString SaturatingBuffer

namespace Box

/-! ## The frame with a log -/

/-- `frameBuffer[i]`, used as data. -/
def dataByte (buffer : Bytes) (i : ℕ) : Writer (List ℕ) UInt8 := do
  tell [i]
  pure (byteAt buffer i)

/-- A read frame: the eight bytes of the UID, the battery level, the charging state. -/
def loggedRead (b : Box) (now : ℕ) (buffer : Bytes) : Writer (List ℕ) Box := do
  let uid ← (List.range 8).mapM fun i => dataByte buffer (5 + i)
  let batteryVolts ← dataByte buffer (5 + 8)
  let batteryChargingState ← dataByte buffer (5 + 9)
  pure ({ b with
    dl := b.dl.frame (frameUid uid)
    batteryLevel := batteryVolts
    chargingState := batteryChargingState }.trackTag now)

/-- A write frame. The play and pause button has no value. -/
def loggedWrite (b : Box) (now address len : ℕ) (buffer : Bytes) : Writer (List ℕ) Box :=
  match writeReg? address len with
  | none => pure b
  | some .playPause => pure (if b.tagPresentFlag then b.playPauseToggle else b)
  | some reg => do
      let value ← dataByte buffer 5
      pure (b.writeRegister now value reg)

/-- The header names the function, the address and the number of registers. -/
def loggedFrame (b : Box) (now : ℕ) (buffer : Bytes) : Writer (List ℕ) Box :=
  if byteAt buffer 0 = 0x01 then b.loggedRead now buffer
  else if byteAt buffer 0 = 0x02 then
    b.loggedWrite now (word (byteAt buffer 1) (byteAt buffer 2))
      (word (byteAt buffer 3) (byteAt buffer 4)) buffer
  else pure b

theorem loggedRead_run (b : Box) (now : ℕ) (buffer : Bytes) :
    (b.loggedRead now buffer).run =
      (b.readFrame now (buffer.drop 5), [5, 6, 7, 8, 9, 10, 11, 12, 13, 14]) := by
  have hbyte : ∀ i, byteAt buffer (5 + i) = byteAt (buffer.drop 5) i := by
    intro i
    simp [byteAt, List.getD_eq_getElem?_getD]
  have huid : frameUid ((List.range 8).map fun i => byteAt buffer (5 + i)) =
      frameUid (buffer.drop 5) := by
    apply Subtype.ext
    refine List.map_congr_left fun i hi => ?_
    rw [← hbyte]
    simp [byteAt, List.getD_eq_getElem?_getD, List.mem_range.1 hi]
  unfold loggedRead readFrame
  rw [← huid, ← hbyte, ← hbyte]
  rfl

/-- A write to these registers uses its first data byte: the box has them, and it is not the button
without a value. -/
def usesValue (address len : ℕ) : Bool :=
  match writeReg? address len with
  | none => false
  | some reg => reg ≠ .playPause

theorem loggedWrite_run (b : Box) (now address len : ℕ) (buffer : Bytes) :
    (b.loggedWrite now address len buffer).run =
      (b.writeFrame now address len (buffer.drop 5), if usesValue address len then [5] else []) := by
  have hbyte : byteAt buffer 5 = byteAt (buffer.drop 5) 0 := by
    simp [byteAt, List.getD_eq_getElem?_getD]
  unfold loggedWrite writeFrame usesValue
  rw [← hbyte]
  cases writeReg? address len with
  | none => rfl
  | some reg => cases reg <;> rfl

/-- Without its log, it is what `QBSlaveProcessFrame` does to the box. -/
theorem loggedFrame_app (b : Box) (now : ℕ) (buffer : Bytes) :
    (b.loggedFrame now buffer).run.1 = (processFrame buffer now b).app := by
  show (b.loggedFrame now buffer).run.1 = (replyBody buffer now b).app
  unfold loggedFrame replyBody
  by_cases hread : byteAt buffer 0 = 0x01
  · rw [if_pos hread, if_pos hread, loggedRead_run]
    dsimp only
    split <;> rfl
  · by_cases hwrite : byteAt buffer 0 = 0x02
    · rw [if_neg hread, if_neg hread, if_pos hwrite, if_pos hwrite, loggedWrite_run]
      rfl
    · rw [if_neg hread, if_neg hread, if_neg hwrite, if_neg hwrite]
      rfl

/-! ## Frames that are long enough -/

/-- A read frame has ten data bytes, a write frame one if it uses one. -/
def FullFrame (buffer : Bytes) (recvByteCount : ℕ) : Prop :=
  (byteAt buffer 0 = 0x01 → 17 ≤ recvByteCount) ∧
    (byteAt buffer 0 = 0x02 →
      usesValue (word (byteAt buffer 1) (byteAt buffer 2)) (word (byteAt buffer 3) (byteAt buffer 4)) →
        8 ≤ recvByteCount)

/-- The places used lie between the header and the checksum exactly for the frames that are long
enough. -/
theorem payloadPlaces_iff (b : Box) (now : ℕ) (buffer : Bytes) (recvByteCount : ℕ) :
    (∀ i ∈ (b.loggedFrame now buffer).run.2, 5 ≤ i ∧ i + 3 ≤ recvByteCount) ↔
      FullFrame buffer recvByteCount := by
  unfold loggedFrame FullFrame
  by_cases hread : byteAt buffer 0 = 0x01
  · have hwrite : byteAt buffer 0 ≠ 0x02 := by
      rw [hread]
      decide
    rw [if_pos hread, loggedRead_run]
    constructor
    · intro h
      have hlast := h 14 (by simp)
      exact ⟨fun _ => by omega, fun h2 => absurd h2 hwrite⟩
    · rintro ⟨hlong, -⟩ i hi
      have hfull := hlong hread
      have hrange : 5 ≤ i ∧ i ≤ 14 := by
        simp only [List.mem_cons, List.not_mem_nil, or_false] at hi
        omega
      omega
  · rw [if_neg hread]
    by_cases hwrite : byteAt buffer 0 = 0x02
    · rw [if_pos hwrite, loggedWrite_run]
      generalize usesValue _ _ = uses
      cases uses with
      | true =>
          constructor
          · intro h
            have hfirst := h 5 (by simp)
            exact ⟨fun h1 => absurd h1 hread, fun _ _ => by omega⟩
          · rintro ⟨-, hlong⟩ i hi
            obtain rfl : i = 5 := by simpa using hi
            have := hlong hwrite rfl
            omega
      | false =>
          constructor
          · exact fun _ => ⟨fun h1 => absurd h1 hread, fun _ hno => by cases hno⟩
          · intro _ i hi
            cases hi
    -- another function code: nothing is used
    · rw [if_neg hwrite]
      constructor
      · exact fun _ => ⟨fun h1 => absurd h1 hread, fun h2 => absurd h2 hwrite⟩
      · intro _ i hi
        cases hi

/-- The slave with the box behind it, after `es`. -/
def busRun (b : Box) (buffer : Bytes) (t : ℕ) (es : List (QBusEvent Box)) : Receiving Box :=
  es.foldl Receiving.step (.start t buffer b)

/-- **Only received payload is used** exactly when the frame is long enough. Whenever a frame is
processed, after any schedule, the places it uses as data are payload, and hold bytes that came in
since `QBS_IDLE` was entered. -/
theorem payload_iff {buffer : Bytes} (hbuffer : buffer.length = 100) (b : Box) (t : ℕ)
    (es : List (QBusEvent Box)) (r : Receiving Box) (hr : r = busRun b buffer t es) (now : ℕ)
    (hproc : r.slave.Processes now) :
    (qbSlavePoll r.slave now).app = (r.slave.app.loggedFrame now r.slave.frameBuffer).run.1 ∧
      ((∀ i ∈ (r.slave.app.loggedFrame now r.slave.frameBuffer).run.2,
          5 ≤ i ∧ i ≤ r.slave.recvByteCount - 3 ∧
            r.stream[i]? = some (byteAt r.slave.frameBuffer i)) ↔
        FullFrame r.slave.frameBuffer r.slave.recvByteCount) := by
  have hkeeps := Receiving.keeps_run hbuffer t b es
  rw [show es.foldl Receiving.step (.start t buffer b) = r from hr.symm] at hkeeps
  obtain ⟨hcount, htake⟩ := hkeeps.holds (by rw [hproc.1]; decide)
  have hlong : 7 ≤ r.slave.recvByteCount := by
    by_contra hshort
    have hvalid := hproc.2.2
    unfold qbSlaveValidateFrame at hvalid
    rw [if_pos (by omega)] at hvalid
    cases hvalid
  have hmost := length_kept (n := 100) (by omega) r.stream
  -- a byte of the frame before its last place came in at its place
  have hbyte : ∀ i, i + 3 ≤ r.slave.recvByteCount →
      r.stream[i]? = some (byteAt r.slave.frameBuffer i) := by
    intro i hi
    have hin : i < (kept 100 r.stream).length := by omega
    rw [← getElem?_kept (n := 100) (by omega), ← htake, ← hcount, List.getElem?_take_of_lt (by omega)]
    have hplace : i < r.slave.frameBuffer.length := by
      rw [r.slave.size, hkeeps.len]
      omega
    simp [byteAt, List.getD_eq_getElem?_getD, hplace]
  refine ⟨?_, ?_⟩
  · rw [QBSlave.qbSlavePoll_of_processes hproc, loggedFrame_app]
    rfl
  · rw [← payloadPlaces_iff r.slave.app now]
    constructor
    · intro h i hi
      obtain ⟨hlow, hhigh, -⟩ := h i hi
      exact ⟨hlow, by omega⟩
    · intro h i hi
      obtain ⟨hlow, hhigh⟩ := h i hi
      exact ⟨hlow, by omega, hbyte i hhigh⟩

/-! ## A frame that is too short -/

/-- A request comes in, and a poll finds its start byte. -/
def requestRun (request : Bytes) : Receiving Box :=
  busRun emptyBattery (List.replicate 100 0) 0 (Receiving.streamEvents request)

theorem requestRun_processes {request : Bytes} (h : ValidRequest request) :
    (requestRun request).slave.Processes 10000 ∧ (requestRun request).slave.Holds request := by
  have hkept : kept 100 request = request := kept_of_le h.short
  obtain ⟨hproc, -, hholds⟩ := Receiving.processes_of_kept emptyBattery (hkept.symm ▸ h)
  rw [hkept] at hholds
  exact ⟨hproc, hholds⟩

/-- A read without a payload: its check bytes are taken for the first two bytes of the UID, and what
the buffer held before for the others. -/
theorem shortRead_overreads :
    ¬ ∀ (es : List (QBusEvent Box)) (r : Receiving Box),
      r = busRun emptyBattery (List.replicate 100 0) 0 es → ∀ now, r.slave.Processes now →
        ∀ i ∈ (r.slave.app.loggedFrame now r.slave.frameBuffer).run.2,
          5 ≤ i ∧ i ≤ r.slave.recvByteCount - 3 := by
  intro h
  obtain ⟨hproc, hcount, htake⟩ := requestRun_processes QBSlave.sampleRequest_valid
  have hplaces := h (Receiving.streamEvents QBSlave.sampleRequest)
    (requestRun QBSlave.sampleRequest) rfl 10000 hproc
  generalize requestRun QBSlave.sampleRequest = r at *
  have hread : byteAt r.slave.frameBuffer 0 = 0x01 := by
    have hfirst := congrArg (fun frame => byteAt frame 0) htake
    rw [byteAt_take (by decide)] at hfirst
    exact hfirst
  have hlast := hplaces 14 (by
    unfold loggedFrame
    rw [if_pos hread, loggedRead_run]
    show 14 ∈ [5, 6, 7, 8, 9, 10, 11, 12, 13, 14]
    decide)
  have hseven : r.slave.recvByteCount = 7 := hcount
  omega

/-- A write of the volume, with its one data byte. -/
def volumeWrite : Bytes := [0x02, 0x30, 0x00, 0x00, 0x01, 0x01, 0x81, 0xAD]

theorem volumeWrite_valid : ValidRequest volumeWrite :=
  ⟨by decide, by decide, by decide, by decide +kernel⟩

/-- It is processed, and its data byte is payload. -/
theorem payload_iff_volumeWrite :
    (requestRun volumeWrite).slave.Processes 10000 ∧
      ∀ i ∈ ((requestRun volumeWrite).slave.app.loggedFrame 10000
          (requestRun volumeWrite).slave.frameBuffer).run.2,
        5 ≤ i ∧ i ≤ (requestRun volumeWrite).slave.recvByteCount - 3 ∧
          (requestRun volumeWrite).stream[i]? =
            some (byteAt (requestRun volumeWrite).slave.frameBuffer i) := by
  obtain ⟨hproc, hcount, htake⟩ := requestRun_processes volumeWrite_valid
  refine ⟨hproc, ((payload_iff List.length_replicate emptyBattery 0
    (Receiving.streamEvents volumeWrite) (requestRun volumeWrite) rfl 10000 hproc).2).2 ?_⟩
  have hfirst := congrArg (fun frame => byteAt frame 0) htake
  rw [byteAt_take (by decide)] at hfirst
  constructor
  · intro hread
    rw [hread] at hfirst
    revert hfirst
    decide
  · intro _ _
    rw [hcount]
    decide

end Box

end Cubbies
