import Mathlib.Tactic.IntervalCases
import Cubbies.Proofs.ReplyFrame
import Cubbies.Proofs.PayloadBytes

set_option autoImplicit false

/-! # What a request changes, and what it is answered

A read frame acts on the box before its registers are looked up. Its reply is written over its own
data bytes, but only behind the last use of them, and nothing the frame does touches the registers
(`readFrame_registers`): a read inside the window is answered with the registers as they stood
(`reply_read`). Outside of it the reply is an error, and by then the battery, the charging state and
the tag of the frame have been taken over (`readFrame_keeps_iff`). A write frame looks its register up
first. -/

namespace Cubbies

open CString

/-! ## The buffer -/

/-- What is stored from index `n` on, with all that was before. -/
theorem take_writeAt {buffer : Bytes} {n : ℕ} (bytes : Bytes) (h : n + bytes.length ≤ buffer.length) :
    (writeAt buffer n bytes).take (n + bytes.length) = buffer.take n ++ bytes := by
  induction bytes generalizing buffer n with
  | nil => simp [writeAt]
  | cons b bs ih =>
      rw [List.length_cons] at h
      have hlen : n + (b :: bs).length = n + 1 + bs.length := by
        rw [List.length_cons]
        omega
      have hplace : n < buffer.length := by omega
      rw [writeAt, hlen, ih (by rw [List.length_set]; omega), List.take_add_one,
        List.take_set_of_le (le_refl n)]
      simp [hplace]

/-- `checkBytes` of anything are two bytes. -/
theorem length_checkBytes (frame : Bytes) : (checkBytes frame).length = 2 := rfl

/-! ## A read frame and the registers -/

namespace Box

/-- What the base finds at a place of the read window: the state of the pad, the colours of the left
ear, of the right ear and of the pad, and the power status. -/
def registerValue (b : Box) : ℕ → UInt8
  | 0 => b.led.padState
  | 1 => b.led.leftEarColor.r
  | 2 => b.led.leftEarColor.g
  | 3 => b.led.leftEarColor.b
  | 4 => b.led.rightEarColor.r
  | 5 => b.led.rightEarColor.g
  | 6 => b.led.rightEarColor.b
  | 7 => b.led.padColor.r
  | 8 => b.led.padColor.g
  | 9 => b.led.padColor.b
  | 10 => b.powerState
  | _ => 0

/-- `UpdateDataBuffer` puts each value in its place. -/
theorem getElem_registers (b : Box) {i : ℕ} (hi : i < 11) : b.registers[i] = b.registerValue i := by
  interval_cases i <;> rfl

/-- Neither the tag nor the values of a frame have a part in the registers. -/
theorem readFrame_registers (b : Box) (now : ℕ) (data : Bytes) :
    (b.readFrame now data).registers = b.registers := by
  obtain ⟨state, tick, toy, presense, before, turnTable, commands, dl, battery, charging, uid, present,
    heq⟩ := readFrame_touches b now data
  rw [heq]
  rfl

/-- What `trackTag` leaves of the other values of a frame. -/
theorem trackTag_values (b : Box) (now : ℕ) :
    (b.trackTag now).dl = b.dl ∧ (b.trackTag now).batteryLevel = b.batteryLevel ∧
      (b.trackTag now).chargingState = b.chargingState := by
  unfold trackTag resetToy toyRemoved pauseCurrentAudio
  dsimp only
  split_ifs <;> exact ⟨rfl, rfl, rfl⟩

/-- A read frame uses ten data bytes. -/
theorem readFrame_congr (b : Box) (now : ℕ) {data data' : Bytes}
    (h : ∀ i < 10, byteAt data i = byteAt data' i) : b.readFrame now data = b.readFrame now data' := by
  have huid : frameUid data = frameUid data' := by
    refine Subtype.ext (List.map_congr_left fun i hi => h i ?_)
    have := List.mem_range.1 hi
    omega
  unfold readFrame
  rw [huid, h 8 (by omega), h 9 (by omega)]

end Box

namespace QBSlave

/-- The address a request asks for. -/
def requestAddress (f : Bytes) : ℕ := word (byteAt f 1) (byteAt f 2)

/-- The number of registers it asks for. -/
def requestLen (f : Bytes) : ℕ := word (byteAt f 3) (byteAt f 4)

/-- All of them exist. -/
def InWindow (f : Bytes) : Prop :=
  0x1000 ≤ requestAddress f ∧ requestAddress f + requestLen f ≤ 0x100B

/-- What is done with a read request `f`, and what it is answered. -/
structure ReadServed (q : QBSlave Box) (f : Bytes) (now : ℕ) : Prop where
  /-- the frame acts on the box with the bytes of the request -/
  applied : (qbSlaveProcessFrame q now).app = q.app.readFrame now (f.drop 5)
  uid : (qbSlaveProcessFrame q now).app.dl.tagUid = uidText (Box.frameUid (f.drop 5))
  battery : (qbSlaveProcessFrame q now).app.batteryLevel = byteAt f 13
  charging : (qbSlaveProcessFrame q now).app.chargingState = byteAt f 14
  /-- header, the values of the box before the frame, check bytes -/
  data : InWindow f → (q.reply now).length = 5 + requestLen f + 2 ∧
    byteAt (q.reply now) 0 = 0x01 ∧
    ∀ i < requestLen f,
      byteAt (q.reply now) (5 + i) = q.app.registerValue (requestAddress f - 0x1000 + i)
  /-- header, error code, check bytes -/
  error : ¬ InWindow f → (q.reply now).length = 5 + 1 + 2 ∧
    byteAt (q.reply now) 0 = 0x80 ||| 0x01 ∧
    byteAt (q.reply now) 5 = QBRegRetCode.errAddr.code

section Read

variable {q : QBSlave Box} {f : Bytes}

/-- The bytes of the frame are those at the front of the buffer. -/
theorem Holds.byteAt_eq (h : q.Holds f) {i : ℕ} (hi : i < f.length) :
    byteAt q.frameBuffer i = byteAt f i := by
  have hbyte := congrArg (fun frame => byteAt frame i) h.2
  rw [Box.byteAt_take hi] at hbyte
  exact hbyte

theorem Holds.take_eq (h : q.Holds f) {n : ℕ} (hn : n ≤ f.length) :
    q.frameBuffer.take n = f.take n := by
  rw [← h.2, List.take_take, Nat.min_eq_left hn]

theorem Holds.requestAddress_eq (h : q.Holds f) (hlong : 5 ≤ f.length) :
    requestAddress q.frameBuffer = requestAddress f := by
  unfold requestAddress
  rw [h.byteAt_eq (by omega), h.byteAt_eq (by omega)]

theorem Holds.requestLen_eq (h : q.Holds f) (hlong : 5 ≤ f.length) :
    requestLen q.frameBuffer = requestLen f := by
  unfold requestLen
  rw [h.byteAt_eq (by omega), h.byteAt_eq (by omega)]

/-- What processing a read frame makes of the box. -/
theorem app_read (hread : byteAt q.frameBuffer 0 = 0x01) (now : ℕ) :
    (qbSlaveProcessFrame q now).app = q.app.readFrame now (q.frameBuffer.drop 5) := by
  show (replyBody q.frameBuffer now q.app).app = _
  unfold replyBody
  rw [if_pos hread]
  dsimp only
  split <;> rfl

/-- The callback finds the registers before the request. -/
theorem replyBody_read (hread : byteAt q.frameBuffer 0 = 0x01) (now : ℕ) :
    replyBody q.frameBuffer now q.app =
      match qbusRegReadCb (requestAddress q.frameBuffer) (requestLen q.frameBuffer)
          q.app.registers with
      | some regs => ⟨writeAt q.frameBuffer 5 regs, 5 + requestLen q.frameBuffer,
          q.app.readFrame now (q.frameBuffer.drop 5)⟩
      | none => ⟨(q.frameBuffer.set 0 (0x80 ||| 0x01)).set 5 QBRegRetCode.errAddr.code, 6,
          q.app.readFrame now (q.frameBuffer.drop 5)⟩ := by
  unfold replyBody
  rw [if_pos hread, hread]
  show (match qbusRegReadCb (requestAddress q.frameBuffer) (requestLen q.frameBuffer)
    (q.app.readFrame now (q.frameBuffer.drop 5)).registers with
      | some _ => _
      | none => _) = _
  rw [Box.readFrame_registers]
  rfl

/-- The registers a request in the window asks for. -/
def window (registers : Vector UInt8 11) (f : Bytes) : Bytes :=
  (registers.toList.drop (requestAddress f - 0x1000)).take (requestLen f)

theorem length_window (registers : Vector UInt8 11) {f : Bytes} (hin : InWindow f) :
    (window registers f).length = requestLen f := by
  obtain ⟨hlow, hhigh⟩ := hin
  rw [window, List.length_take, List.length_drop, Vector.length_toList]
  omega

theorem byteAt_window (registers : Vector UInt8 11) (f : Bytes) {i : ℕ}
    (hi : requestAddress f - 0x1000 + i < 11) (hfew : i < requestLen f) :
    byteAt (window registers f) i = registers[requestAddress f - 0x1000 + i] := by
  rw [window, Box.byteAt_take hfew, byteAt, List.getD_eq_getElem?_getD, List.getElem?_drop]
  generalize requestAddress f - 0x1000 + i = place at hi
  simp [hi]

/-- **A read inside the window.** -/
theorem replyData_window (hsize : 18 ≤ q.framBuffLen) (hread : byteAt q.frameBuffer 0 = 0x01)
    (hwindow : InWindow q.frameBuffer) (now : ℕ) :
    q.replyData now = q.frameBuffer.take 5 ++ window q.app.registers q.frameBuffer := by
  have hbuffer := q.size
  have hlen := length_window q.app.registers hwindow
  have hregs : qbusRegReadCb (requestAddress q.frameBuffer) (requestLen q.frameBuffer)
      q.app.registers = some (window q.app.registers q.frameBuffer) := if_pos hwindow
  have hroom : 5 + (window q.app.registers q.frameBuffer).length ≤ q.frameBuffer.length := by
    obtain ⟨hlow, hhigh⟩ := hwindow
    omega
  have htake := take_writeAt _ hroom
  unfold replyData
  rw [replyBody_read hread, hregs]
  rw [hlen] at htake
  exact htake

/-- Its reply is the five bytes of the header, the registers and the check bytes. -/
theorem reply_window (hsize : 18 ≤ q.framBuffLen) (hholds : q.Holds f) (hlong : 5 ≤ f.length)
    (hread : byteAt f 0 = 0x01) (hin : InWindow f) (now : ℕ) :
    (q.reply now).length = 5 + requestLen f + 2 ∧ byteAt (q.reply now) 0 = 0x01 ∧
      ∀ i < requestLen f,
        byteAt (q.reply now) (5 + i) = q.app.registerValue (requestAddress f - 0x1000 + i) := by
  have haddress := hholds.requestAddress_eq hlong
  have hlen := hholds.requestLen_eq hlong
  have hin' : InWindow q.frameBuffer := by
    unfold InWindow
    rw [haddress, hlen]
    exact hin
  have hsame : window q.app.registers q.frameBuffer = window q.app.registers f := by
    unfold window
    rw [haddress, hlen]
  have hdata := replyData_window hsize ((hholds.byteAt_eq (by omega)).trans hread) hin' now
  rw [hsame, hholds.take_eq hlong] at hdata
  have hreply := reply_eq hsize now
  have hregs := length_window q.app.registers hin
  have hheader : (f.take 5).length = 5 := List.length_take_of_le hlong
  refine ⟨?_, ?_, ?_⟩
  · rw [hreply, List.length_append, length_checkBytes, hdata, List.length_append, hheader, hregs]
  · rw [hreply, hdata, List.append_assoc, byteAt_take_append (by omega) hlong]
    exact hread
  · intro i hfew
    have hplace : requestAddress f - 0x1000 + i < 11 := by
      obtain ⟨hlow, hhigh⟩ := hin
      omega
    rw [← q.app.getElem_registers hplace, ← byteAt_window q.app.registers f hplace hfew, hreply,
      hdata, List.append_assoc]
    simp only [byteAt, List.getD_eq_getElem?_getD]
    rw [List.getElem?_append_right (by omega), hheader, Nat.add_sub_cancel_left,
      List.getElem?_append_left (by omega)]

/-- **A read outside of it.** -/
theorem replyData_error (hsize : 18 ≤ q.framBuffLen) (hread : byteAt q.frameBuffer 0 = 0x01)
    (hwindow : ¬ InWindow q.frameBuffer) (now : ℕ) :
    (q.replyData now).length = 6 ∧ byteAt (q.replyData now) 0 = 0x80 ||| 0x01 ∧
      byteAt (q.replyData now) 5 = QBRegRetCode.errAddr.code := by
  have hbuffer := q.size
  have hregs : qbusRegReadCb (requestAddress q.frameBuffer) (requestLen q.frameBuffer)
      q.app.registers = none := if_neg hwindow
  unfold replyData
  rw [replyBody_read hread, hregs]
  dsimp only
  refine ⟨?_, ?_, ?_⟩
  · rw [List.length_take, List.length_set, List.length_set]
    omega
  · rw [Box.byteAt_take (by omega), byteAt_set (by omega), byteAt_set_self (by omega)]
  · rw [Box.byteAt_take (by omega), byteAt_set_self (by rw [List.length_set]; omega)]

theorem reply_error (hsize : 18 ≤ q.framBuffLen) (hread : byteAt q.frameBuffer 0 = 0x01)
    (hwindow : ¬ InWindow q.frameBuffer) (now : ℕ) :
    (q.reply now).length = 5 + 1 + 2 ∧ byteAt (q.reply now) 0 = 0x80 ||| 0x01 ∧
      byteAt (q.reply now) 5 = QBRegRetCode.errAddr.code := by
  obtain ⟨hsix, hfirst, hlast⟩ := replyData_error hsize hread hwindow now
  have hreply := reply_eq hsize now
  have hkeep : ∀ i < 6, byteAt (q.reply now) i = byteAt (q.replyData now) i := by
    intro i hi
    rw [hreply, ← List.take_length (l := q.replyData now), byteAt_take_append (by omega) le_rfl,
      List.take_length]
  refine ⟨?_, ?_, ?_⟩
  · rw [hreply, List.length_append, length_checkBytes, hsix]
  · rw [hkeep 0 (by omega), hfirst]
  · rw [hkeep 5 (by omega), hlast]

/-- **The read window.** A read frame with a full payload acts on the box with its own bytes, and is
answered with the registers it asks for, as they stood before it, or with the address error. -/
theorem reply_read (hsize : q.framBuffLen = 100) (hholds : q.Holds f) (hlong : 17 ≤ f.length)
    (hread : byteAt f 0 = 0x01) (now : ℕ) : ReadServed q f now := by
  have hroom : 18 ≤ q.framBuffLen := by omega
  have hcode : byteAt q.frameBuffer 0 = 0x01 := (hholds.byteAt_eq (by omega)).trans hread
  have hwindow : InWindow q.frameBuffer ↔ InWindow f := by
    unfold InWindow
    rw [hholds.requestAddress_eq (by omega), hholds.requestLen_eq (by omega)]
  have hdrop : ∀ (s : Bytes) (i : ℕ), byteAt (s.drop 5) i = byteAt s (5 + i) := by
    intro s i
    simp [byteAt, List.getD_eq_getElem?_getD]
  have happlied : (qbSlaveProcessFrame q now).app = q.app.readFrame now (f.drop 5) := by
    rw [app_read hcode]
    refine Box.readFrame_congr _ _ fun i hi => ?_
    rw [hdrop, hdrop, hholds.byteAt_eq (by omega)]
  have hvalues := Box.trackTag_values { q.app with
    dl := q.app.dl.frame (Box.frameUid (f.drop 5))
    batteryLevel := byteAt (f.drop 5) 8
    chargingState := byteAt (f.drop 5) 9 } now
  refine ⟨happlied, ?_, ?_, ?_, fun hin => reply_window hroom hholds (by omega) hread hin now,
    fun hout => reply_error hroom hcode (mt hwindow.1 hout) now⟩
  · rw [happlied]
    exact congrArg Downloader.tagUid hvalues.1
  · rw [happlied]
    exact hvalues.2.1.trans (hdrop f 8)
  · rw [happlied]
    exact hvalues.2.2.trans (hdrop f 9)

end Read

/-! ## Requests answered with an error -/

/-- The reply carries `QB_ERR_CODE`. -/
def AnsweredWithError (q : QBSlave Box) (now : ℕ) : Prop := byteAt (q.reply now) 0 &&& 0x80 ≠ 0

end QBSlave

namespace Box

/-- What the rest of the program sees of a request. -/
structure Watched where
  batteryLevel : UInt8
  chargingState : UInt8
  tagPresentFlag : Bool
  toy : Bytes
  previousToy : Bytes
  state : SystemState
  volume : UInt8
  leftEarButtonState : Bool
  rightEarButtonState : Bool

def watched (b : Box) : Watched :=
  ⟨b.batteryLevel, b.chargingState, b.tagPresentFlag, b.toy, b.previousToy, b.state, b.volume,
    b.leftEarButtonState, b.rightEarButtonState⟩

/-- The tag is the one there is: none, or one that is seen again or is the toy already. -/
def SameTag (b : Box) (tag : Bytes) : Prop :=
  if tag = noTag then b.tagPresentFlag = false
  else b.tagPresentFlag = true ∧ (b.previousTagUid.take 16 = tag.take 16 ∨ b.toy = tag)

/-- The data bytes of a read frame report nothing new. -/
structure NothingNew (b : Box) (data : Bytes) : Prop where
  battery : byteAt data 8 = b.batteryLevel
  charging : byteAt data 9 = b.chargingState
  tag : b.SameTag (uidText (frameUid data))

/-- The values a tag is taken over into. -/
theorem trackTag_watched (b : Box) (now : ℕ) :
    (b.trackTag now).watched = b.watched ↔ b.SameTag b.dl.tagUid := by
  unfold trackTag SameTag
  dsimp only
  by_cases hnone : b.dl.tagUid = noTag
  · rw [if_pos hnone, if_pos hnone]
    constructor
    · intro hsame
      exact (congrArg Watched.tagPresentFlag hsame).symm
    · intro hflag
      rw [if_neg (by rw [hflag]; decide)]
      simp [watched, hflag]
  · rw [if_neg hnone, if_neg hnone]
    split
    · next hnew =>
        constructor
        · intro hsame
          have hflag : true = b.tagPresentFlag := congrArg Watched.tagPresentFlag hsame
          have htoy : b.dl.tagUid = b.toy := congrArg Watched.toy hsame
          exact ⟨hflag.symm, .inr htoy.symm⟩
        · rintro ⟨hflag, hseen⟩
          have hother : b.previousTagUid.take 16 ≠ b.dl.tagUid.take 16 :=
            hnew.resolve_left fun hno => hno hflag
          have htoy : b.toy = b.dl.tagUid := hseen.resolve_left hother
          simp [watched, setToy, hflag, htoy]
    · next hold =>
        have hflag : b.tagPresentFlag = true := by
          by_contra hno
          exact hold (.inl hno)
        have hseen : b.previousTagUid.take 16 = b.dl.tagUid.take 16 := by
          by_contra hno
          exact hold (.inr hno)
        refine iff_of_true ?_ ⟨hflag, .inl hseen⟩
        simp [watched, hflag]

/-- **What a read frame changes**, whatever it is answered. -/
theorem readFrame_watched (b : Box) (now : ℕ) (data : Bytes) :
    (b.readFrame now data).watched = b.watched ↔ b.NothingNew data := by
  have hvalues := trackTag_values { b with
    dl := b.dl.frame (frameUid data)
    batteryLevel := byteAt data 8
    chargingState := byteAt data 9 } now
  have htag := trackTag_watched { b with
    dl := b.dl.frame (frameUid data)
    batteryLevel := byteAt data 8
    chargingState := byteAt data 9 } now
  constructor
  · intro hsame
    have hbattery : byteAt data 8 = b.batteryLevel :=
      hvalues.2.1.symm.trans (congrArg Watched.batteryLevel hsame)
    have hcharging : byteAt data 9 = b.chargingState :=
      hvalues.2.2.symm.trans (congrArg Watched.chargingState hsame)
    refine ⟨hbattery, hcharging, htag.1 (hsame.trans ?_)⟩
    simp only [watched, hbattery, hcharging]
  · rintro ⟨hbattery, hcharging, hold⟩
    refine (htag.2 hold).trans ?_
    simp only [watched, hbattery, hcharging]

end Box

namespace QBSlave

/-- A write frame that is refused does nothing. -/
theorem app_refused {q : QBSlave Box} (hsize : q.framBuffLen = 100)
    (hwrite : byteAt q.frameBuffer 0 = 0x02) {now : ℕ} (herr : q.AnsweredWithError now) :
    (qbSlaveProcessFrame q now).app = q.app := by
  have hread : byteAt q.frameBuffer 0 ≠ 0x01 := by
    rw [hwrite]
    decide
  have hcode := reply_code (by omega) (.inr hwrite) now
  unfold AnsweredWithError at herr
  rw [hcode, hwrite] at herr
  have hfails : callbackFails q.frameBuffer now q.app := by
    by_contra hok
    rw [if_neg hok] at herr
    exact herr (by decide)
  unfold callbackFails at hfails
  rw [if_neg hread] at hfails
  have hunknown : Box.writeReg? (word (byteAt q.frameBuffer 1) (byteAt q.frameBuffer 2))
      (word (byteAt q.frameBuffer 3) (byteAt q.frameBuffer 4)) = none := by
    by_contra hknown
    refine hfails (if_pos ?_)
    rw [Option.isSome_iff_ne_none]
    exact hknown
  show (replyBody q.frameBuffer now q.app).app = q.app
  unfold replyBody
  rw [if_neg hread, if_pos hwrite]
  show q.app.writeFrame now _ _ _ = q.app
  unfold Box.writeFrame
  rw [hunknown]

/-- **A request answered with an error** has no effect unless it is a read frame that reports
something new. -/
theorem error_watched_iff {q : QBSlave Box} (hsize : q.framBuffLen = 100) {now : ℕ}
    (herr : q.AnsweredWithError now) :
    (qbSlaveProcessFrame q now).app.watched = q.app.watched ↔
      (byteAt q.frameBuffer 0 = 0x01 → q.app.NothingNew (q.frameBuffer.drop 5)) := by
  by_cases hread : byteAt q.frameBuffer 0 = 0x01
  · rw [app_read hread, Box.readFrame_watched]
    exact ⟨fun hnothing _ => hnothing, fun hnothing => hnothing hread⟩
  · refine iff_of_true ?_ fun hcode => absurd hcode hread
    by_cases hwrite : byteAt q.frameBuffer 0 = 0x02
    · rw [app_refused hsize hwrite herr]
    · -- another function code reaches no callback
      have happ : (qbSlaveProcessFrame q now).app = q.app := by
        show (replyBody q.frameBuffer now q.app).app = q.app
        unfold replyBody
        rw [if_neg hread, if_neg hwrite]
      rw [happ]

/-! ## Requests to a box at its start -/

/-- A read request: address and number of registers, UID, battery level and charging state. -/
def readRequest (header uid power : Bytes) : Bytes :=
  (0x01 :: header ++ uid ++ power) ++ checkBytes (0x01 :: header ++ uid ++ power)

/-- The last two registers, with a tag. -/
def powerRequest : Bytes := readRequest [0x10, 0x09, 0x00, 0x02] (List.replicate 8 0xAB) [80, 1]

/-- A register that is not there, with a battery level. -/
def badRequest : Bytes := readRequest [0x00, 0x00, 0x00, 0x01] (List.replicate 8 0) [80, 0]

/-- A register that is not there, and nothing new. -/
def quietRequest : Bytes := readRequest [0x00, 0x00, 0x00, 0x01] (List.replicate 8 0) [0, 0]

theorem readRequest_valid {request header uid power : Bytes}
    (h : request = readRequest header uid power) (hheader : header.length = 4)
    (huid : uid.length = 8) (hpower : power.length = 2) : ValidRequest request where
  long := by simp [h, readRequest, hheader, huid, hpower, length_checkBytes]
  short := by simp [h, readRequest, hheader, huid, hpower, length_checkBytes]
  start := .inl (by rw [h]; rfl)
  checksum := by
    rw [h]
    exact crc16Get_append_checkBytes _

theorem requestRun_size (request : Bytes) : (Box.requestRun request).slave.framBuffLen = 100 :=
  (Receiving.keeps_run (by simp) 0 Box.emptyBattery (Receiving.streamEvents request)).len

theorem powerRequest_valid : ValidRequest powerRequest := readRequest_valid rfl rfl rfl rfl

theorem reply_read_powerRequest : ReadServed (Box.requestRun powerRequest).slave powerRequest 10000 :=
  reply_read (requestRun_size _) (Box.requestRun_processes powerRequest_valid).2 (by decide) rfl 10000

/-- A read at address 0 is answered with an error. -/
theorem requestRun_error {request : Bytes} (uid power : Bytes)
    (h : request = readRequest [0x00, 0x00, 0x00, 0x01] uid power) (huid : uid.length = 8)
    (hpower : power.length = 2) :
    (Box.requestRun request).slave.Processes 10000 ∧
      (Box.requestRun request).slave.AnsweredWithError 10000 := by
  have hvalid := readRequest_valid h rfl huid hpower
  obtain ⟨hproc, hholds⟩ := Box.requestRun_processes hvalid
  have hsize := requestRun_size request
  have hlong := hvalid.long
  refine ⟨hproc, ?_⟩
  generalize Box.requestRun request = r at *
  have hread : byteAt r.slave.frameBuffer 0 = 0x01 := by
    rw [hholds.byteAt_eq (by omega), h]
    rfl
  have hout : ¬ InWindow r.slave.frameBuffer := by
    have haddress : requestAddress r.slave.frameBuffer = 0 := by
      rw [hholds.requestAddress_eq (by omega), h]
      show word 0 0 = 0
      decide
    intro hin
    rw [InWindow, haddress] at hin
    omega
  unfold AnsweredWithError
  rw [(reply_error (by omega) hread hout 10000).2.1]
  decide

/-- A read of a register that is not there sets the battery level. -/
theorem badRequest_applied :
    ¬ ∀ (es : List (QBusEvent Box)) (r : Receiving Box),
      r = Box.busRun Box.emptyBattery (List.replicate 100 0) 0 es → ∀ now, r.slave.Processes now →
        r.slave.AnsweredWithError now →
          (qbSlaveProcessFrame r.slave now).app.watched = r.slave.app.watched := by
  intro h
  obtain ⟨hproc, herr⟩ : (Box.requestRun badRequest).slave.Processes 10000 ∧
      (Box.requestRun badRequest).slave.AnsweredWithError 10000 :=
    requestRun_error (List.replicate 8 0) [80, 0] rfl rfl rfl
  have hsame := h (Receiving.streamEvents badRequest) (Box.requestRun badRequest) rfl 10000 hproc herr
  have hlevel := congrArg Box.Watched.batteryLevel hsame
  revert hlevel
  decide +kernel

theorem error_watched_iff_quietRequest :
    (qbSlaveProcessFrame (Box.requestRun quietRequest).slave 10000).app.watched =
      (Box.requestRun quietRequest).slave.app.watched := by
  have herr : (Box.requestRun quietRequest).slave.AnsweredWithError 10000 :=
    (requestRun_error (List.replicate 8 0) [0, 0] rfl rfl rfl).2
  have hnothing : (Box.requestRun quietRequest).slave.app.NothingNew
      ((Box.requestRun quietRequest).slave.frameBuffer.drop 5) := by
    refine ⟨?_, ?_, ?_⟩
    · decide +kernel
    · decide +kernel
    · unfold Box.SameTag
      decide +kernel
  exact (error_watched_iff (requestRun_size _) herr).2 fun _ => hnothing

end QBSlave

end Cubbies
