import Cubbies.Proofs.FrameCheck
import Cubbies.Proofs.ReplyIntegrity

set_option autoImplicit false

/-! # The replies the slave builds

`QBSlaveProcessFrame` writes its reply over the request. The body keeps the four bytes of the address
and of the register length, since the first byte that changes behind the function code is that at index
5, and it has at most 16 bytes, since no more than the 11 registers can be asked for
(`replyBody_spec`). Its check bytes are the only two that make the whole a frame
(`crc16Get_append_eq_zero_iff`). -/

namespace Cubbies

open CString

/-- Bytes below the place where something is stored stay. -/
theorem byteAt_writeAt {buffer : Bytes} {i n : ℕ} (h : i < n) (bytes : Bytes) :
    byteAt (writeAt buffer n bytes) i = byteAt buffer i := by
  induction bytes generalizing buffer n with
  | nil => rfl
  | cons b bs ih =>
      rw [writeAt, ih (by omega)]
      simp [byteAt, List.getD_eq_getElem?_getD, List.getElem?_set_ne (show n ≠ i by omega)]

theorem byteAt_set {buffer : Bytes} {i n : ℕ} (h : i ≠ n) (b : UInt8) :
    byteAt (buffer.set n b) i = byteAt buffer i := by
  simp [byteAt, List.getD_eq_getElem?_getD, List.getElem?_set_ne h.symm]

theorem byteAt_set_self {buffer : Bytes} {n : ℕ} (h : n < buffer.length) (b : UInt8) :
    byteAt (buffer.set n b) n = b := by
  simp [byteAt, List.getD_eq_getElem?_getD, h]

theorem byteAt_take_append {s t : Bytes} {n i : ℕ} (hi : i < n) (hn : n ≤ s.length) :
    byteAt (s.take n ++ t) i = byteAt s i := by
  have hin : i < (s.take n).length := by
    rw [List.length_take]
    omega
  simp only [byteAt, List.getD_eq_getElem?_getD, List.getElem?_append_left hin,
    List.getElem?_take_of_lt hi]

section

variable {σ : Type*} [QBusApp σ]

/-- The register callback for the request in `buffer` returns an error code. -/
def callbackFails (buffer : Bytes) (now : ℕ) (app : σ) : Prop :=
  let address := word (byteAt buffer 1) (byteAt buffer 2)
  let regLen := word (byteAt buffer 3) (byteAt buffer 4)
  if byteAt buffer 0 = 0x01 then
    qbusRegReadCb address regLen
      (QBusApp.registers (QBusApp.readFrame app now (buffer.drop 5))) = none
  else (QBusApp.regWriteCb app now address regLen (buffer.drop 5)).1 ≠ .success

instance (buffer : Bytes) (now : ℕ) (app : σ) : Decidable (callbackFails buffer now app) := by
  unfold callbackFails
  exact inferInstance

/-- The body `r` of a reply to the request in `buffer`. -/
structure BodyFor (buffer : Bytes) (now : ℕ) (app : σ) (r : Reply σ) : Prop where
  long : 5 ≤ r.totalByteToSend
  header : ∀ i, 1 ≤ i → i ≤ 4 → byteAt r.buffer i = byteAt buffer i
  code : byteAt r.buffer 0 =
    if callbackFails buffer now app then 0x80 ||| byteAt buffer 0 else byteAt buffer 0

/-- A body of the function code, the header, and one byte behind them. -/
theorem bodyFor_code {buffer : Bytes} {now : ℕ} {app : σ} {code : UInt8}
    (hsize : 18 ≤ buffer.length)
    (hcode : code = if callbackFails buffer now app then 0x80 ||| byteAt buffer 0 else byteAt buffer 0)
    (retCode : UInt8) (app' : σ) :
    BodyFor buffer now app ⟨(buffer.set 0 code).set 5 retCode, 6, app'⟩ where
  long := Nat.le_succ 5
  header := by
    intro i hlow hhigh
    rw [byteAt_set (by omega), byteAt_set (by omega)]
  code := by
    rw [byteAt_set (by omega), byteAt_set_self (by omega)]
    exact hcode

/-- **The body of a reply.** -/
theorem replyBody_spec {buffer : Bytes} (now : ℕ) (app : σ) (hsize : 18 ≤ buffer.length)
    (hcode : byteAt buffer 0 = 0x01 ∨ byteAt buffer 0 = 0x02) :
    BodyFor buffer now app (replyBody buffer now app) := by
  have hkeep : buffer.set 0 (byteAt buffer 0) = buffer := by
    apply List.ext_getElem?
    intro i
    by_cases hi : i = 0
    · subst hi
      have hpos : 0 < buffer.length := by omega
      simp [byteAt, List.getD_eq_getElem?_getD, hpos]
    · rw [List.getElem?_set_ne (Ne.symm hi)]
  rcases hcode with hread | hwrite
  · have hfails : callbackFails buffer now app ↔
        qbusRegReadCb (word (byteAt buffer 1) (byteAt buffer 2)) (word (byteAt buffer 3) (byteAt buffer 4))
          (QBusApp.registers (QBusApp.readFrame app now (buffer.drop 5))) = none := by
      unfold callbackFails
      dsimp only
      rw [if_pos hread]
    unfold replyBody
    dsimp only
    rw [if_pos hread]
    split
    · next regs hregs =>
        have hok : ¬ callbackFails buffer now app := by
          rw [hfails, hregs]
          simp
        refine ⟨Nat.le_add_right 5 _, ?_, ?_⟩
        · intro i _ hhigh
          exact byteAt_writeAt (by omega) regs
        · rw [if_neg hok]
          exact byteAt_writeAt (by omega) regs
    · next hnone =>
        exact bodyFor_code hsize (by rw [if_pos (hfails.2 hnone)]) _ _
  · have hread : byteAt buffer 0 ≠ 0x01 := by
      rw [hwrite]
      decide
    have hfails : callbackFails buffer now app ↔
        (QBusApp.regWriteCb app now (word (byteAt buffer 1) (byteAt buffer 2))
          (word (byteAt buffer 3) (byteAt buffer 4)) (buffer.drop 5)).1 ≠ .success := by
      unfold callbackFails
      dsimp only
      rw [if_neg hread]
    unfold replyBody
    dsimp only
    rw [if_neg hread, if_pos hwrite]
    split
    · next herr => exact bodyFor_code hsize (by rw [if_pos (hfails.2 herr)]) _ _
    · next hok =>
        let r := QBusApp.regWriteCb app now (word (byteAt buffer 1) (byteAt buffer 2))
          (word (byteAt buffer 3) (byteAt buffer 4)) (buffer.drop 5)
        have hbody := bodyFor_code hsize (by rw [if_neg fun h => hok (hfails.1 h)]) r.1.code r.2
        rw [hkeep] at hbody
        exact hbody

namespace QBSlave

/-- The bytes `QBSlaveProcessFrame` leaves to be sent. -/
def reply (q : QBSlave σ) (now : ℕ) : Bytes :=
  (qbSlaveProcessFrame q now).frameBuffer.take (qbSlaveProcessFrame q now).totalByteToSend

/-- The body `QBSlaveProcessFrame` builds before it adds the check bytes. -/
def replyData (q : QBSlave σ) (now : ℕ) : Bytes :=
  (replyBody q.frameBuffer now q.app).buffer.take (replyBody q.frameBuffer now q.app).totalByteToSend

/-- A reply to the frame that `q` has received. -/
structure WellFormedReply (q : QBSlave σ) (now : ℕ) : Prop where
  long : 7 ≤ (q.reply now).length
  short : (q.reply now).length ≤ 18
  accepted : qbSlaveValidateFrame { qbSlaveProcessFrame q now with
    recvByteCount := (qbSlaveProcessFrame q now).totalByteToSend } = true
  header : ∀ i, 1 ≤ i → i ≤ 4 → byteAt (q.reply now) i = byteAt q.frameBuffer i
  code : byteAt (q.reply now) 0 =
    if callbackFails q.frameBuffer now q.app then 0x80 ||| byteAt q.frameBuffer 0
    else byteAt q.frameBuffer 0
  ending : q.reply now = q.replyData now ++
    [(crc16Get (q.replyData now) &&& 0x00ff).toUInt8, (crc16Get (q.replyData now) >>> 8).toUInt8]
  only : ∀ (q' : QBSlave σ) (lo hi : UInt8), q'.Holds (q.replyData now ++ [lo, hi]) →
    qbSlaveValidateFrame q' = true → q.replyData now ++ [lo, hi] = q.reply now

theorem length_replyData {q : QBSlave σ} (hsize : 18 ≤ q.framBuffLen) (now : ℕ) :
    (q.replyData now).length = (replyBody q.frameBuffer now q.app).totalByteToSend := by
  have htotal := replyBody_total_le q.frameBuffer now q.app
  have hlen := replyBody_length q.frameBuffer now q.app
  have hbuffer := q.size
  unfold replyData
  rw [List.length_take]
  omega

/-- A reply is its body and the check bytes. -/
theorem reply_eq {q : QBSlave σ} (hsize : 18 ≤ q.framBuffLen) (now : ℕ) :
    q.reply now = q.replyData now ++ checkBytes (q.replyData now) :=
  processFrame_reply now q.app (by rw [q.size]; exact hsize)

/-- The header is that of the body. -/
theorem byteAt_reply {q : QBSlave σ} (hsize : 18 ≤ q.framBuffLen)
    (hcode : byteAt q.frameBuffer 0 = 0x01 ∨ byteAt q.frameBuffer 0 = 0x02) (now : ℕ) {i : ℕ}
    (hi : i < 5) : byteAt (q.reply now) i = byteAt (replyBody q.frameBuffer now q.app).buffer i := by
  have hbuffer : 18 ≤ q.frameBuffer.length := by
    rw [q.size]
    exact hsize
  obtain ⟨hlong, -, -⟩ := replyBody_spec now q.app hbuffer hcode
  have htotal := replyBody_total_le q.frameBuffer now q.app
  rw [reply_eq hsize now]
  refine byteAt_take_append (by omega) ?_
  rw [replyBody_length]
  omega

/-- An error sets the top bit of the function code. -/
theorem reply_code {q : QBSlave σ} (hsize : 18 ≤ q.framBuffLen)
    (hcode : byteAt q.frameBuffer 0 = 0x01 ∨ byteAt q.frameBuffer 0 = 0x02) (now : ℕ) :
    byteAt (q.reply now) 0 =
      if callbackFails q.frameBuffer now q.app then 0x80 ||| byteAt q.frameBuffer 0
      else byteAt q.frameBuffer 0 := by
  have hbuffer : 18 ≤ q.frameBuffer.length := by
    rw [q.size]
    exact hsize
  obtain ⟨-, -, hfirst⟩ := replyBody_spec now q.app hbuffer hcode
  rw [byteAt_reply hsize hcode now (by omega)]
  exact hfirst

/-- **Well-formed replies.** Whatever read or write is asked for, the reply is a frame. -/
theorem reply_wellFormed {q : QBSlave σ} (hsize : 18 ≤ q.framBuffLen)
    (hcode : byteAt q.frameBuffer 0 = 0x01 ∨ byteAt q.frameBuffer 0 = 0x02) (now : ℕ) :
    WellFormedReply q now := by
  have hbuffer : 18 ≤ q.frameBuffer.length := by
    rw [q.size]
    exact hsize
  obtain ⟨hlong, hheader, -⟩ := replyBody_spec now q.app hbuffer hcode
  have htotal := replyBody_total_le q.frameBuffer now q.app
  have hdata := length_replyData hsize now
  have hreply := reply_eq hsize now
  have hlen : (q.reply now).length =
      (replyBody q.frameBuffer now q.app).totalByteToSend + 2 := by
    rw [hreply, List.length_append, hdata]
    rfl
  refine ⟨by omega, by omega, ?_, ?_, reply_code hsize hcode now, hreply, ?_⟩
  · have hholds : ({ qbSlaveProcessFrame q now with
        recvByteCount := (qbSlaveProcessFrame q now).totalByteToSend } : QBSlave σ).Holds
          (q.reply now) := by
      refine ⟨hlen.symm, ?_⟩
      rw [hlen]
      rfl
    refine (validateFrame_iff hholds).2 ⟨by omega, ?_⟩
    exact crc16Get_processFrame now q.app hbuffer
  · intro i hlow hhigh
    rw [byteAt_reply hsize hcode now (by omega)]
    exact hheader i hlow hhigh
  · intro q' lo hi hholds hvalid
    have hzero := ((validateFrame_iff hholds).1 hvalid).2
    rw [(crc16Get_append_eq_zero_iff _ lo hi).1 hzero]
    exact hreply.symm

/-- The first register is asked for in a buffer of 100 bytes. -/
theorem reply_wellFormed_sample :
    @WellFormedReply _ sampleApp
      { holding (sampleRequest ++ List.replicate 93 0) with recvByteCount := 7 } 0 :=
  @reply_wellFormed _ sampleApp _ (by decide) (.inl (by decide)) 0

end QBSlave

end

end Cubbies
