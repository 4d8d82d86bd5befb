import Cubbies.Qbus

set_option autoImplicit false

/-! # What the frame check detects

`QBSlaveValidateFrame` accepts a frame when the register of `Crc16` ends at zero on it. Flipping bits
adds the register's value on the error pattern alone (`crc16Get_flipBits`), so an error is detected
exactly when that value is not zero. -/

namespace Cubbies

open CString

/-- The errors the check is meant for, as sets of bit positions in serial order. -/
inductive Detectable (flipped : Finset ℕ) : Prop
  | odd : Odd flipped.card → Detectable flipped
  | two : flipped.card = 2 → Detectable flipped
  | burst (p : ℕ) : (∀ k ∈ flipped, p ≤ k ∧ k < p + 16) → Detectable flipped

theorem run_errorBits_of_detectable {flipped : Finset ℕ} {n : ℕ} (hn : ∀ k ∈ flipped, k < n)
    (hlen : n ≤ 800) (hne : flipped.Nonempty) (herr : Detectable flipped) :
    ShiftRegister.run crc16Poly 0#16 (errorBits flipped 0 n) ≠ 0#16 := by
  rcases herr with hodd | htwo | ⟨p, hburst⟩
  · exact run_errorBits_of_odd flipped n hn hodd
  · exact run_errorBits_of_two flipped n hn hlen htwo
  · exact run_errorBits_of_burst flipped n p hn hne hburst

namespace QBSlave

variable {σ : Type*}

theorem validateFrame_iff {q : QBSlave σ} {f : Bytes} (h : q.Holds f) :
    qbSlaveValidateFrame q = true ↔ 7 ≤ f.length ∧ crc16Get f = 0 := by
  obtain ⟨hcount, htake⟩ := h
  unfold qbSlaveValidateFrame
  rw [hcount, htake]
  by_cases hshort : f.length < 7
  · simp [hshort]
  · rw [if_neg hshort, decide_eq_true_eq]
    exact ⟨fun hcrc => ⟨by omega, hcrc⟩, fun h => h.2⟩

/-- **Error detection.** -/
theorem validateFrame_flipBits {q q' : QBSlave σ} {f : Bytes} {flipped : Finset ℕ}
    (hlen : f.length ≤ 100) (hq : q.Holds f) (hq' : q'.Holds (flipBits flipped f))
    (hbits : ∀ k ∈ flipped, k < 8 * f.length) (hne : flipped.Nonempty)
    (herr : Detectable flipped) (hok : qbSlaveValidateFrame q = true) :
    qbSlaveValidateFrame q' = false := by
  obtain ⟨-, hcrc⟩ := (validateFrame_iff hq).1 hok
  have hrun := run_errorBits_of_detectable hbits (by omega) hne herr
  rw [← Bool.not_eq_true, validateFrame_iff hq']
  rintro ⟨-, hcrc'⟩
  have hflip := crc16Get_flipBits flipped f
  rw [hcrc, hcrc', UInt16.toBitVec_zero, BitVec.zero_xor] at hflip
  exact hrun hflip.symm

/-- A slave that has received `frame`. -/
def holding (frame : Bytes) : QBSlave Unit :=
  { qbSlaveInit 0 frame () with recvByteCount := frame.length }

theorem holding_holds (frame : Bytes) : (holding frame).Holds frame := ⟨rfl, List.take_length⟩

/-- A read of one register with two of its bits flipped, in the first and in the last byte. -/
theorem validateFrame_flipBits_two :
    qbSlaveValidateFrame
      (holding (flipBits {0, 55} [0x01, 0x10, 0x00, 0x00, 0x01, 0xDC, 0xC0])) = false :=
  validateFrame_flipBits (by decide) (holding_holds [0x01, 0x10, 0x00, 0x00, 0x01, 0xDC, 0xC0])
    (holding_holds _) (by decide) (by decide) (.two (by decide)) (by decide +kernel)

end QBSlave

end Cubbies
