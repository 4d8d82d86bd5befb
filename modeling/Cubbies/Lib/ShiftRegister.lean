import Mathlib.Algebra.Field.ZMod
import Mathlib.Algebra.BigOperators.Fin
import Mathlib.Logic.Function.Iterate
import Mathlib.Data.BitVec
import Mathlib.Data.List.GetD

set_option autoImplicit false

/-! # Right-shifting feedback registers over GF(2)

A register of `w` bits that shifts right and adds the mask `poly` whenever a set bit leaves: the
arithmetic of every reflected CRC. `shift` is one clock, `run` clocks a list of bits in, each added
to the lowest bit first.

Three facts carry the error-detection results. The register is linear (`run_zipWith_xor`), so what
an error pattern does to the remainder does not depend on the data. It loses nothing when the top
bit of `poly` is set (`shift_injective`), which gives bursts (`run_burst_ne_zero`). It keeps the sum
of its bits when `poly` has an odd number of them (`parity_run`), which gives odd errors. Two-bit
errors come down to the order of `1` under `shift` (`run_pair_ne_zero`). -/

namespace ShiftRegister

variable {w : ℕ}

/-! ## The register -/

/-- One clock: shift right, adding `poly` if the bit that leaves is set. -/
def shift (poly c : BitVec w) : BitVec w :=
  if c.getLsbD 0 then (c >>> 1) ^^^ poly else c >>> 1

/-- Add the bit `b` to the lowest place and clock once. -/
def feed (poly c : BitVec w) (b : Bool) : BitVec w :=
  shift poly (c ^^^ BitVec.ofNat w b.toNat)

/-- Clock a whole list of bits in, first bit first. -/
def run (poly c : BitVec w) (bits : List Bool) : BitVec w :=
  bits.foldl (feed poly) c

/-- The bits of a list as a word, first bit lowest. -/
def word (w : ℕ) (bits : List Bool) : BitVec w :=
  (BitVec.ofBoolListLE bits).setWidth w

@[simp] theorem run_nil (poly c : BitVec w) : run poly c [] = c := rfl

@[simp] theorem run_cons (poly c : BitVec w) (b : Bool) (bs : List Bool) :
    run poly c (b :: bs) = run poly (feed poly c b) bs := rfl

theorem run_append (poly c : BitVec w) (bs bs' : List Bool) :
    run poly c (bs ++ bs') = run poly (run poly c bs) bs' := by
  simp [run, List.foldl_append]

theorem getLsbD_word (bits : List Bool) (i : ℕ) :
    (word w bits).getLsbD i = (decide (i < w) && bits.getD i false) := by
  simp [word]

@[simp] theorem word_nil : word w [] = 0#w := by
  apply BitVec.eq_of_getLsbD_eq
  intro i _
  simp [getLsbD_word]

theorem getLsbD_bit (b : Bool) (i : ℕ) :
    (BitVec.ofNat w b.toNat).getLsbD i = (decide (0 < w) && decide (i = 0) && b) := by
  cases b <;> simp

/-! ## Linearity -/

theorem xor_xor_cancel (a b p : BitVec w) : a ^^^ p ^^^ (b ^^^ p) = a ^^^ b := by
  rw [BitVec.xor_assoc, BitVec.xor_comm b p, ← BitVec.xor_assoc p p b, BitVec.xor_self,
    BitVec.zero_xor]

theorem shift_xor (poly a b : BitVec w) :
    shift poly (a ^^^ b) = shift poly a ^^^ shift poly b := by
  unfold shift
  rw [BitVec.getLsbD_xor, BitVec.ushiftRight_xor_distrib]
  cases a.getLsbD 0 <;> cases b.getLsbD 0 <;>
    simp only [Bool.xor_false, Bool.xor_true, Bool.not_true, Bool.not_false, Bool.false_eq_true,
      if_true, if_false]
  · rw [BitVec.xor_assoc]
  · rw [BitVec.xor_assoc, BitVec.xor_comm (b >>> 1) poly, BitVec.xor_assoc]
  · rw [xor_xor_cancel]

@[simp] theorem shift_zero (poly : BitVec w) : shift poly 0#w = 0#w := by
  simp [shift]

theorem iterate_shift_zero (poly : BitVec w) (n : ℕ) : (shift poly)^[n] 0#w = 0#w :=
  Function.iterate_fixed (shift_zero poly) n

@[simp] theorem feed_false (poly c : BitVec w) : feed poly c false = shift poly c := by
  simp [feed]

theorem feed_xor (poly a b : BitVec w) (x y : Bool) :
    feed poly (a ^^^ b) (x ^^ y) = feed poly a x ^^^ feed poly b y := by
  have hbit : BitVec.ofNat w (x ^^ y).toNat =
      BitVec.ofNat w x.toNat ^^^ BitVec.ofNat w y.toNat := by
    cases x <;> cases y <;> simp
  unfold feed
  rw [hbit, ← shift_xor]
  congr 1
  ac_rfl

/-- The register adds: the run of a sum is the sum of the runs. -/
theorem run_zipWith_xor (poly : BitVec w) (u v : List Bool) (hlen : u.length = v.length)
    (a b : BitVec w) :
    run poly (a ^^^ b) (List.zipWith xor u v) = run poly a u ^^^ run poly b v := by
  induction u generalizing v a b with
  | nil =>
      obtain rfl : v = [] := List.eq_nil_of_length_eq_zero hlen.symm
      rfl
  | cons x u ih =>
      cases v with
      | nil => simp at hlen
      | cons y v =>
          simp only [List.zipWith_cons_cons, run_cons, feed_xor]
          exact ih v (by simpa using hlen) _ _

@[simp] theorem run_replicate_false (poly c : BitVec w) (n : ℕ) :
    run poly c (List.replicate n false) = (shift poly)^[n] c := by
  induction n generalizing c with
  | zero => rfl
  | succ n ih =>
      rw [List.replicate_succ, run_cons, feed_false, ih, Function.iterate_succ_apply]

/-! ## A block of bits at once -/

/-- A word whose top bit is clear comes back from one place up. -/
theorem shift_shiftLeft (poly x : BitVec w) (hx : x.getLsbD (w - 1) = false) :
    shift poly (x <<< 1) = x := by
  have hlow : (x <<< 1).getLsbD 0 = false := by simp
  unfold shift
  rw [hlow, if_neg Bool.false_ne_true]
  apply BitVec.eq_of_getLsbD_eq
  intro i hi
  rw [BitVec.getLsbD_ushiftRight, BitVec.getLsbD_shiftLeft]
  by_cases htop : i = w - 1
  · subst htop
    rw [hx]
    have : ¬ 1 + (w - 1) < w := by omega
    simp [this]
  · have : 1 + i < w := by omega
    simp [this]

theorem word_cons (b : Bool) (bs : List Bool) :
    word w (b :: bs) = BitVec.ofNat w b.toNat ^^^ (word w bs <<< 1) := by
  apply BitVec.eq_of_getLsbD_eq
  intro i hi
  have hw : 0 < w := by omega
  rw [BitVec.getLsbD_xor, getLsbD_bit, BitVec.getLsbD_shiftLeft, getLsbD_word, getLsbD_word]
  cases i with
  | zero => simp [hw]
  | succ i =>
      have : i < w := by omega
      simp [hi, this]

/-- Clocking in at most `w` bits one by one is adding them as a word and clocking as often. -/
theorem run_eq_iterate (poly : BitVec w) (bits : List Bool) (hlen : bits.length ≤ w)
    (c : BitVec w) : run poly c bits = (shift poly)^[bits.length] (c ^^^ word w bits) := by
  induction bits generalizing c with
  | nil => simp
  | cons b bs ih =>
      simp only [List.length_cons] at hlen
      have htop : (word w bs).getLsbD (w - 1) = false := by
        rw [getLsbD_word, List.getD_eq_default _ _ (by omega), Bool.and_false]
      rw [run_cons, ih (by omega), List.length_cons, Function.iterate_succ_apply, word_cons,
        ← BitVec.xor_assoc, shift_xor poly (c ^^^ _) (word w bs <<< 1), shift_shiftLeft poly _ htop]
      rfl

/-- Feeding a register its own contents clears it. -/
theorem run_word_self (poly : BitVec w) (bits : List Bool) (hlen : bits.length ≤ w) :
    run poly (word w bits) bits = 0#w := by
  rw [run_eq_iterate poly bits hlen, BitVec.xor_self, iterate_shift_zero]

/-! ## Nothing is lost -/

theorem shift_injective (poly : BitVec w) (hpoly : poly.getLsbD (w - 1) = true) :
    Function.Injective (shift poly) := by
  -- the top bit of the image tells whether `poly` was added, so the leaving bit is known
  have htop : ∀ c : BitVec w, (shift poly c).getLsbD (w - 1) = c.getLsbD 0 := by
    intro c
    have hout : (c >>> 1).getLsbD (w - 1) = false := by
      rw [BitVec.getLsbD_ushiftRight]
      exact BitVec.getLsbD_of_ge _ _ (by omega)
    unfold shift
    split
    · next h => rw [BitVec.getLsbD_xor, hout, hpoly, h]; rfl
    · next h => rw [hout]; exact (Bool.eq_false_iff.2 h).symm
  intro a b hab
  have h0 : a.getLsbD 0 = b.getLsbD 0 := by rw [← htop a, ← htop b, hab]
  have hshift : a >>> 1 = b >>> 1 := by
    unfold shift at hab
    rw [h0] at hab
    split at hab
    · have h := congrArg (· ^^^ poly) hab
      simpa [BitVec.xor_assoc] using h
    · exact hab
  apply BitVec.eq_of_getLsbD_eq
  intro i hi
  cases i with
  | zero => exact h0
  | succ i =>
      have h := congrArg (·.getLsbD i) hshift
      simpa [BitVec.getLsbD_ushiftRight, Nat.add_comm] using h

theorem iterate_shift_eq_zero (poly : BitVec w) (hpoly : poly.getLsbD (w - 1) = true) (n : ℕ)
    {c : BitVec w} (h : (shift poly)^[n] c = 0#w) : c = 0#w :=
  ((shift_injective poly hpoly).iterate n) (h.trans (iterate_shift_zero poly n).symm)

/-- A register is cleared by its own contents only. -/
theorem run_eq_zero_iff (poly : BitVec w) (hpoly : poly.getLsbD (w - 1) = true) {bits : List Bool}
    (hlen : bits.length ≤ w) (c : BitVec w) : run poly c bits = 0#w ↔ word w bits = c := by
  constructor
  · intro h
    rw [run_eq_iterate poly bits hlen] at h
    have hsum : c ^^^ word w bits = 0#w := iterate_shift_eq_zero poly hpoly _ h
    exact (BitVec.xor_eq_zero_iff.1 hsum).symm
  · intro h
    rw [← h]
    exact run_word_self poly bits hlen

/-- A word tells its bits. -/
theorem word_inj {bits bits' : List Bool} (hlen : bits.length ≤ w) (hsame : bits.length = bits'.length)
    (h : word w bits = word w bits') : bits = bits' := by
  apply List.ext_getElem hsame
  intro i hi hi'
  have hbit := congrArg (fun c => c.getLsbD i) h
  simp only [getLsbD_word, List.getD_eq_getElem _ _ hi, List.getD_eq_getElem _ _ hi'] at hbit
  have hin : decide (i < w) = true := decide_eq_true (by omega)
  simpa [hin] using hbit

/-- **Bursts.** A pattern whose set bits lie within `w` consecutive places leaves a remainder. -/
theorem run_burst_ne_zero (poly : BitVec w) (hpoly : poly.getLsbD (w - 1) = true)
    (k m : ℕ) (burst : List Bool) (hlen : burst.length ≤ w) (hset : true ∈ burst) :
    run poly 0#w (List.replicate k false ++ burst ++ List.replicate m false) ≠ 0#w := by
  intro h
  rw [run_append, run_append, run_replicate_false, run_replicate_false,
    iterate_shift_zero] at h
  have hburst : run poly 0#w burst = 0#w := iterate_shift_eq_zero poly hpoly m h
  rw [run_eq_iterate poly burst hlen, BitVec.zero_xor] at hburst
  have hword : word w burst = 0#w := iterate_shift_eq_zero poly hpoly _ hburst
  obtain ⟨i, hi, hbit⟩ := List.getElem_of_mem hset
  have h0 : (word w burst).getLsbD i = false := by rw [hword]; simp
  rw [getLsbD_word, List.getD_eq_getElem _ _ hi, hbit] at h0
  simp only [Bool.and_true, decide_eq_false_iff_not] at h0
  omega

/-- **Two bits.** Two set bits `d` places apart leave a remainder unless `d` clocks take `1` back
to `1`. -/
theorem run_pair_ne_zero (poly : BitVec w) (hpoly : poly.getLsbD (w - 1) = true)
    (k d m : ℕ) (hd : (shift poly)^[d + 1] 1#w ≠ 1#w) :
    run poly 0#w (List.replicate k false ++ true :: (List.replicate d false ++
      true :: List.replicate m false)) ≠ 0#w := by
  intro h
  have hfirst : feed poly 0#w true = shift poly 1#w := by simp [feed]
  rw [run_append, run_replicate_false, iterate_shift_zero, run_cons, hfirst, run_append,
    run_replicate_false, run_cons, run_replicate_false, ← Function.iterate_succ_apply] at h
  have hsecond : feed poly ((shift poly)^[d + 1] 1#w) true = 0#w :=
    iterate_shift_eq_zero poly hpoly m h
  have hsum : (shift poly)^[d + 1] 1#w ^^^ 1#w = 0#w :=
    iterate_shift_eq_zero poly hpoly 1 hsecond
  exact hd (BitVec.xor_eq_zero_iff.1 hsum)

/-! ## Parity -/

/-- The sum of a word's bits, in `ZMod 2`. -/
def parity (c : BitVec w) : ZMod 2 :=
  ∑ i : Fin w, if c.getLsbD i then 1 else 0

theorem bit_xor (x y : Bool) :
    (if x ^^ y then (1 : ZMod 2) else 0) = (if x then 1 else 0) + (if y then 1 else 0) := by
  cases x <;> cases y <;> decide

theorem parity_xor (a b : BitVec w) : parity (a ^^^ b) = parity a + parity b := by
  unfold parity
  rw [← Finset.sum_add_distrib]
  exact Finset.sum_congr rfl fun i _ => by rw [BitVec.getLsbD_xor, bit_xor]

@[simp] theorem parity_zero : parity 0#w = 0 := by simp [parity]

theorem parity_bit (hw : 0 < w) (b : Bool) :
    parity (BitVec.ofNat w b.toNat) = if b then 1 else 0 := by
  obtain ⟨n, rfl⟩ : ∃ n, w = n + 1 := ⟨w - 1, by omega⟩
  unfold parity
  simp only [getLsbD_bit]
  rw [Fin.sum_univ_succ]
  simp

/-- Shifting right takes the lowest bit out of the sum. -/
theorem parity_eq_ushiftRight (c : BitVec w) :
    parity c = (if c.getLsbD 0 then (1 : ZMod 2) else 0) + parity (c >>> 1) := by
  cases w with
  | zero => simp [parity, BitVec.getLsbD_of_ge]
  | succ n =>
      unfold parity
      rw [Fin.sum_univ_succ, Fin.sum_univ_castSucc (n := n)]
      simp [Nat.add_comm]

theorem parity_shift (poly c : BitVec w) (hpoly : parity poly = 1) :
    parity (shift poly c) = parity c := by
  unfold shift
  rw [parity_eq_ushiftRight c]
  split
  · rw [parity_xor, hpoly, add_comm]
  · rw [zero_add]

/-- **Parity.** A mask with an odd number of bits keeps the sum of all bits clocked in. -/
theorem parity_run (poly : BitVec w) (hw : 0 < w) (hpoly : parity poly = 1) (bits : List Bool)
    (c : BitVec w) :
    parity (run poly c bits) = parity c + (bits.map fun b => if b then (1 : ZMod 2) else 0).sum := by
  induction bits generalizing c with
  | nil => simp
  | cons b bs ih =>
      rw [run_cons, ih, feed, parity_shift poly _ hpoly, parity_xor, parity_bit hw, List.map_cons,
        List.sum_cons, add_assoc]

end ShiftRegister
