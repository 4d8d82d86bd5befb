import Cubbies.Lib.ShiftRegister

set_option autoImplicit false

/-! # The frame check sequence (`crc16.cpp`)

`Crc16GetFromSeed` is a byte-wise loop over a 16-bit register with the reflected mask `0xA001`.
`crc16GetFromSeed_toBitVec` identifies it with the bit-serial register of `Lib.ShiftRegister` fed
with the frame's bits in the order they travel: lowest bit of the first byte first. Error patterns
are stated in that order, bit `i` of byte `j` at position `8 * j + i`. -/

namespace Cubbies

/-! ## The loops of the source -/

/-- One pass of the inner loop of `Crc16GetFromSeed`. -/
def crc16Shift (crc : UInt16) : UInt16 :=
  if crc &&& 1 ≠ 0 then (crc >>> 1) ^^^ 0xA001 else crc >>> 1

/-- One pass of the outer loop: add a byte, then eight passes of the inner one. -/
def crc16Byte (crc : UInt16) (byte : UInt8) : UInt16 :=
  crc16Shift^[8] (crc ^^^ byte.toUInt16)

/-- `Crc16GetFromSeed` on the `len` bytes at `data`. -/
def crc16GetFromSeed (seed : UInt16) (data : List UInt8) : UInt16 :=
  data.foldl crc16Byte seed

/-- `Crc16Get`. -/
def crc16Get (data : List UInt8) : UInt16 :=
  crc16GetFromSeed 0xFFFF data

/-! ## The register behind the loops -/

/-- The mask of the register. -/
def crc16Poly : BitVec 16 := 0xA001#16

/-- The bits of a byte, lowest first. -/
def byteBits (byte : UInt8) : List Bool :=
  (List.range 8).map byte.toBitVec.getLsbD

/-- The bits of a frame in serial order. -/
def frameBits (frame : List UInt8) : List Bool :=
  frame.flatMap byteBits

@[simp] theorem byteBits_length (byte : UInt8) : (byteBits byte).length = 8 := by
  simp [byteBits]

@[simp] theorem frameBits_cons (b : UInt8) (bs : List UInt8) :
    frameBits (b :: bs) = byteBits b ++ frameBits bs := rfl

@[simp] theorem frameBits_length (frame : List UInt8) :
    (frameBits frame).length = 8 * frame.length := by
  induction frame with
  | nil => rfl
  | cons b bs ih => simp [ih, Nat.mul_add, Nat.add_comm]

theorem crc16Shift_toBitVec (crc : UInt16) :
    (crc16Shift crc).toBitVec = ShiftRegister.shift crc16Poly crc.toBitVec := by
  have hlow : (crc &&& 1 ≠ 0) ↔ crc.toBitVec.getLsbD 0 = true := by
    have htest : crc.toBitVec.getLsbD 0 = decide (crc.toNat % 2 = 1) := Nat.testBit_zero _
    rw [htest, decide_eq_true_eq, Ne, ← UInt16.toNat_inj, UInt16.toNat_and, UInt16.toNat_one,
      Nat.and_one_is_mod, UInt16.toNat_zero]
    omega
  unfold crc16Shift ShiftRegister.shift
  by_cases hbit : crc.toBitVec.getLsbD 0 = true
  · rw [if_pos (hlow.2 hbit), if_pos hbit]
    rfl
  · rw [if_neg (fun h => hbit (hlow.1 h)), if_neg hbit]
    rfl

theorem word_byteBits (byte : UInt8) :
    ShiftRegister.word 16 (byteBits byte) = byte.toUInt16.toBitVec := by
  apply BitVec.eq_of_getLsbD_eq
  intro i hi
  rw [ShiftRegister.getLsbD_word, UInt8.toBitVec_toUInt16, BitVec.getLsbD_setWidth]
  by_cases h8 : i < 8
  · simp [byteBits, hi, h8]
  · rw [List.getD_eq_default _ _ (by simpa using h8), BitVec.getLsbD_of_ge _ _ (by omega)]

theorem crc16Byte_toBitVec (crc : UInt16) (byte : UInt8) :
    (crc16Byte crc byte).toBitVec =
      ShiftRegister.run crc16Poly crc.toBitVec (byteBits byte) := by
  have hiter : ∀ (n : ℕ) (c : UInt16),
      (crc16Shift^[n] c).toBitVec = (ShiftRegister.shift crc16Poly)^[n] c.toBitVec := by
    intro n
    induction n with
    | zero => intro c; rfl
    | succ n ih => intro c; simp only [Function.iterate_succ_apply, ih, crc16Shift_toBitVec]
  rw [ShiftRegister.run_eq_iterate _ _ (by simp), word_byteBits, byteBits_length, crc16Byte, hiter,
    UInt16.toBitVec_xor]

/-- **The byte loop is the serial register.** -/
theorem crc16GetFromSeed_toBitVec (frame : List UInt8) (seed : UInt16) :
    (crc16GetFromSeed seed frame).toBitVec =
      ShiftRegister.run crc16Poly seed.toBitVec (frameBits frame) := by
  induction frame generalizing seed with
  | nil => rfl
  | cons b bs ih =>
      show (crc16GetFromSeed (crc16Byte seed b) bs).toBitVec = _
      rw [ih, crc16Byte_toBitVec, frameBits_cons, ShiftRegister.run_append]

theorem getD_byteBits (b : UInt8) {i : ℕ} (h : i < 8) :
    (byteBits b).getD i false = b.toBitVec.getLsbD i := by
  simp [byteBits, h]

/-- The two check bytes, low one first, hold the bits of the register. -/
theorem word_checksum (c : UInt16) :
    ShiftRegister.word 16 (frameBits [(c &&& 0x00ff).toUInt8, (c >>> 8).toUInt8]) = c.toBitVec := by
  have hbits : frameBits [(c &&& 0x00ff).toUInt8, (c >>> 8).toUInt8] =
      byteBits (c &&& 0x00ff).toUInt8 ++ byteBits (c >>> 8).toUInt8 := by
    simp [frameBits]
  have hmask : ∀ i < 8, (255#8).getLsbD i = true := by decide
  apply BitVec.eq_of_getLsbD_eq
  intro i hi
  rw [ShiftRegister.getLsbD_word, hbits, decide_eq_true hi, Bool.true_and]
  by_cases h8 : i < 8
  · rw [List.getD_append _ _ _ _ (by simpa using h8), getD_byteBits _ h8]
    have hone := hmask i h8
    simp only [BitVec.getLsbD_eq_getElem h8] at hone
    simp [h8, hone]
  · rw [List.getD_append_right _ _ _ _ (by simpa using h8), byteBits_length,
      getD_byteBits _ (by omega)]
    have hsplit : 8 + (i - 8) = i := by omega
    have hhigh : i - 8 < 8 := by omega
    simp [hsplit, hhigh]

theorem crc16Poly_top : crc16Poly.getLsbD (16 - 1) = true := by decide

theorem byteBits_inj {b b' : UInt8} (h : byteBits b = byteBits b') : b = b' := by
  apply UInt8.toBitVec_inj.1
  apply BitVec.eq_of_getLsbD_eq
  intro i hi
  rw [← getD_byteBits b hi, ← getD_byteBits b' hi, h]

/-- The check bytes of a frame, low one first. -/
def checkBytes (frame : List UInt8) : List UInt8 :=
  [(crc16Get frame &&& 0x00ff).toUInt8, (crc16Get frame >>> 8).toUInt8]

/-- **The residue.** Two bytes behind a frame leave zero in the register if they are its check bytes,
and only then. -/
theorem crc16Get_append_eq_zero_iff (frame : List UInt8) (lo hi : UInt8) :
    crc16Get (frame ++ [lo, hi]) = 0 ↔ [lo, hi] = checkBytes frame := by
  have hsplit : crc16Get (frame ++ [lo, hi]) = crc16GetFromSeed (crc16Get frame) [lo, hi] :=
    List.foldl_append
  rw [hsplit, ← UInt16.toBitVec_inj, crc16GetFromSeed_toBitVec, UInt16.toBitVec_zero,
    ShiftRegister.run_eq_zero_iff crc16Poly crc16Poly_top (by simp), ← word_checksum]
  constructor
  · intro h
    have hbits := ShiftRegister.word_inj (by simp) (by simp) h
    simp only [frameBits_cons] at hbits
    obtain ⟨hlo, hbits⟩ := List.append_inj hbits (by simp)
    obtain ⟨hhi, -⟩ := List.append_inj hbits (by simp)
    rw [byteBits_inj hlo, byteBits_inj hhi, checkBytes]
  · intro h
    rw [h, checkBytes]

theorem crc16Get_append_checkBytes (frame : List UInt8) :
    crc16Get (frame ++ checkBytes frame) = 0 :=
  (crc16Get_append_eq_zero_iff frame _ _).2 rfl

theorem parity_crc16Poly : ShiftRegister.parity crc16Poly = 1 := by decide

/-! ## Error patterns -/

/-- The byte with the bits of `flipped` at the positions of byte `j`. -/
def errorByte (flipped : Finset ℕ) (j : ℕ) : UInt8 :=
  UInt8.ofBitVec (ShiftRegister.word 8 ((List.range 8).map fun i => decide (8 * j + i ∈ flipped)))

/-- The frame whose first byte is byte `j`, with the bits at the positions `flipped` inverted. -/
def flipBitsFrom (flipped : Finset ℕ) : ℕ → List UInt8 → List UInt8
  | _, [] => []
  | j, b :: bs => (b ^^^ errorByte flipped j) :: flipBitsFrom flipped (j + 1) bs

/-- The frame with the bits at the serial positions `flipped` inverted. -/
def flipBits (flipped : Finset ℕ) (frame : List UInt8) : List UInt8 :=
  flipBitsFrom flipped 0 frame

/-- The serial error pattern of `flipped` on the `n` positions from `start`. -/
def errorBits (flipped : Finset ℕ) (start n : ℕ) : List Bool :=
  (List.range' start n).map fun k => decide (k ∈ flipped)

@[simp] theorem flipBitsFrom_length (flipped : Finset ℕ) (j : ℕ) (frame : List UInt8) :
    (flipBitsFrom flipped j frame).length = frame.length := by
  induction frame generalizing j with
  | nil => rfl
  | cons b bs ih => simp [flipBitsFrom, ih]

@[simp] theorem flipBits_length (flipped : Finset ℕ) (frame : List UInt8) :
    (flipBits flipped frame).length = frame.length :=
  flipBitsFrom_length flipped 0 frame

theorem errorBits_append (flipped : Finset ℕ) (start m n : ℕ) :
    errorBits flipped start (m + n) =
      errorBits flipped start m ++ errorBits flipped (start + m) n := by
  simp [errorBits, ← List.map_append]

theorem errorBits_eq_replicate (flipped : Finset ℕ) (start n : ℕ)
    (h : ∀ k ∈ flipped, ¬ (start ≤ k ∧ k < start + n)) :
    errorBits flipped start n = List.replicate n false := by
  refine List.eq_replicate_iff.2 ⟨by simp [errorBits], ?_⟩
  intro b hb
  obtain ⟨k, hk, rfl⟩ := List.mem_map.1 hb
  simp only [List.mem_range'_1] at hk
  exact decide_eq_false fun hmem => h k hmem hk

theorem byteBits_xor_errorByte (flipped : Finset ℕ) (j : ℕ) (b : UInt8) :
    byteBits (b ^^^ errorByte flipped j) =
      List.zipWith xor (byteBits b) (errorBits flipped (8 * j) 8) := by
  apply List.ext_getElem (by simp [errorBits])
  intro i hi _
  have h8 : i < 8 := by simpa using hi
  have hbit : (errorByte flipped j).toBitVec.getLsbD i = decide (8 * j + i ∈ flipped) := by
    rw [errorByte, UInt8.toBitVec_ofBitVec, ShiftRegister.getLsbD_word]
    simp [h8]
  simp only [byteBits, errorBits, List.getElem_map, List.getElem_range, List.getElem_zipWith,
    List.getElem_range', UInt8.toBitVec_xor, BitVec.getLsbD_xor, hbit, Nat.one_mul]

theorem frameBits_flipBitsFrom (flipped : Finset ℕ) (j : ℕ) (frame : List UInt8) :
    frameBits (flipBitsFrom flipped j frame) =
      List.zipWith xor (frameBits frame) (errorBits flipped (8 * j) (8 * frame.length)) := by
  induction frame generalizing j with
  | nil => rfl
  | cons b bs ih =>
      have hsplit : errorBits flipped (8 * j) (8 * (b :: bs).length) =
          errorBits flipped (8 * j) 8 ++ errorBits flipped (8 * (j + 1)) (8 * bs.length) := by
        rw [List.length_cons, show 8 * (bs.length + 1) = 8 + 8 * bs.length by omega,
          errorBits_append, show 8 * j + 8 = 8 * (j + 1) by omega]
      rw [hsplit]
      rw [flipBitsFrom, frameBits_cons, frameBits_cons, ih, byteBits_xor_errorByte, List.zipWith_append (by simp [errorBits])]

/-- What flipping bits does to the remainder: it adds the remainder of the error pattern alone. -/
theorem crc16Get_flipBits (flipped : Finset ℕ) (frame : List UInt8) :
    (crc16Get (flipBits flipped frame)).toBitVec =
      (crc16Get frame).toBitVec ^^^
        ShiftRegister.run crc16Poly 0#16 (errorBits flipped 0 (8 * frame.length)) := by
  rw [crc16Get, crc16Get, crc16GetFromSeed_toBitVec, crc16GetFromSeed_toBitVec, flipBits,
    frameBits_flipBitsFrom, ← ShiftRegister.run_zipWith_xor _ _ _ (by simp [errorBits]),
    BitVec.xor_zero]

/-! ## The three kinds of errors -/

/-- A pattern of an odd number of bits leaves a remainder. -/
theorem run_errorBits_of_odd (flipped : Finset ℕ) (n : ℕ) (hn : ∀ k ∈ flipped, k < n)
    (hodd : Odd flipped.card) :
    ShiftRegister.run crc16Poly 0#16 (errorBits flipped 0 n) ≠ 0#16 := by
  have hsum : ((errorBits flipped 0 n).map fun b => if b then (1 : ZMod 2) else 0).sum =
      (flipped.card : ZMod 2) := by
    have hrange : flipped = (Finset.range n).filter (· ∈ flipped) := by
      ext k
      simpa using hn k
    rw [errorBits, List.map_map, ← List.range_eq_range']
    calc ((List.range n).map _).sum
        = ∑ k ∈ Finset.range n, if k ∈ flipped then (1 : ZMod 2) else 0 := by
          rw [Finset.sum_eq_multiset_sum, Finset.range_val, Multiset.range, Multiset.map_coe,
            Multiset.sum_coe]
          simp [Function.comp_def]
      _ = (((Finset.range n).filter (· ∈ flipped)).card : ZMod 2) := by
          rw [Finset.sum_ite, Finset.sum_const_zero, add_zero, Finset.sum_const, nsmul_one]
      _ = (flipped.card : ZMod 2) := by rw [← hrange]
  intro h
  have hparity := ShiftRegister.parity_run crc16Poly (by omega) parity_crc16Poly
    (errorBits flipped 0 n) 0#16
  rw [h, ShiftRegister.parity_zero, zero_add, hsum] at hparity
  have heven : Even flipped.card := (ZMod.natCast_eq_zero_iff_even).1 hparity.symm
  exact (Nat.not_even_iff_odd.2 hodd) heven

/-- The register does not come back to `c₀` within `n` clocks from `c`. -/
def neverReturns (c₀ : BitVec 16) : ℕ → BitVec 16 → Bool
  | 0, _ => true
  | n + 1, c =>
      let c' := ShiftRegister.shift crc16Poly c
      decide (c' ≠ c₀) && neverReturns c₀ n c'

theorem iterate_ne_of_neverReturns (c₀ : BitVec 16) (n : ℕ) (c : BitVec 16)
    (h : neverReturns c₀ n c = true) (d : ℕ) (hd : d < n) :
    (ShiftRegister.shift crc16Poly)^[d + 1] c ≠ c₀ := by
  induction n generalizing c d with
  | zero => omega
  | succ n ih =>
      simp only [neverReturns, Bool.and_eq_true, decide_eq_true_eq] at h
      cases d with
      | zero => exact h.1
      | succ d => exact ih _ h.2 d (by omega)

/-- `0xA001` clocks `1` through 800 places, the longest frame, without meeting it again. -/
theorem neverReturns_frame : neverReturns 1#16 800 1#16 = true := by decide +kernel

/-- A pattern of two bits at most 800 places apart leaves a remainder. -/
theorem run_errorBits_of_two (flipped : Finset ℕ) (n : ℕ) (hn : ∀ k ∈ flipped, k < n)
    (hlen : n ≤ 800) (htwo : flipped.card = 2) :
    ShiftRegister.run crc16Poly 0#16 (errorBits flipped 0 n) ≠ 0#16 := by
  -- name the lower bit `i` and the higher one `j`
  obtain ⟨i, j, hij, rfl⟩ : ∃ i j, i < j ∧ flipped = {i, j} := by
    obtain ⟨a, b, hab, rfl⟩ := Finset.card_eq_two.1 htwo
    rcases Nat.lt_or_gt_of_ne hab with h | h
    · exact ⟨a, b, h, rfl⟩
    · exact ⟨b, a, h, Finset.pair_comm a b⟩
  have hj : j < n := hn j (by simp)
  have hone : ∀ k ∈ ({i, j} : Finset ℕ), errorBits {i, j} k 1 = [true] := by
    intro k hk
    simpa [errorBits, List.range'] using hk
  have hsplit : errorBits {i, j} 0 n =
      List.replicate i false ++ true :: (List.replicate (j - i - 1) false ++
        true :: List.replicate (n - j - 1) false) := by
    rw [show n = i + (1 + ((j - i - 1) + (1 + (n - j - 1)))) by omega, errorBits_append,
      errorBits_append, errorBits_append, errorBits_append,
      errorBits_eq_replicate _ 0 i (by intro k hk; simp at hk; omega),
      errorBits_eq_replicate _ (0 + i + 1) _ (by intro k hk; simp at hk; omega),
      errorBits_eq_replicate _ _ (n - j - 1) (by intro k hk; simp at hk; omega),
      show 0 + i + 1 + (j - i - 1) = j by omega, Nat.zero_add, hone i (by simp),
      hone j (by simp)]
    have : i + (1 + (j - i - 1 + (1 + (n - j - 1)))) - j - 1 = n - j - 1 := by omega
    simp [this]
  rw [hsplit]
  exact ShiftRegister.run_pair_ne_zero crc16Poly crc16Poly_top i (j - i - 1) (n - j - 1)
    (iterate_ne_of_neverReturns 1#16 800 1#16 neverReturns_frame _ (by omega))

/-- A nonempty pattern within 16 consecutive places leaves a remainder. -/
theorem run_errorBits_of_burst (flipped : Finset ℕ) (n p : ℕ) (hn : ∀ k ∈ flipped, k < n)
    (hne : flipped.Nonempty) (hburst : ∀ k ∈ flipped, p ≤ k ∧ k < p + 16) :
    ShiftRegister.run crc16Poly 0#16 (errorBits flipped 0 n) ≠ 0#16 := by
  obtain ⟨k₀, hk₀⟩ := hne
  have hp : p ≤ n := by have := hn k₀ hk₀; have := hburst k₀ hk₀; omega
  -- the window is cut off where the frame ends
  have hsplit : errorBits flipped 0 n = List.replicate p false ++
      errorBits flipped p (min 16 (n - p)) ++ List.replicate (n - p - 16) false := by
    conv_lhs => rw [show n = p + (min 16 (n - p) + (n - p - 16)) by omega]
    rw [errorBits_append, errorBits_append, Nat.zero_add,
      errorBits_eq_replicate _ 0 p (by intro k hk; have := hburst k hk; omega),
      errorBits_eq_replicate _ _ (n - p - 16) (by
        intro k hk
        have := hburst k hk
        have := hn k hk
        omega),
      List.append_assoc]
  rw [hsplit]
  refine ShiftRegister.run_burst_ne_zero crc16Poly crc16Poly_top _ _ _ (by simp [errorBits]) ?_
  refine List.mem_map.2 ⟨k₀, ?_, by simpa using hk₀⟩
  have := hburst k₀ hk₀
  have := hn k₀ hk₀
  simp only [List.mem_range'_1]
  omega

end Cubbies
