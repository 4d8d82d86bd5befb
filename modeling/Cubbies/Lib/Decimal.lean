import Mathlib.Algebra.Group.Nat.Hom
import Cubbies.Lib.CString

set_option autoImplicit false

/-! # Printed numbers, and reading them back

`sscanf` with a format of integer fields joined by commas reads back what `printf` printed with `%d` or
`%03d` and commas (`scanFields_prints`), and the lines of a text are read one after the other by `fgets`
(`fgets_line`). A `float` is printed with `%f` in a bounded number of characters (`length_fixed_le`). -/

namespace CString

/-! ## Digits -/

/-- The byte of one digit. -/
theorem digit_toNat {d : ℕ} (h : d < 10) : (UInt8.ofNat (48 + d)).toNat = 48 + d := by
  rw [UInt8.toNat_ofNat']
  omega

theorem isDigit_iff (b : UInt8) : isDigit b = true ↔ 48 ≤ b.toNat ∧ b.toNat ≤ 57 := by
  simp [isDigit, UInt8.le_iff_toNat_le]

theorem isDigit_digit {d : ℕ} (h : d < 10) : isDigit (UInt8.ofNat (48 + d)) = true := by
  rw [isDigit_iff, digit_toNat h]
  omega

theorem isDigit_digits (fuel n : ℕ) : ∀ b ∈ digits fuel n, isDigit b = true := by
  induction fuel generalizing n with
  | zero => simp [digits]
  | succ fuel ih =>
      intro b hb
      unfold digits at hb
      split at hb
      · next hsmall =>
          obtain rfl := List.mem_singleton.1 hb
          exact isDigit_digit hsmall
      · rcases List.mem_append.1 hb with hb | hb
        · exact ih _ b hb
        · obtain rfl := List.mem_singleton.1 hb
          exact isDigit_digit (Nat.mod_lt _ (by omega))

theorem digitsValue_append (s : Bytes) (b : UInt8) :
    digitsValue (s ++ [b]) = 10 * digitsValue s + (b.toNat - 48) := by
  unfold digitsValue
  rw [List.foldl_append]
  rfl

/-- With fuel for all digits, the digits of a number have its value. -/
theorem digitsValue_digits {fuel n : ℕ} (h : n < fuel) : digitsValue (digits fuel n) = n := by
  induction fuel generalizing n with
  | zero => omega
  | succ fuel ih =>
      unfold digits
      split
      · next hsmall =>
          have hvalue := digitsValue_append [] (UInt8.ofNat (48 + n))
          rw [digit_toNat hsmall] at hvalue
          simp only [List.nil_append] at hvalue
          rw [hvalue]
          simp [digitsValue]
      · next hlarge =>
          rw [digitsValue_append, ih (by omega), digit_toNat (Nat.mod_lt _ (by omega))]
          omega

theorem digitsValue_zeros (k : ℕ) (s : Bytes) :
    digitsValue (List.replicate k 48 ++ s) = digitsValue s := by
  unfold digitsValue
  rw [List.foldl_append]
  congr 1
  induction k with
  | zero => rfl
  | succ k ih => exact ih

theorem digits_ne_nil {fuel : ℕ} (n : ℕ) (h : 0 < fuel) : digits fuel n ≠ [] := by
  obtain ⟨fuel, rfl⟩ := Nat.exists_eq_succ_of_ne_zero h.ne'
  unfold digits
  split <;> simp

theorem unsigned_ne_nil (n : ℕ) : unsigned n ≠ [] := digits_ne_nil n (by omega)

theorem length_digits_le {fuel n k : ℕ} (hk : 0 < k) (h : n < 10 ^ k) :
    (digits fuel n).length ≤ k := by
  induction fuel generalizing n k with
  | zero => simp [digits]
  | succ fuel ih =>
      unfold digits
      split
      · rw [List.length_singleton]
        exact hk
      · next hlarge =>
          obtain ⟨k, rfl⟩ := Nat.exists_eq_succ_of_ne_zero hk.ne'
          have hk' : 0 < k := by
            by_contra hzero
            rw [Nat.eq_zero_of_not_pos hzero] at h
            exact hlarge (by simpa using h)
          have hshort := ih hk' (n := n / 10) (by
            rw [Nat.div_lt_iff_lt_mul (by omega), ← Nat.pow_succ]
            exact h)
          rw [List.length_append, List.length_singleton]
          omega

/-! ## Numbers printed with `%d` and `%03d` -/

/-- A text for the number `v`: an optional sign and a row of digits of its absolute value. -/
def Prints (v : ℤ) (s : Bytes) : Prop :=
  ∃ ds, s = (if v < 0 then str "-" else []) ++ ds ∧ ds ≠ [] ∧
    (∀ b ∈ ds, isDigit b = true) ∧ digitsValue ds = v.natAbs

theorem prints_decimal (v : ℤ) : Prints v (decimal v) := by
  refine ⟨unsigned v.natAbs, ?_, unsigned_ne_nil _, isDigit_digits _ _,
    digitsValue_digits (Nat.lt_succ_self _)⟩
  unfold decimal
  split
  · rfl
  · rw [List.nil_append]

theorem prints_decimal3 (v : ℤ) : Prints v (decimal3 v) := by
  have hzeros : ∀ k, ∀ b ∈ List.replicate k (48 : UInt8) ++ unsigned v.natAbs, isDigit b = true := by
    intro k b hb
    rcases List.mem_append.1 hb with hb | hb
    · rw [List.eq_of_mem_replicate hb]
      decide
    · exact isDigit_digits _ _ b hb
  have hvalue : ∀ k, digitsValue (List.replicate k 48 ++ unsigned v.natAbs) = v.natAbs := by
    intro k
    rw [digitsValue_zeros]
    exact digitsValue_digits (by omega)
  have hne : ∀ k, List.replicate k (48 : UInt8) ++ unsigned v.natAbs ≠ [] := fun k h =>
    unsigned_ne_nil _ (List.append_eq_nil_iff.1 h).2
  unfold Prints decimal3
  split
  · exact ⟨_, by rw [List.append_assoc], hne _, hzeros _, hvalue _⟩
  · exact ⟨_, by rw [List.nil_append], hne _, hzeros _, hvalue _⟩

theorem Prints.ne_nil {v : ℤ} {s : Bytes} (h : Prints v s) : s ≠ [] := by
  obtain ⟨ds, rfl, hne, -, -⟩ := h
  exact fun hnil => hne (List.append_eq_nil_iff.1 hnil).2

/-- What a printed number consists of: digits, and a minus. -/
theorem Prints.mem {v : ℤ} {s : Bytes} {b : UInt8} (hs : Prints v s) (h : b ∈ s) :
    b = 45 ∨ isDigit b = true := by
  obtain ⟨ds, rfl, -, hdigits, -⟩ := hs
  rcases List.mem_append.1 h with hb | hb
  · split at hb
    · exact .inl (List.mem_singleton.1 hb)
    · cases hb
  · exact .inr (hdigits b hb)

theorem length_decimal_le {v : ℤ} {k : ℕ} (hk : 0 < k) (hv : 0 ≤ v) (h : v.natAbs < 10 ^ k) :
    (decimal v).length ≤ k := by
  unfold decimal
  rw [if_neg (Int.not_lt.2 hv)]
  exact length_digits_le hk h

theorem length_decimal3_le {v : ℤ} {k : ℕ} (hk : 3 ≤ k) (h : v.natAbs < 10 ^ k) :
    (decimal3 v).length ≤ k + 1 := by
  have hdigits : (unsigned v.natAbs).length ≤ k := length_digits_le (by omega) h
  have hminus : (str "-").length = 1 := by decide
  unfold decimal3
  split
  · simp only [List.length_append, List.length_replicate, hminus]
    omega
  · simp only [List.length_append, List.length_replicate]
    omega

/-- `sscanf` reads a printed number up to the byte after it. -/
theorem Prints.scanNumber {v : ℤ} {s rest : Bytes} (hs : Prints v s)
    (hrest : ∀ b, rest.head? = some b → isDigit b = false) :
    CString.scanNumber (s ++ rest) = some (v, rest) := by
  obtain ⟨ds, hds, hne, hdigits, hvalue⟩ := hs
  obtain ⟨d, ds', rfl⟩ := List.exists_cons_of_ne_nil hne
  have htake : (d :: ds' ++ rest).takeWhile isDigit = d :: ds' := by
    rw [List.takeWhile_append_of_pos hdigits]
    cases rest with
    | nil => simp
    | cons b rest => simp [hrest b rfl]
  have hdrop : (d :: ds' ++ rest).dropWhile isDigit = rest := by
    rw [List.dropWhile_append_of_pos hdigits]
    cases rest with
    | nil => rfl
    | cons b rest => simp [hrest b rfl]
  have hd : isDigit d = true := hdigits d List.mem_cons_self
  have hrange := (isDigit_iff d).1 hd
  rw [hds]
  split
  · next hneg =>
      have hminus : str "-" ++ d :: ds' ++ rest = 45 :: (d :: ds' ++ rest) := rfl
      have hspaces : (45 :: (d :: ds' ++ rest)).dropWhile isSpace = 45 :: (d :: ds' ++ rest) :=
        List.dropWhile_cons_of_neg (by decide)
      unfold CString.scanNumber
      rw [hminus]
      simp only [hspaces, List.head?_cons, true_or, if_true, List.drop_one, List.tail_cons]
      rw [htake, hdrop, if_neg hne, hvalue]
      congr 2
      omega
  · next hpos =>
      have hspaces : (d :: ds' ++ rest).dropWhile isSpace = d :: ds' ++ rest := by
        refine List.dropWhile_cons_of_neg ?_
        simp only [isSpace, decide_eq_true_eq, UInt8.le_iff_toNat_le, ← UInt8.toNat_inj]
        simp
        omega
      have hhead : (d :: ds' ++ rest).head? = some d := rfl
      have hsign : ¬ (some d = some 45 ∨ some d = some 43) := by
        rintro (h | h)
        · exact absurd (Option.some.inj h ▸ hd) (by decide)
        · exact absurd (Option.some.inj h ▸ hd) (by decide)
      unfold CString.scanNumber
      rw [List.nil_append]
      simp only [hspaces, hhead, if_neg hsign]
      rw [htake, hdrop, if_neg hne, if_neg (by simpa using fun h => hsign (.inl h)), hvalue]
      congr 2
      omega

section Joined

variable {print : ℤ → Bytes} (hprint : ∀ v, Prints v (print v))

include hprint

/-- Joined numbers consist of digits, minus signs and commas. -/
theorem mem_joined {values : List ℤ} {b : UInt8}
    (h : b ∈ (str ",").intercalate (values.map print)) : b = 44 ∨ b = 45 ∨ isDigit b = true := by
  induction values with
  | nil => cases h
  | cons v values ih =>
      cases values with
      | nil =>
          simp only [List.map_cons, List.map_nil, List.intercalate_singleton] at h
          exact .inr ((hprint v).mem h)
      | cons w values =>
          simp only [List.map_cons, List.intercalate_cons_cons, List.mem_append] at h ih
          rcases h with (hb | hb) | hb
          · exact .inr ((hprint v).mem hb)
          · exact .inl (List.mem_singleton.1 hb)
          · exact ih hb

/-- None of these is a NUL or ends a line. -/
theorem joined_clean (values : List ℤ) :
    ∀ b ∈ (str ",").intercalate (values.map print), b ≠ 0 ∧ b ≠ 13 ∧ b ≠ 10 := by
  intro b hb
  rcases mem_joined hprint hb with rfl | rfl | hdigit
  · decide
  · decide
  · have hrange := (isDigit_iff b).1 hdigit
    simp only [ne_eq, ← UInt8.toNat_inj]
    simp
    omega

/-- The values of a row of printed numbers joined by commas. -/
theorem scanFields_prints (values : List ℤ) (rest : Bytes)
    (hrest : ∀ b, rest.head? = some b → isDigit b = false) :
    scanFields values.length ((str ",").intercalate (values.map print) ++ rest) = values := by
  induction values with
  | nil => rfl
  | cons v values ih =>
      cases values with
      | nil =>
          simp only [List.map_cons, List.map_nil, List.intercalate_singleton, List.length_singleton]
          unfold scanFields
          rw [(hprint v).scanNumber hrest]
          simp only [scanFields, ite_self]
      | cons w values =>
          have hjoin : (str ",").intercalate ((v :: w :: values).map print) ++ rest =
              print v ++ 44 :: ((str ",").intercalate ((w :: values).map print) ++ rest) := by
            simp only [List.map_cons, List.intercalate_cons_cons, List.append_assoc]
            rfl
          rw [hjoin, List.length_cons]
          unfold scanFields
          rw [(hprint v).scanNumber fun b hb => by
            rw [← Option.some.inj hb]
            decide]
          simp only [List.head?_cons, if_true, List.drop_one, List.tail_cons]
          rw [ih]

end Joined

theorem toInt32_eq_self {v : ℤ} (h : -2147483648 ≤ v ∧ v ≤ 2147483647) : toInt32 v = v := by
  unfold toInt32
  omega

/-! ## Lines -/

/-- `fgets` reads a line that fits, with its end. -/
theorem fgets_line {size : ℕ} {line : Bytes} (rest : Bytes) (hline : 10 ∉ line)
    (hlen : line.length + 1 < size) : fgets size (line ++ 10 :: rest) = line ++ [10] := by
  have hwindow : (line ++ 10 :: rest).take (size - 1) =
      line ++ 10 :: rest.take (size - 1 - line.length - 1) := by
    rw [List.take_append, List.take_of_length_le (by omega)]
    obtain ⟨k, hk⟩ := Nat.exists_eq_add_of_lt (show line.length < size - 1 by omega)
    rw [show size - 1 - line.length = k + 1 by omega, List.take_succ_cons, Nat.add_sub_cancel]
  have htake : (line ++ 10 :: rest.take (size - 1 - line.length - 1)).takeWhile (· ≠ 10) = line := by
    rw [List.takeWhile_append_of_pos]
    · simp
    · intro b hb
      exact decide_eq_true fun h => hline (h ▸ hb)
  unfold fgets
  rw [hwindow]
  dsimp only
  rw [htake, if_pos (by simp)]

/-- A text without a line end is cut to the size of the array. -/
theorem fgets_no_newline {s : Bytes} (size : ℕ) (h : 10 ∉ s) : fgets size s = s.take (size - 1) := by
  have hall : (s.take (size - 1)).takeWhile (· ≠ 10) = s.take (size - 1) :=
    List.takeWhile_eq_self_iff.2 fun b hb => decide_eq_true fun heq =>
      h (List.mem_of_mem_take (heq ▸ hb))
  unfold fgets
  dsimp only
  rw [hall, if_neg (Nat.lt_irrefl _)]

/-! ## Fractions -/

/-- The quotient rounded to the nearest number, and halfway to the even one. -/
def divRound (a b : ℕ) : ℕ :=
  if 2 * (a % b) < b ∨ 2 * (a % b) = b ∧ a / b % 2 = 0 then a / b else a / b + 1

/-- The conversion of a number to `float`: 24 bits are kept. -/
def toFloat (n : ℕ) : ℕ :=
  let unit := 2 ^ (n.log2 + 1 - 24)
  divRound n unit * unit

/-- `%f` of the fraction `a / b`: six decimals. -/
def fixed (a b : ℕ) : Bytes :=
  let millionths := divRound (a * 1000000) b
  let decimals := unsigned (millionths % 1000000)
  unsigned (millionths / 1000000) ++ str "." ++ List.replicate (6 - decimals.length) 48 ++ decimals

theorem divRound_le (a b : ℕ) : divRound a b ≤ a / b + 1 := by
  unfold divRound
  split <;> omega

/-- A conversion to `float` adds at most one in the last of the 24 places that are kept. -/
theorem toFloat_le {n k : ℕ} (h : n < 2 ^ (k + 24)) : toFloat n ≤ n + 2 ^ k := by
  unfold toFloat
  dsimp only
  generalize hunit : n.log2 + 1 - 24 = unit
  have hlog : n.log2 < k + 24 := by
    rcases Nat.eq_zero_or_pos n with rfl | hpos
    · rw [Nat.log2_zero]
      omega
    · exact (Nat.log2_lt hpos.ne').2 h
  have hpow : 2 ^ unit ≤ 2 ^ k := Nat.pow_le_pow_right (by decide) (by omega)
  calc divRound n (2 ^ unit) * 2 ^ unit
      ≤ (n / 2 ^ unit + 1) * 2 ^ unit := Nat.mul_le_mul_right _ (divRound_le _ _)
    _ = n / 2 ^ unit * 2 ^ unit + 2 ^ unit := by rw [Nat.add_mul, Nat.one_mul]
    _ ≤ n + 2 ^ k := Nat.add_le_add (Nat.div_mul_le_self _ _) hpow

/-- A fraction prints in `k` digits before the point and six behind it. -/
theorem length_fixed_le {a b k : ℕ} (hk : 0 < k) (h : a * 1000000 / b + 1 < 10 ^ k * 1000000) :
    (fixed a b).length ≤ k + 7 := by
  have hround := divRound_le (a * 1000000) b
  have hwhole : divRound (a * 1000000) b / 1000000 < 10 ^ k :=
    Nat.div_lt_of_lt_mul (by omega)
  have hdecimals : divRound (a * 1000000) b % 1000000 < 10 ^ 6 := Nat.mod_lt _ (by decide)
  have hbefore : (unsigned (divRound (a * 1000000) b / 1000000)).length ≤ k := length_digits_le hk hwhole
  have hbehind : (unsigned (divRound (a * 1000000) b % 1000000)).length ≤ 6 :=
    length_digits_le (by decide) hdecimals
  have hpoint : (str ".").length = 1 := by decide
  unfold fixed
  simp only [List.length_append, List.length_replicate, hpoint]
  omega

example : fixed (toFloat 31457281) 1048576 = str "30.000000" := by decide +kernel

end CString
