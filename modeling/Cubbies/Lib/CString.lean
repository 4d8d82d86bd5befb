import Mathlib.Data.List.Basic
import Mathlib.Data.List.TakeWhile
import Mathlib.Data.List.Infix
import Mathlib.Order.Basic

set_option autoImplicit false

/-! # C strings as byte lists

A C string is the list of its bytes without the terminating NUL. The functions are the pieces of
`<string.h>` and `<stdio.h>` that firmware code is built from: the text in a character array, the
truncation `snprintf` does, the conversions of `printf`, the split of a name at its last or first
separator, and the integer fields of `sscanf`. -/

namespace CString

/-- The bytes of a string or of a file. -/
abbrev Bytes := List UInt8

/-- Whether a string is in a list of strings can be decided by comparing bytes. -/
instance : LawfulBEq Bytes := inferInstance

/-- A string literal. -/
def str (s : String) : Bytes := s.toList.map fun c => c.toNat.toUInt8

/-- The string held in a character array: the bytes before the first NUL. -/
def text (array : Bytes) : Bytes := array.takeWhile (· ≠ 0)

/-- The text of an array that continues: it ends in the first part, or goes on. -/
theorem text_append (s t : Bytes) :
    text (s ++ t) = text s ∨ text s = s ∧ text (s ++ t) = s ++ text t := by
  unfold text
  rw [List.takeWhile_append]
  split
  · next hlen => exact .inr ⟨(List.takeWhile_prefix _).eq_of_length hlen, rfl⟩
  · exact .inl rfl

theorem text_of_no_nul {s : Bytes} (h : (0 : UInt8) ∉ s) : text s = s :=
  List.takeWhile_eq_self_iff.2 fun b hb => by
    rw [decide_eq_true_eq]
    rintro rfl
    exact h hb

theorem text_prefix (s : Bytes) : text s <+: s := List.takeWhile_prefix _

/-- What `snprintf` leaves of a formatted text in an array of `size` characters. -/
def snprintf (size : ℕ) (s : Bytes) : Bytes := s.take (size - 1)

theorem snprintf_eq_self {size : ℕ} {s : Bytes} (h : s.length < size) : snprintf size s = s :=
  List.take_of_length_le (by omega)

theorem snprintf_prefix {size : ℕ} {pre s : Bytes} (h : pre.length < size) :
    pre <+: snprintf size (pre ++ s) := by
  unfold snprintf
  rw [List.take_append, List.take_of_length_le (by omega)]
  exact List.prefix_append _ _

/-- `strcpy`, or `sprintf`, into an array of `size` characters: a text that does not fit is undefined
behaviour. -/
def strcpy (size : ℕ) (s : Bytes) : Option Bytes := if s.length < size then some s else none

theorem eq_of_strcpy {size : ℕ} {s s' : Bytes} (h : strcpy size s = some s') : s' = s :=
  (Option.some.inj (Option.ite_none_right_eq_some.1 h).2).symm

/-- The line `fgets` reads into an array of `size` characters. -/
def fgets (size : ℕ) (s : Bytes) : Bytes :=
  let window := s.take (size - 1)
  let line := window.takeWhile (· ≠ 10)
  if line.length < window.length then line ++ [10] else window

/-! ## Conversions of `printf` -/

/-- The decimal digits of `n`, at most `fuel` of them. -/
def digits : ℕ → ℕ → Bytes
  | 0, _ => []
  | fuel + 1, n =>
      if n < 10 then [UInt8.ofNat (48 + n)]
      else digits fuel (n / 10) ++ [UInt8.ofNat (48 + n % 10)]

/-- `%u`. -/
def unsigned (n : ℕ) : Bytes := digits (n + 1) n

/-- `%d`. -/
def decimal (n : ℤ) : Bytes :=
  if n < 0 then str "-" ++ unsigned n.natAbs else unsigned n.natAbs

/-- `%03d`: the sign counts for the width, the zeros follow it. -/
def decimal3 (n : ℤ) : Bytes :=
  let body := unsigned n.natAbs
  if n < 0 then str "-" ++ List.replicate (2 - body.length) 48 ++ body
  else List.replicate (3 - body.length) 48 ++ body

/-- One upper-case hexadecimal digit. -/
def hexDigit (n : ℕ) : UInt8 := UInt8.ofNat (if n < 10 then 48 + n else 55 + n)

/-- `%02X` of a byte. -/
def hexByte (b : UInt8) : Bytes := [hexDigit (b.toNat / 16), hexDigit (b.toNat % 16)]

/-- More words after the first ones come behind a separator. -/
theorem intercalate_append {sep : Bytes} {xs : List Bytes} (hxs : xs ≠ []) (ys : List Bytes) :
    ∃ tail, sep.intercalate (xs ++ ys) = sep.intercalate xs ++ tail ∧ (tail = [] ∨ sep <+: tail) := by
  induction xs with
  | nil => exact absurd rfl hxs
  | cons x xs ih =>
      cases xs with
      | nil =>
          cases ys with
          | nil => exact ⟨[], (List.append_nil _).symm, .inl rfl⟩
          | cons y ys =>
              refine ⟨sep ++ sep.intercalate (y :: ys), ?_, .inr (List.prefix_append _ _)⟩
              simp only [List.singleton_append, List.intercalate_cons_cons, List.intercalate_singleton,
                List.append_assoc]
      | cons x' xs =>
          obtain ⟨tail, htail, hsep⟩ := ih (List.cons_ne_nil x' xs)
          refine ⟨tail, ?_, hsep⟩
          rw [List.cons_append] at htail
          rw [List.cons_append, List.cons_append, List.intercalate_cons_cons, htail,
            List.intercalate_cons_cons]
          simp only [List.append_assoc]

/-! ## Splitting -/

/-- The part before the last `sep`, or the whole string (`find_last_of` and `substr`). -/
def beforeLast (sep : UInt8) (s : Bytes) : Bytes :=
  if sep ∈ s then ((s.reverse.dropWhile (· ≠ sep)).drop 1).reverse else s

/-- The part after the last `sep` (`strrchr`). -/
def afterLast? (sep : UInt8) (s : Bytes) : Option Bytes :=
  if sep ∈ s then some (s.reverse.takeWhile (· ≠ sep)).reverse else none

/-- The part before the first `sep`, or the whole string (`strchr`, then a NUL written there). -/
def beforeFirst (sep : UInt8) (s : Bytes) : Bytes := s.takeWhile (· ≠ sep)

theorem beforeLast_append_cons (sep : UInt8) (a b : Bytes) (hb : sep ∉ b) :
    beforeLast sep (a ++ sep :: b) = a := by
  have hall : ∀ x ∈ b.reverse, (decide (x ≠ sep)) = true := by
    intro x hx
    exact decide_eq_true fun h => hb (h ▸ List.mem_reverse.1 hx)
  unfold beforeLast
  rw [if_pos (by simp), List.reverse_append, List.reverse_cons, List.append_assoc,
    List.dropWhile_append_of_pos hall]
  simp

theorem afterLast?_append_cons (sep : UInt8) (a b : Bytes) (hb : sep ∉ b) :
    afterLast? sep (a ++ sep :: b) = some b := by
  have hall : ∀ x ∈ b.reverse, (decide (x ≠ sep)) = true := by
    intro x hx
    exact decide_eq_true fun h => hb (h ▸ List.mem_reverse.1 hx)
  unfold afterLast?
  rw [if_pos (by simp), List.reverse_append, List.reverse_cons, List.append_assoc,
    List.takeWhile_append_of_pos hall]
  simp

theorem afterLast?_eq_none {sep : UInt8} {s : Bytes} (h : sep ∉ s) : afterLast? sep s = none := if_neg h

theorem beforeFirst_append_cons (sep : UInt8) (a b : Bytes) (ha : sep ∉ a) :
    beforeFirst sep (a ++ sep :: b) = a := by
  have hall : ∀ x ∈ a, (decide (x ≠ sep)) = true := by
    intro x hx
    exact decide_eq_true fun h => ha (h ▸ hx)
  unfold beforeFirst
  rw [List.takeWhile_append_of_pos hall]
  simp

theorem exists_last_sep {sep : UInt8} {s : Bytes} (h : sep ∈ s) :
    ∃ a b, s = a ++ sep :: b ∧ sep ∉ b := by
  obtain ⟨b, a, hrev, hb⟩ := List.eq_append_cons_of_mem (List.mem_reverse.2 h)
  refine ⟨a.reverse, b.reverse, ?_, fun hmem => hb (List.mem_reverse.1 hmem)⟩
  have := congrArg List.reverse hrev
  simpa using this

/-- What follows the last separator does not count. -/
theorem beforeLast_append_of_not_mem {sep : UInt8} {s t : Bytes} (hs : sep ∈ s) (ht : sep ∉ t) :
    beforeLast sep (s ++ t) = beforeLast sep s := by
  obtain ⟨a, b, rfl, hb⟩ := exists_last_sep hs
  rw [beforeLast_append_cons sep a b hb, List.append_assoc, List.cons_append]
  exact beforeLast_append_cons sep a (b ++ t) fun h => (List.mem_append.1 h).elim hb ht

/-- The split is not before the first separator. -/
theorem prefix_beforeLast (sep : UInt8) (a b : Bytes) : a <+: beforeLast sep (a ++ sep :: b) := by
  by_cases hb : sep ∈ b
  · obtain ⟨b₁, b₂, rfl, hb₂⟩ := exists_last_sep hb
    have hsplit : a ++ sep :: (b₁ ++ sep :: b₂) = (a ++ sep :: b₁) ++ sep :: b₂ := by simp
    rw [hsplit, beforeLast_append_cons sep _ _ hb₂]
    exact List.prefix_append _ _
  · rw [beforeLast_append_cons sep a b hb]

/-! ## Integer fields of `sscanf` -/

def isSpace (b : UInt8) : Bool := b = 32 ∨ (9 ≤ b ∧ b ≤ 13)

def isDigit (b : UInt8) : Bool := 48 ≤ b ∧ b ≤ 57

/-- The value of a digit string. -/
def digitsValue (s : Bytes) : ℕ := s.foldl (fun acc b => 10 * acc + (b.toNat - 48)) 0

/-- An optional sign and at least one digit, after white space: the value and what follows it. -/
def scanNumber (s : Bytes) : Option (ℤ × Bytes) :=
  let s := s.dropWhile isSpace
  let negative := s.head? = some 45
  let s := if s.head? = some 45 ∨ s.head? = some 43 then s.drop 1 else s
  let ds := s.takeWhile isDigit
  if ds = [] then none
  else some (if negative then -(digitsValue ds : ℤ) else digitsValue ds, s.dropWhile isDigit)

/-- The values a format of `n` integer fields joined by commas assigns: scanning stops at the first
field, or comma, that does not match. -/
def scanFields : ℕ → Bytes → List ℤ
  | 0, _ => []
  | n + 1, s =>
      match scanNumber s with
      | none => []
      | some (v, rest) =>
          v :: (if rest.head? = some 44 then scanFields n (rest.drop 1) else [])

/-- `%d`: out of range values stop at the ends of `int`. -/
def toInt32 (v : ℤ) : ℤ := max (-2147483648) (min 2147483647 v)

/-- `%hhu`: `strtoul`, then the low byte. -/
def toUChar (v : ℤ) : UInt8 :=
  if v.natAbs > 4294967295 then 255 else UInt8.ofNat (v % 256).toNat

/-- Overwrite the first entries of `old` by the values that were assigned. -/
def assign {α : Type*} (new old : List α) : List α := new.take old.length ++ old.drop new.length

theorem length_assign {α : Type*} (new old : List α) : (assign new old).length = old.length := by
  simp only [assign, List.length_append, List.length_take, List.length_drop]
  omega

theorem assign_eq_self {α : Type*} {new old : List α} (h : new.length = old.length) :
    assign new old = new := by
  unfold assign
  rw [← h, List.take_length, h, List.drop_length, List.append_nil]

end CString
