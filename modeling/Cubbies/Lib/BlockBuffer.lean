import Mathlib.Data.List.Basic
import Mathlib.Data.List.TakeDrop
import Mathlib.Tactic.Common

set_option autoImplicit false

/-! # Writing a stream in blocks

A writer that collects a stream in a buffer of `block` elements and passes the buffer on each time it
is full has passed on `full block s` of the stream `s` and holds `rest block s`. How the stream was
cut into pieces does not matter: `full_append` and `rest_append` are what one more piece does. -/

namespace BlockBuffer

variable {α : Type*}

/-- The whole blocks of a stream. -/
def full (block : ℕ) (s : List α) : List α := s.take (s.length / block * block)

/-- What is left after the whole blocks. -/
def rest (block : ℕ) (s : List α) : List α := s.drop (s.length / block * block)

theorem full_append_rest (block : ℕ) (s : List α) : full block s ++ rest block s = s :=
  List.take_append_drop _ _

theorem full_length (block : ℕ) (s : List α) : (full block s).length = s.length / block * block := by
  rw [full, List.length_take]
  exact Nat.min_eq_left (Nat.div_mul_le_self _ _)

theorem rest_length (block : ℕ) (s : List α) : (rest block s).length = s.length % block := by
  rw [rest, List.length_drop]
  have h := Nat.div_add_mod s.length block
  rw [Nat.mul_comm] at h
  omega

theorem rest_length_lt {block : ℕ} (hblock : 0 < block) (s : List α) :
    (rest block s).length < block := by
  rw [rest_length]
  exact Nat.mod_lt _ hblock

theorem full_of_lt {block : ℕ} {s : List α} (h : s.length < block) : full block s = [] := by
  rw [full, Nat.div_eq_of_lt h]
  simp

theorem rest_of_lt {block : ℕ} {s : List α} (h : s.length < block) : rest block s = s := by
  rw [rest, Nat.div_eq_of_lt h]
  simp

/-- Whole blocks in front pass through. -/
theorem full_block_append {block : ℕ} {a : List α} (b : List α) (n : ℕ) (hblock : 0 < block)
    (ha : a.length = n * block) : full block (a ++ b) = a ++ full block b := by
  have hdiv : (n * block + b.length) / block = n + b.length / block := by
    rw [Nat.mul_comm, Nat.mul_add_div hblock]
  rw [full, full, List.length_append, ha, hdiv, Nat.add_mul, List.take_append, ha,
    List.take_of_length_le (by omega), Nat.add_sub_cancel_left]

theorem rest_block_append {block : ℕ} {a : List α} (b : List α) (n : ℕ) (hblock : 0 < block)
    (ha : a.length = n * block) : rest block (a ++ b) = rest block b := by
  have hdiv : (n * block + b.length) / block = n + b.length / block := by
    rw [Nat.mul_comm, Nat.mul_add_div hblock]
  rw [rest, rest, List.length_append, ha, hdiv, Nat.add_mul, List.drop_append, ha,
    List.drop_of_length_le (by omega), Nat.add_sub_cancel_left, List.nil_append]

/-- One more piece: it is added to what was left over. -/
theorem full_append {block : ℕ} (hblock : 0 < block) (s piece : List α) :
    full block (s ++ piece) = full block s ++ full block (rest block s ++ piece) := by
  conv_lhs => rw [← full_append_rest block s, List.append_assoc]
  exact full_block_append _ _ hblock (full_length block s)

theorem rest_append {block : ℕ} (hblock : 0 < block) (s piece : List α) :
    rest block (s ++ piece) = rest block (rest block s ++ piece) := by
  conv_lhs => rw [← full_append_rest block s, List.append_assoc]
  exact rest_block_append _ _ hblock (full_length block s)

end BlockBuffer
