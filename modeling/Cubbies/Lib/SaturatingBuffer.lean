import Mathlib.Data.List.Basic
import Mathlib.Data.List.TakeDrop
import Mathlib.Tactic.Common

set_option autoImplicit false

/-! # A buffer whose last place takes what does not fit

A receiver stores a stream in an array of `n` elements, each element at the next place, and every
element that does not fit at the last place. Of the stream `s` it then holds `kept n s`. `take_set_kept`
is what one more element does. -/

namespace SaturatingBuffer

variable {α : Type*}

/-- What an array of `n` elements holds of a stream. -/
def kept (n : ℕ) (s : List α) : List α :=
  if s.length ≤ n then s else s.take (n - 1) ++ s.drop (s.length - 1)

/-- The place of the next element after `count` of them. -/
def place (n count : ℕ) : ℕ := if count < n then count else n - 1

theorem kept_of_le {n : ℕ} {s : List α} (h : s.length ≤ n) : kept n s = s := if_pos h

theorem kept_of_lt {n : ℕ} {s : List α} (h : n < s.length) :
    kept n s = s.take (n - 1) ++ s.drop (s.length - 1) := if_neg (Nat.not_le.2 h)

theorem length_kept {n : ℕ} (hn : 0 < n) (s : List α) : (kept n s).length = min s.length n := by
  by_cases h : s.length ≤ n
  · rw [kept_of_le h, Nat.min_eq_left h]
  · rw [kept_of_lt (Nat.not_le.1 h), List.length_append, List.length_take, List.length_drop]
    omega

/-- All places but the last one hold the start of the stream. -/
theorem take_kept (n : ℕ) (s : List α) : (kept n s).take (n - 1) = s.take (n - 1) := by
  by_cases h : s.length ≤ n
  · rw [kept_of_le h]
  · have hlen : (s.take (n - 1)).length = n - 1 := by
      rw [List.length_take]
      omega
    rw [kept_of_lt (Nat.not_le.1 h)]
    exact List.take_left' hlen

/-- Each of these places holds the element of its number. -/
theorem getElem?_kept {n i : ℕ} (hi : i < n - 1) (s : List α) : (kept n s)[i]? = s[i]? := by
  rw [← List.getElem?_take_of_lt hi, take_kept, List.getElem?_take_of_lt hi]

/-- One more element. -/
theorem take_set_kept {n : ℕ} (hn : 0 < n) {buffer s : List α} (hlen : buffer.length = n)
    (hkept : buffer.take (kept n s).length = kept n s) (x : α) :
    (buffer.set (place n (kept n s).length) x).take (place n (kept n s).length + 1) =
        kept n (s ++ [x]) ∧
      place n (kept n s).length + 1 = (kept n (s ++ [x])).length := by
  have hplace : ∀ i < n, (buffer.set i x).take (i + 1) = buffer.take i ++ [x] := by
    intro i hi
    rw [List.take_add_one, List.take_set_of_le (Nat.le_refl _)]
    simp [hlen, hi]
  have hcount := length_kept hn s
  have hcount' := length_kept hn (s ++ [x])
  rw [List.length_append, List.length_singleton] at hcount'
  unfold place
  by_cases hfits : s.length < n
  -- the next place
  · have hs : kept n s = s := kept_of_le (Nat.le_of_lt hfits)
    have hroom : (kept n s).length < n := by
      rw [hs]
      exact hfits
    rw [if_pos hroom, hplace _ hroom, hkept, hs, kept_of_le (by rw [List.length_append]; exact hfits)]
    exact ⟨rfl, by simp⟩
  -- the last place again
  · have hfull : ¬ (kept n s).length < n := by omega
    have hstart : buffer.take (n - 1) = s.take (n - 1) := by
      rw [← take_kept n s, ← hkept, List.take_take, hcount]
      congr 1
      omega
    have hlast : (s ++ [x]).drop s.length = [x] := List.drop_left
    rw [if_neg hfull, hplace _ (by omega), hstart, kept_of_lt (by rw [List.length_append, List.length_singleton]; omega),
      List.length_append, List.length_singleton, Nat.add_sub_cancel, hlast,
      List.take_append_of_le_length (by omega)]
    refine ⟨rfl, ?_⟩
    rw [List.length_append, List.length_take, List.length_singleton]
    omega

end SaturatingBuffer
