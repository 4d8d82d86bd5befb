import Mathlib.Data.List.Basic
import Mathlib.Tactic.Common

set_option autoImplicit false

/-! # A buffer that leaves out the chunks that do not fit

A receiver appends every chunk of a stream to what it holds, as long as that stays shorter than `n`; a
chunk that is too long is left out and the next one tried. `kept_eq_iff` says when nothing is lost. -/

namespace DroppingBuffer

variable {α : Type*}

/-- What the buffer holds after these chunks. -/
def kept (n : ℕ) (held : List α) : List (List α) → List α
  | [] => held
  | chunk :: chunks =>
      if held.length + chunk.length < n then kept n (held ++ chunk) chunks else kept n held chunks

theorem kept_nil (n : ℕ) (held : List α) : kept n held [] = held := rfl

theorem kept_fits {n : ℕ} {held chunk : List α} (h : held.length + chunk.length < n)
    (chunks : List (List α)) : kept n held (chunk :: chunks) = kept n (held ++ chunk) chunks := by
  rw [kept, if_pos h]

theorem kept_drops {n : ℕ} {held chunk : List α} (h : ¬ held.length + chunk.length < n)
    (chunks : List (List α)) : kept n held (chunk :: chunks) = kept n held chunks := by
  rw [kept, if_neg h]

theorem length_kept {n : ℕ} {held : List α} (hheld : held.length < n) (chunks : List (List α)) :
    (kept n held chunks).length < n := by
  induction chunks generalizing held with
  | nil => exact hheld
  | cons chunk chunks ih =>
      by_cases hroom : held.length + chunk.length < n
      · rw [kept_fits hroom]
        exact ih (by rwa [List.length_append])
      · rw [kept_drops hroom]
        exact ih hheld

/-- While the whole stream fits, so does every chunk. -/
theorem kept_of_lt {n : ℕ} {held : List α} {chunks : List (List α)}
    (h : (held ++ chunks.flatten).length < n) : kept n held chunks = held ++ chunks.flatten := by
  induction chunks generalizing held with
  | nil => rw [kept_nil, List.flatten_nil, List.append_nil]
  | cons chunk chunks ih =>
      rw [List.flatten_cons, ← List.append_assoc] at h ⊢
      have hroom : held.length + chunk.length < n := by
        rw [List.length_append, List.length_append] at h
        omega
      rw [kept_fits hroom, ih h]

/-- Nothing is lost exactly if the whole stream fits: a chunk that was left out was not empty. -/
theorem kept_eq_iff {n : ℕ} {held : List α} (hheld : held.length < n) (chunks : List (List α)) :
    kept n held chunks = held ++ chunks.flatten ↔ (held ++ chunks.flatten).length < n := by
  constructor
  · intro h
    rw [← h]
    exact length_kept hheld chunks
  · exact kept_of_lt

/-- What is kept comes from the stream, in its order. -/
theorem kept_sublist (n : ℕ) (held : List α) (chunks : List (List α)) :
    List.Sublist (kept n held chunks) (held ++ chunks.flatten) := by
  induction chunks generalizing held with
  | nil => rw [kept_nil, List.flatten_nil, List.append_nil]
  | cons chunk chunks ih =>
      rw [List.flatten_cons, ← List.append_assoc]
      by_cases hroom : held.length + chunk.length < n
      · rw [kept_fits hroom]
        exact ih (held ++ chunk)
      · rw [kept_drops hroom]
        exact (ih held).trans ((List.sublist_append_left held chunk).append (List.Sublist.refl _))

end DroppingBuffer
