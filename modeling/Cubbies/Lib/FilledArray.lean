import Mathlib.Data.List.Basic

set_option autoImplicit false

/-! # Arrays filled from the front

A program allocates an array, keeps the number of entries used, and stores behind them. Nothing is known
of an entry before it is stored, and a store behind the end is an error. A loop that stores at most `k`
entries for each item never meets that error in an array of `k` entries for each item, and leaves what
the items give, one after the other (`fill_flatMap`). -/

/-- An allocated array, an entry that was never stored being `none`, and the number of entries used. -/
structure FilledArray (α : Type*) where
  slots : List (Option α)
  used : ℕ

namespace FilledArray

variable {α β : Type*}

/-- `malloc` for `n` entries. -/
def alloc (n : ℕ) : FilledArray α := ⟨List.replicate n none, 0⟩

/-- Store one more entry, `none` when there is no room for it. -/
def push (a : FilledArray α) (x : α) : Option (FilledArray α) :=
  if a.used < a.slots.length then some ⟨a.slots.set a.used (some x), a.used + 1⟩ else none

def pushAll (a : FilledArray α) : List α → Option (FilledArray α)
  | [] => some a
  | x :: xs => (a.push x).bind fun a => a.pushAll xs

/-- A loop over items, with a body that may fail. -/
def fill (body : FilledArray α → β → Option (FilledArray α)) (a : FilledArray α) :
    List β → Option (FilledArray α)
  | [] => some a
  | item :: items => (body a item).bind fun a => fill body a items

/-- The entries used of an array of `n` are `xs`. -/
def holding (n : ℕ) (xs : List α) : FilledArray α :=
  ⟨xs.map some ++ List.replicate (n - xs.length) none, xs.length⟩

theorem alloc_eq (n : ℕ) : (alloc n : FilledArray α) = holding n [] := rfl

theorem push_holding {n : ℕ} {xs : List α} (h : xs.length < n) (x : α) :
    (holding n xs).push x = some (holding n (xs ++ [x])) := by
  have hroom : n - xs.length = n - (xs.length + 1) + 1 := by omega
  have hsize : (holding n xs).used < (holding n xs).slots.length := by
    simp only [holding, List.length_append, List.length_map, List.length_replicate]
    omega
  unfold push
  rw [if_pos hsize]
  simp only [holding, List.length_append, List.length_singleton, Option.some.injEq, mk.injEq,
    and_true]
  rw [hroom, List.replicate_succ, List.set_append_right _ _ (by simp), List.length_map, Nat.sub_self,
    List.set_cons_zero, List.map_append, List.append_assoc]
  rfl

theorem pushAll_holding {n : ℕ} (xs ys : List α) (h : xs.length + ys.length ≤ n) :
    (holding n xs).pushAll ys = some (holding n (xs ++ ys)) := by
  induction ys generalizing xs with
  | nil => rw [List.append_nil, pushAll]
  | cons y ys ih =>
      rw [List.length_cons] at h
      rw [pushAll, push_holding (by omega), Option.bind_some, ih]
      · rw [List.append_assoc, List.singleton_append]
      · rw [List.length_append, List.length_singleton]
        omega

/-- **A loop with room for every item.** -/
theorem fill_flatMap {body : FilledArray α → β → Option (FilledArray α)} {entries : β → List α}
    {k : ℕ} (hbody : ∀ a item, body a item = a.pushAll (entries item))
    (hk : ∀ item, (entries item).length ≤ k) (items : List β) :
    fill body (alloc (k * items.length)) items =
      some (holding (k * items.length) (items.flatMap entries)) := by
  have hloop : ∀ (n : ℕ) (xs : List α) (items : List β), xs.length + k * items.length ≤ n →
      fill body (holding n xs) items = some (holding n (xs ++ items.flatMap entries)) := by
    intro n xs items
    induction items generalizing xs with
    | nil =>
        intro _
        rw [List.flatMap_nil, List.append_nil, fill]
    | cons item items ih =>
        intro h
        have hitem := hk item
        rw [List.length_cons, Nat.mul_succ] at h
        rw [fill, hbody, pushAll_holding xs _ (by omega), Option.bind_some, ih]
        · rw [List.flatMap_cons, List.append_assoc]
        · rw [List.length_append]
          omega
  rw [alloc_eq, hloop _ [] items (by simp), List.nil_append]

/-- The entries in use are the ones stored. -/
theorem take_holding (n : ℕ) (xs : List α) :
    (holding n xs).slots.take (holding n xs).used = xs.map some := by
  unfold holding
  rw [List.take_append_of_le_length (by simp), List.take_of_length_le (by simp)]

theorem length_holding {n : ℕ} {xs : List α} (h : xs.length ≤ n) :
    (holding n xs).slots.length = n := by
  rw [holding, List.length_append, List.length_map, List.length_replicate]
  omega

theorem length_flatMap_le {entries : β → List α} {k : ℕ} (hk : ∀ item, (entries item).length ≤ k)
    (items : List β) : (items.flatMap entries).length ≤ k * items.length := by
  induction items with
  | nil => simp
  | cons item items ih =>
      have hitem := hk item
      rw [List.flatMap_cons, List.length_append, List.length_cons, Nat.mul_succ]
      omega

end FilledArray
