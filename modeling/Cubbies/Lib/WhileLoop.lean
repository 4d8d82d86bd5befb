import Mathlib.Data.Nat.Init
import Mathlib.Tactic.Common

set_option autoImplicit false

/-! # While loops

A loop is given by its `round`: what one pass through the body makes of the state, `none` where the
loop is left. `Ends` is the loop itself, without any bound on its passes; `run` takes a number of
passes at most, and is the loop whenever a variant counts down under an invariant. -/

namespace WhileLoop

variable {σ : Type*} {round : σ → Option σ} {s t : σ}

/-- The loop started in `s` is left in `t`. -/
inductive Ends (round : σ → Option σ) : σ → σ → Prop where
  | exit {s : σ} : round s = none → Ends round s s
  | pass {s s' t : σ} : round s = some s' → Ends round s' t → Ends round s t

/-- A loop is left in one state at most. -/
theorem Ends.unique {t' : σ} (h : Ends round s t) (h' : Ends round s t') : t = t' := by
  induction h with
  | exit hexit =>
      cases h' with
      | exit => rfl
      | pass hpass => rw [hexit] at hpass; cases hpass
  | pass hpass _ ih =>
      cases h' with
      | exit hexit => rw [hexit] at hpass; cases hpass
      | pass hpass' hends =>
          obtain rfl := Option.some.inj (hpass.symm.trans hpass')
          exact ih hends

/-- The condition of the loop no longer holds where it is left. -/
theorem Ends.exited (h : Ends round s t) : round t = none := by
  induction h with
  | exit hexit => exact hexit
  | pass _ _ ih => exact ih

/-- At most so many passes. -/
def run (round : σ → Option σ) : ℕ → σ → σ
  | 0, s => s
  | passes + 1, s =>
      match round s with
      | none => s
      | some s' => run round passes s'

theorem run_exit (passes : ℕ) (h : round s = none) : run round passes s = s := by
  cases passes with
  | zero => rfl
  | succ passes => rw [run, h]

theorem run_pass (passes : ℕ) {s' : σ} (h : round s = some s') :
    run round (passes + 1) s = run round passes s' := by
  rw [run, h]

/-- **Termination.** Where every pass keeps an invariant and lowers a variant, the variant's value is
passes enough. -/
theorem ends_run {I : σ → Prop} (variant : σ → ℕ)
    (hpass : ∀ s s', I s → round s = some s' → I s' ∧ variant s' < variant s) {passes : ℕ} (hs : I s)
    (henough : variant s ≤ passes) : Ends round s (run round passes s) := by
  induction passes generalizing s with
  | zero =>
      cases hround : round s with
      | none => exact .exit hround
      | some s' =>
          have hless := (hpass s s' hs hround).2
          omega
  | succ passes ih =>
      cases hround : round s with
      | none =>
          rw [run_exit _ hround]
          exact .exit hround
      | some s' =>
          obtain ⟨hs', hless⟩ := hpass s s' hs hround
          rw [run_pass _ hround]
          exact .pass hround (ih hs' (by omega))

end WhileLoop
