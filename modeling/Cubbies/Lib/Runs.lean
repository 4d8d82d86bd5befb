import Mathlib.Data.List.Basic
import Mathlib.Order.Basic

set_option autoImplicit false

/-! # Runs of an event-driven system

A system is a relation `step s e s'`: event `e` takes state `s` to `s'`. `Reached step ok s₀ s` says
that a run from `s₀` whose every step met the guard `ok` ended in `s`. The guard is how a result says
which events, in which states, it speaks about; `fun _ _ => True` is every run. -/

namespace Runs

variable {σ ε : Type*} {step : σ → ε → σ → Prop} {ok ok' : σ → ε → Prop} {s₀ s : σ}

/-- The states a run from `s₀` of steps meeting `ok` ends in. -/
inductive Reached (step : σ → ε → σ → Prop) (ok : σ → ε → Prop) (s₀ : σ) : σ → Prop where
  | start : Reached step ok s₀ s₀
  | step {s s' : σ} {e : ε} : Reached step ok s₀ s → ok s e → step s e s' → Reached step ok s₀ s'

/-- What holds at the start and is kept by every guarded step holds in every state reached. -/
theorem Reached.invariant {I : σ → Prop} (h : Reached step ok s₀ s) (h₀ : I s₀)
    (hstep : ∀ s e s', I s → ok s e → step s e s' → I s') : I s := by
  induction h with
  | start => exact h₀
  | step _ hok hs ih => exact hstep _ _ _ ih hok hs

/-- A weaker guard reaches at least as much. -/
theorem Reached.mono (h : Reached step ok s₀ s) (hok : ∀ s e, ok s e → ok' s e) :
    Reached step ok' s₀ s := by
  induction h with
  | start => exact .start
  | step _ hg hs ih => exact .step ih (hok _ _ hg) hs

theorem Reached.trans {s' : σ} (h : Reached step ok s₀ s) (h' : Reached step ok s s') :
    Reached step ok s₀ s' := by
  induction h' with
  | start => exact h
  | step _ hg hs ih => exact .step ih hg hs

/-- Every event of a list meets the guard in the state it happens in. -/
def Meets {σ ε : Type*} (f : σ → ε → σ) (ok : σ → ε → Prop) : σ → List ε → Prop
  | _, [] => True
  | s, e :: es => ok s e ∧ Meets f ok (f s e) es

instance decidableMeets {σ ε : Type*} (f : σ → ε → σ) (ok : σ → ε → Prop)
    [∀ s e, Decidable (ok s e)] : ∀ s es, Decidable (Meets f ok s es)
  | _, [] => .isTrue trivial
  | s, e :: es =>
      have := decidableMeets f ok (f s e) es
      inferInstanceAs (Decidable (_ ∧ _))

theorem meets_append {σ ε : Type*} (f : σ → ε → σ) (ok : σ → ε → Prop) (s : σ) (es es' : List ε) :
    Meets f ok s (es ++ es') ↔ Meets f ok s es ∧ Meets f ok (es.foldl f s) es' := by
  induction es generalizing s with
  | nil => exact (iff_of_eq (true_and _)).symm
  | cons e es ih =>
      show ok s e ∧ Meets f ok (f s e) (es ++ es') ↔ _
      rw [ih (f s e)]
      exact and_assoc.symm

/-- Where the run of a list of events ends, for a step that is a function. -/
theorem reached_foldl_of {σ ε : Type*} (f : σ → ε → σ) {ok : σ → ε → Prop} (s : σ) (es : List ε)
    (h : Meets f ok s es) : Reached (fun s e s' => s' = f s e) ok s (es.foldl f s) := by
  induction es generalizing s with
  | nil => exact .start
  | cons e es ih => exact (Reached.step .start h.1 rfl).trans (ih (f s e) h.2)

theorem reached_foldl {σ ε : Type*} (f : σ → ε → σ) (s : σ) (es : List ε) :
    Reached (fun s e s' => s' = f s e) (fun _ _ => True) s (es.foldl f s) := by
  refine reached_foldl_of f s es ?_
  induction es generalizing s with
  | nil => trivial
  | cons e es ih => exact ⟨trivial, ih (f s e)⟩

/-- The run of a list of events of a function that may fail, `none` if some step does. -/
def runList {σ ε : Type*} (f : σ → ε → Option σ) : σ → List ε → Option σ
  | s, [] => some s
  | s, e :: es => (f s e).bind fun s' => runList f s' es

theorem runList_append {σ ε : Type*} (f : σ → ε → Option σ) (s : σ) (es es' : List ε) :
    runList f s (es ++ es') = (runList f s es).bind fun s' => runList f s' es' := by
  induction es generalizing s with
  | nil => rfl
  | cons e es ih =>
      simp only [List.cons_append, runList, Option.bind_assoc]
      exact congrArg _ (funext fun s' => ih s')

/-- **Simulation.** Where an invariant of the total step `g` makes the partial step `f` succeed with the
same result, every run of `f` succeeds, ends where that of `g` does, and keeps the invariant. -/
theorem runList_eq_foldl {σ ε : Type*} {f : σ → ε → Option σ} {g : σ → ε → σ} {I : σ → Prop}
    (hsame : ∀ s e, I s → f s e = some (g s e)) (hkeep : ∀ s e, I s → I (g s e)) {s : σ} (h : I s)
    (es : List ε) : runList f s es = some (es.foldl g s) ∧ I (es.foldl g s) := by
  induction es generalizing s with
  | nil => exact ⟨rfl, h⟩
  | cons e es ih =>
      rw [runList, hsame s e h, Option.bind_some]
      exact ih (hkeep s e h)

/-- The same with every step checked against a guard first. -/
def runGuarded {σ ε : Type*} (f : σ → ε → Option σ) (ok : σ → ε → Prop)
    [∀ s e, Decidable (ok s e)] : σ → List ε → Option σ
  | s, [] => some s
  | s, e :: es => if ok s e then (f s e).bind fun s' => runGuarded f ok s' es else none

/-- Checking the guards does not change where a run ends. -/
theorem runList_of_runGuarded {f : σ → ε → Option σ} [∀ s e, Decidable (ok s e)] {s' : σ}
    {es : List ε} (h : runGuarded f ok s es = some s') : runList f s es = some s' := by
  induction es generalizing s with
  | nil => exact h
  | cons e es ih =>
      rw [runGuarded] at h
      split at h
      · obtain ⟨s₁, hs₁, hrest⟩ := Option.bind_eq_some_iff.1 h
        rw [runList, hs₁, Option.bind_some]
        exact ih hrest
      · cases h

/-- Where any concrete run ends is a state reached. -/
theorem reached_of_runList {f : σ → ε → Option σ} {s' : σ} (es : List ε)
    (h : runList f s es = some s') :
    Reached (fun s e s' => f s e = some s') (fun _ _ => True) s s' := by
  induction es generalizing s with
  | nil =>
      obtain rfl : s = s' := by simpa [runList] using h
      exact .start
  | cons e es ih =>
      obtain ⟨s₁, hs₁, hrest⟩ := Option.bind_eq_some_iff.1 h
      exact (Reached.step .start trivial hs₁).trans (ih hrest)

/-! ## Runs with their history -/

/-- The guarded runs from `s₀`, each step kept with the state it was taken in. -/
inductive Path (step : σ → ε → σ → Prop) (ok : σ → ε → Prop) (s₀ : σ) : List (σ × ε) → σ → Prop where
  | start : Path step ok s₀ [] s₀
  | step {trace : List (σ × ε)} {s s' : σ} {e : ε} :
      Path step ok s₀ trace s → ok s e → step s e s' → Path step ok s₀ (trace ++ [(s, e)]) s'

/-- What holds at the start of a run and is kept by every guarded step, of the history and the state
together, holds along the run. -/
theorem Path.invariant {I : List (σ × ε) → σ → Prop} {trace : List (σ × ε)}
    (h : Path step ok s₀ trace s) (h₀ : I [] s₀)
    (hstep : ∀ trace s e s', I trace s → ok s e → step s e s' → I (trace ++ [(s, e)]) s') :
    I trace s := by
  induction h with
  | start => exact h₀
  | step _ hok hs ih => exact hstep _ _ _ _ ih hok hs

/-- Without its history, a run is a run. -/
theorem Path.reached {trace : List (σ × ε)} (h : Path step ok s₀ trace s) : Reached step ok s₀ s := by
  induction h with
  | start => exact .start
  | step _ hok hs ih => exact .step ih hok hs

/-- Every step of a history met the guard. -/
theorem Path.forall_ok {trace : List (σ × ε)} (h : Path step ok s₀ trace s) :
    ∀ x ∈ trace, ok x.1 x.2 := by
  refine h.invariant (I := fun trace _ => ∀ x ∈ trace, ok x.1 x.2) (by simp) ?_
  intro trace s e s' hall hok _ x hx
  rcases List.mem_append.1 hx with hx | hx
  · exact hall x hx
  · obtain rfl := List.mem_singleton.1 hx
    exact hok

theorem Path.trans {trace trace' : List (σ × ε)} {s' : σ} (h : Path step ok s₀ trace s)
    (h' : Path step ok s trace' s') : Path step ok s₀ (trace ++ trace') s' := by
  induction h' with
  | start =>
      rw [List.append_nil]
      exact h
  | step _ hok hs ih =>
      rw [← List.append_assoc]
      exact .step ih hok hs

/-- **Blame.** Where an invariant is kept by every step that is no `P`, a run that broke it has a step
that is one. -/
theorem Path.exists_of_broken {I : σ → Prop} {P : σ → ε → Prop} {trace : List (σ × ε)}
    (h : Path step ok s₀ trace s) (h₀ : I s₀)
    (hstep : ∀ s e s', I s → ok s e → step s e s' → ¬ P s e → I s') (hs : ¬ I s) :
    ∃ x ∈ trace, P x.1 x.2 := by
  induction h with
  | start => exact absurd h₀ hs
  | @step trace s s' e _ hok hstep' ih =>
      by_cases hP : P s e
      · exact ⟨(s, e), List.mem_append_right _ List.mem_cons_self, hP⟩
      · obtain ⟨x, hx, hPx⟩ := ih fun hI => hs (hstep s e s' hI hok hstep' hP)
        exact ⟨x, List.mem_append_left _ hx, hPx⟩

/-- **Since.** What holds at the end of a run but not at its start was brought about by one of the steps
and has held since. -/
theorem Path.since {P : σ → Prop} {trace : List (σ × ε)} (h : Path step ok s₀ trace s) (h₀ : ¬ P s₀)
    (hs : P s) :
    ∃ before x s' after, trace = before ++ x :: after ∧ Path step ok s₀ before x.1 ∧ ok x.1 x.2 ∧
      step x.1 x.2 s' ∧ ¬ P x.1 ∧ P s' ∧ Path step ok s' after s ∧ ∀ y ∈ after, P y.1 := by
  induction h with
  | start => exact absurd hs h₀
  | @step trace s s' e hpath hok hstep ih =>
      by_cases hbefore : P s
      · obtain ⟨before, x, s₁, after, rfl, hx, hokx, hsx, hnot, hP, hafter, hall⟩ := ih hbefore
        refine ⟨before, x, s₁, after ++ [(s, e)], by simp, hx, hokx, hsx, hnot, hP,
          .step hafter hok hstep, ?_⟩
        intro y hy
        rcases List.mem_append.1 hy with hy | hy
        · exact hall y hy
        · obtain rfl := List.mem_singleton.1 hy
          exact hbefore
      · exact ⟨trace, (s, e), s', [], rfl, hpath, hok, hstep, hbefore, hs, .start, by simp⟩

/-- **Rank.** Where every busy step brings the rank down, no other step brings it up, and only a goal can
set it back, by at most `bound`, a run has no more busy steps than its goals pay for. -/
theorem Path.countP_rank_le {trace : List (σ × ε)} (h : Path step ok s₀ trace s)
    (I : List (σ × ε) → σ → Prop) (rank : σ → ℕ) (busy goal : σ × ε → Bool) (bound : ℕ) (h₀ : I [] s₀)
    (hstep : ∀ trace s e s', I trace s → ok s e → step s e s' → I (trace ++ [(s, e)]) s' ∧
      rank s' + (if busy (s, e) then 1 else 0) ≤ rank s + (if goal (s, e) then bound else 0)) :
    I trace s ∧ trace.countP busy + rank s ≤ rank s₀ + bound * trace.countP goal := by
  refine h.invariant (I := fun trace s => I trace s ∧
    trace.countP busy + rank s ≤ rank s₀ + bound * trace.countP goal) ⟨h₀, by simp⟩ ?_
  intro trace s e s' ⟨hinv, hcount⟩ hok hs
  obtain ⟨hinv', hrank⟩ := hstep trace s e s' hinv hok hs
  refine ⟨hinv', ?_⟩
  rw [List.countP_append, List.countP_append, List.countP_singleton, List.countP_singleton,
    Nat.mul_add]
  split_ifs at hrank ⊢ <;> omega

/-- What is observed of a history grows by what its last step shows. -/
theorem filterMap_snoc {α β : Type*} (f : α → Option β) (trace : List α) (x : α) :
    (trace ++ [x]).filterMap f = trace.filterMap f ++ (f x).toList := by
  rw [List.filterMap_append, List.filterMap_cons]
  cases f x <;> rfl

/-- A guarded run of a function is its run on the events. -/
theorem runList_of_path {f : σ → ε → Option σ} {trace : List (σ × ε)}
    (h : Path (fun s e s' => f s e = some s') ok s₀ trace s) :
    runList f s₀ (trace.map Prod.snd) = some s := by
  induction h with
  | start => rfl
  | step _ _ hstep ih =>
      rw [List.map_append, runList_append, ih, Option.bind_some]
      simp only [List.map_cons, List.map_nil, runList, hstep, Option.bind_some]

/-- The history of a run of a function that may fail, up to the failure. -/
def history {σ ε : Type*} (f : σ → ε → Option σ) : σ → List ε → List (σ × ε)
  | _, [] => []
  | s, e :: es =>
      (s, e) ::
        match f s e with
        | some s' => history f s' es
        | none => []

/-- A guarded run has a history. -/
theorem path_of_runGuarded {f : σ → ε → Option σ} [∀ s e, Decidable (ok s e)] {s' : σ} (es : List ε)
    (h : runGuarded f ok s es = some s') :
    Path (fun s e s' => f s e = some s') ok s (history f s es) s' := by
  induction es generalizing s with
  | nil =>
      obtain rfl : s = s' := by simpa [runGuarded] using h
      exact .start
  | cons e es ih =>
      rw [runGuarded] at h
      split at h
      · next hok =>
          obtain ⟨s₁, hs₁, hrest⟩ := Option.bind_eq_some_iff.1 h
          have hpath := (Path.step .start hok hs₁).trans (ih hrest)
          have hhistory : history f s (e :: es) = [] ++ [(s, e)] ++ history f s₁ es := by
            simp only [history, hs₁, List.nil_append, List.singleton_append]
          rw [hhistory]
          exact hpath
      · cases h

/-- The events of the history of a run that does not fail are those of the run. -/
theorem map_history {σ ε : Type*} {f : σ → ε → Option σ} {s s' : σ} {es : List ε}
    (h : runList f s es = some s') : (history f s es).map Prod.snd = es := by
  induction es generalizing s with
  | nil => rfl
  | cons e es ih =>
      obtain ⟨s₁, hstep, hrest⟩ := Option.bind_eq_some_iff.1 h
      simp only [history, hstep, List.map_cons, ih hrest]

/-- Where a guarded run ends is a state reached. -/
theorem reached_of_runGuarded {f : σ → ε → Option σ} [∀ s e, Decidable (ok s e)] {s' : σ}
    (es : List ε) (h : runGuarded f ok s es = some s') :
    Reached (fun s e s' => f s e = some s') ok s s' := (path_of_runGuarded es h).reached

end Runs
