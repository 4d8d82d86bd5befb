import Cubbies.Lib.Runs

set_option autoImplicit false

/-! # Refinement between event-driven systems

One step of a system may stand for several events of another one, or for none. `Refines` says that the
states of the first abstract to states of the second such that every step is a run on the events it
stands for; then so is every run (`Refines.path`), and what holds of all runs of the second system holds
of the first. Where the second system computes its next state, so does a run (`Path.foldl_observed`). -/

namespace Runs

variable {σ ε τ η : Type*}

/-- The events of the other system that a history stands for. -/
def observed (events : σ → ε → List η) (trace : List (σ × ε)) : List η :=
  trace.flatMap fun x => events x.1 x.2

@[simp] theorem observed_nil (events : σ → ε → List η) : observed events [] = [] := rfl

theorem observed_snoc (events : σ → ε → List η) (trace : List (σ × ε)) (x : σ × ε) :
    observed events (trace ++ [x]) = observed events trace ++ events x.1 x.2 := by
  simp [observed]

/-- The guarded runs from `s` to `s'` on a list of events. -/
def RunsOn (step : σ → ε → σ → Prop) (ok : σ → ε → Prop) (s : σ) (es : List ε) (s' : σ) : Prop :=
  ∃ trace, Path step ok s trace s' ∧ trace.map Prod.snd = es

section RunsOn

variable {step : σ → ε → σ → Prop} {ok : σ → ε → Prop} {s s' s'' : σ} {e : ε} {es es' : List ε}

theorem RunsOn.nil (s : σ) : RunsOn step ok s [] s := ⟨[], .start, rfl⟩

theorem RunsOn.single (hok : ok s e) (hstep : step s e s') : RunsOn step ok s [e] s' :=
  ⟨[] ++ [(s, e)], .step .start hok hstep, rfl⟩

theorem RunsOn.trans (h : RunsOn step ok s es s') (h' : RunsOn step ok s' es' s'') :
    RunsOn step ok s (es ++ es') s'' := by
  obtain ⟨trace, hpath, rfl⟩ := h
  obtain ⟨trace', hpath', rfl⟩ := h'
  exact ⟨trace ++ trace', hpath.trans hpath', List.map_append⟩

theorem RunsOn.reached (h : RunsOn step ok s es s') : Reached step ok s s' := by
  obtain ⟨trace, hpath, -⟩ := h
  exact hpath.reached

end RunsOn

/-- From states with the invariant `I`, every guarded step keeps it and is a run of the other system on
the events it stands for. -/
structure Refines (step : σ → ε → σ → Prop) (ok : σ → ε → Prop) (I : σ → Prop)
    (step' : τ → η → τ → Prop) (ok' : τ → η → Prop) (abs : σ → τ) (events : σ → ε → List η) :
    Prop where
  keeps : ∀ {s s' : σ} {e : ε}, I s → ok s e → step s e s' → I s'
  matched : ∀ {s s' : σ} {e : ε}, I s → ok s e → step s e s' →
    RunsOn step' ok' (abs s) (events s e) (abs s')

section Refines

variable {step : σ → ε → σ → Prop} {ok : σ → ε → Prop} {I : σ → Prop} {step' : τ → η → τ → Prop}
  {ok' : τ → η → Prop} {abs : σ → τ} {events : σ → ε → List η} {s₀ s : σ} {trace : List (σ × ε)}

/-- **Runs refine.** A run of the first system is one of the second, on the events its history stands
for. -/
theorem Refines.path (h : Refines step ok I step' ok' abs events) (h₀ : I s₀)
    (hpath : Path step ok s₀ trace s) :
    I s ∧ RunsOn step' ok' (abs s₀) (observed events trace) (abs s) := by
  induction hpath with
  | start => exact ⟨h₀, .nil _⟩
  | step _ hok hstep ih =>
      obtain ⟨hI, hruns⟩ := ih
      refine ⟨h.keeps hI hok hstep, ?_⟩
      rw [observed_snoc]
      exact hruns.trans (h.matched hI hok hstep)

/-- The same where the other system is a function: it computes what the run leads to. -/
theorem Path.foldl_observed (hpath : Path step ok s₀ trace s) {f : τ → η → τ} (h₀ : I s₀)
    (hkeep : ∀ {s s' : σ} {e : ε}, I s → ok s e → step s e s' → I s')
    (hmatch : ∀ {s s' : σ} {e : ε}, I s → ok s e → step s e s' →
      abs s' = (events s e).foldl f (abs s)) :
    I s ∧ abs s = (observed events trace).foldl f (abs s₀) := by
  induction hpath with
  | start => exact ⟨h₀, rfl⟩
  | step _ hok hstep ih =>
      obtain ⟨hI, habs⟩ := ih
      refine ⟨hkeep hI hok hstep, ?_⟩
      rw [hmatch hI hok hstep, habs, observed_snoc, List.foldl_append]

end Refines

end Runs
