/-
# Runs of a partial step function

A machine is given by a partial step function on states and events.  This file sets up
its runs and the induction rules that turn a fact about one step into a fact about a
whole run: what every step preserves holds at the end, and what every step keeps exactly
under a condition holds at the end exactly of the runs whose steps all meet it.  Every run
carries a condition on its steps, so that a result can speak of the runs in which each step
meets a condition; the condition `fun _ _ => True` gives all runs.
-/
import Mathlib.Logic.Function.Basic

namespace ImageDescriptor.Lib

variable {σ ε : Type*}

/-- `Run step C s es s'`: from `s` the events `es` are taken one after the other, each of
them meets `C` in the state in which it is taken, and the last state is `s'`. -/
inductive Run (step : σ → ε → Option σ) (C : σ → ε → Prop) : σ → List ε → σ → Prop
  | nil (s : σ) : Run step C s [] s
  | cons {s s₁ s' : σ} {e : ε} {es : List ε} (hC : C s e) (hstep : step s e = some s₁)
      (hrest : Run step C s₁ es s') : Run step C s (e :: es) s'

namespace Run

variable {step : σ → ε → Option σ} {C D : σ → ε → Prop} {s s₁ s' : σ} {es fs : List ε}

/-- **The invariant rule.**  What every step that meets the condition preserves holds at
the end of a run of such steps when it holds at its beginning. -/
theorem invariant {I : σ → Prop}
    (hI : ∀ s e s₁, I s → C s e → step s e = some s₁ → I s₁)
    (h : Run step C s es s') (h0 : I s) : I s' := by
  induction h with
  | nil s => exact h0
  | cons hC hstep _ ih => exact ih (hI _ _ _ h0 hC hstep)

/-- **The rule of accounts.**  What every step keeps true of the state and the events so far
holds of the last state and of all events of the run. -/
theorem account {I : σ → List ε → Prop} (past : List ε)
    (hI : ∀ s e s₁ past, I s past → C s e → step s e = some s₁ → I s₁ (past ++ [e]))
    (h : Run step C s es s') (h0 : I s past) : I s' (past ++ es) := by
  induction h generalizing past with
  | nil s =>
    rw [List.append_nil]
    exact h0
  | @cons s s₁ s' e es hC hstep _ ih =>
    have hs₁ : I s' ((past ++ [e]) ++ es) := ih (past ++ [e]) (hI s e s₁ past h0 hC hstep)
    rwa [List.append_assoc] at hs₁

/-- The steps of a run are taken in states in which its invariant holds. -/
lemma carry {I : σ → Prop}
    (hI : ∀ s e s₁, I s → C s e → step s e = some s₁ → I s₁)
    (h : Run step C s es s') (h0 : I s) : Run step (fun s e => I s ∧ C s e) s es s' := by
  induction h with
  | nil s => exact .nil s
  | cons hC hstep _ ih => exact .cons ⟨h0, hC⟩ hstep (ih (hI _ _ _ h0 hC hstep))

/-- A run that goes on. -/
lemma append {s₂ : σ} (h : Run step C s es s₁) (h' : Run step C s₁ fs s₂) :
    Run step C s (es ++ fs) s₂ := by
  induction h with
  | nil s => exact h'
  | cons hC hstep _ ih => exact .cons hC hstep (ih h')

/-- A run under a condition is a run under a weaker one. -/
lemma mono (hCD : ∀ s e, C s e → D s e) (h : Run step C s es s') : Run step D s es s' := by
  induction h with
  | nil s => exact .nil s
  | cons hC hstep _ ih => exact .cons (hCD _ _ hC) hstep ih

/-- What no step brings back held at the beginning when it holds at the end. -/
lemma of_last {J : σ → Prop} (hlost : ∀ s e s₁, C s e → step s e = some s₁ → J s₁ → J s)
    (h : Run step C s es s') (hs' : J s') : J s := by
  induction h with
  | nil s => exact hs'
  | cons hC hstep _ ih => exact hlost _ _ _ hC hstep (ih hs')

/-- **The exactness rule.**  Where a property holds after a step exactly when the step meets a
condition, and is not regained once it is lost, it holds at the end of a run exactly when
every step of the run meets the condition. -/
theorem holds_iff {I J : σ → Prop}
    (hI : ∀ s e s₁, I s → C s e → step s e = some s₁ → I s₁)
    (hJ : ∀ s e s₁, I s → J s → C s e → step s e = some s₁ → (J s₁ ↔ D s e))
    (hlost : ∀ s e s₁, C s e → step s e = some s₁ → J s₁ → J s)
    (h : Run step C s es s') (h0 : I s) (hJ0 : J s) : J s' ↔ Run step D s es s' := by
  induction h with
  | nil s => exact iff_of_true hJ0 (.nil s)
  | @cons s s₁ s' e es hC hstep hrest ih =>
    constructor
    · intro hs'
      have hs₁ : J s₁ := hrest.of_last hlost hs'
      exact .cons ((hJ s e s₁ h0 hJ0 hC hstep).mp hs₁) hstep
        ((ih (hI s e s₁ h0 hC hstep) hs₁).mp hs')
    · intro hrun
      cases hrun with
      | @cons _ s₂ _ _ _ hD hstep' hrest' =>
        rw [hstep, Option.some.injEq] at hstep'
        subst hstep'
        have hs₁ : J s₁ := (hJ s e s₁ h0 hJ0 hC hstep).mpr hD
        exact (ih (hI s e s₁ h0 hC hstep) hs₁).mpr hrest'

/-- A run of a machine is a run of every machine that keeps a record beside its state. -/
lemma lift {τ : Type*} {step' : τ → ε → Option τ} {f : τ → σ}
    (hf : ∀ t e s₁, step (f t) e = some s₁ → ∃ t₁, step' t e = some t₁ ∧ f t₁ = s₁) {t : τ}
    (h : Run step C (f t) es s') :
    ∃ t', Run step' (fun t e => C (f t) e) t es t' ∧ f t' = s' := by
  generalize hs : f t = s at h
  induction h generalizing t with
  | nil s => exact ⟨t, .nil t, hs⟩
  | cons hC hstep _ ih =>
    subst hs
    obtain ⟨t₁, hstep', ht₁⟩ := hf _ _ _ hstep
    obtain ⟨t', hrun, ht'⟩ := ih ht₁
    exact ⟨t', .cons hC hstep' hrun, ht'⟩

/-- **The purge rule.**  Events that a second machine takes as the first one does, and events
that make no difference to it: what is left of a run without the latter is a run of the second
machine, to a state that is still related. -/
theorem purge {τ : Type*} {step' : τ → ε → Option τ} {R : σ → τ → Prop} (keep : ε → Bool)
    (h : Run step C s es s')
    (hkeep : ∀ s t e s₁, R s t → C s e → keep e = true → step s e = some s₁ →
      ∃ t₁, step' t e = some t₁ ∧ R s₁ t₁)
    (hdrop : ∀ s t e s₁, R s t → C s e → keep e = false → step s e = some s₁ → R s₁ t)
    {t : τ} (hR : R s t) :
    ∃ t', Run step' (fun _ _ => True) t (es.filter keep) t' ∧ R s' t' := by
  induction h generalizing t with
  | nil s => exact ⟨t, .nil t, hR⟩
  | @cons s s₁ s' e es hC hstep _ ih =>
    cases hkept : keep e with
    | true =>
      obtain ⟨t₁, hstep', hR₁⟩ := hkeep s t e s₁ hR hC hkept hstep
      obtain ⟨t', hrun, ht'⟩ := ih hR₁
      rw [List.filter_cons_of_pos hkept]
      exact ⟨t', .cons trivial hstep' hrun, ht'⟩
    | false =>
      rw [List.filter_cons_of_neg (by simp [hkept])]
      exact ih (hdrop s t e s₁ hR hC hkept hstep)

end Run

section Computed

variable {step : σ → ε → Option σ} {C : σ → ε → Prop} [∀ s e, Decidable (C s e)]

/-- The state to which a list of events leads, when each of them can be taken and meets the
condition. -/
def exec (step : σ → ε → Option σ) (C : σ → ε → Prop) [∀ s e, Decidable (C s e)] :
    σ → List ε → Option σ
  | s, [] => some s
  | s, e :: es => if C s e then (step s e).bind fun s₁ => exec step C s₁ es else none

lemma Run.of_exec {s s' : σ} {es : List ε} (h : exec step C s es = some s') :
    Run step C s es s' := by
  induction es generalizing s with
  | nil =>
    obtain rfl : s = s' := by simpa [exec] using h
    exact .nil s
  | cons e es ih =>
    simp only [exec] at h
    split at h
    · rename_i hC
      obtain ⟨s₁, hstep, hrest⟩ := Option.bind_eq_some_iff.mp h
      exact .cons hC hstep (ih hrest)
    · cases h

/-- A computed run is a run, and what was computed about its last state holds of it. -/
lemma Run.of_observed {s : σ} {es : List ε} {p : σ → Bool}
    (h : (exec step C s es).map p = some true) :
    ∃ s', Run step C s es s' ∧ p s' = true := by
  obtain ⟨s', hs', hp⟩ := Option.map_eq_some_iff.mp h
  exact ⟨s', .of_exec hs', hp⟩

/-- A computed run that can go on with an event, and what was computed about the states
before and after it. -/
lemma Run.of_observed_step {s : σ} {es : List ε} {e : ε} {p : σ → σ → Bool}
    (h : ((exec step C s es).bind fun s₁ => (step s₁ e).map (p s₁)) = some true) :
    ∃ s₁ s', Run step C s es s₁ ∧ step s₁ e = some s' ∧ p s₁ s' = true := by
  obtain ⟨s₁, hs₁, hnext⟩ := Option.bind_eq_some_iff.mp h
  obtain ⟨s', hs', hp⟩ := Option.map_eq_some_iff.mp hnext
  exact ⟨s₁, s', .of_exec hs₁, hs', hp⟩

end Computed

section Observed

variable {ο : Type*} {next : σ → ε → σ} {observe : σ → ε → ο}

/-- What is observed of the events of a list when they are taken one after the other. -/
def trace (next : σ → ε → σ) (observe : σ → ε → ο) : σ → List ε → List ο
  | _, [] => []
  | s, e :: es => observe s e :: trace next observe (next s e) es

/-- **The rule of indistinguishable states.**  States that are related by a relation which
every event preserves, and under which every event is observed alike, have the same
traces. -/
theorem trace_eq_of_related {R : σ → σ → Prop}
    (hobserve : ∀ s t e, R s t → observe s e = observe t e)
    (hnext : ∀ s t e, R s t → R (next s e) (next t e)) {s t : σ} (h : R s t) (es : List ε) :
    trace next observe s es = trace next observe t es := by
  induction es generalizing s t with
  | nil => rfl
  | cons e es ih =>
    simp only [trace, List.cons.injEq]
    exact ⟨hobserve s t e h, ih (hnext s t e h)⟩

/-- **The rule of simulation.**  Two machines whose states are related, and stay so under every
event, and that observe every event alike, have the same traces. -/
theorem trace_eq_of_simulates {τ : Type*} {next' : τ → ε → τ} {observe' : τ → ε → ο}
    {R : σ → τ → Prop} (hobserve : ∀ s t e, R s t → observe s e = observe' t e)
    (hnext : ∀ s t e, R s t → R (next s e) (next' t e)) {s : σ} {t : τ} (h : R s t) (es : List ε) :
    trace next observe s es = trace next' observe' t es := by
  induction es generalizing s t with
  | nil => rfl
  | cons e es ih =>
    simp only [trace, List.cons.injEq]
    exact ⟨hobserve s t e h, ih (hnext s t e h)⟩

end Observed

section Tasks

variable {ι α : Type*} [DecidableEq ι] {tasks : ι → Option α} {i j : ι} {a b : α}

/-- When a step writes one task of a table, a task of the new table is that one, or it stood
there before. -/
lemma update_some_cases (h : Function.update tasks i (some a) j = some b) :
    (j = i ∧ a = b) ∨ (j ≠ i ∧ tasks j = some b) := by
  by_cases hj : j = i
  · subst hj
    rw [Function.update_self, Option.some.injEq] at h
    exact .inl ⟨rfl, h⟩
  · rw [Function.update_of_ne hj] at h
    exact .inr ⟨hj, h⟩

end Tasks

end ImageDescriptor.Lib
