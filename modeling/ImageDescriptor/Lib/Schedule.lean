/-
# Tasks that complete in any order

Tasks run at the same time.  When one of them completes it leaves a result in a slot of its
own and adds entries to a log that all of them share.  The results do not depend on the
order in which the tasks complete; the log does not either exactly when the entries of any
two tasks commute.
-/
import Mathlib.Data.List.Perm.Basic
import Mathlib.Logic.Function.Basic

namespace ImageDescriptor.Lib

variable {τ : Type*} [DecidableEq τ] {β : τ → Type*} {ω : Type*}

/-- The results of the tasks, and their common log. -/
structure Board (β : τ → Type*) (ω : Type*) where
  slots : (t : τ) → β t
  log : List ω

namespace Board

/-- What a task leaves when it completes. -/
abbrev Leaves (β : τ → Type*) (ω : Type*) := (t : τ) → β t × List ω

/-- The completion of a task. -/
def complete (f : Leaves β ω) (b : Board β ω) (t : τ) : Board β ω where
  slots := Function.update b.slots t (f t).1
  log := b.log ++ (f t).2

/-- The completion of tasks one after the other. -/
def completeAll (f : Leaves β ω) (b : Board β ω) (ts : List τ) : Board β ω :=
  ts.foldl (complete f) b

variable {f g : Leaves β ω} {b : Board β ω} {ts ts' : List τ}

lemma completeAll_congr (h : ∀ t ∈ ts, f t = g t) : completeAll f b ts = completeAll g b ts :=
  List.foldl_ext _ _ _ fun b t ht => by rw [complete, complete, h t ht]

@[simp] lemma completeAll_log : (completeAll f b ts).log = b.log ++ ts.flatMap fun t => (f t).2 := by
  induction ts generalizing b with
  | nil => simp [completeAll]
  | cons t ts ih =>
    have hrest : (completeAll f (complete f b t) ts).log =
        (complete f b t).log ++ ts.flatMap fun t => (f t).2 := ih
    simpa [completeAll, complete, List.append_assoc] using hrest

/-- Each slot holds the result of its task, once the task has completed. -/
@[simp] lemma completeAll_slots (t : τ) :
    (completeAll f b ts).slots t = if t ∈ ts then (f t).1 else b.slots t := by
  induction ts generalizing b with
  | nil => simp [completeAll]
  | cons u ts ih =>
    have hrest : (completeAll f (complete f b u) ts).slots t =
        if t ∈ ts then (f t).1 else (complete f b u).slots t := ih
    rw [completeAll, List.foldl_cons]
    refine hrest.trans ?_
    by_cases hts : t ∈ ts
    · simp [hts]
    · by_cases htu : t = u
      · subst htu
        simp [hts, complete]
      · simp [hts, htu, complete]

/-- **The results do not depend on the order of completion.** -/
theorem completeAll_slots_perm (h : ts.Perm ts') :
    (completeAll f b ts).slots = (completeAll f b ts').slots := by
  funext t
  simp [h.mem_iff]

end Board

/-- **The entries of a list of tasks come out the same in every order exactly when those of
any two of them commute.** -/
theorem flatMap_perm_iff {e : τ → List ω} {ts : List τ} :
    (∀ ts' : List τ, ts'.Perm ts → ts'.flatMap e = ts.flatMap e) ↔
      ∀ t ∈ ts, ∀ u ∈ ts, e t ++ e u = e u ++ e t := by
  constructor
  · intro h t ht u hu
    by_cases htu : u = t
    · rw [htu]
    · have hu' : u ∈ ts.erase t := (List.mem_erase_of_ne htu).mpr hu
      have hfirst : ts.Perm (t :: u :: (ts.erase t).erase u) :=
        (List.perm_cons_erase ht).trans ((List.perm_cons_erase hu').cons t)
      have hsecond : ts.Perm (u :: t :: (ts.erase t).erase u) :=
        hfirst.trans (List.Perm.swap _ _ _)
      have hsame := (h _ hfirst.symm).trans (h _ hsecond.symm).symm
      simp only [List.flatMap_cons, ← List.append_assoc] at hsame
      exact List.append_cancel_right hsame
  · intro h ts' hperm
    induction hperm with
    | nil => rfl
    | cons t _ ih =>
      have hrest := ih fun u hu v hv => h u (by simp [hu]) v (by simp [hv])
      rw [List.flatMap_cons, List.flatMap_cons, hrest]
    | swap t u ts =>
      have hcommute := h t (by simp) u (by simp)
      simp only [List.flatMap_cons, ← List.append_assoc, hcommute]
    | trans h₁ h₂ ih₁ ih₂ =>
      have hmiddle := ih₂ h
      refine (ih₁ fun t ht u hu => ?_).trans hmiddle
      exact h t (h₂.mem_iff.mp ht) u (h₂.mem_iff.mp hu)

end ImageDescriptor.Lib
