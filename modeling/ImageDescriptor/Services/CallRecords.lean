/-
# One record for each call

Every call whose coroutine has been started should tell its breaker once how it ended.  The
clause `except Exception` of `_safe_call` sees values and exceptions; the `CancelledError`
of a request that has timed out passes it by.  So a call has made exactly one record when
it is over, unless it was cancelled, and an upstream that hangs until the request times out
is never counted as failing.
-/
import ImageDescriptor.Services.BreakerAccounting

namespace ImageDescriptor.Composer

open Lib

/-- The coroutine of the call has been started and has ended. -/
def Task.Over {α : Type} : Task α → Prop
  | .ended _ => True
  | .cancelled started => started = true
  | _ => False

/-- The records that belong to a call. -/
def Task.verdicts {α : Type} : Task α → List Verdict
  | .ended (some _) => [.success]
  | .ended none => [.failure]
  | _ => []

@[simp] lemma Task.verdicts_cancel {α : Type} (t : Task α) : t.cancel.verdicts = t.verdicts := by
  rcases t with _ | _ | _ | _ | r | started <;> rfl

@[simp] lemma Task.verdicts_create {α : Type} (t : Task α) : t.create.verdicts = t.verdicts := by
  rcases t with _ | _ | _ | _ | r | started <;> rfl

/-- The verdicts that belong to the calls of a composition, if there is one. -/
def verdictsOf (svc : Service) : Option Composition → List Verdict
  | some c => (c.tasks svc).verdicts
  | none => []

namespace Process

variable {rt : Runtime} {cfg : Settings} {s s' : Process} {e : Event}

/-- The call of a service in a composition has made exactly one record: a success if its
coroutine has returned, a failure otherwise. -/
def RecordedOnce (s : Process) (id : ℕ) (svc : Service) (t : Task svc.Result) : Prop :=
  ∃ v, s.records id svc = [v] ∧ (v = .success ↔ ∃ r, t = .ended (some r))

/-- The invariant: the records are those that belong to the calls. -/
def RecordsMatch (s : Process) : Prop :=
  ∀ id svc, s.records id svc = verdictsOf svc (s.compositions id)

/-- A change of one composition that leaves the records of its calls alone. -/
lemma recordsMatch_setComposition (hs : RecordsMatch s) {id : ℕ} {c : Composition}
    (hc : ∀ svc, (c.tasks svc).verdicts = verdictsOf svc (s.compositions id)) :
    RecordsMatch (s.setComposition id c) := by
  intro id' svc
  by_cases hid : id' = id
  · subst hid
    simpa [setComposition, verdictsOf, hc svc] using hs id' svc
  · simpa [setComposition, Function.update_of_ne hid] using hs id' svc

/-- The tasks after a call has moved on. -/
lemma verdicts_setTask {c : Composition} {svc : Service} {t : Task svc.Result}
    (h : t.verdicts = (c.tasks svc).verdicts) (svc' : Service) :
    ((c.setTask svc t).tasks svc').verdicts = (c.tasks svc').verdicts := by
  by_cases hsvc : svc' = svc
  · subst hsvc
    simpa [Composition.setTask] using h
  · simp [Composition.setTask, Function.update_of_ne hsvc]

lemma recordsMatch_initial : RecordsMatch initial := fun _ _ => rfl

/-- The end of a coroutine adds the one record that belongs to it. -/
lemma recordsMatch_ends (hs : RecordsMatch s) {t : ℚ} {id : ℕ} {c : Composition} {svc : Service}
    (hc : s.compositions id = some c) (hrunning : c.tasks svc = .running)
    (run : ModuleRun svc.Result) : RecordsMatch (s.ends t id c svc run) := by
  have hnone : s.records id svc = [] := by
    rw [hs id svc, hc]
    simp [verdictsOf, hrunning, Task.verdicts]
  have hother : ∀ svc', s.records id svc' = (c.tasks svc').verdicts := by
    intro svc'
    rw [hs id svc', hc]
    rfl
  intro id' svc'
  by_cases hid : id' = id
  · subst hid
    by_cases hsvc : svc' = svc
    · subst hsvc
      rcases hr : run.result with e | r <;>
        simp [ends, hr, setComposition, record, setBreaker, Composition.setTask,
          Composition.warn, verdictsOf, Task.verdicts, hnone]
    · rcases hr : run.result with e | r <;>
        simp [ends, hr, setComposition, record, setBreaker, Composition.setTask,
          Composition.warn, verdictsOf, Function.update_of_ne hsvc, hother]
  · have hold := hs id' svc'
    rcases hr : run.result with e | r <;>
      simpa [ends, hr, setComposition, record, setBreaker, Function.update_of_ne hid] using hold

/-- A call that asks its breaker makes no record. -/
lemma recordsMatch_check (hs : RecordsMatch s) {t : ℚ} {id : ℕ} {c : Composition} {svc : Service}
    (hc : s.compositions id = some c) (hcreated : c.tasks svc = .created) :
    RecordsMatch (s.check t id c svc) := by
  have hasked : RecordsMatch (s.setBreaker svc ((s.breakers svc).isOpen t).1
      ((s.tally svc).checked (s.breakers svc) t)) := fun id svc => hs id svc
  have hmoved : ∀ t : Task svc.Result, t.verdicts = [] → ∀ svc',
      ((c.setTask svc t).tasks svc').verdicts = verdictsOf svc' (s.compositions id) := by
    intro t ht svc'
    rw [hc]
    exact verdicts_setTask (by rw [ht, hcreated]; rfl) svc'
  simp only [check]
  split
  · exact recordsMatch_setComposition hasked fun svc' => hmoved .shortCircuited rfl svc'
  · exact recordsMatch_setComposition hasked fun svc' => hmoved .running rfl svc'

lemma recordsMatch_acts (hs : RecordsMatch s) {t : ℚ} {a : Action} (h : s.Acts rt cfg t a s') :
    RecordsMatch s' := by
  cases h with
  | request hnew =>
    refine recordsMatch_setComposition hs fun svc => ?_
    rw [hnew]
    cases svc <;> rfl
  | check hc htask => exact recordsMatch_check hs hc htask
  | ends hc htask => exact recordsMatch_ends hs hc htask _
  | phase2 hc =>
    refine recordsMatch_setComposition hs fun svc => ?_
    rw [hc]
    exact Task.verdicts_create _
  | returns hc =>
    refine recordsMatch_setComposition hs fun svc => ?_
    rw [hc]
    rfl
  | timeout hc =>
    refine recordsMatch_setComposition hs fun svc => ?_
    rw [hc]
    exact Task.verdicts_cancel _
  | status => exact hs

lemma recordsMatch_step (hs : RecordsMatch s) (h : step rt cfg s e = some s') :
    RecordsMatch s' := by
  obtain ⟨-, s₁, hacts, rfl⟩ := step_acts h
  intro id svc
  exact recordsMatch_acts hs hacts id svc

/-- **A call that is over has made exactly one record unless it was cancelled.**  This holds
in every state that any interleaving of compositions, time-outs and status requests
reaches. -/
theorem recordedOnce_iff {es : List Event}
    (hrun : Run (step rt cfg) (fun _ _ => True) initial es s) {id : ℕ} {svc : Service}
    {c : Composition} (hc : s.compositions id = some c) (hover : (c.tasks svc).Over) :
    RecordedOnce s id svc (c.tasks svc) ↔ c.tasks svc ≠ .cancelled true := by
  have hs : RecordsMatch s :=
    hrun.invariant (fun _ _ _ hs _ h => recordsMatch_step hs h) recordsMatch_initial
  have hrecords : s.records id svc = (c.tasks svc).verdicts := by
    rw [hs id svc, hc]
    rfl
  simp only [RecordedOnce, hrecords]
  rcases ht : c.tasks svc with _ | _ | _ | _ | r | started
  · simp [ht, Task.Over] at hover
  · simp [ht, Task.Over] at hover
  · simp [ht, Task.Over] at hover
  · simp [ht, Task.Over] at hover
  · rcases r with _ | r
    · exact iff_of_true ⟨.failure, rfl, by simp⟩ (by simp)
    · exact iff_of_true ⟨.success, rfl, by simp⟩ (by simp)
  · -- the cancellation passes the clause `except Exception` by
    simp only [ht, Task.Over] at hover
    subst hover
    simp [Task.verdicts]

/-! ### An upstream that hangs -/

/-- In a step, no coroutine of the service ends: its calls hang until they are cancelled. -/
def Hangs (svc : Service) (_ : Process) (e : Event) : Prop :=
  ∀ id answers, e.action ≠ .ends id svc answers

/-- **The breaker of a service that always hangs stays closed.**  However many calls are
started and cancelled, no failure is counted. -/
theorem closed_of_hanging {svc : Service} {es : List Event}
    (hrun : Run (step rt cfg) (Hangs svc) initial es s) :
    (s.breakers svc).failureCount = 0 ∧ (s.breakers svc).openUntil = 0 := by
  have hstep : ∀ (s : Process) (e : Event) (s' : Process),
      (s.breakers svc).failureCount = 0 ∧ (s.breakers svc).openUntil = 0 → Hangs svc s e →
      step rt cfg s e = some s' →
      (s'.breakers svc).failureCount = 0 ∧ (s'.breakers svc).openUntil = 0 := by
    intro s e s' hclosed hhangs h
    rcases step_service h svc with ⟨hb, -⟩ | ⟨hb, -⟩ | ⟨id, answers, c, haction, -⟩
    · rw [hb]
      exact hclosed
    · -- asking a closed breaker leaves it as it is
      have hblocks : ¬ (s.breakers svc).Blocks e.time := fun hb => hb.1 hclosed.2
      have hhalf : ¬ (s.breakers svc).HalfOpens e.time := fun hh => hh.1 hclosed.2
      rw [hb, CircuitBreaker.isOpen_of_closed hblocks hhalf]
      exact hclosed
    · exact absurd haction (hhangs id answers)
  exact hrun.invariant
    (I := fun s => (s.breakers svc).failureCount = 0 ∧ (s.breakers svc).openUntil = 0) hstep
    ⟨rfl, rfl⟩

/-- A request whose geocoder call is started and hangs until the request times out. -/
def hangingRequest (i : ℕ) : List Event :=
  [⟨31 * i, .request i (sceneRequest none) true⟩, ⟨31 * i, .check i .geocoder⟩,
    ⟨31 * i + 30, .timeout i⟩]

/-- A request whose geocoder call fails. -/
def failingRequest : List Event :=
  [⟨0, .request 0 (sceneRequest none) true⟩, ⟨0, .check 0 .geocoder⟩,
    ⟨1, .ends 0 .geocoder serverError⟩]

/-- Whether the geocoder call of a composition has ended without a value. -/
def geocoderFailed (s : Process) (id : ℕ) : Bool :=
  match s.compositions id with
  | some c =>
    match c.tasks .geocoder with
    | .ended none => true
    | _ => false
  | none => false

/-- Whether the geocoder call of a composition was cancelled after its start. -/
def geocoderCancelled (s : Process) (id : ℕ) : Bool :=
  match s.compositions id with
  | some c =>
    match c.tasks .geocoder with
    | .cancelled true => true
    | _ => false
  | none => false

theorem failed_call_is_recorded :
    ∃ s c, Run (step plainRuntime .default) (fun _ _ => True) initial failingRequest s ∧
      s.compositions 0 = some c ∧ RecordedOnce s 0 .geocoder (c.tasks .geocoder) := by
  obtain ⟨s, hrun, hs⟩ : ∃ s, Run (step plainRuntime .default) (fun _ _ => True) initial
      failingRequest s ∧ geocoderFailed s 0 = true :=
    Run.of_observed (by decide +kernel)
  simp only [geocoderFailed] at hs
  split at hs
  · rename_i c hc
    split at hs
    · rename_i ht
      have hover : (c.tasks .geocoder).Over := by
        rw [ht]
        trivial
      exact ⟨s, c, hrun, hc, (recordedOnce_iff hrun hc hover).mpr (by simp [ht])⟩
    · cases hs
  · cases hs

theorem hanging_calls_are_not_recorded :
    ∃ s, Run (step plainRuntime .default) (fun _ _ => True) initial
        ((List.range 5).flatMap hangingRequest) s ∧
      (∀ id < 5, ∃ c, s.compositions id = some c ∧ (c.tasks .geocoder).Over ∧
        ¬ RecordedOnce s id .geocoder (c.tasks .geocoder)) ∧
      (s.breakers .geocoder).failureCount = 0 ∧ ¬ (s.breakers .geocoder).Blocks s.now := by
  obtain ⟨s, hrun, hs⟩ : ∃ s, Run (step plainRuntime .default) (fun _ _ => True) initial
      ((List.range 5).flatMap hangingRequest) s ∧
      ((List.range 5).all (fun id => geocoderCancelled s id && (s.records id .geocoder).isEmpty) &&
        decide ((s.breakers .geocoder).failureCount = 0 ∧
          ¬ (s.breakers .geocoder).Blocks s.now)) = true :=
    Run.of_observed (by decide +kernel)
  simp only [Bool.and_eq_true, List.all_eq_true, List.mem_range, decide_eq_true_eq,
    List.isEmpty_iff] at hs
  obtain ⟨hcalls, hcount, hclosed⟩ := hs
  refine ⟨s, hrun, fun id hid => ?_, hcount, hclosed⟩
  obtain ⟨hcancelled, hrecords⟩ := hcalls id hid
  simp only [geocoderCancelled] at hcancelled
  split at hcancelled
  · rename_i c hc
    split at hcancelled
    · rename_i ht
      refine ⟨c, hc, by rw [ht]; rfl, ?_⟩
      rintro ⟨v, hv, -⟩
      rw [hrecords] at hv
      cases hv
    · cases hcancelled
  · cases hcancelled

end Process

end ImageDescriptor.Composer
