/-
# One composition from its beginning to its end

`Services/Composer.lean` interleaves the calls of many compositions.  Seen from one of them,
all that the others and the outside can do is to decide whether a breaker refuses its call,
how the calls end that the coroutines of its services make, and in which order the calls of
a phase end.  `compose_description` is a function of these.
-/
import Mathlib.Data.List.Perm.Basic
import ImageDescriptor.Services.Composer

namespace ImageDescriptor.Composer

/-- What the calls of one composition meet. -/
structure Calls where
  refused : Service → Bool
  answers : Service → Answers
  /-- the calls of the first phase in the order in which they end -/
  order₁ : List Service
  order₂ : List Service
  order₁_perm : order₁.Perm [.geocoder, .landcover, .mission]
  order₂_perm : order₂.Perm [.describer, .context]

variable (rt : Runtime) (cfg : Settings) (w : Calls)

/-- `_safe_call` on the state of its composition. -/
def safeCall (c : Composition) (svc : Service) : Composition :=
  if w.refused svc then (c.setTask svc .shortCircuited).warn svc "Circuit breaker open"
  else
    match (c.runService rt cfg svc (w.answers svc)).result with
    | .ok r => c.setTask svc (.ended (some r))
    | .error e => (c.setTask svc (.ended none)).warn svc e.message

/-- `compose_description`. -/
def composeDescription (request : DescribeRequest) : Except Exc DescribeResponse :=
  ((w.order₁ ++ w.order₂).foldl (safeCall rt cfg w) (.start request 0 false)).respond

variable {rt cfg w} {s : Process} {c : Composition} {svc : Service}

/-- A call that its breaker has let pass ends in the process as it does here. -/
lemma ends_eq_safeCall {now : ℚ} {id : ℕ} (hrefused : w.refused svc = false) :
    (s.ends now id c svc (c.runService rt cfg svc (w.answers svc))).compositions id =
      some (safeCall rt cfg w c svc) := by
  rcases hr : (c.runService rt cfg svc (w.answers svc)).result with e | r <;>
    simp [Process.ends, Process.setComposition, safeCall, hrefused, hr]

/-- So does a call that its breaker refuses. -/
lemma check_eq_safeCall {now : ℚ} {id : ℕ} (hrefused : w.refused svc = true)
    (hblocks : (s.breakers svc).Blocks now) :
    (s.check now id c svc).compositions id = some (safeCall rt cfg w c svc) := by
  simp [Process.check, CircuitBreaker.isOpen_of_blocks hblocks, Process.setComposition, safeCall,
    hrefused]

/-- After its call, the task of a service has a value: `gather` does not raise. -/
lemma value_safeCall : (((safeCall rt cfg w c svc).tasks svc).value).isSome = true := by
  unfold safeCall
  split
  · simp [Composition.warn, Composition.setTask, Task.value]
  · split
    · simp [Composition.setTask, Task.value]
    · simp [Composition.warn, Composition.setTask, Task.value]

/-- What a composition raises comes from the response model. -/
lemma respond_error {e : Exc} (h : c.respond = .error e) :
    e = validationError "description" := by
  unfold Composition.respond at h
  rcases hdesc : Composition.describedBy (c.result .describer) with e' | d
  · rw [hdesc, Except.error.injEq] at h
    subst h
    unfold Composition.describedBy at hdesc
    split at hdesc <;> cases hdesc
    rfl
  · rw [hdesc] at h
    cases h

/-- **The only exception that leaves `compose_description` is a `ValidationError`.** -/
lemma composeDescription_error {request : DescribeRequest} {e : Exc}
    (h : composeDescription rt cfg w request = .error e) :
    e.isinstance .validationError = true := by
  rw [respond_error h]
  decide

end ImageDescriptor.Composer
