/-
# Requests in flight and the shutdown

`shutdown_middleware` counts the requests that it has passed to the application, so that the
shutdown can wait for the last of them.  The counter and the event are changed under a lock
of the event loop.  Nothing is awaited while the lock is held, so that it is free whenever a
request asks for it and no request is ever suspended in front of it: this is why the flag,
the counter and the event cannot get out of step, not even by a cancellation.
-/
import Mathlib.Data.Set.Card
import ImageDescriptor.Lib.Run
import ImageDescriptor.Utils.Errors

namespace ImageDescriptor.App

open Lib

variable {Response : Type}

/-- `_SYSTEM_PATHS`. -/
def systemPaths : List String :=
  ["/health", "/metrics", "/api/v1/health", "/api/v1/health/ready", "/api/v1/health/live",
    "/api/v1/cache/stats", "/api/health", "/api/health/ready", "/api/health/live",
    "/api/cache/stats"]

/-- The body of the answer during the shutdown; it names no instance. -/
def serviceUnavailable : ProblemDetail where
  type := "https://problems.cognito-descriptor.io/service-unavailable"
  title := "Service Unavailable"
  status := 503
  detail := "Server is shutting down"
  instanceId := none

/-- Where a request stands: it waits for the lock before the increment, `call_next` is
awaited, it waits for the lock in the `finally` clause, it was refused, or it has ended. -/
inductive RequestPhase (Response : Type)
  | entering
  | passed
  | leaving (ending : Ending Response)
  | refused (body : ProblemDetail)
  | ended (ending : Ending Response)

/-- The module variables and the requests. -/
structure InFlight (Response : Type) where
  shuttingDown : Bool
  inFlight : ℤ
  locked : Bool
  drainEvent : Bool
  requests : ℕ → Option (String × RequestPhase Response)

/-- What happens: a request comes in, it gets the lock, its application returns or raises,
it is cancelled where it is suspended; or the process gets a SIGTERM. -/
inductive AppEvent (Response : Type)
  | request (id : ℕ) (path : String)
  | acquire (id : ℕ)
  | ends (id : ℕ) (r : Except Exc Response)
  | cancel (id : ℕ)
  | sigterm

namespace InFlight

/-- The state after the startup in `lifespan`. -/
def started : InFlight Response := ⟨false, 0, false, true, fun _ => none⟩

def put (s : InFlight Response) (id : ℕ) (path : String) (p : RequestPhase Response) :
    InFlight Response :=
  { s with requests := Function.update s.requests id (some (path, p)) }

/-- `async with _in_flight_lock:` around statements that await nothing. -/
def underLock (body : InFlight Response → InFlight Response) (s : InFlight Response) :
    InFlight Response :=
  { body { s with locked := true } with locked := false }

/-- The increment. -/
def increment (s : InFlight Response) : InFlight Response :=
  { s with inFlight := s.inFlight + 1, drainEvent := false }

/-- The decrement. -/
def decrement (s : InFlight Response) : InFlight Response :=
  let s := { s with inFlight := s.inFlight - 1 }
  if s.inFlight = 0 then { s with drainEvent := true } else s

/-- The request with the lock at hand: the increment, and `call_next`. -/
def pass (s : InFlight Response) (id : ℕ) (path : String) : InFlight Response :=
  (s.underLock increment).put id path .passed

/-- The end of the request with the lock at hand: the decrement. -/
def leave (s : InFlight Response) (id : ℕ) (path : String) (ending : Ending Response) :
    InFlight Response :=
  (s.underLock decrement).put id path (.ended ending)

/-- The `finally` clause. -/
def finish (s : InFlight Response) (id : ℕ) (path : String) (ending : Ending Response) :
    InFlight Response :=
  if s.locked then s.put id path (.leaving ending) else s.leave id path ending

/-- One event; `none` when it cannot happen. -/
def step (s : InFlight Response) : AppEvent Response → Option (InFlight Response)
  | .request id path =>
    match s.requests id with
    | some _ => none
    | none =>
      if s.shuttingDown && decide (path ∉ systemPaths) then
        some (s.put id path (.refused serviceUnavailable))
      else if s.locked then some (s.put id path .entering)
      else some (s.pass id path)
  | .acquire id =>
    match s.requests id with
    | some (path, .entering) => if s.locked then none else some (s.pass id path)
    | some (path, .leaving ending) => if s.locked then none else some (s.leave id path ending)
    | _ => none
  | .ends id r =>
    match s.requests id with
    | some (path, .passed) => some (s.finish id path (.ofExcept r))
    | _ => none
  | .cancel id =>
    match s.requests id with
    | some (path, .entering) => some (s.put id path (.ended .cancelled))
    | some (path, .passed) => some (s.finish id path .cancelled)
    -- the decrement would be lost here
    | some (path, .leaving _) => some (s.put id path (.ended .cancelled))
    | _ => none
  | .sigterm => some { s with shuttingDown := true }

/-- The request has been passed to the application and has not left it. -/
def Passed (s : InFlight Response) (id : ℕ) (path : String) : Prop :=
  s.requests id = some (path, .passed)

/-- The request is between its increment and its decrement. -/
def Counted (s : InFlight Response) (id : ℕ) : Prop :=
  ∃ path, s.Passed id path ∨ ∃ ending, s.requests id = some (path, .leaving ending)

/-- The counter, the event and the flag do what they are for, in a state and in the step that
follows. -/
structure CountsRequests (s : InFlight Response) : Prop where
  finite : {id | s.Counted id}.Finite
  counter : s.inFlight = {id | s.Counted id}.ncard
  event : s.drainEvent = true ↔ s.inFlight = 0
  refuses : s.shuttingDown = true → ∀ e s', step s e = some s' →
    ∀ id path, s'.Passed id path → ¬ s.Passed id path → path ∈ systemPaths
  staysDown : s.shuttingDown = true → ∀ e s', step s e = some s' → s'.shuttingDown = true

/-! ### No request waits for the lock -/

/-- The lock is free and nobody waits for it; the counter and the event are right. -/
structure Consistent (s : InFlight Response) : Prop where
  free : s.locked = false
  unawaited : ∀ id path ending, s.requests id ≠ some (path, .entering) ∧
    s.requests id ≠ some (path, .leaving ending)
  finite : {id | s.Counted id}.Finite
  counter : s.inFlight = {id | s.Counted id}.ncard
  event : s.drainEvent = true ↔ s.inFlight = 0

/-- What an event does while the lock is free. -/
inductive Moves (s : InFlight Response) : InFlight Response → Prop
  | refuse {id : ℕ} {path : String} (hnew : s.requests id = none) :
      Moves s (s.put id path (.refused serviceUnavailable))
  | pass {id : ℕ} {path : String} (hnew : s.requests id = none)
      (hadmitted : s.shuttingDown = true → path ∈ systemPaths) : Moves s (s.pass id path)
  | leave {id : ℕ} {path : String} {ending : Ending Response} (hpassed : s.Passed id path) :
      Moves s (s.leave id path ending)
  | sigterm : Moves s { s with shuttingDown := true }

variable {s s' : InFlight Response} {e : AppEvent Response}

lemma moves_of_step (hs : Consistent s) (h : step s e = some s') : Moves s s' := by
  cases e with
  | request id path =>
    simp only [step] at h
    split at h
    · cases h
    · rename_i hnew
      split at h
      · cases h
        exact .refuse hnew
      · rename_i hadmitted
        rw [hs.free] at h
        cases h
        refine .pass hnew fun hdown => ?_
        by_contra hpath
        exact hadmitted (by simp [hdown, hpath])
  | acquire id =>
    simp only [step] at h
    split at h
    · rename_i hwaits
      exact absurd hwaits (hs.unawaited _ _ .cancelled).1
    · rename_i hwaits
      exact absurd hwaits (hs.unawaited _ _ _).2
    · cases h
  | ends id r =>
    simp only [step, finish, hs.free, Bool.false_eq_true, if_false] at h
    split at h
    · rename_i hpassed
      cases h
      exact .leave hpassed
    · cases h
  | cancel id =>
    simp only [step, finish, hs.free, Bool.false_eq_true, if_false] at h
    split at h
    · rename_i hwaits
      exact absurd hwaits (hs.unawaited _ _ .cancelled).1
    · rename_i hpassed
      cases h
      exact .leave hpassed
    · rename_i hwaits
      exact absurd hwaits (hs.unawaited _ _ _).2
    · cases h
  | sigterm =>
    cases h
    exact .sigterm

/-! ### The counter -/

lemma requests_cases {id i : ℕ} {path path' : String} {p p' : RequestPhase Response}
    (hrequests : s'.requests = Function.update s.requests id (some (path, p)))
    (h : s'.requests i = some (path', p')) :
    (i = id ∧ path' = path ∧ p' = p) ∨ (i ≠ id ∧ s.requests i = some (path', p')) := by
  rw [hrequests] at h
  rcases update_some_cases h with ⟨hi, hsame⟩ | hother
  · rw [Prod.mk.injEq] at hsame
    exact .inl ⟨hi, hsame.1.symm, hsame.2.symm⟩
  · exact .inr hother

lemma counted_of_ne {id i : ℕ} {path : String} {p : RequestPhase Response}
    (hrequests : s'.requests = Function.update s.requests id (some (path, p))) (hi : i ≠ id) :
    s'.Counted i ↔ s.Counted i := by
  simp only [Counted, Passed, hrequests, Function.update_of_ne hi]

/-- A request that is put into the application is counted from then on. -/
lemma counted_pass {id : ℕ} {path : String}
    (hrequests : s'.requests = Function.update s.requests id (some (path, .passed))) :
    {i | s'.Counted i} = insert id {i | s.Counted i} := by
  ext i
  rw [Set.mem_insert_iff, Set.mem_ofPred_eq, Set.mem_ofPred_eq]
  by_cases hi : i = id
  · subst hi
    exact iff_of_true ⟨path, .inl (by rw [Passed, hrequests, Function.update_self])⟩ (.inl rfl)
  · rw [counted_of_ne hrequests hi, or_iff_right hi]

/-- A request that is refused or has ended is not. -/
lemma counted_diff {id : ℕ} {path : String} {p : RequestPhase Response}
    (hrequests : s'.requests = Function.update s.requests id (some (path, p)))
    (hp : p ≠ .passed) (hp' : ∀ ending, p ≠ .leaving ending) :
    {i | s'.Counted i} = {i | s.Counted i} \ {id} := by
  ext i
  rw [Set.mem_sdiff, Set.mem_ofPred_eq, Set.mem_ofPred_eq, Set.mem_singleton_iff]
  by_cases hi : i = id
  · subst hi
    refine iff_of_false ?_ fun h => h.2 rfl
    rintro ⟨path', hpassed | ⟨ending, hleaving⟩⟩
    · rcases requests_cases hrequests hpassed with ⟨-, -, h⟩ | ⟨h, -⟩
      · exact hp h.symm
      · exact h rfl
    · rcases requests_cases hrequests hleaving with ⟨-, -, h⟩ | ⟨h, -⟩
      · exact hp' ending h.symm
      · exact h rfl
  · rw [counted_of_ne hrequests hi, and_iff_left hi]

lemma not_counted_of_new {id : ℕ} (hnew : s.requests id = none) : id ∉ {i | s.Counted i} := by
  rintro ⟨path, hpassed | ⟨ending, hleaving⟩⟩
  · cases hnew.symm.trans hpassed
  · cases hnew.symm.trans hleaving

/-- The phases of a step that lets nobody wait. -/
lemma unawaited_update {id : ℕ} {path : String} {p : RequestPhase Response} (hs : Consistent s)
    (hrequests : s'.requests = Function.update s.requests id (some (path, p)))
    (hp : p ≠ .entering) (hp' : ∀ ending, p ≠ .leaving ending) :
    ∀ i path ending, s'.requests i ≠ some (path, .entering) ∧
      s'.requests i ≠ some (path, .leaving ending) := by
  intro i path' ending
  constructor
  · intro h
    rcases requests_cases hrequests h with ⟨-, -, h⟩ | ⟨-, h⟩
    · exact hp h.symm
    · exact (hs.unawaited i path' ending).1 h
  · intro h
    rcases requests_cases hrequests h with ⟨-, -, h⟩ | ⟨-, h⟩
    · exact hp' ending h.symm
    · exact (hs.unawaited i path' ending).2 h

lemma consistent_started : Consistent (started : InFlight Response) := by
  have hnone : {id | (started : InFlight Response).Counted id} = ∅ := by
    ext i
    refine iff_of_false ?_ (Set.notMem_empty i)
    rintro ⟨path, hpassed | ⟨ending, hleaving⟩⟩
    · cases hpassed
    · cases hleaving
  refine ⟨rfl, fun i path ending => ⟨by simp [started], by simp [started]⟩, ?_, ?_, by simp [started]⟩
  · rw [hnone]
    exact Set.finite_empty
  · rw [hnone, Set.ncard_empty]
    rfl

lemma consistent_pass (hs : Consistent s) {id : ℕ} {path : String} (hnew : s.requests id = none) :
    Consistent (s.pass id path) := by
  have hset : {i | (s.pass id path).Counted i} = insert id {i | s.Counted i} := counted_pass rfl
  refine ⟨rfl, unawaited_update hs rfl (by simp) (by simp), ?_, ?_, ?_⟩
  · rw [hset]
    exact hs.finite.insert id
  · rw [hset, Set.ncard_insert_of_notMem (not_counted_of_new hnew) hs.finite]
    have hcounter : (s.pass id path).inFlight = s.inFlight + 1 := rfl
    rw [hcounter, hs.counter, Nat.cast_succ]
  · have hpos : s.inFlight + 1 ≠ 0 := by
      have hcounter := hs.counter
      omega
    exact iff_of_false Bool.false_ne_true hpos

/-- What the end of a request does to the module variables. -/
lemma leave_spec (s : InFlight Response) (id : ℕ) (path : String) (ending : Ending Response) :
    (s.leave id path ending).requests =
        Function.update s.requests id (some (path, .ended ending)) ∧
      (s.leave id path ending).locked = false ∧
      (s.leave id path ending).shuttingDown = s.shuttingDown ∧
      (s.leave id path ending).inFlight = s.inFlight - 1 ∧
      (s.leave id path ending).drainEvent = (decide (s.inFlight - 1 = 0) || s.drainEvent) := by
  unfold leave underLock decrement
  dsimp only
  split
  · rename_i hzero
    simp [put, hzero]
  · rename_i hzero
    simp [put, hzero]

/-- An event changes at most one request.  One that has been passed to the application is changed
by its end or its cancellation alone, and one for a system path is never refused. -/
lemma requests_of_step (h : step s e = some s') :
    s'.requests = s.requests ∨ ∃ id path p,
      s'.requests = Function.update s.requests id (some (path, p)) ∧
      (∀ path', s.Passed id path' → (∃ r, e = .ends id r) ∨ e = .cancel id) ∧
      ∀ body, p = .refused body → path ∉ systemPaths := by
  have hfinish : ∀ (id : ℕ) (path : String) (ending : Ending Response),
      ∃ p, (s.finish id path ending).requests = Function.update s.requests id (some (path, p)) ∧
        ∀ body, p ≠ .refused body := by
    intro id path ending
    unfold finish
    split
    · exact ⟨_, rfl, fun _ hp => by cases hp⟩
    · exact ⟨_, (leave_spec s id path ending).1, fun _ hp => by cases hp⟩
  cases e with
  | request id path =>
    simp only [step] at h
    split at h
    · cases h
    · rename_i hnew
      have hpassed : ∀ path', ¬ s.Passed id path' := fun _ hp => by cases hnew.symm.trans hp
      right
      split at h
      · rename_i hdown
        cases h
        rw [Bool.and_eq_true, decide_eq_true_iff] at hdown
        exact ⟨id, path, _, rfl, fun _ hp => absurd hp (hpassed _), fun _ _ => hdown.2⟩
      · split at h <;> cases h
        · exact ⟨id, path, _, rfl, fun _ hp => absurd hp (hpassed _), fun _ hp => by cases hp⟩
        · exact ⟨id, path, _, rfl, fun _ hp => absurd hp (hpassed _), fun _ hp => by cases hp⟩
  | acquire id =>
    simp only [step] at h
    split at h
    · rename_i hwaits
      have hpassed : ∀ path', ¬ s.Passed id path' := fun _ hp => by cases hwaits.symm.trans hp
      split at h <;> cases h
      exact .inr ⟨id, _, _, rfl, fun _ hp => absurd hp (hpassed _), fun _ hp => by cases hp⟩
    · rename_i hwaits
      have hpassed : ∀ path', ¬ s.Passed id path' := fun _ hp => by cases hwaits.symm.trans hp
      split at h <;> cases h
      exact .inr ⟨id, _, _, (leave_spec s id _ _).1, fun _ hp => absurd hp (hpassed _),
        fun _ hp => by cases hp⟩
    · cases h
  | ends id r =>
    simp only [step] at h
    split at h <;> cases h
    obtain ⟨p, hrequests, hp⟩ := hfinish id _ _
    exact .inr ⟨id, _, p, hrequests, fun _ _ => .inl ⟨r, rfl⟩, fun body hbody =>
      absurd hbody (hp body)⟩
  | cancel id =>
    simp only [step] at h
    split at h <;> cases h
    · exact .inr ⟨id, _, _, rfl, fun _ _ => .inr rfl, fun _ hp => by cases hp⟩
    · obtain ⟨p, hrequests, hp⟩ := hfinish id _ _
      exact .inr ⟨id, _, p, hrequests, fun _ _ => .inr rfl, fun body hbody =>
        absurd hbody (hp body)⟩
    · exact .inr ⟨id, _, _, rfl, fun _ _ => .inr rfl, fun _ hp => by cases hp⟩
  | sigterm =>
    cases h
    exact .inl rfl

lemma consistent_leave (hs : Consistent s) {id : ℕ} {path : String} {ending : Ending Response}
    (hpassed : s.Passed id path) : Consistent (s.leave id path ending) := by
  obtain ⟨hrequests, hfree, -, hinFlight, hevent⟩ := leave_spec s id path ending
  have hmem : id ∈ {i | s.Counted i} := ⟨path, .inl hpassed⟩
  have hset := counted_diff hrequests (by simp) (by simp)
  have hpos : 0 < {i | s.Counted i}.ncard := (Set.ncard_pos hs.finite).mpr ⟨id, hmem⟩
  refine ⟨hfree, unawaited_update hs hrequests (by simp) (by simp), ?_, ?_, ?_⟩
  · rw [hset]
    exact hs.finite.sdiff
  · rw [hset, Set.ncard_sdiff_singleton_of_mem hmem, hinFlight, hs.counter]
    omega
  · -- the event was not set, as this request was counted
    have hclear : s.drainEvent = false := by
      have hcounter := hs.counter
      have hnot : ¬ s.inFlight = 0 := by omega
      simpa using (not_congr hs.event).mpr hnot
    rw [hevent, hclear, Bool.or_false, decide_eq_true_iff, hinFlight]

lemma consistent_refuse (hs : Consistent s) {id : ℕ} {path : String} {body : ProblemDetail}
    (hnew : s.requests id = none) : Consistent (s.put id path (.refused body)) := by
  have hrequests : (s.put id path (.refused body)).requests =
      Function.update s.requests id (some (path, .refused body)) := rfl
  have hset : {i | (s.put id path (.refused body)).Counted i} = {i | s.Counted i} := by
    rw [counted_diff hrequests (by simp) (by simp)]
    exact Set.sdiff_singleton_eq_self (not_counted_of_new hnew)
  refine ⟨hs.free, unawaited_update hs hrequests (by simp) (by simp), ?_, ?_, hs.event⟩
  · rw [hset]
    exact hs.finite
  · rw [hset]
    exact hs.counter

lemma consistent_step (hs : Consistent s) (h : Moves s s') : Consistent s' := by
  cases h with
  | refuse hnew => exact consistent_refuse hs hnew
  | pass hnew hadmitted => exact consistent_pass hs hnew
  | leave hpassed => exact consistent_leave hs hpassed
  | sigterm => exact ⟨hs.free, hs.unawaited, hs.finite, hs.counter, hs.event⟩

lemma reached_consistent {events : List (AppEvent Response)}
    (hrun : Run step (fun _ _ => True) started events s) : Consistent s :=
  hrun.invariant (fun _ _ _ hs _ h => consistent_step hs (moves_of_step hs h)) consistent_started

/-- A request is passed to the application when it is admitted. -/
lemma refuses_step (h : Moves s s') (hdown : s.shuttingDown = true) {id : ℕ} {path : String}
    (hpassed : s'.Passed id path) (hnot : ¬ s.Passed id path) : path ∈ systemPaths := by
  cases h with
  | refuse hnew =>
    rcases requests_cases rfl hpassed with ⟨-, -, h⟩ | ⟨-, h⟩
    · cases h
    · exact absurd h hnot
  | pass hnew hadmitted =>
    rcases requests_cases (s := s) rfl hpassed with ⟨-, rfl, -⟩ | ⟨-, h⟩
    · exact hadmitted hdown
    · exact absurd h hnot
  | @leave id' path' ending _ =>
    rcases requests_cases (leave_spec s id' path' ending).1 hpassed with ⟨-, -, h⟩ | ⟨-, h⟩
    · cases h
    · exact absurd h hnot
  | sigterm => exact absurd hpassed hnot

/-- **The counter, the event and the flag stay in step.**  After the startup, in every
interleaving of requests that come, return, raise or are cancelled and of SIGTERM: the
counter is the number of requests between their increment and their decrement, the event is
set exactly when it is zero, and during the shutdown only system paths are passed on. -/
theorem countsRequests_of_run {events : List (AppEvent Response)}
    (hrun : Run step (fun _ _ => True) started events s) : CountsRequests s := by
  have hs := reached_consistent hrun
  refine ⟨hs.finite, hs.counter, hs.event, fun hdown e s' h _ _ hpassed hnot =>
    refuses_step (moves_of_step hs h) hdown hpassed hnot, fun hdown e s' h => ?_⟩
  cases moves_of_step hs h with
  | refuse | pass => exact hdown
  | @leave id path ending _ => exact (leave_spec s id path ending).2.2.1.trans hdown
  | sigterm => rfl

/-- One of two requests returns, the process is told to stop, and the other one is
cancelled. -/
def stoppingRun : List (AppEvent ℕ) :=
  [.request 0 "/api/v1/describe", .request 1 "/api/v1/batch", .ends 0 (.ok 200), .sigterm,
    .request 2 "/api/v1/describe", .request 3 "/health", .cancel 1]

theorem countsRequests_of_stoppingRun :
    ∃ s, Run step (fun _ _ => True) started stoppingRun s ∧ s.inFlight = 1 ∧
      CountsRequests s := by
  obtain ⟨s, hrun, hs⟩ : ∃ s, Run step (fun _ _ => True) started stoppingRun s ∧
      decide (s.inFlight = 1) = true := Run.of_observed (by decide +kernel)
  exact ⟨s, hrun, of_decide_eq_true hs, countsRequests_of_run hrun⟩

end InFlight

end ImageDescriptor.App
