/-
# The end of the lifespan

After the `yield` of `lifespan` the server waits twice: it polls the gauge of the running
batches, and then it waits for the drain event of `shutdown_middleware`, each for a limited
time.  Only then it stops the cleanup task and closes the cache and the HTTP client.  The
requests, their batches, the SIGTERM handler and the timers run between the steps of this
coroutine in any order; this file puts them into one machine.  Times are exact numbers of
seconds.
-/
import Mathlib.Algebra.Order.Ring.Rat
import Mathlib.Tactic.NormNum
import ImageDescriptor.App.InFlight
import ImageDescriptor.Api.Batch

namespace ImageDescriptor.App

open Lib

variable {Response α : Type}

/-- The settings that the shutdown reads; `_positive_int` admits no others. -/
structure ShutdownSettings where
  shutdownTimeout : ℕ := 30
  shutdownBatchTimeout : ℕ := 60
  cacheCleanupPollInterval : ℚ := 1 / 2
  shutdownTimeout_pos : 0 < shutdownTimeout := by norm_num
  shutdownBatchTimeout_pos : 0 < shutdownBatchTimeout := by norm_num
  cacheCleanupPollInterval_pos : 0 < cacheCleanupPollInterval := by norm_num

/-- The settings of a service that sets none of them. -/
def ShutdownSettings.defaults : ShutdownSettings := {}

/-- The task of `wait_for` that runs `_drain_event.wait()`: it has not started, it is among
the waiters of the event, the event has been set, or it has returned. -/
inductive Waiter
  | starting
  | waiting
  | woken
  | returned
deriving DecidableEq, Repr

/-- Where `lifespan` is suspended. -/
inductive LifespanPhase
  /-- at the `yield` -/
  | serving
  /-- in `asyncio.sleep(poll_interval)` until `due` -/
  | polling (elapsed due : ℚ)
  /-- in `asyncio.wait_for` with a timer for `deadline` -/
  | draining (deadline : ℚ) (waiter : Waiter)
  | cancellingCleanup
  | closingCache
  | closingClient
  | stopped
deriving DecidableEq, Repr

/-- The lines that the shutdown logs. -/
inductive ShutdownLine
  | gracefulShutdownInitiated (timeout : ℕ)
  | batchDrainTimeout (activeBatches : ℤ)
  /-- the code shows the seconds with one decimal -/
  | allBatchJobsDrained (elapsedSeconds : ℚ)
  | allRequestsDrained
  | drainTimeout (remainingRequests : ℤ)
deriving DecidableEq, Repr

/-- A call of `describe_batch` on some items: after some results one of the items is under
way, or the call has ended. -/
inductive BatchPhase (α : Type)
  | running (items : List α) (results : List BatchItemResult) (item : α) (rest : List α)
  | ended (items : List α) (ending : Ending BatchDescribeResponse)

/-- The server; a batch has the number of its request, a log line the time of its record. -/
structure Server (Response α : Type) where
  now : ℚ
  app : InFlight Response
  batches : ℕ → Option (BatchPhase α)
  activeBatchJobs : ℤ
  phase : LifespanPhase
  logged : List (ℚ × ShutdownLine)

/-- What happens: an event of the requests; `describe_batch` begins in a request, or the
item under way ends; time passes; the server ends the lifespan; or `lifespan` or its inner
task goes on where it is suspended. -/
inductive ServerEvent (Response α : Type)
  | app (e : AppEvent Response)
  | batch (id : ℕ) (items : List α)
  | itemEnds (id : ℕ) (r : Ending DescribeResponse)
  | elapse (seconds : ℚ)
  | shutdown
  | sleepEnds
  | waiterRuns
  | waitForEnds
  | cleanupEnds
  | cacheCloses
  | clientCloses

/-- The path of `describe_batch`. -/
def batchPath : String := "/api/v1/describe/batch"

namespace BatchPhase

/-- The loop of `describe_batch` from a check of `is_shutting_down()` on: it goes on with an
item, or it is over and the response is built. -/
def resume (shuttingDown : Bool) (items : List α) (results : List BatchItemResult) :
    List α → BatchPhase α
  | [] => .ended items (.value (batchResponse items.length results))
  | item :: rest =>
    if shuttingDown then
      .ended items (.value (batchResponse items.length
        (results ++ (List.range' results.length (rest.length + 1)).map skipped)))
    else .running items results item rest

/-- What the ending of `_process_one` makes of the batch; an exception leaves the loop. -/
def afterItem (shuttingDown : Bool) (items : List α) (results : List BatchItemResult)
    (rest : List α) : Ending BatchItemResult → BatchPhase α
  | .value r => resume shuttingDown items (results ++ [r]) rest
  | .raised e => .ended items (.raised e)
  | .cancelled => .ended items .cancelled

def isRunning : BatchPhase α → Bool
  | .running .. => true
  | .ended .. => false

end BatchPhase

namespace InFlight

variable {a a' : InFlight Response}

lemma staysDown_of_moves (h : Moves a a') (hdown : a.shuttingDown = true) :
    a'.shuttingDown = true := by
  cases h with
  | refuse | pass => exact hdown
  | @leave id path ending _ => exact (leave_spec a id path ending).2.2.1.trans hdown
  | sigterm => rfl

/-- A request stays in the application until it ends or is cancelled. -/
lemma passed_of_step {e : AppEvent Response} {id : ℕ} {path : String} (h : a.step e = some a')
    (hpassed : a.Passed id path) (hends : ∀ r, e ≠ .ends id r) (hcancel : e ≠ .cancel id) :
    a'.Passed id path := by
  rcases requests_of_step h with hsame | ⟨i, path', p, hrequests, hleaves, -⟩
  · rw [Passed, hsame]
    exact hpassed
  · have hid : id ≠ i := by
      rintro rfl
      rcases hleaves path hpassed with ⟨r, he⟩ | he
      · exact hends r he
      · exact hcancel he
    rw [Passed, hrequests, Function.update_of_ne hid]
    exact hpassed

end InFlight

namespace Server

/-- The state after the startup in `lifespan`. -/
def started : Server Response α := ⟨0, .started, fun _ => none, 0, .serving, []⟩

def log (s : Server Response α) (line : ShutdownLine) : Server Response α :=
  { s with logged := s.logged ++ [(s.now, line)] }

/-- A batch goes on; where it has ended, the `finally` clause has called `batch_job_dec`. -/
def setBatch (s : Server Response α) (id : ℕ) (b : BatchPhase α) : Server Response α :=
  { s with
    batches := Function.update s.batches id (some b)
    activeBatchJobs := if b.isRunning then s.activeBatchJobs else s.activeBatchJobs - 1 }

/-- `describe_batch` up to its first suspension. -/
def beginBatch (s : Server Response α) (id : ℕ) (items : List α) : Server Response α :=
  { s with activeBatchJobs := s.activeBatchJobs + 1 }.setBatch id
    (.resume s.app.shuttingDown items [] items)

/-- The batch of a request is running. -/
def batchRuns (s : Server Response α) (id : ℕ) : Bool := (s.batches id).any BatchPhase.isRunning

/-- The application of a request may get to its batch: `call_next` is awaited, or it was
cancelled, since the application runs in a task of its own. -/
def MayBegin (s : Server Response α) (id : ℕ) : Prop :=
  s.app.Passed id batchPath ∨ s.app.requests id = some (batchPath, .ended .cancelled)

/-- `_drain_event.set()` wakes the task that waits for it. -/
def wake (drainEvent : Bool) : LifespanPhase → LifespanPhase
  | .draining deadline .waiting => .draining deadline (if drainEvent then .woken else .waiting)
  | phase => phase

/-- `_handle_sigterm` logs. -/
def logSigterm (cfg : ShutdownSettings) (s : Server Response α) :
    AppEvent Response → Server Response α
  | .sigterm => s.log (.gracefulShutdownInitiated cfg.shutdownTimeout)
  | _ => s

/-- `lifespan` from the condition of its polling loop on. -/
def poll (cfg : ShutdownSettings) (s : Server Response α) (elapsed : ℚ) : Server Response α :=
  if 0 < s.activeBatchJobs ∧ elapsed < cfg.shutdownBatchTimeout then
    { s with phase := .polling elapsed (s.now + cfg.cacheCleanupPollInterval) }
  else
    let line := if 0 < s.activeBatchJobs then .batchDrainTimeout s.activeBatchJobs
      else .allBatchJobsDrained elapsed
    { s.log line with phase := .draining (s.now + cfg.shutdownTimeout) .starting }

/-- One event; `none` when it cannot happen. -/
def step (cfg : ShutdownSettings) (errors : Exc → List (String × String))
    (s : Server Response α) : ServerEvent Response α → Option (Server Response α)
  | .app e =>
    (s.app.step e).map fun app =>
      { s with app, phase := wake app.drainEvent s.phase }.logSigterm cfg e
  | .batch id items =>
    match s.app.requests id, s.batches id with
    | some (path, .passed), none | some (path, .ended .cancelled), none =>
      if path = batchPath then some (s.beginBatch id items) else none
    | _, _ => none
  | .itemEnds id r =>
    match s.batches id with
    | some (.running items results _ rest) =>
      some (s.setBatch id (.afterItem s.app.shuttingDown items results rest
        (processOne errors results.length r)))
    | _ => none
  | .elapse seconds => if 0 ≤ seconds then some { s with now := s.now + seconds } else none
  | .shutdown =>
    match s.phase with
    | .serving =>
      if s.app.shuttingDown then some (s.poll cfg 0) else some { s with phase := .cancellingCleanup }
    | _ => none
  | .sleepEnds =>
    match s.phase with
    | .polling elapsed due =>
      if due ≤ s.now then some (s.poll cfg (elapsed + cfg.cacheCleanupPollInterval)) else none
    | _ => none
  | .waiterRuns =>
    match s.phase with
    | .draining deadline .starting =>
      some { s with phase := .draining deadline (if s.app.drainEvent then .returned else .waiting) }
    | .draining deadline .woken => some { s with phase := .draining deadline .returned }
    | _ => none
  | .waitForEnds =>
    match s.phase with
    | .draining _ .returned => some { s.log .allRequestsDrained with phase := .cancellingCleanup }
    | .draining deadline _ =>
      if deadline ≤ s.now then
        some { s.log (.drainTimeout s.app.inFlight) with phase := .cancellingCleanup }
      else none
    | _ => none
  | .cleanupEnds =>
    match s.phase with
    | .cancellingCleanup => some { s with phase := .closingCache }
    | _ => none
  | .cacheCloses =>
    match s.phase with
    | .closingCache => some { s with phase := .closingClient }
    | _ => none
  | .clientCloses =>
    match s.phase with
    | .closingClient => some { s with phase := .stopped }
    | _ => none

section Moves

variable (cfg : ShutdownSettings) (errors : Exc → List (String × String))
  (s : Server Response α)

/-- What each event does, and when it can happen. -/
inductive Moves : ServerEvent Response α → Server Response α → Prop
  | app {e : AppEvent Response} {app : InFlight Response} (happ : s.app.step e = some app) :
      Moves (.app e) ({ s with app, phase := wake app.drainEvent s.phase }.logSigterm cfg e)
  | batch {id : ℕ} {items : List α} (hbegins : s.MayBegin id)
      (hnew : s.batches id = none) : Moves (.batch id items) (s.beginBatch id items)
  | itemEnds {id : ℕ} {r : Ending DescribeResponse} {items rest : List α}
      {results : List BatchItemResult} {item : α}
      (hruns : s.batches id = some (.running items results item rest)) :
      Moves (.itemEnds id r) (s.setBatch id (.afterItem s.app.shuttingDown items results rest
        (processOne errors results.length r)))
  | elapse {seconds : ℚ} (hseconds : 0 ≤ seconds) :
      Moves (.elapse seconds) { s with now := s.now + seconds }
  | drain (hphase : s.phase = .serving) (hasked : s.app.shuttingDown = true) :
      Moves .shutdown (s.poll cfg 0)
  | close (hphase : s.phase = .serving) (hasked : s.app.shuttingDown = false) :
      Moves .shutdown { s with phase := .cancellingCleanup }
  | sleepEnds {elapsed due : ℚ} (hphase : s.phase = .polling elapsed due) (hdue : due ≤ s.now) :
      Moves .sleepEnds (s.poll cfg (elapsed + cfg.cacheCleanupPollInterval))
  | waiterStarts {deadline : ℚ} (hphase : s.phase = .draining deadline .starting) :
      Moves .waiterRuns
        { s with phase := .draining deadline (if s.app.drainEvent then .returned else .waiting) }
  | waiterReturns {deadline : ℚ} (hphase : s.phase = .draining deadline .woken) :
      Moves .waiterRuns { s with phase := .draining deadline .returned }
  | drained {deadline : ℚ} (hphase : s.phase = .draining deadline .returned) :
      Moves .waitForEnds { s.log .allRequestsDrained with phase := .cancellingCleanup }
  | timedOut {deadline : ℚ} {waiter : Waiter} (hphase : s.phase = .draining deadline waiter)
      (hdue : deadline ≤ s.now) :
      Moves .waitForEnds { s.log (.drainTimeout s.app.inFlight) with phase := .cancellingCleanup }
  | cleanupEnds (hphase : s.phase = .cancellingCleanup) :
      Moves .cleanupEnds { s with phase := .closingCache }
  | cacheCloses (hphase : s.phase = .closingCache) :
      Moves .cacheCloses { s with phase := .closingClient }
  | clientCloses (hphase : s.phase = .closingClient) :
      Moves .clientCloses { s with phase := .stopped }

end Moves

variable {cfg : ShutdownSettings} {errors : Exc → List (String × String)}
  {s s' : Server Response α} {e : ServerEvent Response α}

lemma moves_of_step (h : step cfg errors s e = some s') : Moves cfg errors s e s' := by
  cases e with
  | app e =>
    obtain ⟨app, happ, rfl⟩ := Option.map_eq_some_iff.mp h
    exact .app happ
  | batch id items =>
    simp only [step] at h
    split at h
    · rename_i path hrequest hnew
      split at h
      · rename_i hpath
        cases h
        exact .batch (.inl (hpath ▸ hrequest)) hnew
      · cases h
    · rename_i path hrequest hnew
      split at h
      · rename_i hpath
        cases h
        exact .batch (.inr (hpath ▸ hrequest)) hnew
      · cases h
    · cases h
  | itemEnds id r =>
    simp only [step] at h
    split at h
    · rename_i hruns
      cases h
      exact .itemEnds hruns
    · cases h
  | elapse seconds =>
    simp only [step] at h
    split at h
    · rename_i hseconds
      cases h
      exact .elapse hseconds
    · cases h
  | shutdown =>
    simp only [step] at h
    split at h
    · rename_i hphase
      split at h
      · rename_i hasked
        cases h
        exact .drain hphase hasked
      · rename_i hasked
        cases h
        exact .close hphase (by simpa using hasked)
    · cases h
  | sleepEnds =>
    simp only [step] at h
    split at h
    · rename_i hphase
      split at h
      · rename_i hdue
        cases h
        exact .sleepEnds hphase hdue
      · cases h
    · cases h
  | waiterRuns =>
    simp only [step] at h
    split at h
    · rename_i hphase
      cases h
      exact .waiterStarts hphase
    · rename_i hphase
      cases h
      exact .waiterReturns hphase
    · cases h
  | waitForEnds =>
    simp only [step] at h
    split at h
    · rename_i hphase
      cases h
      exact .drained hphase
    · rename_i hphase
      split at h
      · rename_i hdue
        cases h
        exact .timedOut hphase hdue
      · cases h
    · cases h
  | cleanupEnds =>
    simp only [step] at h
    split at h
    · rename_i hphase
      cases h
      exact .cleanupEnds hphase
    · cases h
  | cacheCloses =>
    simp only [step] at h
    split at h
    · rename_i hphase
      cases h
      exact .cacheCloses hphase
    · cases h
  | clientCloses =>
    simp only [step] at h
    split at h
    · rename_i hphase
      cases h
      exact .clientCloses hphase
    · cases h

/-! ### What the parts of an event leave alone -/

@[simp] lemma setBatch_app (id : ℕ) (b : BatchPhase α) : (s.setBatch id b).app = s.app := rfl

@[simp] lemma setBatch_now (id : ℕ) (b : BatchPhase α) : (s.setBatch id b).now = s.now := rfl

@[simp] lemma setBatch_phase (id : ℕ) (b : BatchPhase α) : (s.setBatch id b).phase = s.phase := rfl

@[simp] lemma setBatch_logged (id : ℕ) (b : BatchPhase α) :
    (s.setBatch id b).logged = s.logged := rfl

/-- The handler of the signal only logs. -/
lemma logSigterm_spec (cfg : ShutdownSettings) (s : Server Response α) (e : AppEvent Response) :
    (s.logSigterm cfg e).app = s.app ∧ (s.logSigterm cfg e).batches = s.batches ∧
      (s.logSigterm cfg e).activeBatchJobs = s.activeBatchJobs ∧
      (s.logSigterm cfg e).phase = s.phase ∧ (s.logSigterm cfg e).now = s.now ∧
      s.logged ⊆ (s.logSigterm cfg e).logged := by
  cases e with
  | sigterm => exact ⟨rfl, rfl, rfl, rfl, rfl, List.subset_append_left _ _⟩
  | request | acquire | ends | cancel => exact ⟨rfl, rfl, rfl, rfl, rfl, List.Subset.refl _⟩

/-- The polling loop touches neither the requests nor the batches; it sleeps, or it is over
and the drain event is waited for. -/
lemma poll_spec (cfg : ShutdownSettings) (s : Server Response α) (elapsed : ℚ) :
    (s.poll cfg elapsed).app = s.app ∧ (s.poll cfg elapsed).batches = s.batches ∧
      (s.poll cfg elapsed).activeBatchJobs = s.activeBatchJobs ∧
      (s.poll cfg elapsed).now = s.now ∧
      ((0 < s.activeBatchJobs ∧ elapsed < cfg.shutdownBatchTimeout ∧
          (s.poll cfg elapsed).phase = .polling elapsed (s.now + cfg.cacheCleanupPollInterval)) ∨
        (¬ (0 < s.activeBatchJobs ∧ elapsed < cfg.shutdownBatchTimeout) ∧
          (s.poll cfg elapsed).phase = .draining (s.now + cfg.shutdownTimeout) .starting)) := by
  by_cases hpoll : 0 < s.activeBatchJobs ∧ elapsed < cfg.shutdownBatchTimeout
  · rw [poll, if_pos hpoll]
    exact ⟨rfl, rfl, rfl, rfl, .inl ⟨hpoll.1, hpoll.2, rfl⟩⟩
  · rw [poll, if_neg hpoll]
    exact ⟨rfl, rfl, rfl, rfl, .inr ⟨hpoll, rfl⟩⟩

/-- The requests change by an event of the requests only. -/
lemma app_cases (h : Moves cfg errors s e s') :
    s'.app = s.app ∨ ∃ e', s.app.step e' = some s'.app := by
  cases h with
  | @app e' app happ =>
    rw [(logSigterm_spec cfg _ e').1]
    exact .inr ⟨e', happ⟩
  | drain | sleepEnds => exact .inl (poll_spec cfg s _).1
  | batch | itemEnds | elapse | close | waiterStarts | waiterReturns | drained | timedOut
  | cleanupEnds | cacheCloses | clientCloses => exact .inl rfl

lemma consistent_of_moves (h : Moves cfg errors s e s') (hs : s.app.Consistent) :
    s'.app.Consistent := by
  rcases app_cases h with happ | ⟨e', happ⟩
  · rw [happ]
    exact hs
  · exact InFlight.consistent_step hs (InFlight.moves_of_step hs happ)

/-- The flag is never taken back. -/
lemma shuttingDown_of_moves (h : Moves cfg errors s e s') (hs : s.app.Consistent)
    (hasked : s.app.shuttingDown = true) : s'.app.shuttingDown = true := by
  rcases app_cases h with happ | ⟨e', happ⟩
  · rw [happ, hasked]
  · exact InFlight.staysDown_of_moves (InFlight.moves_of_step hs happ) hasked

end Server

end ImageDescriptor.App
