/-
# What the shutdown waits for, and how long

When the process was told to stop, `lifespan` closes the cache and the HTTP client only after
the drain event was seen set or the drain timeout is over.  The event may be cleared again
before the code after `wait_for` runs, but from the signal on only system paths are let in:
this is why no other request is left when it is.  The two waits are bounded by the settings
and by how late the event loop resumes the coroutine.
-/
import Mathlib.Algebra.Order.Archimedean.Basic
import Mathlib.Algebra.Order.Floor.Semiring
import Mathlib.Data.Rat.Floor
import Mathlib.Tactic.Linarith
import ImageDescriptor.App.BatchJobs

namespace ImageDescriptor.App

open Lib

variable {Response α : Type}

namespace InFlight

variable {a a' : InFlight Response} {e : AppEvent Response}

/-- No request is in the application but for a system path. -/
def OnlySystem (a : InFlight Response) : Prop :=
  ∀ id path, a.Passed id path → path ∈ systemPaths

/-- When the event is set, there is no request in the application at all. -/
lemma onlySystem_of_drainEvent (ha : Consistent a) (hset : a.drainEvent = true) :
    OnlySystem a := by
  intro id path hpassed
  have hzero : a.inFlight = 0 := ha.event.mp hset
  have hcard : {id | a.Counted id}.ncard = 0 := by
    have hcounter := ha.counter
    omega
  have hempty := (Set.ncard_eq_zero ha.finite).mp hcard
  have hmem : id ∈ {id | a.Counted id} := ⟨path, .inl hpassed⟩
  rw [hempty] at hmem
  exact absurd hmem (Set.notMem_empty id)

/-- From the signal on no other request gets in. -/
lemma onlySystem_of_step (ha : Consistent a) (hdown : a.shuttingDown = true)
    (h : a.step e = some a') (honly : OnlySystem a) : OnlySystem a' := by
  intro id path hpassed
  by_cases hold : a.Passed id path
  · exact honly id path hold
  · exact refuses_step (moves_of_step ha h) hdown hpassed hold

end InFlight

namespace LifespanPhase

/-- The waits are over. -/
def closes : LifespanPhase → Bool
  | .cancellingCleanup | .closingCache | .closingClient | .stopped => true
  | _ => false

end LifespanPhase

namespace Server

variable {cfg : ShutdownSettings} {errors : Exc → List (String × String)}
  {s s₁ s' : Server Response α} {e : ServerEvent Response α} {t₀ : ℚ}

/-! ### Why the cache is closed -/

/-- Between `t₀` and now either the requests were found drained, and then none is left but for
system paths, or the drain timeout has run out. -/
def ClosesAfterDrain (cfg : ShutdownSettings) (t₀ : ℚ) (s : Server Response α) : Prop :=
  (∃ t, t₀ ≤ t ∧ t ≤ s.now ∧ (t, .allRequestsDrained) ∈ s.logged ∧ s.app.OnlySystem) ∨
    ∃ t n, t₀ + cfg.shutdownTimeout ≤ t ∧ t ≤ s.now ∧ (t, .drainTimeout n) ∈ s.logged

/-- What holds where `lifespan` is suspended. -/
def PhaseSound (cfg : ShutdownSettings) (t₀ : ℚ) (s : Server Response α) : LifespanPhase → Prop
  | .serving => False
  | .polling _ _ => True
  | .draining deadline waiter =>
    t₀ + cfg.shutdownTimeout ≤ deadline ∧
      (waiter = .woken ∨ waiter = .returned → s.app.OnlySystem)
  | _ => ClosesAfterDrain cfg t₀ s

/-- The shutdown of a process that was told to stop, since the server has ended the lifespan
at `t₀`. -/
structure Stopping (cfg : ShutdownSettings) (t₀ : ℚ) (s : Server Response α) : Prop where
  consistent : s.app.Consistent
  asked : s.app.shuttingDown = true
  since : t₀ ≤ s.now
  phase : PhaseSound cfg t₀ s s.phase

lemma later_of_moves (h : Moves cfg errors s e s') : s.now ≤ s'.now ∧ s.logged ⊆ s'.logged := by
  cases h with
  | @app e' app happ =>
    obtain ⟨-, -, -, -, hnow, hlogged⟩ := logSigterm_spec cfg
      { s with app, phase := wake app.drainEvent s.phase } e'
    exact ⟨hnow.ge, hlogged⟩
  | elapse hseconds => exact ⟨by simpa using hseconds, List.Subset.refl _⟩
  | drain | sleepEnds =>
    refine ⟨(poll_spec cfg s _).2.2.2.1.ge, ?_⟩
    unfold poll
    split
    · exact List.Subset.refl _
    · exact List.subset_append_left _ _
  | drained | timedOut => exact ⟨le_rfl, List.subset_append_left _ _⟩
  | batch | itemEnds | close | waiterStarts | waiterReturns | cleanupEnds | cacheCloses
  | clientCloses => exact ⟨le_rfl, List.Subset.refl _⟩

/-- What was found when the wait ended stays true. -/
lemma ClosesAfterDrain.later (h : ClosesAfterDrain cfg t₀ s) (hmoves : Moves cfg errors s e s')
    (honly : s.app.OnlySystem → s'.app.OnlySystem) : ClosesAfterDrain cfg t₀ s' := by
  obtain ⟨hnow, hlogged⟩ := later_of_moves hmoves
  rcases h with ⟨t, hsince, ht, hline, honly'⟩ | ⟨t, n, hsince, ht, hline⟩
  · exact .inl ⟨t, hsince, ht.trans hnow, hlogged hline, honly honly'⟩
  · exact .inr ⟨t, n, hsince, ht.trans hnow, hlogged hline⟩

lemma Stopping.onlySystem (hs : Stopping cfg t₀ s) (h : Moves cfg errors s e s')
    (honly : s.app.OnlySystem) : s'.app.OnlySystem := by
  rcases app_cases h with happ | ⟨e', happ⟩
  · rw [happ]
    exact honly
  · exact InFlight.onlySystem_of_step hs.consistent hs.asked happ honly

/-- What holds where `lifespan` is suspended is not disturbed by the others. -/
lemma Stopping.phase_later (hs : Stopping cfg t₀ s) (h : Moves cfg errors s e s') :
    PhaseSound cfg t₀ s' s.phase := by
  have hsound := hs.phase
  cases hphase : s.phase with
  | serving =>
    rw [hphase] at hsound
    exact hsound
  | polling elapsed due => exact trivial
  | draining deadline waiter =>
    rw [hphase] at hsound
    exact ⟨hsound.1, fun hwaiter => hs.onlySystem h (hsound.2 hwaiter)⟩
  | cancellingCleanup | closingCache | closingClient | stopped =>
    rw [hphase] at hsound
    exact ClosesAfterDrain.later hsound h (hs.onlySystem h)

lemma PhaseSound.wake {phase : LifespanPhase} (hs : s.app.Consistent)
    (h : PhaseSound cfg t₀ s phase) : PhaseSound cfg t₀ s (wake s.app.drainEvent phase) := by
  cases phase with
  | draining deadline waiter =>
    cases waiter with
    | waiting =>
      cases hset : s.app.drainEvent with
      | true => exact ⟨h.1, fun _ => InFlight.onlySystem_of_drainEvent hs hset⟩
      | false => exact ⟨h.1, by simp⟩
    | starting | woken | returned => exact h
  | serving | polling | cancellingCleanup | closingCache | closingClient | stopped => exact h

/-- The polling loop goes on, or the wait for the event begins. -/
lemma phaseSound_poll {elapsed : ℚ} (hsince : t₀ ≤ s.now) :
    PhaseSound cfg t₀ (s.poll cfg elapsed) (s.poll cfg elapsed).phase := by
  rcases (poll_spec cfg s elapsed).2.2.2.2 with ⟨-, -, hphase⟩ | ⟨-, hphase⟩
  · rw [hphase]
    exact trivial
  · rw [hphase]
    exact ⟨by simpa using hsince, by simp⟩

lemma phaseSound_step (hs : Stopping cfg t₀ s) (h : Moves cfg errors s e s') :
    PhaseSound cfg t₀ s' s'.phase := by
  have hlater := hs.phase_later h
  have hsound := hs.phase
  have hconsistent : s'.app.Consistent := consistent_of_moves h hs.consistent
  cases h with
  | @app e' app happ =>
    obtain ⟨happ', -, -, hphase, -⟩ := logSigterm_spec cfg
      { s with app, phase := wake app.drainEvent s.phase } e'
    have hwake := hlater.wake hconsistent
    rw [happ'] at hwake
    rw [hphase]
    exact hwake
  | batch | itemEnds | elapse => exact hlater
  | drain hphase | close hphase =>
    rw [hphase] at hsound
    exact absurd hsound id
  | sleepEnds => exact phaseSound_poll hs.since
  | waiterStarts hphase =>
    rw [hphase] at hsound
    refine ⟨hsound.1, fun hwaiter => ?_⟩
    cases hset : s.app.drainEvent with
    | true => exact InFlight.onlySystem_of_drainEvent hs.consistent hset
    | false => simp [hset] at hwaiter
  | waiterReturns hphase =>
    rw [hphase] at hsound
    exact ⟨hsound.1, fun _ => hsound.2 (.inl rfl)⟩
  | drained hphase =>
    rw [hphase] at hsound
    exact .inl ⟨s.now, hs.since, le_rfl, List.mem_append_right _ (List.mem_singleton.mpr rfl),
      hsound.2 (.inr rfl)⟩
  | timedOut hphase hdue =>
    rw [hphase] at hsound
    exact .inr ⟨s.now, s.app.inFlight, hsound.1.trans hdue, le_rfl,
      List.mem_append_right _ (List.mem_singleton.mpr rfl)⟩
  | cleanupEnds hphase | cacheCloses hphase | clientCloses hphase =>
    rw [hphase] at hlater
    exact hlater

lemma stopping_step (hs : Stopping cfg t₀ s) (h : Moves cfg errors s e s') :
    Stopping cfg t₀ s' :=
  ⟨consistent_of_moves h hs.consistent, shuttingDown_of_moves h hs.consistent hs.asked,
    hs.since.trans (later_of_moves h).1, phaseSound_step hs h⟩

/-- **The cache outlives the requests, or the drain timeout.**  When the process was told to
stop before the server ended the lifespan, then whatever happens until the cache is closed and
afterwards: either the drain was logged, no request is in the application but for a system
path and, where no request has left before its batch, no batch is running; or the drain timeout
is over since the end of the lifespan. -/
theorem closesAfterDrain_of_run {es₁ es₂ : List (ServerEvent Response α)}
    (hrun₁ : Run (step cfg errors) (fun _ _ => True) started es₁ s₁)
    (hasked : s₁.app.shuttingDown = true)
    (hrun₂ : Run (step cfg errors) (fun _ _ => True) s₁ (.shutdown :: es₂) s)
    (hcloses : s.phase.closes = true) :
    (∃ t, s₁.now ≤ t ∧ t ≤ s.now ∧ (t, .allRequestsDrained) ∈ s.logged ∧ s.app.OnlySystem ∧
        (Run (step cfg errors) AwaitsBatch started (es₁ ++ .shutdown :: es₂) s →
          s.activeBatchJobs = 0)) ∨
      ∃ t n, s₁.now + cfg.shutdownTimeout ≤ t ∧ t ≤ s.now ∧ (t, .drainTimeout n) ∈ s.logged := by
  have hconsistent : s₁.app.Consistent := hrun₁.invariant (I := fun s => s.app.Consistent)
    (fun _ _ _ hs _ h => consistent_of_moves (moves_of_step h) hs) InFlight.consistent_started
  have hcounts : CountsBatches s := (reached_countsBatches (hrun₁.append hrun₂)).2
  cases hrun₂ with
  | @cons _ s₂ _ _ _ _ hstep hrest =>
    have hs₂ : Stopping cfg s₁.now s₂ := by
      have hmoves := moves_of_step hstep
      refine ⟨consistent_of_moves hmoves hconsistent, shuttingDown_of_moves hmoves hconsistent hasked,
        (later_of_moves hmoves).1, ?_⟩
      cases hmoves with
      | drain => exact phaseSound_poll le_rfl
      | close _ hnot => exact absurd (hnot.symm.trans hasked) Bool.false_ne_true
    have hs : Stopping cfg s₁.now s :=
      hrest.invariant (fun _ _ _ hs _ h => stopping_step hs (moves_of_step h)) hs₂
    have hclosed : ClosesAfterDrain cfg s₁.now s := by
      have hsound := hs.phase
      cases hphase : s.phase with
      | serving | polling | draining => rw [hphase] at hcloses; cases hcloses
      | cancellingCleanup | closingCache | closingClient | stopped => rwa [hphase] at hsound
    rcases hclosed with ⟨t, hsince, ht, hline, honly⟩ | htimeout
    · refine .inl ⟨t, hsince, ht, hline, honly, fun hawaits => ?_⟩
      have hin : InRequests s := inRequests_of_run hawaits
      have hnone : {id | s.batchRuns id = true} = ∅ := by
        ext id
        refine iff_of_false (fun hid => ?_) (Set.notMem_empty id)
        exact absurd (honly id batchPath (hin id hid)) (by decide)
      rw [hcounts.gauge, hnone, Set.ncard_empty, Nat.cast_zero]
    · exact .inr htimeout

/-- A request outlives its answer by no more than a health check: the drain is seen, although
the event is cleared again before `wait_for` returns. -/
def drainedRun : List (ServerEvent ℕ ℕ) :=
  [.shutdown, .waiterRuns, .app (.ends 0 (.ok 200)), .app (.request 1 "/health"), .waiterRuns,
    .waitForEnds, .cleanupEnds]

/-- The run before it. -/
def toldToStop : List (ServerEvent ℕ ℕ) := [.app (.request 0 "/api/v1/describe"), .app .sigterm]

theorem closesAfterDrain_of_drainedRun :
    ∃ s₁ s : Server ℕ ℕ, s₁.app.shuttingDown = true ∧ s.phase.closes = true ∧
      Run (step .defaults fun _ => []) AwaitsBatch started (toldToStop ++ drainedRun) s ∧
      ((∃ t, s₁.now ≤ t ∧ t ≤ s.now ∧ (t, .allRequestsDrained) ∈ s.logged ∧ s.app.OnlySystem ∧
          (Run (step .defaults fun _ => []) AwaitsBatch started (toldToStop ++ drainedRun) s →
            s.activeBatchJobs = 0)) ∨
        ∃ t n, s₁.now + ShutdownSettings.defaults.shutdownTimeout ≤ t ∧ t ≤ s.now ∧
          (t, .drainTimeout n) ∈ s.logged) := by
  obtain ⟨s₁, hrun₁, hs₁⟩ : ∃ s₁ : Server ℕ ℕ, Run (step .defaults fun _ => []) AwaitsBatch
      started toldToStop s₁ ∧
      (s₁.app.shuttingDown && ((exec (step .defaults fun _ => []) AwaitsBatch s₁
        drainedRun).map fun s => s.phase.closes) == some true) = true :=
    Run.of_observed (by decide +kernel)
  rw [Bool.and_eq_true, beq_iff_eq] at hs₁
  obtain ⟨s, hrun₂, hcloses⟩ := Run.of_observed hs₁.2
  exact ⟨s₁, s, hs₁.1, hcloses, hrun₁.append hrun₂,
    closesAfterDrain_of_run (hrun₁.mono fun _ _ _ => trivial) hs₁.1
      (hrun₂.mono fun _ _ _ => trivial) hcloses⟩

/-! ### How long it takes -/

/-- The event loop resumes `lifespan` at most `δ` seconds after its timer is due. -/
def Timely (δ : ℚ) (s : Server Response α) : ServerEvent Response α → Prop
  | .elapse seconds =>
    match s.phase with
    | .polling _ due => s.now + seconds ≤ due + δ
    | .draining deadline _ => s.now + seconds ≤ deadline + δ
    | _ => True
  | _ => True

/-- The number of times that the polling loop can sleep. -/
def polls (cfg : ShutdownSettings) : ℕ :=
  ⌈(cfg.shutdownBatchTimeout : ℚ) / cfg.cacheCleanupPollInterval⌉₊

/-- Where `lifespan` is suspended, and for how long at most. -/
def PhaseInTime (cfg : ShutdownSettings) (δ t₀ now : ℚ) : LifespanPhase → Prop
  | .serving => False
  | .polling elapsed due =>
    ∃ k : ℕ, elapsed = k * cfg.cacheCleanupPollInterval ∧ k < polls cfg ∧
      due ≤ t₀ + k * (cfg.cacheCleanupPollInterval + δ) + cfg.cacheCleanupPollInterval ∧
      now ≤ due + δ
  | .draining deadline _ =>
    deadline ≤ t₀ + polls cfg * (cfg.cacheCleanupPollInterval + δ) + cfg.shutdownTimeout ∧
      now ≤ deadline + δ
  | _ => True

lemma lt_polls {k : ℕ} (h : k * cfg.cacheCleanupPollInterval < cfg.shutdownBatchTimeout) :
    k < polls cfg := by
  rw [polls, Nat.lt_ceil, lt_div_iff₀ cfg.cacheCleanupPollInterval_pos]
  exact h

/-- After `k` sleeps the loop sleeps again, or it is over. -/
lemma phaseInTime_poll {δ : ℚ} {k : ℕ} (hδ : 0 ≤ δ) (hk : k ≤ polls cfg)
    (hnow : s.now ≤ t₀ + k * (cfg.cacheCleanupPollInterval + δ)) :
    PhaseInTime cfg δ t₀ (s.poll cfg (k * cfg.cacheCleanupPollInterval)).now
      (s.poll cfg (k * cfg.cacheCleanupPollInterval)).phase := by
  obtain ⟨-, -, -, hsame, hnext⟩ := poll_spec cfg s (k * cfg.cacheCleanupPollInterval)
  have hinterval := cfg.cacheCleanupPollInterval_pos
  rw [hsame]
  rcases hnext with ⟨-, hmore, hphase⟩ | ⟨-, hphase⟩
  · rw [hphase]
    exact ⟨k, rfl, lt_polls hmore, by linarith, by linarith⟩
  · rw [hphase]
    have hrounds : (k : ℚ) * (cfg.cacheCleanupPollInterval + δ) ≤
        polls cfg * (cfg.cacheCleanupPollInterval + δ) :=
      mul_le_mul_of_nonneg_right (by exact_mod_cast hk) (by linarith)
    have htimeout : (0 : ℚ) ≤ cfg.shutdownTimeout := Nat.cast_nonneg _
    exact ⟨by linarith, by linarith⟩

lemma PhaseInTime.wake {δ now : ℚ} {phase : LifespanPhase} (drainEvent : Bool)
    (h : PhaseInTime cfg δ t₀ now phase) :
    PhaseInTime cfg δ t₀ now (wake drainEvent phase) := by
  cases phase with
  | draining deadline waiter =>
    cases waiter with
    | starting | waiting | woken | returned => exact h
  | serving | polling | cancellingCleanup | closingCache | closingClient | stopped => exact h

lemma phaseInTime_elapse {δ seconds : ℚ} (htimely : Timely δ s (.elapse seconds))
    (hs : PhaseInTime cfg δ t₀ s.now s.phase) :
    PhaseInTime cfg δ t₀ (s.now + seconds) s.phase := by
  unfold Timely at htimely
  cases hphase : s.phase with
  | polling elapsed due =>
    rw [hphase] at hs
    simp only [hphase] at htimely
    obtain ⟨k, helapsed, hk, hdue, -⟩ := hs
    exact ⟨k, helapsed, hk, hdue, htimely⟩
  | draining deadline waiter =>
    rw [hphase] at hs
    simp only [hphase] at htimely
    exact ⟨hs.1, htimely⟩
  | serving | cancellingCleanup | closingCache | closingClient | stopped =>
    rw [hphase] at hs
    exact hs

lemma phaseInTime_step {δ : ℚ} (hδ : 0 ≤ δ) (htimely : Timely δ s e)
    (h : Moves cfg errors s e s') (hs : PhaseInTime cfg δ t₀ s.now s.phase) :
    PhaseInTime cfg δ t₀ s'.now s'.phase := by
  cases h with
  | @app e' app happ =>
    obtain ⟨-, -, -, hphase, hnow, -⟩ := logSigterm_spec cfg
      { s with app, phase := wake app.drainEvent s.phase } e'
    rw [hphase, hnow]
    exact hs.wake app.drainEvent
  | elapse => exact phaseInTime_elapse htimely hs
  | drain hphase | close hphase =>
    rw [hphase] at hs
    exact absurd hs id
  | @sleepEnds elapsed due hphase hdue =>
    rw [hphase] at hs
    obtain ⟨k, helapsed, hk, hbound, hnow⟩ := hs
    have hnext : elapsed + cfg.cacheCleanupPollInterval =
        (k + 1 : ℕ) * cfg.cacheCleanupPollInterval := by
      rw [helapsed]
      push_cast
      ring
    rw [hnext]
    refine phaseInTime_poll hδ hk ?_
    push_cast
    linarith
  | waiterStarts hphase | waiterReturns hphase =>
    rw [hphase] at hs
    exact hs
  | batch | itemEnds => exact hs
  | drained | timedOut | cleanupEnds | cacheCloses | clientCloses => exact trivial

/-! ### It can always go on -/

/-- Time passes, or `lifespan` or its inner task goes on. -/
def ofLifespan : ServerEvent Response α → Bool
  | .elapse _ | .sleepEnds | .waiterRuns | .waitForEnds | .cleanupEnds | .cacheCloses
  | .clientCloses => true
  | .app _ | .batch .. | .itemEnds .. | .shutdown => false

/-- A step of the lifespan alone, resumed in time. -/
def GoesOn (δ : ℚ) (s : Server Response α) (e : ServerEvent Response α) : Prop :=
  Timely δ s e ∧ ofLifespan e = true

/-- Time may pass until a timer of `lifespan` is due. -/
lemma exists_run_until (cfg : ShutdownSettings) (errors : Exc → List (String × String))
    {δ due : ℚ} (hδ : 0 ≤ δ)
    (hphase : (∃ elapsed, s.phase = .polling elapsed due) ∨ ∃ w, s.phase = .draining due w) :
    ∃ es now, due ≤ now ∧ Run (step cfg errors) (GoesOn δ) s es { s with now } := by
  by_cases hdue : due ≤ s.now
  · exact ⟨[], s.now, hdue, .nil s⟩
  · have hwait : 0 ≤ due - s.now := by linarith
    have hstep : step cfg errors s (.elapse (due - s.now)) = some { s with now := due } := by
      simp [step, hwait]
    refine ⟨[.elapse (due - s.now)], due, le_rfl, .cons ⟨?_, rfl⟩ hstep (.nil _)⟩
    unfold Timely
    rcases hphase with ⟨elapsed, hphase⟩ | ⟨w, hphase⟩
    · simp only [hphase]
      linarith
    · simp only [hphase]
      linarith

/-- The end of the shutdown. -/
lemma exists_run_stopped_of_cancelling (cfg : ShutdownSettings)
    (errors : Exc → List (String × String)) {δ : ℚ} (hphase : s.phase = .cancellingCleanup) :
    ∃ es s', Run (step cfg errors) (GoesOn δ) s es s' ∧ s'.phase = .stopped := by
  have hcleanup : step cfg errors s .cleanupEnds = some { s with phase := .closingCache } := by
    simp [step, hphase]
  exact ⟨[.cleanupEnds, .cacheCloses, .clientCloses], { s with phase := .stopped },
    .cons ⟨trivial, rfl⟩ hcleanup (.cons ⟨trivial, rfl⟩ rfl (.cons ⟨trivial, rfl⟩ rfl (.nil _))), rfl⟩

lemma exists_run_stopped_of_draining {δ deadline : ℚ} {w : Waiter} (hδ : 0 ≤ δ)
    (hphase : s.phase = .draining deadline w) :
    ∃ es s', Run (step cfg errors) (GoesOn δ) s es s' ∧ s'.phase = .stopped := by
  obtain ⟨es, now, hdue, hrun⟩ := exists_run_until cfg errors hδ (.inr ⟨w, hphase⟩)
  have hend : ∃ line, step cfg errors { s with now } .waitForEnds =
      some { log { s with now } line with phase := .cancellingCleanup } := by
    cases w with
    | returned => exact ⟨.allRequestsDrained, by simp [step, hphase]⟩
    | starting | waiting | woken => exact ⟨.drainTimeout s.app.inFlight, by simp [step, hphase, hdue]⟩
  obtain ⟨line, hstep⟩ := hend
  obtain ⟨es', s', hrest, hstopped⟩ := exists_run_stopped_of_cancelling cfg errors
    (s := { log { s with now } line with phase := .cancellingCleanup }) rfl
  have hends : Run (step cfg errors) (GoesOn δ) { s with now } (.waitForEnds :: es') s' :=
    .cons ⟨trivial, rfl⟩ hstep hrest
  exact ⟨_, s', hrun.append hends, hstopped⟩

/-- A sleep ends: the loop sleeps again, or the wait for the event begins. -/
lemma exists_run_poll (cfg : ShutdownSettings) (errors : Exc → List (String × String))
    {δ elapsed due : ℚ} (hδ : 0 ≤ δ) (hphase : s.phase = .polling elapsed due) :
    ∃ es s', Run (step cfg errors) (GoesOn δ) s es s' ∧
      ((elapsed + cfg.cacheCleanupPollInterval < cfg.shutdownBatchTimeout ∧
          ∃ due', s'.phase = .polling (elapsed + cfg.cacheCleanupPollInterval) due') ∨
        ∃ deadline, s'.phase = .draining deadline .starting) := by
  obtain ⟨es, now, hdue, hrun⟩ := exists_run_until cfg errors hδ (.inl ⟨elapsed, hphase⟩)
  have hstep : step cfg errors { s with now } .sleepEnds =
      some (poll cfg { s with now } (elapsed + cfg.cacheCleanupPollInterval)) := by
    simp [step, hphase, hdue]
  have hends : Run (step cfg errors) (GoesOn δ) { s with now } [.sleepEnds]
      (poll cfg { s with now } (elapsed + cfg.cacheCleanupPollInterval)) :=
    .cons ⟨trivial, rfl⟩ hstep (.nil _)
  refine ⟨_, _, hrun.append hends, ?_⟩
  rcases (poll_spec cfg { s with now } (elapsed + cfg.cacheCleanupPollInterval)).2.2.2.2 with
    ⟨-, hmore, hnext⟩ | ⟨-, hnext⟩
  · exact .inl ⟨hmore, _, hnext⟩
  · exact .inr ⟨_, hnext⟩

/-- The induction is on the number of sleeps that the batch timeout leaves room for. -/
lemma exists_run_stopped_of_polling {δ elapsed due : ℚ} (hδ : 0 ≤ δ) (n : ℕ)
    (hroom : cfg.shutdownBatchTimeout - elapsed ≤ n * cfg.cacheCleanupPollInterval)
    (hphase : s.phase = .polling elapsed due) :
    ∃ es s', Run (step cfg errors) (GoesOn δ) s es s' ∧ s'.phase = .stopped := by
  have hinterval := cfg.cacheCleanupPollInterval_pos
  induction n generalizing s elapsed due with
  | zero =>
    obtain ⟨es, s₂, hrun, ⟨hmore, -⟩ | ⟨deadline, hnext⟩⟩ :=
      exists_run_poll cfg errors hδ hphase
    · push_cast at hroom
      linarith
    · obtain ⟨es', s', hrest, hstopped⟩ := exists_run_stopped_of_draining hδ hnext
      exact ⟨_, s', hrun.append hrest, hstopped⟩
  | succ n ih =>
    obtain ⟨es, s₂, hrun, ⟨-, due', hnext⟩ | ⟨deadline, hnext⟩⟩ :=
      exists_run_poll cfg errors hδ hphase
    · push_cast at hroom
      obtain ⟨es', s', hrest, hstopped⟩ := ih (by linarith) hnext
      exact ⟨_, s', hrun.append hrest, hstopped⟩
    · obtain ⟨es', s', hrest, hstopped⟩ := exists_run_stopped_of_draining hδ hnext
      exact ⟨_, s', hrun.append hrest, hstopped⟩

/-- Wherever `lifespan` is suspended after the end of the lifespan, it can go on to its end. -/
lemma exists_run_stopped {δ : ℚ} (hδ : 0 ≤ δ) (hphase : s.phase ≠ .serving) :
    ∃ es s', Run (step cfg errors) (GoesOn δ) s es s' ∧ s'.phase = .stopped := by
  cases hold : s.phase with
  | serving => exact absurd hold hphase
  | polling elapsed due =>
    obtain ⟨n, hn⟩ := exists_nat_ge
      ((cfg.shutdownBatchTimeout - elapsed) / cfg.cacheCleanupPollInterval)
    rw [div_le_iff₀ cfg.cacheCleanupPollInterval_pos] at hn
    exact exists_run_stopped_of_polling hδ n hn hold
  | draining deadline w => exact exists_run_stopped_of_draining hδ hold
  | cancellingCleanup => exact exists_run_stopped_of_cancelling cfg errors hold
  | closingCache =>
    have hcache : step cfg errors s .cacheCloses = some { s with phase := .closingClient } := by
      simp [step, hold]
    exact ⟨[.cacheCloses, .clientCloses], { s with phase := .stopped },
      .cons ⟨trivial, rfl⟩ hcache (.cons ⟨trivial, rfl⟩ rfl (.nil _)), rfl⟩
  | closingClient =>
    exact ⟨[.clientCloses], { s with phase := .stopped },
      .cons ⟨trivial, rfl⟩ (by simp [step, hold]) (.nil _), rfl⟩
  | stopped => exact ⟨[], s, .nil s, hold⟩

/-- A batch that never ends. -/
def stuckBatch : List (ServerEvent ℕ ℕ) :=
  [.app (.request 0 batchPath), .batch 0 [10], .app .sigterm]

end Server

end ImageDescriptor.App
