/-
# What the breakers record

A breaker is meant to open after `failure_threshold` upstream calls of its service have
failed in a row.  What it is told is how the coroutine of a call has ended, which is not
the same: a call that was answered from the cache counts as a success, a module may swallow
the error of its fetch, a call that was in flight when the breaker opened closes it again,
and the end of the cooldown forgets the failures.  The runs in which none of this meets a
service that is failing are those in which the breaker opens in time.  A call that is
cancelled tells its breaker nothing.
-/
import ImageDescriptor.Services.Composer

namespace ImageDescriptor.Composer

open Lib

/-- The failures of a service have reached the threshold less than a cooldown ago. -/
def Tally.Tripped (τ : Tally) (cb : CircuitBreaker) (now : ℚ) : Prop :=
  ∃ t, τ.trippedAt = some t ∧ now < t + cb.cooldownSec

/-- The condition on the end of a coroutine.  A call that is recorded as a success has not
failed upstream, has contacted its upstream if upstream calls have been failing, and does
not end while the breaker has to be open; and no upstream call fails between the end of a
cooldown and the next upstream success. -/
def Tally.Tracks (τ : Tally) (cb : CircuitBreaker) (now : ℚ) (upstream : Upstream) :
    Verdict → Prop
  | .success =>
    upstream ≠ .failed ∧ (upstream = .notContacted → τ.streak = 0) ∧ ¬ τ.Tripped cb now
  | .failure => upstream = .failed → τ.reset = false

/-- What the end of a coroutine makes its call record. -/
def verdict {α : Type} (run : ModuleRun α) : Verdict :=
  match run.result with
  | .ok _ => .success
  | .error _ => .failure

/-- The breaker after a record. -/
def recorded (cb : CircuitBreaker) (now : ℚ) : Verdict → CircuitBreaker
  | .success => cb.recordSuccess
  | .failure => cb.recordFailure now

instance (τ : Tally) (cb : CircuitBreaker) (now : ℚ) : Decidable (τ.Tripped cb now) :=
  decidable_of_iff ((τ.trippedAt.any fun t => decide (now < t + cb.cooldownSec)) = true)
    (by rcases h : τ.trippedAt with _ | t <;> simp [Tally.Tripped, h])

instance (τ : Tally) (cb : CircuitBreaker) (now : ℚ) (upstream : Upstream) (v : Verdict) :
    Decidable (τ.Tracks cb now upstream v) :=
  match v with
  | .success => inferInstanceAs (Decidable (_ ∧ _ ∧ _))
  | .failure => inferInstanceAs (Decidable (_ → _))

/-- The invariant of one service: as long as no cooldown has ended, the breaker counts at
least the failed upstream calls, and while it has to be open it is. -/
structure Follows (cb : CircuitBreaker) (τ : Tally) (now : ℚ) : Prop where
  nonneg : 0 ≤ now
  counted : τ.reset = false → τ.streak ≤ cb.failureCount
  past : ∀ t, τ.trippedAt = some t → t ≤ now
  blocks : ∀ t, τ.trippedAt = some t → now < t + cb.cooldownSec →
    t + cb.cooldownSec ≤ cb.openUntil

/-! ### One breaker -/

section Breaker

variable {cb : CircuitBreaker} {τ : Tally} {now t : ℚ}

lemma Follows.mono (h : Follows cb τ now) (hle : now ≤ t) : Follows cb τ t where
  nonneg := h.nonneg.trans hle
  counted := h.counted
  past u hu := (h.past u hu).trans hle
  blocks u hu hlt := h.blocks u hu (hle.trans_lt hlt)

/-- A breaker that has to be open blocks the calls. -/
lemma Follows.blocks_of_tripped (h : Follows cb τ now) (htrip : τ.Tripped cb now) :
    cb.Blocks now := by
  obtain ⟨u, hu, hlt⟩ := htrip
  have hopen : u + cb.cooldownSec ≤ cb.openUntil := h.blocks u hu hlt
  have hnow : 0 ≤ now := h.nonneg
  have hlt' : now < cb.openUntil := hlt.trans_le hopen
  exact ⟨(hnow.trans_lt hlt').ne', hlt'⟩

lemma follows_checked (h : Follows cb τ now) :
    Follows (cb.isOpen now).1 (τ.checked cb now) now := by
  by_cases hb : cb.Blocks now
  · have hhalf : ¬ cb.HalfOpens now := fun hh => absurd hb.2 (not_lt.mpr hh.2)
    rw [CircuitBreaker.isOpen_of_blocks hb]
    simpa [Tally.checked, hhalf] using h
  · by_cases hhalf : cb.HalfOpens now
    · -- the cooldown is over: the breaker forgets the failures, the tally notes that it does
      rw [CircuitBreaker.isOpen_of_halfOpens hhalf]
      simp only [Tally.checked, hhalf, if_true]
      refine ⟨h.nonneg, ?_, h.past, ?_⟩
      · intro hreset
        have hstreak : τ.streak = 0 := by
          by_contra hne
          simp [Nat.pos_of_ne_zero hne] at hreset
        exact hstreak.le
      · intro u hu hlt
        have hopen : u + cb.cooldownSec ≤ cb.openUntil := h.blocks u hu hlt
        exact absurd hlt (not_lt.mpr (hopen.trans hhalf.2))
    · rw [CircuitBreaker.isOpen_of_closed hb hhalf]
      simpa [Tally.checked, hhalf] using h

lemma follows_success {upstream : Upstream} (h : Follows cb τ now)
    (htracks : τ.Tracks cb now upstream .success) :
    Follows cb.recordSuccess (τ.ended cb now upstream) now := by
  obtain ⟨hfailed, hzero, hopen⟩ := htracks
  cases upstream with
  | failed => exact absurd rfl hfailed
  | notContacted =>
    have hstreak : τ.streak = 0 := hzero rfl
    refine ⟨h.nonneg, fun _ => hstreak.le, h.past, ?_⟩
    intro u hu hlt
    exact absurd ⟨u, hu, hlt⟩ hopen
  | succeeded =>
    refine ⟨h.nonneg, fun _ => le_rfl, h.past, ?_⟩
    intro u hu hlt
    exact absurd ⟨u, hu, hlt⟩ hopen

lemma follows_failure {upstream : Upstream} (h : Follows cb τ now)
    (htracks : τ.Tracks cb now upstream .failure) :
    Follows (cb.recordFailure now) (τ.ended cb now upstream) now := by
  -- an earlier obligation to be open is met: `_open_until` never moves back here
  have hblocks : ∀ u, τ.trippedAt = some u → now < u + cb.cooldownSec →
      u + cb.cooldownSec ≤ (cb.recordFailure now).openUntil := by
    intro u hu hlt
    have hcases : (cb.recordFailure now).openUntil = cb.openUntil ∨
        (cb.recordFailure now).openUntil = now + cb.cooldownSec :=
      CircuitBreaker.recordFailure_openUntil_cases
    rcases hcases with hsame | hset
    · rw [hsame]
      exact h.blocks u hu hlt
    · rw [hset]
      have hpast : u ≤ now := h.past u hu
      linarith
  cases upstream with
  | notContacted =>
    refine ⟨h.nonneg, ?_, h.past, by simpa [Tally.ended] using hblocks⟩
    intro hreset
    have hcount : τ.streak ≤ cb.failureCount := h.counted hreset
    simp only [CircuitBreaker.recordFailure_failureCount]
    exact Nat.le_succ_of_le hcount
  | succeeded =>
    exact ⟨h.nonneg, fun _ => Nat.zero_le _, h.past, by simpa [Tally.ended] using hblocks⟩
  | failed =>
    have hreset : τ.reset = false := htracks rfl
    have hcount : τ.streak ≤ cb.failureCount := h.counted hreset
    refine ⟨h.nonneg, ?_, ?_, ?_⟩
    · intro _
      simp only [Tally.ended, CircuitBreaker.recordFailure_failureCount]
      omega
    · intro u hu
      simp only [Tally.ended] at hu
      split at hu
      · obtain rfl : now = u := by simpa using hu
        exact le_rfl
      · exact h.past u hu
    · intro u hu hlt
      rw [CircuitBreaker.recordFailure_cooldownSec] at hlt ⊢
      simp only [Tally.ended] at hu
      split at hu
      · -- the threshold has been reached: the breaker counts at least as many failures
        rename_i hthreshold
        obtain rfl : now = u := by simpa using hu
        rw [CircuitBreaker.recordFailure_openUntil (by omega)]
      · exact hblocks u hu hlt

lemma follows_recorded {upstream : Upstream} (v : Verdict) (h : Follows cb τ now)
    (htracks : τ.Tracks cb now upstream v) :
    Follows (recorded cb now v) (τ.ended cb now upstream) now := by
  cases v with
  | success => exact follows_success h htracks
  | failure => exact follows_failure h htracks

end Breaker

/-! ### One step and a whole run -/

namespace Process

variable (rt : Runtime) (cfg : Settings)

/-- The condition on a step: the coroutine that ends in it meets `Tally.Tracks`. -/
def TracksUpstream (s : Process) (e : Event) : Prop :=
  match e.action with
  | .ends id svc answers =>
    match s.compositions id with
    | some c =>
      let run := c.runService rt cfg svc answers
      (s.tally svc).Tracks (s.breakers svc) e.time run.upstream (verdict run)
    | none => True
  | _ => True

instance (s : Process) (e : Event) : Decidable (TracksUpstream rt cfg s e) := by
  unfold TracksUpstream
  split
  · split <;> infer_instance
  · infer_instance

/-- Every service whose failures have reached the threshold less than a cooldown ago has an
open breaker, and a call that asks such a breaker is short-circuited with a warning. -/
def ShortCircuits (s : Process) (e : Event) (s' : Process) : Prop :=
  (∀ svc, (s'.tally svc).Tripped (s'.breakers svc) e.time → (s'.breakers svc).Blocks e.time) ∧
    ∀ id svc c, e.action = .check id svc → s.compositions id = some c →
      (s.tally svc).Tripped (s.breakers svc) e.time →
      s'.compositions id =
        some ((c.setTask svc .shortCircuited).warn svc "Circuit breaker open")

/-- The invariant of the process. -/
def BreakersFollow (s : Process) : Prop :=
  ∀ svc, Follows (s.breakers svc) (s.tally svc) s.now

variable {rt cfg} {s s' : Process} {e : Event}

lemma ends_breakers {t : ℚ} {id : ℕ} {c : Composition} {svc : Service}
    (run : ModuleRun svc.Result) : (s.ends t id c svc run).breakers =
      Function.update s.breakers svc (recorded (s.breakers svc) t (verdict run)) := by
  rcases hr : run.result with e | r <;>
    simp [ends, verdict, recorded, hr, setComposition, record, setBreaker]

lemma ends_tally {t : ℚ} {id : ℕ} {c : Composition} {svc : Service}
    (run : ModuleRun svc.Result) : (s.ends t id c svc run).tally =
      Function.update s.tally svc ((s.tally svc).ended (s.breakers svc) t run.upstream) := by
  rcases hr : run.result with e | r <;>
    simp [ends, hr, setComposition, record, setBreaker]

/-- What a step does to the breaker and the tally of one service: nothing, or the breaker is
asked, or the end of a coroutine is recorded. -/
lemma step_service (h : step rt cfg s e = some s') (svc : Service) :
    (s'.breakers svc = s.breakers svc ∧ s'.tally svc = s.tally svc) ∨
      (s'.breakers svc = ((s.breakers svc).isOpen e.time).1 ∧
        s'.tally svc = (s.tally svc).checked (s.breakers svc) e.time) ∨
      (∃ id answers c, e.action = .ends id svc answers ∧ s.compositions id = some c ∧
        s'.breakers svc =
          recorded (s.breakers svc) e.time (verdict (c.runService rt cfg svc answers)) ∧
        s'.tally svc = (s.tally svc).ended (s.breakers svc) e.time
          (c.runService rt cfg svc answers).upstream) := by
  obtain ⟨-, s₁, hacts, rfl⟩ := step_acts h
  obtain ⟨t, action⟩ := e
  cases hacts with
  | request | phase2 | returns | timeout => exact .inl ⟨rfl, rfl⟩
  | @check id svc' c hc htask =>
    by_cases hsvc : svc = svc'
    · subst hsvc
      right; left
      simp only [check]
      split <;> simp [setComposition, setBreaker]
    · left
      simp only [check]
      split <;> simp [setComposition, setBreaker, Function.update_of_ne hsvc]
  | @ends id svc' answers c hc htask =>
    by_cases hsvc : svc = svc'
    · subst hsvc
      right; right
      refine ⟨id, answers, c, rfl, hc, ?_⟩
      simp [ends_breakers, ends_tally]
    · left
      simp [ends_breakers, ends_tally, Function.update_of_ne hsvc]
  | status => exact .inr (.inl ⟨rfl, rfl⟩)

lemma breakersFollow_initial : BreakersFollow initial := fun svc => by
  refine ⟨le_rfl, fun _ => le_rfl, ?_, ?_⟩
  · intro t ht
    cases ht
  · intro t ht
    cases ht

lemma breakersFollow_step (hs : BreakersFollow s) (htracks : TracksUpstream rt cfg s e)
    (h : step rt cfg s e = some s') : BreakersFollow s' := by
  intro svc
  obtain ⟨hle, s₁, -, rfl⟩ := step_acts h
  have hsvc : Follows (s.breakers svc) (s.tally svc) e.time := (hs svc).mono hle
  rcases step_service h svc with ⟨hb, hτ⟩ | ⟨hb, hτ⟩ | ⟨id, answers, c, haction, hc, hb, hτ⟩
  · rw [hb, hτ]
    exact hsvc
  · rw [hb, hτ]
    exact follows_checked hsvc
  · rw [hb, hτ]
    simp only [TracksUpstream, haction, hc] at htracks
    exact follows_recorded _ hsvc htracks

/-- A call that asks a breaker that blocks is short-circuited. -/
lemma check_of_blocks {id : ℕ} {svc : Service} {c : Composition} {t : ℚ}
    (hb : (s.breakers svc).Blocks t) :
    (s.check t id c svc).compositions id =
      some ((c.setTask svc .shortCircuited).warn svc "Circuit breaker open") := by
  simp [check, CircuitBreaker.isOpen_of_blocks hb, setComposition]

/-- **A failing service is short-circuited in every run that tracks its upstream.**  As soon
as `failure_threshold` upstream calls of a service have failed in a row, its breaker is
open, and every call that asks it within the cooldown is short-circuited with a warning. -/
theorem shortCircuits_of_run {es : List Event}
    (hrun : Run (step rt cfg) (TracksUpstream rt cfg) initial es s)
    (htracks : TracksUpstream rt cfg s e) (h : step rt cfg s e = some s') :
    ShortCircuits s e s' := by
  have hs : BreakersFollow s :=
    hrun.invariant (fun _ _ _ hs htracks h => breakersFollow_step hs htracks h)
      breakersFollow_initial
  have hs' : BreakersFollow s' := breakersFollow_step hs htracks h
  obtain ⟨hle, s₁, hacts, rfl⟩ := step_acts h
  constructor
  · intro svc htrip
    exact (hs' svc).blocks_of_tripped htrip
  · intro id svc c haction hc htrip
    have hblocks : (s.breakers svc).Blocks e.time := ((hs svc).mono hle).blocks_of_tripped htrip
    rw [haction] at hacts
    cases hacts with
    | check hc' htask =>
      obtain rfl : c = _ := Option.some.inj (hc.symm.trans hc')
      exact check_of_blocks hblocks

/-! ### A mission service that fails -/

/-- Conversions that accept nothing but numbers, and `repr` of short decimals. -/
def plainRuntime : Runtime := ⟨⟨fun _ => none, fun _ => none⟩, fun q => reprRounded q 4⟩

/-- A request for a scene. -/
def sceneRequest (stacId : Option String) : DescribeRequest where
  thumbnail := "https://example.com/image1.jpg"
  coordinates := (127, 37)
  bbox := none
  capturedAt := none
  cogImageId := none
  stacId := stacId

/-- The fetch of an item whose last attempt is answered with a server error; nothing is
cached. -/
def serverError : Answers where
  cached := .ok .null
  fetched := .error ⟨.httpStatusError 503, "Server error 503 Service Unavailable"⟩
  describer := ⟨.ok (), .ok [], fun b => .ok b, fun _ _ _ => .ok none⟩
  written := .ok ()

/-- A request at time `i` whose mission call ends before its other calls. -/
def missionCall (i : ℕ) (stacId : Option String) : List Event :=
  [⟨i, .request i (sceneRequest stacId) true⟩, ⟨i, .check i .mission⟩,
    ⟨i, .ends i .mission serverError⟩]

/-- Five calls that fail upstream, and a sixth request. -/
def failingRun : List Event :=
  ((List.range 5).flatMap fun i => missionCall i (some "S2A_31UFU")) ++
    [⟨5, .request 5 (sceneRequest (some "S2A_31UFU")) true⟩]

theorem shortCircuits_of_failingRun :
    ∃ s s', Run (step plainRuntime .default) (TracksUpstream plainRuntime .default) initial
        failingRun s ∧
      step plainRuntime .default s ⟨6, .check 5 .mission⟩ = some s' ∧
      ShortCircuits s ⟨6, .check 5 .mission⟩ s' := by
  obtain ⟨s, hrun, hs⟩ : ∃ s, Run (step plainRuntime .default)
      (TracksUpstream plainRuntime .default) initial failingRun s ∧
      (step plainRuntime .default s ⟨6, .check 5 .mission⟩).isSome = true :=
    Run.of_observed (by decide +kernel)
  obtain ⟨s', h⟩ := Option.isSome_iff_exists.mp hs
  exact ⟨s, s', hrun, h, shortCircuits_of_run hrun trivial h⟩

/-- Between two calls that fail upstream, a request without a STAC id. -/
def alternatingRun : List Event :=
  ((List.range 4).flatMap fun i =>
      missionCall (2 * i) (some "S2A_31UFU") ++ missionCall (2 * i + 1) none) ++
    [⟨8, .request 8 (sceneRequest (some "S2A_31UFU")) true⟩, ⟨8, .check 8 .mission⟩]

/-- The fifth call that fails upstream. -/
def fifthFailure : Event := ⟨8, .ends 8 .mission serverError⟩

/-- Whether five upstream calls of the mission service have failed at time 8, and its
breaker is closed. -/
def closedAfterFive (s : Process) : Bool :=
  match step plainRuntime .default s fifthFailure with
  | some s' =>
    decide ((s'.tally .mission).streak = 5) &&
      decide ((s'.tally .mission).Tripped (s'.breakers .mission) 8) &&
      decide ((s'.breakers .mission).openUntil = 0)
  | none => false

theorem unasked_requests_keep_breaker_closed :
    ∃ s s', Run (step plainRuntime .default) (fun _ _ => True) initial alternatingRun s ∧
      step plainRuntime .default s fifthFailure = some s' ∧ (s'.tally .mission).streak = 5 ∧
      ¬ ShortCircuits s fifthFailure s' := by
  obtain ⟨s, hrun, hs⟩ : ∃ s, Run (step plainRuntime .default) (fun _ _ => True) initial
      alternatingRun s ∧ closedAfterFive s = true :=
    Run.of_observed (by decide +kernel)
  simp only [closedAfterFive] at hs
  split at hs
  · rename_i s' h
    simp only [Bool.and_eq_true, decide_eq_true_eq] at hs
    obtain ⟨⟨hstreak, htrip⟩, hclosed⟩ := hs
    refine ⟨s, s', hrun, h, hstreak, fun hshort => ?_⟩
    exact (hshort.1 .mission htrip).1 hclosed
  · cases hs

end Process

end ImageDescriptor.Composer
