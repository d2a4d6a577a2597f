/-
# The open period of a breaker

A breaker that opens should disable its service until the cooldown has passed.  Calls that
were let through before may still be under way then.  One of them that fails prolongs the
period, but one that succeeds ends it: `record_success` clears `_open_until` whether or not
the breaker is open.  In the runs in which no call succeeds while the breaker of its service
is open, every call that asks the breaker within the cooldown is refused.
-/
import Mathlib.Tactic.Linarith
import Mathlib.Tactic.NormNum
import ImageDescriptor.Services.BreakerAccounting

namespace ImageDescriptor.Composer

open Lib

namespace Process

variable (rt : Runtime) (cfg : Settings) (svc : Service)

/-- The breaker of the service opens in the step: a call fails, and the failures counted
reach the threshold. -/
def Opens (s : Process) (e : Event) : Prop :=
  ∃ id answers c, e.action = .ends id svc answers ∧ s.compositions id = some c ∧
    verdict (c.runService rt cfg svc answers) = .failure ∧
    (s.breakers svc).failureThreshold ≤ (s.breakers svc).failureCount + 1

/-- The condition on a step: no call of the service ends with a success while its breaker is
open. -/
def SparesOpenPeriod (s : Process) (e : Event) : Prop :=
  match e.action with
  | .ends id svc' answers =>
    match s.compositions id with
    | some c =>
      svc' = svc → verdict (c.runService rt cfg svc' answers) = .success →
        ¬ (s.breakers svc).Blocks e.time
    | none => True
  | _ => True

instance (s : Process) (e : Event) : Decidable (SparesOpenPeriod rt cfg svc s e) :=
  decidable_of_iff
    ((match e.action with
      | .ends id svc' answers =>
        match s.compositions id with
        | some c => decide (svc' = svc → verdict (c.runService rt cfg svc' answers) = .success →
            ¬ (s.breakers svc).Blocks e.time)
        | none => true
      | _ => true) = true)
    (by
      unfold SparesOpenPeriod
      split
      · split
        · exact decide_eq_true_iff
        · simp
      · simp)

/-- A call that asks its breaker in the step, at a time before `limit`, does not await its
coroutine: it is short-circuited with a warning. -/
def RefusesUntil (limit : ℚ) (s : Process) (e : Event) (s' : Process) : Prop :=
  ∀ id c, e.action = .check id svc → s.compositions id = some c → e.time < limit →
    s'.compositions id = some ((c.setTask svc .shortCircuited).warn svc "Circuit breaker open")

/-- The invariant of the period that begins at time `t`: until the cooldown has passed, the
breaker is open at least for the rest of it. -/
structure HoldsOpen (t cooldown : ℚ) (s : Process) : Prop where
  nonneg : 0 ≤ t
  begun : t ≤ s.now
  cooldownSec : (s.breakers svc).cooldownSec = cooldown
  holds : s.now < t + cooldown → t + cooldown ≤ (s.breakers svc).openUntil

variable {rt cfg svc} {s s₁ s₂ s₃ : Process} {e f : Event} {t cooldown : ℚ}

lemma isOpen_cooldownSec (cb : CircuitBreaker) (now : ℚ) :
    (cb.isOpen now).1.cooldownSec = cb.cooldownSec := by
  unfold CircuitBreaker.isOpen
  split
  · rfl
  · split <;> rfl

/-- Within the cooldown the breaker blocks. -/
lemma HoldsOpen.blocks (hs : s.HoldsOpen svc t cooldown) {now : ℚ} (hle : s.now ≤ now)
    (hlt : now < t + cooldown) : (s.breakers svc).Blocks now := by
  have hopen : t + cooldown ≤ (s.breakers svc).openUntil := hs.holds (hle.trans_lt hlt)
  have hpos : 0 ≤ now := hs.nonneg.trans (hs.begun.trans hle)
  have hlt' : now < (s.breakers svc).openUntil := hlt.trans_le hopen
  exact ⟨(hpos.trans_lt hlt').ne', hlt'⟩

lemma holdsOpen_of_opens (hnow : 0 ≤ s.now) (hopens : Opens rt cfg svc s e)
    (h : step rt cfg s e = some s₁) :
    s₁.HoldsOpen svc e.time (s.breakers svc).cooldownSec := by
  obtain ⟨id, answers, c, haction, hc, hfailed, hreached⟩ := hopens
  obtain ⟨hle, s', hacts, rfl⟩ := step_acts h
  have hbreaker : s'.breakers svc = (s.breakers svc).recordFailure e.time := by
    rw [haction] at hacts
    cases hacts with
    | ends hc' htask =>
      obtain rfl : c = _ := Option.some.inj (hc.symm.trans hc')
      simp [ends_breakers, hfailed, recorded]
  refine ⟨hnow.trans hle, le_rfl, ?_, fun _ => ?_⟩
  · simp [hbreaker]
  · simp [hbreaker, CircuitBreaker.recordFailure_openUntil hreached]

/-- A step in which no call succeeds within the period keeps the breaker open. -/
lemma holdsOpen_step (hs : s.HoldsOpen svc t cooldown)
    (hspares : SparesOpenPeriod rt cfg svc s e) (h : step rt cfg s e = some s₁) :
    s₁.HoldsOpen svc t cooldown := by
  obtain ⟨hle, s', -, rfl⟩ := step_acts h
  have hbegun : t ≤ e.time := hs.begun.trans hle
  rcases step_service h svc with ⟨hb, -⟩ | ⟨hb, -⟩ | ⟨id, answers, c, haction, hc, hb, -⟩
  · refine ⟨hs.nonneg, hbegun, by rw [hb]; exact hs.cooldownSec, fun hlt => ?_⟩
    rw [hb]
    exact hs.holds (hle.trans_lt hlt)
  · -- the breaker is asked: it is left alone within the period
    refine ⟨hs.nonneg, hbegun, by rw [hb, isOpen_cooldownSec]; exact hs.cooldownSec, fun hlt => ?_⟩
    rw [hb, CircuitBreaker.isOpen_of_blocks (hs.blocks hle hlt)]
    exact hs.holds (hle.trans_lt hlt)
  · cases hverdict : verdict (c.runService rt cfg svc answers) with
    | success =>
      refine ⟨hs.nonneg, hbegun, by rw [hb, hverdict]; exact hs.cooldownSec, fun hlt => ?_⟩
      simp only [SparesOpenPeriod, haction, hc] at hspares
      exact absurd (hs.blocks hle hlt) (hspares trivial hverdict)
    | failure =>
      rw [hverdict] at hb
      refine ⟨hs.nonneg, hbegun, ?_, fun hlt => ?_⟩
      · rw [hb, recorded, CircuitBreaker.recordFailure_cooldownSec]
        exact hs.cooldownSec
      · have hcases : ((s.breakers svc).recordFailure e.time).openUntil =
              (s.breakers svc).openUntil ∨
            ((s.breakers svc).recordFailure e.time).openUntil =
              e.time + (s.breakers svc).cooldownSec :=
          CircuitBreaker.recordFailure_openUntil_cases
        rw [hb, recorded]
        rcases hcases with hsame | hset
        · rw [hsame]
          exact hs.holds (hle.trans_lt hlt)
        · -- the failure prolongs the period
          rw [hset, hs.cooldownSec]
          linarith

/-- **A breaker that has opened refuses every call for the cooldown in every run in which no
call of the service succeeds while it is open.**  The run may begin in any state of the
process, with any calls under way. -/
theorem refusesUntil_of_run {es : List Event} (hnow : 0 ≤ s.now) (hopens : Opens rt cfg svc s e)
    (h : step rt cfg s e = some s₁)
    (hrun : Run (step rt cfg) (SparesOpenPeriod rt cfg svc) s₁ es s₂)
    (hnext : step rt cfg s₂ f = some s₃) :
    RefusesUntil svc (e.time + (s.breakers svc).cooldownSec) s₂ f s₃ := by
  have hs₂ : s₂.HoldsOpen svc e.time (s.breakers svc).cooldownSec :=
    hrun.invariant (fun _ _ _ hs hspares h => holdsOpen_step hs hspares h)
      (holdsOpen_of_opens hnow hopens h)
  obtain ⟨hle, s', hacts, rfl⟩ := step_acts hnext
  intro id c haction hc hlt
  rw [haction] at hacts
  cases hacts with
  | check hc' htask =>
    obtain rfl : c = _ := Option.some.inj (hc.symm.trans hc')
    exact check_of_blocks (hs₂.blocks hle hlt)

/-! ### A call that is under way when the breaker opens -/

/-- A STAC item that is found. -/
def itemFound : Answers :=
  { serverError with
    fetched := .ok (.ok (.obj [("properties", .obj [("platform", .str "sentinel-2c")])])) }

/-- Four calls fail, and two more are let through. -/
def twoUnderWay : List Event :=
  ((List.range 4).flatMap fun i => missionCall i (some "S2A_31UFU")) ++
    [⟨4, .request 4 (sceneRequest (some "S2A_31UFU")) true⟩, ⟨4, .check 4 .mission⟩,
      ⟨4, .request 5 (sceneRequest (some "S2B_31UFU")) true⟩, ⟨4, .check 5 .mission⟩]

/-- The fifth failure opens the breaker. -/
def opening : Event := ⟨5, .ends 4 .mission serverError⟩

/-- Whether call 4 of the mission service fails in this step and opens the breaker. -/
def opensAtFive (s : Process) : Bool :=
  match s.compositions 4 with
  | some c =>
    decide (verdict (c.runService plainRuntime .default .mission serverError) = .failure) &&
      decide ((s.breakers .mission).failureThreshold ≤ (s.breakers .mission).failureCount + 1)
  | none => false

lemma opens_of_opensAtFive {s : Process} (h : opensAtFive s = true) :
    Opens plainRuntime .default .mission s opening := by
  unfold opensAtFive at h
  split at h
  · rename_i c hc
    simp only [Bool.and_eq_true, decide_eq_true_eq] at h
    exact ⟨4, serverError, c, rfl, hc, h.1, h.2⟩
  · cases h

/-- What happens after the opening: the call that is under way ends, and a new request asks. -/
def afterOpening (answers : Answers) : List Event :=
  [⟨6, .ends 5 .mission answers⟩, ⟨6, .request 6 (sceneRequest (some "S2A_31UFU")) true⟩]

/-- The computed run: up to the opening, the events after it, and a call that asks. -/
def observedPeriod (C : Process → Event → Prop) [∀ s e, Decidable (C s e)] (answers : Answers)
    (p : Process → Process → Bool) : Option Bool :=
  (exec (step plainRuntime .default) (fun _ _ => True) initial twoUnderWay).bind fun s =>
    (step plainRuntime .default s opening).bind fun s₁ =>
      (exec (step plainRuntime .default) C s₁ (afterOpening answers)).bind fun s₂ =>
        (step plainRuntime .default s₂ ⟨7, .check 6 .mission⟩).map fun s₃ =>
          opensAtFive s && decide (s.now = 4 ∧ (s.breakers .mission).cooldownSec = 30) && p s₂ s₃

lemma run_of_observedPeriod (C : Process → Event → Prop) [∀ s e, Decidable (C s e)]
    (answers : Answers) (p : Process → Process → Bool)
    (h : observedPeriod C answers p = some true) :
    ∃ s s₁ s₂ s₃, Run (step plainRuntime .default) (fun _ _ => True) initial twoUnderWay s ∧
      s.now = 4 ∧ (s.breakers .mission).cooldownSec = 30 ∧
      Opens plainRuntime .default .mission s opening ∧
      step plainRuntime .default s opening = some s₁ ∧
      Run (step plainRuntime .default) C s₁ (afterOpening answers) s₂ ∧
      step plainRuntime .default s₂ ⟨7, .check 6 .mission⟩ = some s₃ ∧ p s₂ s₃ = true := by
  obtain ⟨s, hs, h⟩ := Option.bind_eq_some_iff.mp h
  obtain ⟨s₁, hopening, h⟩ := Option.bind_eq_some_iff.mp h
  obtain ⟨s₂, hs₂, h⟩ := Option.bind_eq_some_iff.mp h
  obtain ⟨s₃, hcheck, h⟩ := Option.map_eq_some_iff.mp h
  simp only [Bool.and_eq_true, decide_eq_true_eq] at h
  obtain ⟨⟨hopens, hnow, hcooldown⟩, hp⟩ := h
  exact ⟨s, s₁, s₂, s₃, .of_exec hs, hnow, hcooldown, opens_of_opensAtFive hopens, hopening,
    .of_exec hs₂, hcheck, hp⟩

/-- When the call under way fails as well, the new request is refused. -/
theorem late_failure_keeps_breaker_open :
    ∃ s s₁ s₂ s₃, Run (step plainRuntime .default) (fun _ _ => True) initial twoUnderWay s ∧
      step plainRuntime .default s opening = some s₁ ∧
      Run (step plainRuntime .default) (SparesOpenPeriod plainRuntime .default .mission) s₁
        (afterOpening serverError) s₂ ∧
      step plainRuntime .default s₂ ⟨7, .check 6 .mission⟩ = some s₃ ∧
      RefusesUntil .mission (5 + (s.breakers .mission).cooldownSec) s₂ ⟨7, .check 6 .mission⟩
        s₃ := by
  obtain ⟨s, s₁, s₂, s₃, hrun, hnow, -, hopens, hopening, hafter, hcheck, -⟩ :=
    run_of_observedPeriod (SparesOpenPeriod plainRuntime .default .mission) serverError
      (fun _ _ => true) (by decide +kernel)
  refine ⟨s, s₁, s₂, s₃, hrun, hopening, hafter, hcheck, ?_⟩
  exact refusesUntil_of_run (by rw [hnow]; decide) hopens hopening hafter hcheck

/-- Whether the mission call of composition 6 awaits its coroutine. -/
def awaitsMission (s : Process) : Bool :=
  match s.compositions 6 with
  | some c =>
    match c.tasks .mission with
    | .running => true
    | _ => false
  | none => false

/-- When it succeeds, the new request awaits its coroutine two seconds after the opening. -/
theorem late_success_ends_open_period :
    ∃ s s₁ s₂ s₃, Run (step plainRuntime .default) (fun _ _ => True) initial twoUnderWay s ∧
      Opens plainRuntime .default .mission s opening ∧
      step plainRuntime .default s opening = some s₁ ∧
      Run (step plainRuntime .default) (fun _ _ => True) s₁ (afterOpening itemFound) s₂ ∧
      step plainRuntime .default s₂ ⟨7, .check 6 .mission⟩ = some s₃ ∧
      ¬ RefusesUntil .mission (5 + (s.breakers .mission).cooldownSec) s₂ ⟨7, .check 6 .mission⟩
        s₃ := by
  obtain ⟨s, s₁, s₂, s₃, hrun, -, hcooldown, hopens, hopening, hafter, hcheck, hobserved⟩ :=
    run_of_observedPeriod (fun _ _ => True) itemFound
      (fun s₂ s₃ => (s₂.compositions 6).isSome && awaitsMission s₃) (by decide +kernel)
  rw [Bool.and_eq_true] at hobserved
  obtain ⟨hknown, hawaits⟩ := hobserved
  obtain ⟨c, hc⟩ := Option.isSome_iff_exists.mp hknown
  refine ⟨s, s₁, s₂, s₃, hrun, hopens, hopening, hafter, hcheck, fun hrefuses => ?_⟩
  have hrefused := hrefuses 6 c rfl hc (by rw [hcooldown]; norm_num)
  simp [awaitsMission, hrefused, Composition.warn, Composition.setTask] at hawaits

end Process

end ImageDescriptor.Composer
