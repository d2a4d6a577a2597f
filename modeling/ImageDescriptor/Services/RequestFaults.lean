/-
# Faults of the requests

A breaker is there for the failures of an external service.  `_safe_call` records a failure
for every exception of a coroutine, also when nothing but the request is at fault: a
thumbnail that is no base64 or no image, a host that is refused, an item that the STAC
server does not have.  The runs with no other faults keep every breaker closed as long as
fewer than `failure_threshold` calls of a service in a row end by such a fault.
-/
import Mathlib.Tactic.Linarith
import Mathlib.Tactic.NormNum
import ImageDescriptor.Services.BreakerAccounting

namespace ImageDescriptor.Composer

open Lib

/-- The call fails by a fault of its request: the thumbnail cannot be decoded, its host is
refused, its bytes are no image, or the STAC server has no such item. -/
def Composition.requestFault (c : Composition) (svc : Service) (answers : Answers) : Bool :=
  match svc with
  | .describer =>
    match Describer.thumbnailBytes c.request.thumbnail answers.describer with
    | (.notContacted, .error e) => e.isinstance .valueError
    | (_, .error _) => false
    | (_, .ok bytes) =>
      match answers.describer.resizeForGemini bytes with
      | .error _ => true
      | .ok _ => false
  | .mission =>
    match answers.fetched with
    | .error e => decide (e.cls = .httpStatusError 404)
    | .ok _ => false
  | _ => false

/-- The process, and how many calls of each service have failed since one returned. -/
structure FaultWatch where
  process : Process
  streak : Service → ℕ

namespace FaultWatch

def initial : FaultWatch := ⟨.initial, fun _ => 0⟩

variable (rt : Runtime) (cfg : Settings)

/-- The streaks after an event. -/
def streakAfter (s : FaultWatch) (e : Event) : Service → ℕ :=
  match e.action with
  | .ends id svc answers =>
    match s.process.compositions id with
    | some c =>
      match verdict (c.runService rt cfg svc answers) with
      | .success => Function.update s.streak svc 0
      | .failure => Function.update s.streak svc (s.streak svc + 1)
    | none => s.streak
  | _ => s.streak

def step (s : FaultWatch) (e : Event) : Option FaultWatch :=
  (s.process.step rt cfg e).map fun p => ⟨p, s.streakAfter rt cfg e⟩

/-- No upstream fails in the step: a coroutine that ends in it returns, or raises because
of its request. -/
def OnlyRequestFaults (s : FaultWatch) (e : Event) : Prop :=
  match e.action with
  | .ends id svc answers =>
    match s.process.compositions id with
    | some c =>
      let run := c.runService rt cfg svc answers
      match verdict run with
      | .success => run.upstream ≠ .failed
      | .failure => c.requestFault svc answers = true
    | none => True
  | _ => True

/-- The condition on a step: a call that fails in it is not the one with which the failures
of its service in a row reach the threshold. -/
def SparesBreakers (s : FaultWatch) (e : Event) : Prop :=
  match e.action with
  | .ends id svc answers =>
    match s.process.compositions id with
    | some c =>
      verdict (c.runService rt cfg svc answers) = .failure →
        s.streak svc + 1 < (s.process.breakers svc).failureThreshold
    | none => True
  | _ => True

instance (s : FaultWatch) (e : Event) : Decidable (OnlyRequestFaults rt cfg s e) :=
  decidable_of_iff
    ((match e.action with
      | .ends id svc answers =>
        match s.process.compositions id with
        | some c =>
          let run := c.runService rt cfg svc answers
          match verdict run with
          | .success => decide (run.upstream ≠ .failed)
          | .failure => c.requestFault svc answers
        | none => true
      | _ => true) = true)
    (by
      unfold OnlyRequestFaults
      split
      · split
        · dsimp only
          split <;> simp
        · simp
      · simp)

instance (s : FaultWatch) (e : Event) : Decidable (SparesBreakers rt cfg s e) :=
  decidable_of_iff
    ((match e.action with
      | .ends id svc answers =>
        match s.process.compositions id with
        | some c => decide (verdict (c.runService rt cfg svc answers) = .failure →
            s.streak svc + 1 < (s.process.breakers svc).failureThreshold)
        | none => true
      | _ => true) = true)
    (by
      unfold SparesBreakers
      split
      · split
        · exact decide_eq_true_iff
        · simp
      · simp)

/-- No breaker opens in the step, and a call that asks its breaker is let through. -/
def NoneOpens (s : FaultWatch) (e : Event) (s' : FaultWatch) : Prop :=
  (∀ svc, (s'.process.breakers svc).openUntil = 0) ∧
    ∀ id svc c, e.action = .check id svc → s.process.compositions id = some c →
      s'.process.compositions id = some (c.setTask svc .running)

/-- The invariant: every breaker is closed and counts the streak of its service. -/
def AllClosed (s : FaultWatch) : Prop :=
  0 ≤ s.process.now ∧ ∀ svc, s.process.breakers svc = { failureCount := s.streak svc }

/-! ### One step -/

variable {rt cfg} {s s' : FaultWatch} {e : Event}

lemma step_process (h : step rt cfg s e = some s') :
    s.process.step rt cfg e = some s'.process ∧ s'.streak = s.streakAfter rt cfg e := by
  obtain ⟨p, hp, rfl⟩ := Option.map_eq_some_iff.mp h
  exact ⟨hp, rfl⟩

/-- The streaks keep no call from running: every run of the process is one with streaks. -/
theorem run_of_process {C : Process → Event → Prop} {es : List Event} {p : Process}
    (h : Run (Process.step rt cfg) C s.process es p) :
    ∃ s', Run (step rt cfg) (fun s e => C s.process e) s es s' ∧ s'.process = p :=
  h.lift fun s e p₁ hp => ⟨_, by rw [step, hp, Option.map_some], rfl⟩

/-- A closed breaker has nothing to reset when it is asked. -/
lemma isOpen_closed (n : ℕ) (now : ℚ) :
    ({ failureCount := n } : CircuitBreaker).isOpen now = ({ failureCount := n }, false) :=
  CircuitBreaker.isOpen_of_closed (fun h => h.1 rfl) fun h => h.1 rfl

/-- What a step does to the breaker and the streak of a service: nothing, or a call of the
service ends in it. -/
lemma step_breaker (hs : AllClosed s) (h : step rt cfg s e = some s') (svc : Service) :
    (s'.process.breakers svc = s.process.breakers svc ∧ s'.streak svc = s.streak svc) ∨
      ∃ id answers c, e.action = .ends id svc answers ∧ s.process.compositions id = some c ∧
        s'.process.breakers svc = recorded (s.process.breakers svc) e.time
          (verdict (c.runService rt cfg svc answers)) ∧
        s'.streak svc = match verdict (c.runService rt cfg svc answers) with
          | .success => 0
          | .failure => s.streak svc + 1 := by
  obtain ⟨hp, hstreak⟩ := step_process h
  by_cases hends : ∃ id svc' answers, e.action = .ends id svc' answers
  · obtain ⟨id, svc', answers, haction⟩ := hends
    obtain ⟨-, p, hacts, hp'⟩ := Process.step_acts hp
    rw [haction] at hacts
    cases hacts with
    | @ends _ _ _ c hc htask =>
      have hbreakers : s'.process.breakers = Function.update s.process.breakers svc'
          (recorded (s.process.breakers svc') e.time (verdict (c.runService rt cfg svc' answers))) := by
        rw [hp']
        exact Process.ends_breakers _
      have hstreaks : s'.streak = match verdict (c.runService rt cfg svc' answers) with
          | .success => Function.update s.streak svc' 0
          | .failure => Function.update s.streak svc' (s.streak svc' + 1) := by
        rw [hstreak]
        simp only [streakAfter, haction, hc]
      by_cases hsvc : svc = svc'
      · subst hsvc
        refine .inr ⟨id, answers, c, haction, hc, by rw [hbreakers, Function.update_self], ?_⟩
        rw [hstreaks]
        split <;> simp
      · left
        rw [hbreakers, hstreaks]
        constructor
        · rw [Function.update_of_ne hsvc]
        · split <;> rw [Function.update_of_ne hsvc]
  · left
    have hsame : s'.streak = s.streak := by
      rw [hstreak]
      unfold streakAfter
      split
      · exact absurd ⟨_, _, _, by assumption⟩ hends
      · rfl
    refine ⟨?_, by rw [hsame]⟩
    rcases Process.step_service hp svc with ⟨hb, -⟩ | ⟨hb, -⟩ | ⟨id, answers, c, haction, -⟩
    · exact hb
    · rw [hb, hs.2 svc, isOpen_closed]
    · exact absurd ⟨id, svc, answers, haction⟩ hends

/-- A breaker that counts a failure below its threshold stays closed. -/
lemma recordFailure_closed {n : ℕ} {now : ℚ}
    (h : n + 1 < ({ failureCount := n } : CircuitBreaker).failureThreshold) :
    ({ failureCount := n } : CircuitBreaker).recordFailure now = { failureCount := n + 1 } := by
  have hnot : ¬ ({ failureCount := n } : CircuitBreaker).failureThreshold ≤ n + 1 := by omega
  simp only [CircuitBreaker.recordFailure, if_neg hnot]

lemma allClosed_step (hs : AllClosed s) (hspares : SparesBreakers rt cfg s e)
    (h : step rt cfg s e = some s') : AllClosed s' := by
  obtain ⟨hp, -⟩ := step_process h
  obtain ⟨hle, p, -, hp'⟩ := Process.step_acts hp
  refine ⟨?_, fun svc => ?_⟩
  · rw [hp']
    exact hs.1.trans hle
  · rcases step_breaker hs h svc with ⟨hb, hstreak⟩ | ⟨id, answers, c, haction, hc, hb, hstreak⟩
    · rw [hb, hstreak]
      exact hs.2 svc
    · simp only [SparesBreakers, haction, hc] at hspares
      rw [hb, hs.2 svc]
      rcases hv : verdict (c.runService rt cfg svc answers) with _ | _
      · rw [hv] at hstreak
        simp only at hstreak
        rw [hstreak]
        rfl
      · rw [hv] at hstreak
        simp only at hstreak
        have hlt := hspares hv
        rw [hs.2 svc] at hlt
        rw [hstreak]
        exact recordFailure_closed hlt

/-- A call that asks a closed breaker is let through. -/
lemma check_of_allClosed (hs : AllClosed s) (h : step rt cfg s e = some s') {id : ℕ}
    {svc : Service} {c : Composition} (haction : e.action = .check id svc)
    (hc : s.process.compositions id = some c) :
    s'.process.compositions id = some (c.setTask svc .running) := by
  obtain ⟨hp, -⟩ := step_process h
  obtain ⟨-, p, hacts, hp'⟩ := Process.step_acts hp
  rw [haction] at hacts
  cases hacts with
  | check hc' htask =>
    obtain rfl : c = _ := Option.some.inj (hc.symm.trans hc')
    rw [hp']
    show (s.process.check e.time id c svc).compositions id = _
    simp [Process.check, hs.2 svc, isOpen_closed, Process.setComposition]

/-- A failure that reaches the threshold opens the breaker. -/
lemma recordFailure_opens {n : ℕ} {now : ℚ} (hnow : 0 ≤ now)
    (h : ({ failureCount := n } : CircuitBreaker).failureThreshold ≤ n + 1) :
    (({ failureCount := n } : CircuitBreaker).recordFailure now).openUntil ≠ 0 := by
  have hopen : (({ failureCount := n } : CircuitBreaker).recordFailure now).openUntil = now + 30 :=
    CircuitBreaker.recordFailure_openUntil h
  rw [hopen]
  linarith

/-! ### Whole runs -/

lemma allClosed_run {es : List Event} (hrun : Run (step rt cfg)
      (fun s e => OnlyRequestFaults rt cfg s e ∧ SparesBreakers rt cfg s e) initial es s) :
    AllClosed s := by
  have hinitial : AllClosed initial := ⟨le_rfl, fun _ => rfl⟩
  exact hrun.invariant (fun _ _ _ hs hC h => allClosed_step hs hC.2 h) hinitial

/-- **Faults of requests open a breaker exactly when they come in long enough a row.**  In
every run in which no upstream fails and the streaks stay below the threshold, the next step
opens no breaker and refuses no call if and only if no streak reaches the threshold in it. -/
theorem noneOpens_iff {es : List Event}
    (hrun : Run (step rt cfg)
      (fun s e => OnlyRequestFaults rt cfg s e ∧ SparesBreakers rt cfg s e) initial es s)
    (h : step rt cfg s e = some s') :
    NoneOpens s e s' ↔ SparesBreakers rt cfg s e := by
  have hs : AllClosed s := allClosed_run hrun
  constructor
  · rintro ⟨hclosed, -⟩
    unfold SparesBreakers
    split
    · rename_i id svc answers haction
      split
      · rename_i c hc
        intro hv
        by_contra hlt
        have hthreshold : ({ failureCount := s.streak svc } : CircuitBreaker).failureThreshold ≤
            s.streak svc + 1 := by
          rw [← hs.2 svc]
          exact not_lt.mp hlt
        obtain ⟨hp, -⟩ := step_process h
        obtain ⟨hle, p, hacts, hp'⟩ := Process.step_acts hp
        rw [haction] at hacts
        cases hacts with
        | ends hc' htask =>
          obtain rfl : c = _ := Option.some.inj (hc.symm.trans hc')
          have hbreaker : s'.process.breakers svc =
              ({ failureCount := s.streak svc } : CircuitBreaker).recordFailure e.time := by
            rw [hp', ← hs.2 svc]
            show (s.process.ends e.time id c svc _).breakers svc = _
            rw [Process.ends_breakers, Function.update_self, hv]
            rfl
          have hopen := hclosed svc
          rw [hbreaker] at hopen
          exact recordFailure_opens (hs.1.trans hle) hthreshold hopen
      · trivial
    · trivial
  · intro hspares
    have hs' : AllClosed s' := allClosed_step hs hspares h
    refine ⟨fun svc => by rw [hs'.2 svc], fun id svc c haction hc => ?_⟩
    exact check_of_allClosed hs h haction hc

/-! ### Five thumbnails that are no base64 -/

/-- The answers of a call that finds its result in the cache. -/
def answeredFromCache (fields : Fields) : Answers where
  cached := .ok (.obj fields)
  fetched := .ok (.ok .null)
  describer := ⟨.ok (), .ok [], fun b => .ok b, fun _ _ _ => .ok none⟩
  written := .ok ()

/-- A request at time `i` with a thumbnail that is no base64, up to its describer call; the
place and the land cover are cached. -/
def malformedRequest (i : ℕ) : List Event :=
  let location : Location := ⟨"South Korea", "kr", "Seoul", none, "Seoul", 37, 127⟩
  [⟨i, .request i { Process.sceneRequest none with thumbnail := "abc" } true⟩,
    ⟨i, .check i .geocoder⟩, ⟨i, .ends i .geocoder (answeredFromCache location.modelDump)⟩,
    ⟨i, .check i .landcover⟩,
    ⟨i, .ends i .landcover (answeredFromCache (LandCover.mk [] "").modelDump)⟩,
    ⟨i, .check i .mission⟩, ⟨i, .ends i .mission (answeredFromCache [])⟩, ⟨i, .gathered i⟩,
    ⟨i, .check i .describer⟩]

/-- The end of its describer call. -/
def malformedEnd (i : ℕ) : Event := ⟨i, .ends i .describer (answeredFromCache [])⟩

theorem noneOpens_at_first_fault :
    ∃ s s', Run (step Process.plainRuntime .default) (fun s e =>
        OnlyRequestFaults Process.plainRuntime .default s e ∧
          SparesBreakers Process.plainRuntime .default s e) initial (malformedRequest 0) s ∧
      step Process.plainRuntime .default s (malformedEnd 0) = some s' ∧
      NoneOpens s (malformedEnd 0) s' := by
  obtain ⟨s, s', hrun, h, hspares⟩ : ∃ s s', Run (step Process.plainRuntime .default) (fun s e =>
        OnlyRequestFaults Process.plainRuntime .default s e ∧
          SparesBreakers Process.plainRuntime .default s e) initial (malformedRequest 0) s ∧
      step Process.plainRuntime .default s (malformedEnd 0) = some s' ∧
      decide (SparesBreakers Process.plainRuntime .default s (malformedEnd 0)) = true :=
    Run.of_observed_step (by decide +kernel)
  exact ⟨s, s', hrun, h, (noneOpens_iff hrun h).mpr (of_decide_eq_true hspares)⟩

theorem malformed_requests_open_breaker :
    ∃ s s', Run (step Process.plainRuntime .default)
        (OnlyRequestFaults Process.plainRuntime .default) initial
        (((List.range 4).flatMap fun i => malformedRequest i ++ [malformedEnd i]) ++
          malformedRequest 4) s ∧
      OnlyRequestFaults Process.plainRuntime .default s (malformedEnd 4) ∧
      step Process.plainRuntime .default s (malformedEnd 4) = some s' ∧
      ¬ NoneOpens s (malformedEnd 4) s' := by
  obtain ⟨s, s', hrun, h, hobserved⟩ : ∃ s s', Run (step Process.plainRuntime .default)
        (OnlyRequestFaults Process.plainRuntime .default) initial
        (((List.range 4).flatMap fun i => malformedRequest i ++ [malformedEnd i]) ++
          malformedRequest 4) s ∧
      step Process.plainRuntime .default s (malformedEnd 4) = some s' ∧
      decide (OnlyRequestFaults Process.plainRuntime .default s (malformedEnd 4) ∧
        (s'.process.breakers .describer).openUntil = 34) = true :=
    Run.of_observed_step (by decide +kernel)
  obtain ⟨honly, hopen⟩ := of_decide_eq_true hobserved
  refine ⟨s, s', hrun, honly, h, fun hnone => ?_⟩
  rw [hnone.1 .describer] at hopen
  norm_num at hopen

end FaultWatch

end ImageDescriptor.Composer
