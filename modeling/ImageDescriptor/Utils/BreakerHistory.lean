/-
# Histories of a circuit breaker

Any number of callers use a breaker through four operations, each of them one step.  A
breaker stands for the failures that were recorded since the last success or half-open
reset: it counts them, and when they reach the threshold it is open until the cooldown
after the latest of them has passed.  What it does not stand for is the half-open state:
the reset forgets the failures, so that a trial that fails is the first of a new count.
-/
import ImageDescriptor.Lib.Run
import ImageDescriptor.Utils.CircuitBreaker

namespace ImageDescriptor.CircuitBreaker

open Lib

/-- The operations of a breaker. -/
inductive Operation
  | isOpen
  | getStatus (name : String) (later : ℚ)
  | recordFailure
  | recordSuccess
deriving DecidableEq, Repr

/-- An operation at a clock reading. -/
structure Use where
  time : ℚ
  op : Operation
deriving DecidableEq, Repr

/-- The breaker after one operation. -/
def after (cb : CircuitBreaker) (u : Use) : CircuitBreaker :=
  match u.op with
  | .isOpen => (cb.isOpen u.time).1
  | .getStatus name later => (cb.getStatus u.time name later).1
  | .recordFailure => cb.recordFailure u.time
  | .recordSuccess => cb.recordSuccess

/-- A breaker that has just been made. -/
def made (threshold : ℕ) (cooldown : ℚ) : CircuitBreaker :=
  { failureThreshold := threshold, cooldownSec := cooldown }

/-- The breaker after the reset of the half-open state. -/
def halfOpened (cb : CircuitBreaker) : CircuitBreaker :=
  { cb with openUntil := 0, failureCount := 0, gauge := 2 }

/-- A breaker, with what has been recorded at it since it was made. -/
structure History where
  breaker : CircuitBreaker
  /-- the times of the failures since the last success or half-open reset, the latest first -/
  recent : List ℚ
  /-- the number of failures since the last half-open reset, if no success has followed it -/
  trial : Option ℕ

/-- A breaker that does not half-open is left alone by `is_open`. -/
lemma isOpen_fst_of_not_halfOpens {cb : CircuitBreaker} {now : ℚ} (h : ¬ cb.HalfOpens now) :
    (cb.isOpen now).1 = cb := by
  by_cases hb : cb.Blocks now
  · rw [isOpen_of_blocks hb]
  · rw [isOpen_of_closed hb h]

namespace History

/-- The beginning of a history. -/
def start (threshold : ℕ) (cooldown : ℚ) : History where
  breaker := made threshold cooldown
  recent := []
  trial := none

/-- The history after `is_open`, which `get_status` calls as well. -/
def asked (s : History) (now : ℚ) (cb : CircuitBreaker) : History :=
  if s.breaker.HalfOpens now then ⟨cb, [], some 0⟩ else { s with breaker := cb }

/-- One operation. -/
def step (s : History) (u : Use) : Option History :=
  let cb := s.breaker.after u
  match u.op with
  | .isOpen => some (s.asked u.time cb)
  | .getStatus .. => some (s.asked u.time cb)
  | .recordFailure => some ⟨cb, u.time :: s.recent, s.trial.map (· + 1)⟩
  | .recordSuccess => some ⟨cb, [], none⟩

/-- What an operation does, with what has to hold before it. -/
inductive Steps (s : History) : Use → History → Prop
  | halfOpens {u : Use} (hop : u.op ≠ .recordFailure) (hhalf : s.breaker.HalfOpens u.time) :
      Steps s u ⟨s.breaker.halfOpened, [], some 0⟩
  | asked {u : Use} (hhalf : ¬ s.breaker.HalfOpens u.time) : Steps s u s
  | failure (now : ℚ) : Steps s ⟨now, .recordFailure⟩
      ⟨s.breaker.recordFailure now, now :: s.recent, s.trial.map (· + 1)⟩
  | success (now : ℚ) : Steps s ⟨now, .recordSuccess⟩ ⟨s.breaker.recordSuccess, [], none⟩

variable {s s' : History} {u : Use} {threshold : ℕ} {cooldown : ℚ} {us : List Use}

lemma steps_asked {op : Operation} {now : ℚ} (hop : op ≠ .recordFailure) :
    s.Steps ⟨now, op⟩ (s.asked now (s.breaker.isOpen now).1) := by
  unfold History.asked
  split
  · rename_i hhalf
    rw [isOpen_of_halfOpens hhalf]
    exact .halfOpens hop hhalf
  · rename_i hhalf
    rw [isOpen_fst_of_not_halfOpens hhalf]
    exact .asked hhalf

lemma steps_of_step (h : s.step u = some s') : s.Steps u s' := by
  obtain ⟨now, op⟩ := u
  cases op with
  | isOpen =>
    cases h
    exact steps_asked (by simp)
  | getStatus name later =>
    cases h
    exact steps_asked (by simp)
  | recordFailure =>
    cases h
    exact .failure now
  | recordSuccess =>
    cases h
    exact .success now

/-! ### What a breaker stands for -/

/-- The time until which a breaker is open after failures at these times, 0 if it is not. -/
def deadline (threshold : ℕ) (cooldown : ℚ) : List ℚ → ℚ
  | [] => 0
  | last :: earlier => if threshold ≤ earlier.length + 1 then last + cooldown else 0

/-- The invariant: the breaker stands for the recent failures. -/
structure StandsForRecent (s : History) : Prop where
  threshold_pos : 1 ≤ s.breaker.failureThreshold
  cooldown_nonneg : 0 ≤ s.breaker.cooldownSec
  positive : ∀ t ∈ s.recent, 0 < t
  count : s.breaker.failureCount = s.recent.length
  openUntil : s.breaker.openUntil =
    deadline s.breaker.failureThreshold s.breaker.cooldownSec s.recent
  gauge : s.breaker.gauge = 1 ↔ s.breaker.failureThreshold ≤ s.recent.length

lemma standsForRecent_start (hthreshold : 1 ≤ threshold) (hcooldown : 0 ≤ cooldown) :
    (start threshold cooldown).StandsForRecent where
  threshold_pos := hthreshold
  cooldown_nonneg := hcooldown
  positive := by simp [start]
  count := rfl
  openUntil := rfl
  gauge := by
    simp only [start, made, List.length_nil]
    omega

/-- No recent failures, and a closed or half-open breaker. -/
lemma standsForRecent_reset {cb : CircuitBreaker} {trial : Option ℕ}
    (hthreshold : 1 ≤ cb.failureThreshold) (hcooldown : 0 ≤ cb.cooldownSec)
    (hcount : cb.failureCount = 0) (hopen : cb.openUntil = 0) (hgauge : cb.gauge ≠ 1) :
    StandsForRecent ⟨cb, [], trial⟩ where
  threshold_pos := hthreshold
  cooldown_nonneg := hcooldown
  positive := by simp
  count := hcount
  openUntil := hopen
  gauge := by
    simp only [hgauge, List.length_nil, false_iff]
    omega

lemma standsForRecent_failure (hs : s.StandsForRecent) {now : ℚ} (hnow : 0 < now)
    {trial : Option ℕ} :
    StandsForRecent ⟨s.breaker.recordFailure now, now :: s.recent, trial⟩ := by
  by_cases hreached : s.breaker.failureThreshold ≤ s.recent.length + 1
  · rw [recordFailure_of_reached (hs.count ▸ hreached)]
    refine ⟨hs.threshold_pos, hs.cooldown_nonneg, ?_, ?_, ?_, ?_⟩
    · simpa [hnow] using hs.positive
    · simp [hs.count]
    · simp [deadline, hreached]
    · simpa using hreached
  · -- below the threshold the breaker was not open
    have hbelow : ¬ s.breaker.failureThreshold ≤ s.recent.length := by omega
    have hclosed : s.breaker.openUntil = 0 := by
      rw [hs.openUntil]
      rcases hrecent : s.recent with _ | ⟨last, earlier⟩
      · rfl
      · have hless : ¬ s.breaker.failureThreshold ≤ earlier.length + 1 := by
          simpa [hrecent] using hbelow
        simp [deadline, hless]
    rw [recordFailure_of_below (hs.count ▸ hreached)]
    refine ⟨hs.threshold_pos, hs.cooldown_nonneg, ?_, ?_, ?_, ?_⟩
    · simpa [hnow] using hs.positive
    · simp [hs.count]
    · simp [deadline, hreached, hclosed]
    · simp [hs.gauge, hreached, hbelow]

lemma standsForRecent_step (hs : s.StandsForRecent) (hu : 0 < u.time) (h : s.step u = some s') :
    s'.StandsForRecent := by
  cases steps_of_step h with
  | halfOpens =>
    exact standsForRecent_reset hs.threshold_pos hs.cooldown_nonneg rfl rfl
      (by simp [halfOpened])
  | asked => exact hs
  | failure now => exact standsForRecent_failure hs hu
  | success =>
    exact standsForRecent_reset hs.threshold_pos hs.cooldown_nonneg rfl rfl
      (by simp [recordSuccess])

/-- A breaker is open exactly when there are enough recent failures. -/
lemma StandsForRecent.open_iff (hs : s.StandsForRecent) :
    s.breaker.openUntil ≠ 0 ↔ s.breaker.failureThreshold ≤ s.recent.length := by
  have hthreshold := hs.threshold_pos
  have hcooldown := hs.cooldown_nonneg
  rw [hs.openUntil]
  rcases hrecent : s.recent with _ | ⟨last, earlier⟩
  · have hzero : ¬ s.breaker.failureThreshold ≤ 0 := by omega
    simp [deadline, hzero]
  · have hlast : 0 < last := hs.positive last (by simp [hrecent])
    by_cases hreached : s.breaker.failureThreshold ≤ earlier.length + 1
    · have hdeadline : last + s.breaker.cooldownSec ≠ 0 := by linarith
      simp [deadline, hreached, hdeadline]
    · simp [deadline, hreached]

/-! ### The counter, the deadline and the gauge -/

/-- What the three pieces of state say, and what is reported of them. -/
structure Consistent (s : History) : Prop where
  count : s.breaker.failureCount = s.recent.length
  open_iff : s.breaker.openUntil ≠ 0 ↔ s.breaker.failureThreshold ≤ s.breaker.failureCount
  gauge_iff : s.breaker.gauge = 1 ↔ s.breaker.openUntil ≠ 0
  reported : ∀ (name : String) (now later : ℚ),
    (s.breaker.getStatus now name later).2.state = .opened ↔
      s.breaker.failureThreshold ≤ (s.breaker.getStatus now name later).2.failureCount

/-- The status is `"open"` exactly when the failures that it reports reach the threshold. -/
lemma StandsForRecent.reported (hs : s.StandsForRecent) (name : String) (now later : ℚ) :
    (s.breaker.getStatus now name later).2.state = .opened ↔
      s.breaker.failureThreshold ≤ (s.breaker.getStatus now name later).2.failureCount := by
  have hopen : s.breaker.openUntil ≠ 0 ↔ s.breaker.failureThreshold ≤ s.breaker.failureCount := by
    rw [hs.count]
    exact hs.open_iff
  rw [getStatus_opened_iff]
  by_cases hblocks : s.breaker.Blocks now
  · have hcount := hopen.mp hblocks.1
    simp [getStatus, isOpen_of_blocks hblocks, hcount]
  · by_cases hhalf : s.breaker.HalfOpens now
    · have hthreshold := hs.threshold_pos
      simp only [getStatus, isOpen_of_halfOpens hhalf, Bool.false_eq_true, false_iff]
      omega
    · have hclosed : ¬ s.breaker.openUntil ≠ 0 := by
        intro hset
        rcases lt_or_ge now s.breaker.openUntil with hlt | hge
        · exact hblocks ⟨hset, hlt⟩
        · exact hhalf ⟨hset, hge⟩
      have hcount : ¬ s.breaker.failureThreshold ≤ s.breaker.failureCount :=
        fun h => hclosed (hopen.mpr h)
      simp [getStatus, isOpen_of_closed hblocks hhalf, hcount]

/-- **The counter, the deadline and the gauge agree in every reachable state.**  The breaker
counts the failures since the last success or half-open reset, it is open exactly when they
reach the threshold, the gauge is 1 exactly when it is open, and so says the status. -/
theorem consistent_of_run (hthreshold : 1 ≤ threshold) (hcooldown : 0 ≤ cooldown)
    (hrun : Run step (fun _ u => 0 < u.time) (start threshold cooldown) us s) :
    s.Consistent := by
  have hs : s.StandsForRecent :=
    hrun.invariant (fun _ _ _ hs hu h => standsForRecent_step hs hu h)
      (standsForRecent_start hthreshold hcooldown)
  refine ⟨hs.count, ?_, ?_, hs.reported⟩
  · rw [hs.count]
    exact hs.open_iff
  · rw [hs.gauge, hs.open_iff]

/-- Two failures and, after the cooldown, a reading of the status. -/
def probedUses : List Use :=
  [⟨1, .recordFailure⟩, ⟨2, .recordFailure⟩, ⟨40, .getStatus "geocoder" 40⟩,
    ⟨41, .recordFailure⟩]

theorem consistent_of_probedUses :
    ∃ s, Run step (fun _ u => 0 < u.time) (start 2 30) probedUses s ∧ s.recent = [41] ∧
      s.Consistent := by
  obtain ⟨s, hrun, hs⟩ : ∃ s, Run step (fun _ u => 0 < u.time) (start 2 30) probedUses s ∧
      decide (s.recent = [41]) = true :=
    Run.of_observed (by decide +kernel)
  exact ⟨s, hrun, of_decide_eq_true hs, consistent_of_run (by decide) (by decide) hrun⟩

/-! ### A trial that fails -/

/-- A breaker that has been opened by a failure at time `t`: it is open for the cooldown. -/
structure OpenedAt (cb : CircuitBreaker) (t : ℚ) : Prop where
  openUntil : cb.openUntil = t + cb.cooldownSec
  gauge : cb.gauge = 1
  refuses : ∀ now, t ≤ now → now < t + cb.cooldownSec → (cb.isOpen now).2 = true

/-- The invariant of a trial: the failures since the reset are counted, and as long as they
are fewer than the threshold the gauge tells that the breaker is half-open. -/
def CountsTrial (s : History) : Prop :=
  ∀ n, s.trial = some n →
    s.breaker.failureCount = n ∧ (n < s.breaker.failureThreshold → s.breaker.gauge = 2)

lemma countsTrial_step (hs : s.CountsTrial) (h : s.step u = some s') : s'.CountsTrial := by
  cases steps_of_step h with
  | halfOpens =>
    intro n hn
    obtain rfl : 0 = n := by simpa using hn
    exact ⟨rfl, fun _ => rfl⟩
  | asked => exact hs
  | failure now =>
    intro n hn
    obtain ⟨m, hm, rfl⟩ : ∃ m, s.trial = some m ∧ m + 1 = n := by simpa using hn
    obtain ⟨hcount, hgauge⟩ := hs m hm
    refine ⟨by simp [hcount], fun hbelow => ?_⟩
    have hnot : ¬ s.breaker.failureThreshold ≤ m + 1 := by
      simpa using hbelow
    show (s.breaker.recordFailure now).gauge = 2
    rw [recordFailure_of_below (hcount ▸ hnot)]
    exact hgauge (by omega)
  | success =>
    intro n hn
    cases hn

/-- **A failure after a half-open reset re-opens the breaker exactly when it is at least the
`failure_threshold`-th one since the reset.**  This holds for every threshold, every
cooldown and every history; no success has been recorded since the reset. -/
theorem reopens_iff {n : ℕ} {t : ℚ}
    (hrun : Run step (fun _ _ => True) (start threshold cooldown) us s)
    (htrial : s.trial = some n) (ht : 0 < t) (h : s.step ⟨t, .recordFailure⟩ = some s') :
    OpenedAt s'.breaker t ↔ s.breaker.failureThreshold ≤ n + 1 := by
  have hs : s.CountsTrial :=
    hrun.invariant (fun _ _ _ hs _ h => countsTrial_step hs h) (by intro n hn; cases hn)
  obtain ⟨hcount, hgauge⟩ := hs n htrial
  cases h
  constructor
  · intro hopened
    by_contra hbelow
    have hsame : (s.breaker.recordFailure t).gauge = 2 := by
      rw [recordFailure_of_below (hcount ▸ hbelow)]
      exact hgauge (by omega)
    rw [show (s.breaker.recordFailure t).gauge = 1 from hopened.gauge] at hsame
    cases hsame
  · intro hreached
    show OpenedAt (s.breaker.recordFailure t) t
    rw [recordFailure_of_reached (hcount ▸ hreached)]
    refine ⟨rfl, rfl, fun now hle hlt => ?_⟩
    have hset : t + s.breaker.cooldownSec ≠ 0 := by linarith
    rw [isOpen_of_blocks ⟨hset, hlt⟩]

/-- A breaker of threshold 2 opens, and after its cooldown a trial call is let through. -/
def trialUses : List Use :=
  [⟨1, .recordFailure⟩, ⟨2, .recordFailure⟩, ⟨3, .isOpen⟩, ⟨40, .isOpen⟩]

theorem second_failure_reopens :
    ∃ s s', Run step (fun _ _ => True) (start 2 30) (trialUses ++ [⟨41, .recordFailure⟩]) s ∧
      s.step ⟨42, .recordFailure⟩ = some s' ∧ OpenedAt s'.breaker 42 := by
  obtain ⟨s, hrun, hs⟩ : ∃ s, Run step (fun _ _ => True) (start 2 30)
      (trialUses ++ [⟨41, .recordFailure⟩]) s ∧
      decide (s.trial = some 1 ∧ s.breaker.failureThreshold = 2) = true :=
    Run.of_observed (by decide +kernel)
  obtain ⟨htrial, hthreshold⟩ := of_decide_eq_true hs
  refine ⟨s, _, hrun, rfl, (reopens_iff hrun htrial (by decide) rfl).mpr ?_⟩
  rw [hthreshold]

theorem failed_trial_leaves_breaker_closed :
    ∃ s s', Run step (fun _ _ => True) (start 2 30) trialUses s ∧ s.trial = some 0 ∧
      s.step ⟨41, .recordFailure⟩ = some s' ∧ ¬ OpenedAt s'.breaker 41 ∧
      (s'.breaker.isOpen 42).2 = false := by
  obtain ⟨s, s', hrun, h, hs⟩ : ∃ s s', Run step (fun _ _ => True) (start 2 30) trialUses s ∧
      s.step ⟨41, .recordFailure⟩ = some s' ∧
      decide (s.trial = some 0 ∧ s'.breaker.openUntil = 0 ∧ s'.breaker.gauge = 2 ∧
        (s'.breaker.isOpen 42).2 = false) = true :=
    Run.of_observed_step (by decide +kernel)
  obtain ⟨htrial, hclosed, hgauge, hpasses⟩ := of_decide_eq_true hs
  refine ⟨s, s', hrun, htrial, h, fun hopened => ?_, hpasses⟩
  rw [hopened.gauge] at hgauge
  cases hgauge

end History

end ImageDescriptor.CircuitBreaker
