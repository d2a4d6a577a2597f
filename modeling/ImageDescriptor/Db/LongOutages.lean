/-
# Long outages

The number of consecutive failures has no bound, and the power of two is computed before it is
compared with the maximal delay.  From the 1025th failure on it has no `float`, and
`get_client` raises an `OverflowError` instead of refusing or connecting.  Every number of
failures is reached by some run, and a process in which the delay cannot be computed any
more does not get a client again.
-/
import ImageDescriptor.Db.Outages

namespace ImageDescriptor.Db

open Lib

variable {Client : Type}

/-- What `get_client` promises at a clock reading: the delay after a failure is the smaller of
the doubled base and the maximum, and a call with the lock in hand returns the client, is
refused by the backoff, or goes on to `acreate_client`. -/
structure GetsClient (cfg : Settings) (now : ℚ) (g : Shared Client) : Prop where
  delay : g.client = none → 0 < g.consecutiveFailures →
    backoffDelay cfg g.consecutiveFailures =
      .ok (min (cfg.supabaseReconnectBackoffBase * 2 ^ (g.consecutiveFailures - 1))
        cfg.supabaseReconnectBackoffMax)
  ends : (∃ c, lockedSection cfg now g = .ok (some c)) ∨
    (∃ remaining, lockedSection cfg now g = .error (backoffRefusal remaining)) ∨
    lockedSection cfg now g = .ok none

/-- Failures are counted only while there is no client. -/
def CountsWithoutClient (g : Shared Client) : Prop :=
  ∀ c, g.client = some c → g.consecutiveFailures = 0

/-! ### One segment -/

lemma lockedSection_of_overflows {cfg : Settings} {now : ℚ} {g : Shared Client}
    (hclient : g.client = none) (hover : BackoffOverflows g) :
    lockedSection cfg now g = .error intTooLarge := by
  rcases lockedSection_none cfg now hclient with ⟨hrun, -⟩ | ⟨-, hr⟩ | ⟨-, hnot, -⟩
  · exact absurd hover hrun.not_overflows
  · exact hr
  · exact absurd hover hnot

lemma countsWithoutClient_fail {now : ℚ} {op : Op} {g : Shared Client} {x : Exc}
    (hg : CountsWithoutClient g) : CountsWithoutClient (fail now op g x).1 := by
  rcases fail_fst now op g x with hsame | hreset
  · rwa [hsame]
  · rw [hreset]
    intro c hc
    cases hc

lemma countsWithoutClient_acquire {cfg : Settings} {now : ℚ} {op : Op} {g : Shared Client}
    (hg : CountsWithoutClient g) : CountsWithoutClient (acquire cfg now op g).1 := by
  unfold acquire
  split
  · exact countsWithoutClient_fail hg
  · exact hg
  · exact hg

lemma countsWithoutClient_created {now : ℚ} {op : Op} {g : Shared Client}
    {r : Except Exc Client} : CountsWithoutClient (created now op g r).1 := by
  rcases r with x | c
  · refine countsWithoutClient_fail ?_
    intro c hc
    cases hc
  · intro c' _
    rfl

lemma countsWithoutClient_answered {now : ℚ} {q : Query} {g : Shared Client}
    {r : Except Exc Answer} (hg : CountsWithoutClient g) :
    CountsWithoutClient (answered now q g r).1 := by
  rcases r with x | a
  · exact countsWithoutClient_fail hg
  · exact hg

/-- Without a client, a call that gets one has computed the delay. -/
lemma consecutiveFailures_le_of_getsClient {cfg : Settings} {now : ℚ} {g : Shared Client}
    (hgets : GetsClient cfg now g) (hclient : g.client = none) :
    g.consecutiveFailures ≤ 1024 := by
  by_contra hmany
  have hpos : 0 < g.consecutiveFailures := by omega
  have hfits := (backoffDelay_eq_ok_iff.mp (hgets.delay hclient hpos)).1
  rw [floatLimit_le_iff] at hfits
  omega

namespace Sessions

variable {cfg : Settings} {s s' : Sessions Client} {e : Event Client} {es : List (Event Client)}

lemma countsWithoutClient_step (hs : CountsWithoutClient s.shared) (h : step cfg s e = some s') :
    CountsWithoutClient s'.shared := by
  rcases step_cases h with ⟨hshared, -⟩ | ⟨op, -, -, hshared, -⟩ | ⟨op, r, -, hshared, -⟩ |
    ⟨op, q, c, r, -, hshared, -⟩ <;> rw [hshared]
  · exact hs
  · exact countsWithoutClient_acquire hs
  · exact countsWithoutClient_created
  · exact countsWithoutClient_answered hs

/-- **`get_client` keeps its promise exactly up to the 1024th consecutive failure.**  This
holds in every state that a run of any length reaches, for all positive delays. -/
theorem getsClient_iff_of_run (hrun : Run (step cfg) (fun _ _ => True) initial es s) (now : ℚ) :
    GetsClient cfg now s.shared ↔ s.shared.consecutiveFailures ≤ 1024 := by
  have hs : CountsWithoutClient s.shared :=
    hrun.invariant (I := fun s => CountsWithoutClient s.shared)
      (fun _ _ _ hs _ h => countsWithoutClient_step hs h) (by intro c hc; cases hc)
  rcases hclient : s.shared.client with _ | c
  · constructor
    · exact fun hgets => consecutiveFailures_le_of_getsClient hgets hclient
    · intro hfew
      refine ⟨fun _ hpos => backoffDelay_eq_ok_iff.mpr ⟨?_, rfl⟩, ?_⟩
      · rw [floatLimit_le_iff]
        omega
      · rcases lockedSection_none cfg now hclient with ⟨-, r, hr⟩ | ⟨hover, -⟩ | ⟨-, -, hr⟩
        · exact .inr (.inl ⟨r, hr⟩)
        · exact absurd hover (Outage.not_overflows_of_le hfew)
        · exact .inr (.inr hr)
  · -- with a client nothing is counted
    have hzero : s.shared.consecutiveFailures = 0 := hs c hclient
    refine iff_of_true ⟨fun hnone => ?_, .inl ⟨c, lockedSection_some hclient⟩⟩ (by omega)
    rw [hclient] at hnone
    cases hnone

/-! ### Every number of failures is reached -/

/-- There is no client, `n` failures are counted, the lock is free, and the calls from number
`k` on have not begun. -/
structure Idle (s : Sessions Client) (n k : ℕ) : Prop where
  client : s.shared.client = none
  failures : s.shared.consecutiveFailures = n
  free : s.holder = none
  past : s.shared.lastFailureTime ≤ s.now
  unused : ∀ i, k ≤ i → s.calls i = none

/-- The error of a connection attempt that is refused. -/
def connectionRefused : Exc := ⟨.connectionError, "Connection refused"⟩

/-- A call that has ended in a failure leaves the process idle with one failure more. -/
lemma idle_after {n k : ℕ} (hs : Idle s n k) (hs' : s'.shared = resetClient s'.now s.shared)
    (hfree : s'.holder = none) (hunused : ∀ i, i ≠ k → s'.calls i = s.calls i) :
    Idle s' (n + 1) (k + 1) where
  client := by rw [hs']; rfl
  failures := by rw [hs', ← hs.failures]; rfl
  free := hfree
  past := by rw [hs']; rfl
  unused i hi := by rw [hunused i (by omega), hs.unused i (by omega)]

/-- A call of `list_descriptions` of which the module counts exactly one failure: the delay
has passed, and its connection attempt fails; or the delay cannot be computed. -/
lemma idle_succ (cfg : Settings) {n k : ℕ} (hs : Idle s n k) :
    ∃ es s', Run (step cfg) (fun _ _ => True) s es s' ∧ Idle s' (n + 1) (k + 1) := by
  have hmax : 0 < cfg.supabaseReconnectBackoffMax := cfg.supabaseReconnectBackoffMax_pos
  have hpast : s.shared.lastFailureTime ≤ s.now := hs.past
  obtain ⟨t, ht⟩ : ∃ t, t = s.now + cfg.supabaseReconnectBackoffMax := ⟨_, rfl⟩
  obtain ⟨op, hop⟩ : ∃ op, op = Op.operation (.listDescriptions 0 20 none none) := ⟨_, rfl⟩
  have hlate : ¬ t < s.now := by linarith
  have hstart : step cfg s ⟨t, k, .start op⟩ = some (s.put t k op s.shared .waiting) := by
    simp [step, hlate, hs.unused k le_rfl, start, hs.client]
  by_cases hover : BackoffOverflows s.shared
  · have hacquire : acquire cfg t op s.shared =
        (resetClient t s.shared, .done (onException intTooLarge op).2) := by
      rw [acquire, lockedSection_of_overflows hs.client hover, hop]
      rfl
    have hgets : step cfg (s.put t k op s.shared .waiting) ⟨t, k, .acquire⟩ =
        some { (s.put t k op s.shared .waiting).put t k op (resetClient t s.shared)
          (.done (onException intTooLarge op).2) with holder := none } := by
      simp [step, put, hs.free, hacquire, holderAfter]
    exact ⟨_, _, .cons trivial hstart (.cons trivial hgets (.nil _)),
      idle_after hs rfl rfl fun i hi => by simp [put, Function.update_of_ne hi]⟩
  · have hrun : ¬ BackoffRunning cfg t s.shared := by
      rintro ⟨-, b, hb, hlt⟩
      have := backoffDelay_le_max hb
      linarith
    have hacquire : acquire cfg t op s.shared = (s.shared, .creating) :=
      acquire_of_elapsed hs.client hrun hover
    have hgets : step cfg (s.put t k op s.shared .waiting) ⟨t, k, .acquire⟩ =
        some { (s.put t k op s.shared .waiting).put t k op s.shared .creating with
          holder := some k } := by
      simp [step, put, hs.free, hacquire, holderAfter]
    have hcreated : created t op s.shared (.error connectionRefused : Except Exc Client) =
        (resetClient t s.shared, .done (onException connectionRefused op).2) := by
      rw [hop]
      rfl
    obtain ⟨s₂, hs₂⟩ : ∃ s₂, s₂ = { (s.put t k op s.shared .waiting).put t k op s.shared
      .creating with holder := some k } := ⟨_, rfl⟩
    have hfails : step cfg s₂ ⟨t, k, .created (.error connectionRefused)⟩ =
        some { s₂.put t k op (resetClient t s.shared)
          (.done (onException connectionRefused op).2) with
          holder := none, lastRealFailure := some t } := by
      simp [hs₂, step, put, hcreated, noteFailure]
    refine ⟨_, _, .cons trivial hstart (.cons trivial (hs₂ ▸ hgets)
      (.cons trivial hfails (.nil _))), idle_after hs rfl rfl fun i hi => ?_⟩
    simp [hs₂, put, Function.update_of_ne hi]

/-- **Every number of consecutive failures is reached by some run.** -/
theorem failures_reached (cfg : Settings) (n : ℕ) : ∃ (es : List (Event Client)) (s : _) (k : ℕ),
    Run (step cfg) (fun _ _ => True) initial es s ∧ Idle s n k := by
  induction n with
  | zero => exact ⟨[], initial, 0, .nil _, rfl, rfl, rfl, le_rfl, fun _ _ => rfl⟩
  | succ n ih =>
    obtain ⟨es, s, k, hrun, hs⟩ := ih
    obtain ⟨fs, s', hrun', hs'⟩ := idle_succ cfg hs
    exact ⟨es ++ fs, s', k + 1, hrun.append hrun', hs'⟩

/-- One connection attempt has failed, and a second after it a call waits for the lock. -/
def refusedOnce : List (Event ℕ) :=
  [⟨0, 0, .start .getClient⟩, ⟨0, 0, .acquire⟩, ⟨0, 0, .created (.error connectionRefused)⟩]

theorem getsClient_after_refusal : ∃ s : Sessions ℕ,
    Run (step Settings.default) (fun _ _ => True) initial refusedOnce s ∧
      s.shared.consecutiveFailures = 1 ∧ GetsClient Settings.default (1 / 2) s.shared := by
  obtain ⟨s, hrun, hs⟩ : ∃ s, Run (step Settings.default) (fun _ _ => True) initial
      refusedOnce s ∧ decide (s.shared.consecutiveFailures = 1) = true :=
    Run.of_observed (by decide +kernel)
  have hone : s.shared.consecutiveFailures = 1 := of_decide_eq_true hs
  exact ⟨s, hrun, hone, (getsClient_iff_of_run hrun (1 / 2)).mpr (by omega)⟩

/-- After 1025 failed calls, `get_client` raises an `OverflowError`. -/
theorem delay_overflows_in_long_outage : ∃ (es : List (Event ℕ)) (s s' : Sessions ℕ) (i : ℕ),
    Run (step Settings.default) (fun _ _ => True) initial es s ∧
      s.shared.consecutiveFailures = 1025 ∧
      (∃ now, step Settings.default s ⟨now, i, .acquire⟩ = some s') ∧
      s'.calls i = some (.getClient, .done (.error intTooLarge)) ∧
      ¬ GetsClient Settings.default s.now s.shared := by
  obtain ⟨es, s, k, hrun, hs⟩ := @failures_reached ℕ Settings.default 1025
  have hstart : step Settings.default s ⟨s.now, k, .start .getClient⟩ =
      some (s.put s.now k .getClient s.shared .waiting) := by
    simp [step, hs.unused k le_rfl, start, hs.client]
  have hrun' := hrun.append (.cons trivial hstart (.nil _))
  have hover : BackoffOverflows s.shared :=
    ⟨by rw [hs.failures]; decide, by rw [hs.failures, floatLimit_le_iff]⟩
  have hacquire : acquire Settings.default s.now .getClient s.shared =
      (s.shared, .done (.error intTooLarge)) := by
    rw [acquire, lockedSection_of_overflows hs.client hover]
    rfl
  obtain ⟨s₁, hs₁⟩ : ∃ s₁, s₁ = s.put s.now k .getClient s.shared .waiting := ⟨_, rfl⟩
  have hgets : step Settings.default s₁ ⟨s.now, k, .acquire⟩ =
      some { s₁.put s.now k .getClient s.shared (.done (.error intTooLarge)) with
        holder := none } := by
    simp [hs₁, step, put, hs.free, hacquire, holderAfter]
  refine ⟨_, s₁, _, k, hs₁ ▸ hrun', ?_, ⟨s.now, hgets⟩, by simp [put], fun hgets => ?_⟩
  · rw [hs₁]
    exact hs.failures
  · have hnone : s₁.shared.client = none := by
      rw [hs₁]
      exact hs.client
    have hfew : s.shared.consecutiveFailures ≤ 1024 := by
      simpa [hs₁, put] using consecutiveFailures_le_of_getsClient hgets hnone
    rw [hs.failures] at hfew
    omega

/-! ### There is no way back -/

/-- The delay cannot be computed, and no connection attempt is in progress. -/
def OutOfReach (s : Sessions Client) : Prop :=
  s.shared.client = none ∧ BackoffOverflows s.shared ∧ ∀ i op, s.calls i ≠ some (op, .creating)

lemma outOfReach_step (hs : OutOfReach s) (h : step cfg s e = some s') : OutOfReach s' := by
  obtain ⟨hclient, hover, hnone⟩ := hs
  obtain ⟨t, i, resume⟩ := e
  -- a failure is counted on top of those that are too many already
  have hfail : ∀ op x, (fail t op s.shared x).1.client = none ∧
      BackoffOverflows (fail t op s.shared x).1 := by
    intro op x
    refine ⟨fail_client hclient, ?_⟩
    rcases fail_fst t op s.shared x with hsame | hreset
    · rwa [hsame]
    · rw [hreset]
      obtain ⟨hpos, hlarge⟩ := hover
      rw [floatLimit_le_iff] at hlarge
      refine ⟨Nat.succ_pos _, ?_⟩
      rw [floatLimit_le_iff]
      simp only [resetClient]
      omega
  have hcalls : ∀ {op : Op} {p : Phase Client} {j : ℕ} {op' : Op}, p ≠ .creating →
      Function.update s.calls i (some (op, p)) j ≠ some (op', .creating) := by
    intro op p j op' hp hcall
    rcases calls_update hcall with ⟨-, -, hp'⟩ | ⟨-, hold⟩
    · exact hp hp'
    · exact hnone j op' hold
  cases (moves_of_step h).2 with
  | start => exact ⟨hclient, hover, fun j op' => hcalls (start_ne_creating _ _)⟩
  | @acquire op =>
    have hacquire : acquire cfg t op s.shared = fail t op s.shared intTooLarge := by
      simp [acquire, lockedSection_of_overflows hclient hover]
    rw [hacquire]
    refine ⟨(hfail op intTooLarge).1, (hfail op intTooLarge).2, fun j op' => hcalls ?_⟩
    simp
  | created hcall => exact absurd hcall (hnone _ _)
  | @answered op q c r =>
    rcases r with x | a
    · refine ⟨(hfail _ x).1, (hfail _ x).2, fun j op' => hcalls ?_⟩
      simp [answered]
    · exact ⟨hclient, hover, fun j op' => hcalls (by simp [answered])⟩
  | release hcall => exact absurd hcall (hnone _ _)
  | cancel => exact ⟨hclient, hover, fun j op' => hcalls (by simp)⟩

/-- **A process that has got this far never has a client again.** -/
theorem noClient_of_outOfReach (hs : OutOfReach s)
    (hrun : Run (step cfg) (fun _ _ => True) s es s') : s'.shared.client = none :=
  (hrun.invariant (fun _ _ _ hs _ h => outOfReach_step hs h) hs).1

end Sessions

end ImageDescriptor.Db
