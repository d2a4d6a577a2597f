/-
# The reconnect backoff over whole runs

A call that is refused should leave the module variables alone, so that the time until the
next connection attempt is counted from the last real failure.  Two things break this: the
`except` clause of `ping` takes the refusal for a failure of its own, and from 1025
consecutive failures on the delay cannot be computed.  In the runs in which neither
happens, the backoff is sound in every state that is reached.
-/
import ImageDescriptor.Db.Sessions

namespace ImageDescriptor.Db

open Lib

variable {Client : Type}

/-- What the backoff owes a call that is resumed with the lock and finds no client: if it
refuses the call, the module variables stay as they are, and if the last real failure is at
least the maximal delay ago, the call goes on to `acreate_client`. -/
def BackoffSound (cfg : Settings) (s : Sessions Client) (e : Event Client)
    (s' : Sessions Client) : Prop :=
  ∀ op, s.calls e.task = some (op, .waiting) → e.resume = .acquire → s.shared.client = none →
    (BackoffRunning cfg e.time s.shared → s'.shared = s.shared) ∧
      ((∀ f, s.lastRealFailure = some f → f + cfg.supabaseReconnectBackoffMax ≤ e.time) →
        s'.calls e.task = some (op, .creating))

/-- The condition on a step: a `ping` does not meet a running backoff, and no call meets a
number of failures whose delay cannot be computed. -/
def SparesBackoff (cfg : Settings) (s : Sessions Client) (e : Event Client) : Prop :=
  ∀ op, s.calls e.task = some (op, .waiting) → e.resume = .acquire → s.shared.client = none →
    (BackoffRunning cfg e.time s.shared → op ≠ .operation .ping) ∧ ¬ BackoffOverflows s.shared

/-! ### The condition can be computed -/

instance (cfg : Settings) (now : ℚ) (g : Shared Client) :
    Decidable (BackoffRunning cfg now g) :=
  decidable_of_iff
    (0 < g.consecutiveFailures ∧ (match backoffDelay cfg g.consecutiveFailures with
      | .ok b => decide (now - g.lastFailureTime < b)
      | .error _ => false) = true)
    (by
      unfold BackoffRunning
      rcases backoffDelay cfg g.consecutiveFailures with e | b <;> simp)

instance (g : Shared Client) : Decidable (BackoffOverflows g) :=
  inferInstanceAs (Decidable (_ ∧ _))

instance (op : Op) : Decidable (op = .operation .ping) :=
  match op with
  | .operation .ping => .isTrue rfl
  | .getClient | .operation (.saveDescription _) | .operation (.listDescriptions ..)
  | .operation (.deleteDescription _) | .operation (.getDescription _) =>
    .isFalse (by simp)

instance (cfg : Settings) (s : Sessions Client) (e : Event Client) :
    Decidable (SparesBackoff cfg s e) :=
  decidable_of_iff
    ((match s.calls e.task, e.resume, s.shared.client with
      | some (op, .waiting), .acquire, none =>
        decide ((BackoffRunning cfg e.time s.shared → op ≠ .operation .ping) ∧
          ¬ BackoffOverflows s.shared)
      | _, _, _ => true) = true)
    (by
      unfold SparesBackoff
      split
      · rename_i op hcall hres hclient
        rw [decide_eq_true_iff]
        constructor
        · intro h op' hcall' _ _
          obtain rfl : op = op' := by simpa [hcall] using hcall'
          exact h
        · intro h
          exact h op hcall hres hclient
      · rename_i hother
        constructor
        · intro _ op hcall hres hclient
          exact absurd hclient (hother op hcall hres)
        · intro _
          rfl)

/-- The invariant: when failures are counted, the stored time is not after the last real
failure, which is in the past. -/
def FailureRecorded (s : Sessions Client) : Prop :=
  (∀ f, s.lastRealFailure = some f → f ≤ s.now) ∧
    (0 < s.shared.consecutiveFailures →
      ∃ f, s.lastRealFailure = some f ∧ s.shared.lastFailureTime ≤ f)

/-! ### One segment -/

/-- Only `ping` takes a refusal for a failure. -/
lemma onException_refusal (Client : Type) {op : Op} (hop : op ≠ .operation .ping) (remaining : ℚ) :
    (onException (backoffRefusal remaining) op : Bool × Except Exc (Reply Client)).1 = false := by
  rcases op with _ | _ | _ | _ | _ | _
  · rfl
  · exact absurd rfl hop
  all_goals rfl

lemma acquire_of_running {cfg : Settings} {now : ℚ} {op : Op} {g : Shared Client}
    (hg : g.client = none) (hrun : BackoffRunning cfg now g) (hop : op ≠ .operation .ping) :
    (acquire cfg now op g).1 = g := by
  rcases lockedSection_none cfg now hg with ⟨-, r, hr⟩ | ⟨hover, -⟩ | ⟨hrun', -⟩
  · have hreset := onException_refusal Client hop r
    rcases hex : (onException (backoffRefusal r) op : Bool × Except Exc (Reply Client)) with
      ⟨reset, x⟩
    obtain rfl : reset = false := by simpa [hex] using hreset
    simp [acquire, hr, fail, hex]
  · exact absurd hover hrun.not_overflows
  · exact absurd hrun hrun'

lemma acquire_of_elapsed {cfg : Settings} {now : ℚ} {op : Op} {g : Shared Client}
    (hg : g.client = none) (hrun : ¬ BackoffRunning cfg now g) (hover : ¬ BackoffOverflows g) :
    acquire cfg now op g = (g, .creating) := by
  rcases lockedSection_none cfg now hg with ⟨hrun', -⟩ | ⟨hover', -⟩ | ⟨-, -, hr⟩
  · exact absurd hrun' hrun
  · exact absurd hover' hover
  · simp [acquire, hr]

lemma acquire_of_client {cfg : Settings} {now : ℚ} {op : Op} {g : Shared Client} {c : Client}
    (hg : g.client = some c) : acquire cfg now op g = (g, withClient op c) := by
  simp [acquire, lockedSection_some hg]

/-- After `acreate_client` no failure is counted, or the stored time is the present. -/
lemma created_failures (now : ℚ) (op : Op) (g : Shared Client) (r : Except Exc Client) :
    (created now op g r).1.consecutiveFailures = 0 ∨
      (∃ e, r = .error e) ∧ (created now op g r).1.lastFailureTime = now := by
  rcases r with e | c
  · refine .inr ⟨⟨e, rfl⟩, ?_⟩
    simp only [created, clientCreated]
    rcases fail_fst now op (resetClient now g) e with h | h <;> rw [h] <;> rfl
  · exact .inl rfl

/-- A query that ends leaves the module variables alone, or fails and stores the present. -/
lemma answered_failures (now : ℚ) (q : Query) (g : Shared Client) (r : Except Exc Answer) :
    (answered now q g r).1 = g ∨
      (∃ e, r = .error e) ∧ (answered now q g r).1.lastFailureTime = now := by
  rcases r with e | a
  · rcases fail_fst now (.operation q) g e with h | h
    · exact .inl h
    · exact .inr ⟨⟨e, rfl⟩, by simp only [answered]; rw [h]; rfl⟩
  · exact .inl rfl

/-! ### One step and a whole run -/

variable {cfg : Settings} {s s' : Sessions Client} {e : Event Client}

/-- A call that gets the lock in such a step leaves the module variables alone. -/
lemma acquire_of_spares {op : Op} (hC : SparesBackoff cfg s e)
    (hcall : s.calls e.task = some (op, .waiting)) (hres : e.resume = .acquire) :
    (acquire cfg e.time op s.shared).1 = s.shared := by
  rcases hclient : s.shared.client with _ | c
  · obtain ⟨hping, hover⟩ := hC op hcall hres hclient
    by_cases hrun : BackoffRunning cfg e.time s.shared
    · exact acquire_of_running hclient hrun (hping hrun)
    · rw [acquire_of_elapsed hclient hrun hover]
  · rw [acquire_of_client hclient]

lemma noteFailure_le {α : Type} {time t : ℚ} {last : Option ℚ} {r : Except Exc α}
    (hlast : ∀ f, last = some f → f ≤ t) (ht : t ≤ time) :
    ∀ f, noteFailure time last r = some f → f ≤ time := by
  intro f hf
  rcases r with x | a
  · obtain rfl : time = f := by simpa [noteFailure] using hf
    exact le_rfl
  · exact (hlast f (by simpa [noteFailure] using hf)).trans ht

lemma failureRecorded_initial : FailureRecorded (Sessions.initial : Sessions Client) := by
  constructor
  · intro f hf
    cases hf
  · intro hpos
    exact absurd hpos (lt_irrefl 0)

lemma failureRecorded_step (hI : FailureRecorded s) (hC : SparesBackoff cfg s e)
    (h : Sessions.step cfg s e = some s') : FailureRecorded s' := by
  obtain ⟨hpast, hstored⟩ := hI
  obtain ⟨hle, hnow⟩ := Sessions.step_time h
  have hunchanged : s'.shared = s.shared → s'.lastRealFailure = s.lastRealFailure →
      FailureRecorded s' := by
    intro hg hl
    constructor
    · intro f hf
      rw [hl] at hf
      rw [hnow]
      exact (hpast f hf).trans hle
    · rw [hg, hl]
      exact hstored
  rcases Sessions.step_cases h with ⟨hg, hl⟩ | ⟨op, hcall, hres, hg, hl⟩ |
    ⟨op, r, hcall, hg, hl⟩ | ⟨op, q, c, r, hcall, hg, hl⟩
  · exact hunchanged hg hl
  · -- the locked section leaves the module variables alone
    exact hunchanged (hg.trans (acquire_of_spares hC hcall hres)) hl
  · constructor
    · rw [hl, hnow]
      exact noteFailure_le hpast hle
    · intro hpos
      rw [hg] at hpos ⊢
      rcases created_failures e.time op s.shared r with h0 | ⟨⟨x, rfl⟩, ht⟩
      · exact absurd h0 hpos.ne'
      · exact ⟨e.time, hl, ht.le⟩
  · constructor
    · rw [hl, hnow]
      exact noteFailure_le hpast hle
    · intro hpos
      rw [hg] at hpos ⊢
      rcases answered_failures e.time q s.shared r with hsame | ⟨⟨x, rfl⟩, ht⟩
      · -- the query has not reset the client: the stored time is an earlier one
        rw [hsame] at hpos ⊢
        obtain ⟨f, hf, hft⟩ := hstored hpos
        have hfpast : f ≤ e.time := (hpast f hf).trans hle
        rcases r with x | a
        · exact ⟨e.time, hl, hft.trans hfpast⟩
        · exact ⟨f, hl.trans hf, hft⟩
      · exact ⟨e.time, hl, ht.le⟩

/-- A delay counted from a stored time that is not after the last real failure is over when
the maximal delay has passed since that failure. -/
lemma not_running_of_elapsed (hI : FailureRecorded s) {now : ℚ}
    (hlong : ∀ f, s.lastRealFailure = some f → f + cfg.supabaseReconnectBackoffMax ≤ now) :
    ¬ BackoffRunning cfg now s.shared := by
  rintro ⟨hpos, b, hb, hlt⟩
  obtain ⟨f, hf, hft⟩ := hI.2 hpos
  have helapsed : f + cfg.supabaseReconnectBackoffMax ≤ now := hlong f hf
  have hmax : b ≤ cfg.supabaseReconnectBackoffMax := backoffDelay_le_max hb
  linarith

/-- **The backoff is sound in every run that spares it.**  When no `ping` meets a running
backoff and no call meets a delay that cannot be computed, every refused call leaves the
module variables as they are, and every call that finds no client at least the maximal
delay after the last real failure attempts to create one. -/
theorem backoffSound_of_run {es : List (Event Client)}
    (hrun : Run (Sessions.step cfg) (SparesBackoff cfg) Sessions.initial es s)
    (hC : SparesBackoff cfg s e) (h : Sessions.step cfg s e = some s') :
    BackoffSound cfg s e s' := by
  have hI : FailureRecorded s :=
    hrun.invariant (fun _ _ _ hI hC h => failureRecorded_step hI hC h) failureRecorded_initial
  intro op hcall hres hclient
  obtain ⟨hping, hover⟩ := hC op hcall hres hclient
  obtain ⟨-, hg, hphase⟩ := Sessions.step_acquire h hcall hres
  constructor
  · intro hrunning
    rw [hg]
    exact acquire_of_running hclient hrunning (hping hrunning)
  · intro hlong
    have helapsed : ¬ BackoffRunning cfg e.time s.shared := not_running_of_elapsed hI hlong
    rw [hphase, acquire_of_elapsed hclient helapsed hover]

/-! ### A call and a probe during the backoff -/

/-- A delay of one second, doubled up to two. -/
def probeSettings : Settings :=
  { Settings.default with
    supabaseReconnectBackoffMax := 2
    supabaseReconnectBackoffMax_pos := by decide }

/-- A connection attempt fails at time 0; half a second later another call is refused; two
seconds after the failure a third call has asked for the lock. -/
def refusedRun : List (Event ℕ) :=
  [⟨0, 0, .start .getClient⟩, ⟨0, 0, .acquire⟩,
    ⟨0, 0, .created (.error ⟨.httpConnectError, "connection refused"⟩)⟩,
    ⟨1 / 2, 1, .start .getClient⟩, ⟨1 / 2, 1, .acquire⟩,
    ⟨2, 2, .start (.operation .ping)⟩]

/-- Whether call 2 of the state waits for the free lock at time 2. -/
def awaitsLock (s : Sessions ℕ) : Bool :=
  decide (s.holder = none) && decide (s.now = 2) &&
    match s.calls 2 with
    | some (_, .waiting) => true
    | _ => false

theorem backoffSound_of_refusedRun :
    ∃ s s', Run (Sessions.step probeSettings) (SparesBackoff probeSettings) Sessions.initial
        refusedRun s ∧
      Sessions.step probeSettings s ⟨2, 2, .acquire⟩ = some s' ∧
      BackoffSound probeSettings s ⟨2, 2, .acquire⟩ s' := by
  obtain ⟨s, hrun, hs⟩ : ∃ s, Run (Sessions.step probeSettings) (SparesBackoff probeSettings)
      Sessions.initial refusedRun s ∧ (awaitsLock s && decide (SparesBackoff probeSettings s
        ⟨2, 2, .acquire⟩)) = true :=
    Run.of_observed (by decide +kernel)
  simp only [awaitsLock, Bool.and_eq_true, decide_eq_true_eq] at hs
  obtain ⟨⟨⟨hfree, hnow⟩, hwait⟩, hspares⟩ := hs
  obtain ⟨op, hcall⟩ : ∃ op, s.calls 2 = some (op, .waiting) := by
    split at hwait
    · exact ⟨_, by assumption⟩
    · cases hwait
  obtain ⟨s', h⟩ : ∃ s', Sessions.step probeSettings s ⟨2, 2, .acquire⟩ = some s' := by
    simp [Sessions.step, hnow, hcall, hfree]
  exact ⟨s, s', hrun, h, backoffSound_of_run hrun hspares h⟩

/-- A connection attempt fails at time 0; half a second later a `ping` is refused; two
seconds after the failure a third call has asked for the lock. -/
def probeRun : List (Event ℕ) :=
  [⟨0, 0, .start .getClient⟩, ⟨0, 0, .acquire⟩,
    ⟨0, 0, .created (.error ⟨.httpConnectError, "connection refused"⟩)⟩,
    ⟨1 / 2, 1, .start (.operation .ping)⟩, ⟨1 / 2, 1, .acquire⟩,
    ⟨2, 2, .start .getClient⟩]

/-- What is observed at the end of the run: the failure count and the stored time have
moved although the last real failure is at time 0, and call 2 waits for the free lock. -/
def probeObserved (s : Sessions ℕ) : Bool :=
  decide (s.shared = ⟨none, 1 / 2, 2⟩) && decide (s.lastRealFailure = some 0) &&
    decide (s.holder = none) && decide (s.now = 2) &&
    match s.calls 2 with
    | some (.getClient, .waiting) => true
    | _ => false

theorem refused_ping_prolongs_backoff :
    ∃ s s', Run (Sessions.step probeSettings) (fun _ _ => True) Sessions.initial probeRun s ∧
      Sessions.step probeSettings s ⟨2, 2, .acquire⟩ = some s' ∧
      ¬ BackoffSound probeSettings s ⟨2, 2, .acquire⟩ s' := by
  obtain ⟨s, hrun, hs⟩ : ∃ s, Run (Sessions.step probeSettings) (fun _ _ => True)
      Sessions.initial probeRun s ∧ probeObserved s = true :=
    Run.of_observed (by decide +kernel)
  simp only [probeObserved, Bool.and_eq_true, decide_eq_true_eq] at hs
  obtain ⟨⟨⟨⟨hg, hlast⟩, hfree⟩, hnow⟩, hwait⟩ := hs
  have hcall : s.calls 2 = some (.getClient, .waiting) := by
    split at hwait
    · assumption
    · cases hwait
  have hstep : ∃ s', Sessions.step probeSettings s ⟨2, 2, .acquire⟩ = some s' := by
    simp [Sessions.step, hnow, hcall, hfree]
  obtain ⟨s', h⟩ := hstep
  refine ⟨s, s', hrun, h, fun hsound => ?_⟩
  obtain ⟨-, hattempt⟩ := hsound _ hcall rfl (by rw [hg])
  have hcreating := hattempt fun f hf => by
    obtain rfl : (0 : ℚ) = f := by simpa [hlast] using hf
    decide +kernel
  -- the delay is counted from the refused `ping`, so that the call is refused as well
  have hrunning : BackoffRunning probeSettings 2 s.shared := by
    rw [hg]
    exact ⟨by decide, 2, by decide +kernel, by decide +kernel⟩
  obtain ⟨-, -, hphase⟩ := Sessions.step_acquire h hcall rfl
  rcases lockedSection_none probeSettings 2 (g := s.shared) (by rw [hg]) with
    ⟨-, r, hr⟩ | ⟨hover, -⟩ | ⟨hrun', -⟩
  · rw [hcreating] at hphase
    simp [acquire, hr] at hphase
  · exact hrunning.not_overflows hover
  · exact hrun' hrunning

end ImageDescriptor.Db
