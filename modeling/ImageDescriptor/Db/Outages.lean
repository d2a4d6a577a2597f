/-
# The failures of an outage

The number of failures determines how long the next connection attempt is put off.  A tally
is kept beside a run: it takes down every connection attempt and every query when it ends.
The module counts by a rule of its own.  A new client clears the count, before any query has
succeeded on it; a timeout of `ping` or `save_description` and a `ConnectionError` of the
other queries are not counted.
-/
import Mathlib.Tactic.Linarith
import ImageDescriptor.Db.Backoff
import ImageDescriptor.Db.Discards

namespace ImageDescriptor.Db

open Lib

variable {Client : Type}

/-- How an interaction with the database has ended: a connection attempt or a query. -/
inductive Interaction
  | connected
  | notConnected (x : Exc)
  | queryAnswered
  | queryFailed (q : Query) (x : Exc)

/-- The interaction that ends in the step. -/
def interaction (s : Sessions Client) (e : Event Client) : Option Interaction :=
  match s.calls e.task, e.resume with
  | some (_, .creating), .created (.ok _) => some .connected
  | some (_, .creating), .created (.error x) => some (.notConnected x)
  | some (_, .querying _ _), .answered (.ok _) => some .queryAnswered
  | some (_, .querying q _), .answered (.error x) => some (.queryFailed q x)
  | _, _ => none

/-- A number of failures, and the time of the last of them. -/
structure Tally where
  failures : ℕ
  last : ℚ

/-- What an interaction does to a tally. -/
inductive Entry
  | clear
  | count
  | pass

def Tally.enter (τ : Tally) (time : ℚ) : Entry → Tally
  | .clear => { τ with failures := 0 }
  | .count => ⟨τ.failures + 1, time⟩
  | .pass => τ

/-- Every interaction that fails is counted, until a query succeeds. -/
def everyFailure : Interaction → Entry
  | .connected => .pass
  | .notConnected _ => .count
  | .queryAnswered => .clear
  | .queryFailed _ _ => .count

/-- The rule of the module: every connection attempt that fails is counted, and every query
that fails with an exception which the clauses of its operation count, until there is a new
client. -/
def moduleRule : Interaction → Entry
  | .connected => .clear
  | .notConnected _ => .count
  | .queryAnswered => .pass
  | .queryFailed q x => if countsFailure x (.operation q) then .count else .pass

/-- The process with a tally beside it. -/
structure Outage (Client : Type) where
  sessions : Sessions Client
  tally : Tally

namespace Outage

def initial : Outage Client := ⟨.initial, ⟨0, 0⟩⟩

/-- A step of the process, after which the interaction that has ended is taken down. -/
def step (rule : Interaction → Entry) (cfg : Settings) (o : Outage Client) (e : Event Client) :
    Option (Outage Client) :=
  (o.sessions.step cfg e).map fun s =>
    ⟨s, o.tally.enter e.time (((interaction o.sessions e).map rule).getD .pass)⟩

/-- The calls are made one after another, numbered in their order: when a call begins, the
calls before it have ended. -/
def InTurn (s : Sessions Client) (e : Event Client) : Prop :=
  match e.resume with
  | .start _ => ∀ i < e.task, (match s.calls i with
      | some (_, .done _) | some (_, .cancelled) => true
      | _ => false) = true
  | _ => True

/-- A connection attempt that fails inside an operation is not counted once more by the
clauses of the operation. -/
def AttemptCountedOnce (s : Sessions Client) (e : Event Client) : Prop :=
  match s.calls e.task, e.resume with
  | some (op, .creating), .created (.error x) => countsFailure x op = false
  | _, _ => True

/-- The condition on a step: what is counted in it is a failed interaction, counted once. -/
def CountedOnce (cfg : Settings) (o : Outage Client) (e : Event Client) : Prop :=
  SparesBackoff cfg o.sessions e ∧ AttemptCountedOnce o.sessions e

instance (s : Sessions Client) (e : Event Client) : Decidable (InTurn s e) := by
  unfold InTurn
  split <;> infer_instance

instance (s : Sessions Client) (e : Event Client) : Decidable (AttemptCountedOnce s e) := by
  unfold AttemptCountedOnce
  split <;> infer_instance

instance (cfg : Settings) (o : Outage Client) (e : Event Client) :
    Decidable (CountedOnce cfg o e) :=
  inferInstanceAs (Decidable (_ ∧ _))

/-- What the count owes the next call: the module counts what the tally counts, and after a
failure there is no client and a call that gets the lock is refused exactly until the delay
has passed since the last failure. -/
structure SpacesAttempts (cfg : Settings) (o : Outage Client) (e : Event Client)
    (o' : Outage Client) : Prop where
  count : o.sessions.shared.consecutiveFailures = o.tally.failures
  noClient : 0 < o.tally.failures → o.sessions.shared.client = none
  refused : 0 < o.tally.failures →
    ∀ op, o.sessions.calls e.task = some (op, .waiting) → e.resume = .acquire →
      e.time < o.tally.last + min (cfg.supabaseReconnectBackoffBase * 2 ^ (o.tally.failures - 1))
          cfg.supabaseReconnectBackoffMax →
        ∃ remaining, o'.sessions.calls e.task =
          some (op, .done (onException (backoffRefusal remaining) op).2)
  attempted : 0 < o.tally.failures →
    ∀ op, o.sessions.calls e.task = some (op, .waiting) → e.resume = .acquire →
      o.tally.last + min (cfg.supabaseReconnectBackoffBase * 2 ^ (o.tally.failures - 1))
          cfg.supabaseReconnectBackoffMax ≤ e.time →
        o'.sessions.calls e.task = some (op, .creating)

/-- The invariant: the module counts what the tally counts, and after a failure there is no
client and the stored time is that of the failure. -/
def Tallied (o : Outage Client) : Prop :=
  o.sessions.shared.consecutiveFailures = o.tally.failures ∧
    (0 < o.tally.failures →
      o.sessions.shared.client = none ∧ o.sessions.shared.lastFailureTime = o.tally.last)

/-! ### One step -/

variable {rule : Interaction → Entry} {cfg : Settings} {o o' : Outage Client} {e : Event Client}

lemma step_sessions (h : step rule cfg o e = some o') :
    o.sessions.step cfg e = some o'.sessions ∧
      o'.tally = o.tally.enter e.time (((interaction o.sessions e).map rule).getD .pass) := by
  obtain ⟨s, hs, rfl⟩ := Option.map_eq_some_iff.mp h
  exact ⟨hs, rfl⟩

/-- The tally keeps no call from running: every run of the process is one with a tally. -/
theorem run_of_sessions (rule : Interaction → Entry)
    {C : Sessions Client → Event Client → Prop} {es : List (Event Client)} {s : Sessions Client}
    (h : Run (Sessions.step cfg) C o.sessions es s) :
    ∃ o', Run (step rule cfg) (fun o e => C o.sessions e) o es o' ∧ o'.sessions = s :=
  h.lift fun o e s₁ hs => ⟨_, by rw [step, hs, Option.map_some], rfl⟩

/-- Nothing is taken down unless an awaited call has ended. -/
lemma interaction_none {s : Sessions Client} (hcreated : ∀ r, e.resume ≠ .created r)
    (hanswered : ∀ r, e.resume ≠ .answered r) : interaction s e = none := by
  unfold interaction
  split
  · exact absurd ‹_› (hcreated _)
  · exact absurd ‹_› (hcreated _)
  · exact absurd ‹_› (hanswered _)
  · exact absurd ‹_› (hanswered _)
  · rfl

/-- A connection attempt that has ended: it clears the count and leaves a client, or it is
counted once. -/
lemma created_shared {now : ℚ} {op : Op} (g : Shared Client) {r : Except Exc Client}
    (hr : ∀ x, r = .error x → countsFailure x op = false) :
    (∃ c, r = .ok c ∧ (created now op g r).1.consecutiveFailures = 0) ∨
      ∃ x, r = .error x ∧ (created now op g r).1 = resetClient now g := by
  rcases r with x | c
  · refine .inr ⟨x, rfl, ?_⟩
    simp only [created, clientCreated]
    exact (fail_shared_eq_iff now op _ x).mpr (hr x rfl)
  · exact .inl ⟨c, rfl, rfl⟩

lemma tallied_count {s : Sessions Client} {g : Shared Client} (τ : Tally) (time : ℚ)
    (hcount : g.consecutiveFailures = τ.failures) (hs : s.shared = resetClient time g) :
    Tallied ⟨s, τ.enter time .count⟩ := by
  constructor
  · rw [hs]
    exact congrArg (· + 1) hcount
  · intro _
    rw [hs]
    exact ⟨rfl, rfl⟩

lemma tallied_step (hI : Tallied o) (hC : CountedOnce cfg o e)
    (h : step moduleRule cfg o e = some o') : Tallied o' := by
  obtain ⟨hs, hτ⟩ := step_sessions h
  obtain ⟨-, hmoves⟩ := Sessions.moves_of_step hs
  obtain ⟨s', τ'⟩ := o'
  obtain ⟨t, i, resume⟩ := e
  dsimp only at hs hτ hmoves
  subst hτ
  -- a step without an interaction that keeps the module variables keeps the invariant
  have hpass : interaction o.sessions ⟨t, i, resume⟩ = none → s'.shared = o.sessions.shared →
      Tallied ⟨s', o.tally.enter t
        (((interaction o.sessions ⟨t, i, resume⟩).map moduleRule).getD .pass)⟩ := by
    intro hnone hshared
    rw [hnone]
    simpa [Tallied, Tally.enter, hshared] using hI
  cases hmoves with
  | start | release | cancel =>
    exact hpass (interaction_none (by simp) (by simp)) rfl
  | acquire hcall =>
    have hsame := acquire_of_spares hC.1 hcall rfl
    exact hpass (interaction_none (by simp) (by simp)) hsame
  | @created op r hcall =>
    have honce : ∀ x, r = .error x → countsFailure x op = false := by
      rintro x rfl
      have := hC.2
      simpa [AttemptCountedOnce, hcall] using this
    rcases created_shared o.sessions.shared honce with ⟨c, rfl, hzero⟩ | ⟨x, rfl, hreset⟩
    · refine ⟨?_, ?_⟩
      · simpa [interaction, hcall, moduleRule, Tally.enter, Sessions.put] using hzero
      · simp [interaction, hcall, moduleRule, Tally.enter]
    · simpa [interaction, hcall, moduleRule] using tallied_count o.tally t hI.1 hreset
  | @answered op q c r hcall =>
    rcases r with x | a
    · by_cases hx : countsFailure x (.operation q) = true
      · have hreset : (answered t q o.sessions.shared (.error x)).1 =
            resetClient t o.sessions.shared := by
          simp [answered, fail_shared, hx]
        simpa [interaction, hcall, moduleRule, hx] using
          tallied_count o.tally t hI.1 hreset
      · have hsame : (answered t q o.sessions.shared (.error x)).1 = o.sessions.shared := by
          simp [answered, fail_shared, hx]
        simpa [Tallied, interaction, hcall, moduleRule, hx, Tally.enter, Sessions.put, hsame]
          using hI
    · simpa [Tallied, interaction, hcall, moduleRule, Tally.enter, Sessions.put, answered]
        using hI

/-! ### A whole run -/

lemma not_overflows_of_le {g : Shared Client} (h : g.consecutiveFailures ≤ 1024) :
    ¬ BackoffOverflows g := by
  rintro ⟨hpos, hover⟩
  rw [floatLimit_le_iff] at hover
  omega

/-- After a failure the backoff is running exactly until the delay has passed since it. -/
lemma running_iff (hI : Tallied o) (hpos : 0 < o.tally.failures)
    (hfits : o.tally.failures ≤ 1024) (now : ℚ) :
    BackoffRunning cfg now o.sessions.shared ↔
      now < o.tally.last + min (cfg.supabaseReconnectBackoffBase * 2 ^ (o.tally.failures - 1))
        cfg.supabaseReconnectBackoffMax := by
  obtain ⟨hcount, hlast⟩ := hI
  have hover : ¬ floatLimit ≤ 2 ^ (o.tally.failures - 1) := by
    rw [← hcount] at hpos hfits ⊢
    exact fun hle => not_overflows_of_le hfits ⟨hpos, hle⟩
  unfold BackoffRunning
  rw [hcount, (hlast hpos).2]
  constructor
  · rintro ⟨-, b, hb, hlt⟩
    rw [← (backoffDelay_eq_ok_iff.mp hb).2]
    linarith
  · intro hlt
    exact ⟨hpos, _, backoffDelay_eq_ok_iff.mpr ⟨hover, rfl⟩, by linarith⟩

/-- **The count spaces the connection attempts in every interleaving.**  From any moment at
which nothing is counted, as after the loading of the module and after the creation of a
client, and as long as every failure is counted once, the module counts the failed
connection attempts and the failed queries of its rule, and the next call is refused exactly
until the delay has passed since the last of them. -/
theorem spacesAttempts_of_run {s₀ : Sessions Client} {es : List (Event Client)}
    (hzero : s₀.shared.consecutiveFailures = 0)
    (hrun : Run (step moduleRule cfg) (CountedOnce cfg) ⟨s₀, ⟨0, 0⟩⟩ es o)
    (hfits : o.tally.failures ≤ 1024) (h : step moduleRule cfg o e = some o') :
    SpacesAttempts cfg o e o' := by
  have hI : Tallied o :=
    hrun.invariant (fun _ _ _ hI hC h => tallied_step hI hC h)
      ⟨hzero, fun hpos => absurd hpos (lt_irrefl 0)⟩
  obtain ⟨hs, -⟩ := step_sessions h
  refine ⟨hI.1, fun hpos => (hI.2 hpos).1, ?_, ?_⟩
  · intro hpos op hcall hres hlt
    obtain ⟨-, -, hphase⟩ := Sessions.step_acquire hs hcall hres
    have hrunning : BackoffRunning cfg e.time o.sessions.shared :=
      (running_iff hI hpos hfits e.time).mpr hlt
    rcases lockedSection_none cfg e.time (hI.2 hpos).1 with ⟨-, r, hr⟩ | ⟨hover, -⟩ | ⟨hnot, -⟩
    · refine ⟨r, ?_⟩
      rw [hphase]
      simp [acquire, hr]
    · exact absurd hover hrunning.not_overflows
    · exact absurd hrunning hnot
  · intro hpos op hcall hres hle
    obtain ⟨-, -, hphase⟩ := Sessions.step_acquire hs hcall hres
    have hover : ¬ BackoffOverflows o.sessions.shared := not_overflows_of_le (hI.1 ▸ hfits)
    have hnot : ¬ BackoffRunning cfg e.time o.sessions.shared := fun hrunning =>
      absurd ((running_iff hI hpos hfits e.time).mp hrunning) (not_lt.mpr hle)
    rw [hphase, acquire_of_elapsed (hI.2 hpos).1 hnot hover]

/-- Two connection attempts fail, the second inside a call of `save_description`; a second
after it a third call waits for the lock. -/
def failedAttempts : List (Event ℕ) :=
  [⟨0, 0, .start .getClient⟩, ⟨0, 0, .acquire⟩,
    ⟨1, 0, .created (.error ⟨.httpConnectError, "connection refused"⟩)⟩,
    ⟨2, 1, .start (.operation (.saveDescription []))⟩, ⟨2, 1, .acquire⟩,
    ⟨3, 1, .created (.error ⟨.timeoutError, ""⟩)⟩,
    ⟨4, 2, .start (.operation (.getDescription "img-1"))⟩]

theorem spacesAttempts_of_failedAttempts :
    ∃ o o' : Outage ℕ, Run (step moduleRule Settings.default) (CountedOnce Settings.default)
        initial failedAttempts o ∧
      step moduleRule Settings.default o ⟨4, 2, .acquire⟩ = some o' ∧ o.tally = ⟨2, 3⟩ ∧
      SpacesAttempts Settings.default o ⟨4, 2, .acquire⟩ o' := by
  obtain ⟨o, o', hrun, h, hobserved⟩ : ∃ o o', Run (step moduleRule Settings.default)
      (CountedOnce Settings.default) initial failedAttempts o ∧
        step moduleRule Settings.default o ⟨4, 2, .acquire⟩ = some o' ∧
        decide (o.tally.failures = 2 ∧ o.tally.last = 3) = true :=
    Run.of_observed_step (by decide +kernel)
  obtain ⟨hfailures, hlast⟩ := of_decide_eq_true hobserved
  have htally : o.tally = ⟨2, 3⟩ := by
    rw [← hfailures, ← hlast]
  exact ⟨o, o', hrun, h, htally, spacesAttempts_of_run rfl hrun (by rw [hfailures]; decide) h⟩

/-- A connection attempt fails.  The next call gets a client, and its query times out. -/
def clearedOutage : List (Event ℕ) :=
  [⟨0, 0, .start .getClient⟩, ⟨0, 0, .acquire⟩,
    ⟨1, 0, .created (.error ⟨.httpConnectError, "connection refused"⟩)⟩,
    ⟨2, 1, .start (.operation .ping)⟩, ⟨2, 1, .acquire⟩, ⟨3, 1, .created (.ok 0)⟩,
    ⟨6, 1, .answered (.error ⟨.timeoutError, ""⟩)⟩]

theorem count_cleared_without_answer :
    ∃ o : Outage ℕ, Run (step everyFailure Settings.default)
        (fun o e => InTurn o.sessions e) initial clearedOutage o ∧
      o.tally.failures = 2 ∧ o.sessions.shared.consecutiveFailures = 0 := by
  obtain ⟨o, hrun, ho⟩ : ∃ o, Run (step everyFailure Settings.default)
      (fun o e => InTurn o.sessions e) initial clearedOutage o ∧
        decide (o.tally.failures = 2 ∧ o.sessions.shared.consecutiveFailures = 0) = true :=
    Run.of_observed (by decide +kernel)
  exact ⟨o, hrun, of_decide_eq_true ho⟩

end Outage

end ImageDescriptor.Db
