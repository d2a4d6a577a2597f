/-
# The creation of the shared client

Callers that find no client queue up for the lock of `get_client`, and look at `_client` once
more when they have got it.  So one client is created at a time, and everybody who has
waited for it gets the same one, unless a failing operation has reset it before they get
the lock: then they are refused like a caller that has just come.  After an attempt that has
failed, the next one waits for the delay after the latest recorded failure.
-/
import Mathlib.Tactic.Linarith
import ImageDescriptor.Db.Discards

namespace ImageDescriptor.Db

open Lib

variable {Client : Type}

namespace Sessions

/-- In the step an operation fails and resets the client. -/
def ResetsClient (s : Sessions Client) (e : Event Client) : Prop :=
  ∃ op q c x, s.calls e.task = some (op, .querying q c) ∧ e.resume = .answered (.error x) ∧
    countsFailure x (.operation q) = true

variable (cfg : Settings)

/-- From this state on, as long as no operation resets the client, every call that has
waited for the lock goes on with client `c`. -/
def HandsOn (c : Client) (s : Sessions Client) : Prop :=
  ∀ es s₁ f s₂ op, Run (step cfg) (fun s e => ¬ ResetsClient s e) s es s₁ →
    step cfg s₁ f = some s₂ → s₁.calls f.task = some (op, .waiting) → f.resume = .acquire →
      s₂.calls f.task = some (op, withClient op c)

/-- From this state on, a call that gets the lock goes on to `acreate_client` only if failures
are counted, the latest of them not before time `t`, and the delay has passed since then. -/
def SpacesNext (t : ℚ) (s : Sessions Client) : Prop :=
  ∀ es s₁ f s₂ op, Run (step cfg) (fun _ _ => True) s es s₁ → step cfg s₁ f = some s₂ →
    f.resume = .acquire → s₂.calls f.task = some (op, .creating) →
      0 < s₁.shared.consecutiveFailures ∧ t ≤ s₁.shared.lastFailureTime ∧
        s₁.shared.lastFailureTime +
            min (cfg.supabaseReconnectBackoffBase * 2 ^ (s₁.shared.consecutiveFailures - 1))
              cfg.supabaseReconnectBackoffMax ≤ f.time

/-- What `get_client` promises in a step: no two calls are in `acreate_client`, a client that
has been created goes to its creator and to those who wait, and a failed attempt puts off
the next one. -/
structure CreatesSoundly (s : Sessions Client) (e : Event Client) (s' : Sessions Client) :
    Prop where
  single : ∀ i j op op', s'.calls i = some (op, .creating) → s'.calls j = some (op', .creating) →
    i = j
  shares : ∀ op c, s.calls e.task = some (op, .creating) → e.resume = .created (.ok c) →
    s'.calls e.task = some (op, withClient op c) ∧ HandsOn cfg c s'
  spaces : ∀ op x, s.calls e.task = some (op, .creating) → e.resume = .created (.error x) →
    SpacesNext cfg e.time s'

variable {cfg} {s s' : Sessions Client} {e : Event Client}

/-! ### The client that has been created -/

/-- Without a reset, the shared client stays. -/
lemma step_client {c : Client} (hs : CreatesLocked s) (hclient : s.shared.client = some c)
    (hkeeps : ¬ ResetsClient s e) (h : step cfg s e = some s') : s'.shared.client = some c := by
  by_cases hchange : s'.shared = s.shared
  · rw [hchange, hclient]
  · obtain ⟨op, q, c', x, hcall, hres⟩ := step_shared_of_client hs hclient h hchange
    have hspared : countsFailure x (.operation q) = false := by
      by_contra hcounts
      exact hkeeps ⟨op, q, c', x, hcall, hres, by simpa using hcounts⟩
    rw [step_failed h hcall hres] at hchange
    exact absurd ((fail_shared_eq_iff _ _ _ _).mpr hspared) hchange

lemma handsOn_of_client {c : Client} (hs : CreatesLocked s) (hclient : s.shared.client = some c) :
    HandsOn cfg c s := by
  intro es s₁ f s₂ op hrun h hcall hres
  have hs₁ : CreatesLocked s₁ ∧ s₁.shared.client = some c :=
    hrun.invariant (I := fun s => CreatesLocked s ∧ s.shared.client = some c)
      (fun _ _ _ hs hkeeps h => ⟨createsLocked_step hs.1 h, step_client hs.1 hs.2 hkeeps h⟩)
      ⟨hs, hclient⟩
  obtain ⟨-, -, hphase⟩ := step_acquire h hcall hres
  rw [hphase]
  simp [acquire, lockedSection_some hs₁.2]

/-- The step in which an attempt ends. -/
lemma step_created {op : Op} {r : Except Exc Client} (h : step cfg s e = some s')
    (hcall : s.calls e.task = some (op, .creating)) (hres : e.resume = .created r) :
    s'.shared = (created e.time op s.shared r).1 ∧
      s'.calls e.task = some (op, (created e.time op s.shared r).2) := by
  obtain ⟨-, hmoves⟩ := moves_of_step h
  rw [hres] at hmoves
  cases hmoves with
  | created hcall' =>
    rw [hcall, Option.some.injEq, Prod.mk.injEq] at hcall'
    obtain ⟨rfl, -⟩ := hcall'
    exact ⟨rfl, Function.update_self ..⟩

/-! ### The attempt after one that has failed -/

/-- The invariant after a failure at time `t`: when there is no client, failures are counted
and the latest of them is not before `t`. -/
def FailedSince (t : ℚ) (s : Sessions Client) : Prop :=
  t ≤ s.now ∧ (s.shared.client = none →
    0 < s.shared.consecutiveFailures ∧ t ≤ s.shared.lastFailureTime)

/-- A reset counts a failure at the present. -/
lemma failedSince_reset {t time : ℚ} {g : Shared Client} (ht : t ≤ time) (hnow : s'.now = time)
    (hs' : s'.shared = resetClient time g) : FailedSince t s' := by
  refine ⟨hnow ▸ ht, fun _ => ?_⟩
  rw [hs']
  exact ⟨Nat.succ_pos _, ht⟩

lemma failedSince_fail {t time : ℚ} {op : Op} {x : Exc} {g : Shared Client} (ht : t ≤ time)
    (hnow : s'.now = time) (hs' : s'.shared = (fail time op g x).1)
    (hg : g.client = none → 0 < g.consecutiveFailures ∧ t ≤ g.lastFailureTime) :
    FailedSince t s' := by
  rcases fail_fst time op g x with hsame | hreset
  · refine ⟨hnow ▸ ht, ?_⟩
    rw [hs', hsame]
    exact hg
  · exact failedSince_reset ht hnow (hs'.trans hreset)

lemma failedSince_step {t : ℚ} (hs : FailedSince t s) (h : step cfg s e = some s') :
    FailedSince t s' := by
  obtain ⟨hle, hnow⟩ := step_time h
  have ht : t ≤ e.time := hs.1.trans hle
  have hunchanged : s'.shared = s.shared → FailedSince t s' := fun hshared =>
    ⟨hnow ▸ ht, hshared ▸ hs.2⟩
  rcases step_cases h with ⟨hshared, -⟩ | ⟨op, -, -, hshared, -⟩ | ⟨op, r, -, hshared, -⟩ |
    ⟨op, q, c, r, -, hshared, -⟩
  · exact hunchanged hshared
  · rcases hlocked : lockedSection cfg e.time s.shared with x | _ | c
    · have hfail : s'.shared = (fail e.time op s.shared x).1 := by
        rw [hshared, acquire, hlocked]
      exact failedSince_fail ht hnow hfail hs.2
    · exact hunchanged (hshared.trans (by simp [acquire, hlocked]))
    · exact hunchanged (hshared.trans (by simp [acquire, hlocked]))
  · rcases r with x | c
    · refine failedSince_fail ht hnow hshared fun _ => ?_
      exact ⟨Nat.succ_pos _, ht⟩
    · refine ⟨hnow ▸ ht, fun hnone => ?_⟩
      rw [hshared] at hnone
      cases hnone
  · rcases r with x | a
    · exact failedSince_fail ht hnow hshared hs.2
    · exact hunchanged hshared

/-- A call that goes on to `acreate_client` after failures has waited for the delay. -/
lemma delay_le_of_acquire {op : Op} {now : ℚ} {g : Shared Client}
    (hcreating : (acquire cfg now op g).2 = .creating) (hpos : 0 < g.consecutiveFailures) :
    g.lastFailureTime + min (cfg.supabaseReconnectBackoffBase * 2 ^ (g.consecutiveFailures - 1))
      cfg.supabaseReconnectBackoffMax ≤ now := by
  obtain ⟨-, hclient⟩ := acquire_creating hcreating
  rcases lockedSection_none cfg now hclient with ⟨-, r, hr⟩ | ⟨-, hr⟩ | ⟨hrun, hover, -⟩
  · simp [acquire, hr] at hcreating
  · simp [acquire, hr] at hcreating
  · have hdelay : backoffDelay cfg g.consecutiveFailures =
        .ok (min (cfg.supabaseReconnectBackoffBase * 2 ^ (g.consecutiveFailures - 1))
          cfg.supabaseReconnectBackoffMax) :=
      backoffDelay_eq_ok_iff.mpr ⟨fun ho => hover ⟨hpos, ho⟩, rfl⟩
    have helapsed := not_lt.mp fun hlt => hrun ⟨hpos, _, hdelay, hlt⟩
    linarith

lemma spacesNext_of_failed {t : ℚ} (hs : FailedSince t s) : SpacesNext cfg t s := by
  intro es s₁ f s₂ op hrun h hres hcreating
  have hs₁ : FailedSince t s₁ := hrun.invariant (fun _ _ _ hs _ h => failedSince_step hs h) hs
  obtain ⟨-, hmoves⟩ := moves_of_step h
  rw [hres] at hmoves
  cases hmoves with
  | acquire hcall hfree =>
    simp only [put, Function.update_self, Option.some.injEq, Prod.mk.injEq] at hcreating
    obtain ⟨rfl, hphase⟩ := hcreating
    obtain ⟨hpos, hlast⟩ := hs₁.2 (acquire_creating hphase).2
    exact ⟨hpos, hlast, delay_le_of_acquire hphase hpos⟩

/-! ### Every interleaving -/

/-- **`get_client` creates one client at a time, hands it to everybody who waits for it, and
puts off the attempt after a failed one.**  This holds in every state that any interleaving
of calls, failures and cancellations reaches. -/
theorem createsSoundly_of_run {es : List (Event Client)}
    (hrun : Run (step cfg) (fun _ _ => True) initial es s) (h : step cfg s e = some s') :
    CreatesSoundly cfg s e s' := by
  have hs : CreatesLocked s := createsLocked_run hrun
  have hs' : CreatesLocked s' := createsLocked_step hs h
  refine ⟨?_, ?_, ?_⟩
  · intro i j op op' hi hj
    have hholder := (hs' i op hi).1
    rw [(hs' j op' hj).1, Option.some.injEq] at hholder
    exact hholder.symm
  · intro op c hcall hres
    obtain ⟨hshared, hphase⟩ := step_created h hcall hres
    exact ⟨hphase, handsOn_of_client hs' (by rw [hshared]; rfl)⟩
  · intro op x hcall hres
    obtain ⟨hshared, -⟩ := step_created h hcall hres
    refine spacesNext_of_failed ?_
    exact failedSince_fail le_rfl (step_time h).2 hshared fun _ => ⟨Nat.succ_pos _, le_rfl⟩

/-! ### Two callers that find no client -/

/-- A call lists the descriptions and creates the client; `get_client` waits for the lock. -/
def queuedRun : List (Event ℕ) :=
  [⟨0, 0, .start (.operation (.listDescriptions 0 20 none none))⟩, ⟨0, 0, .acquire⟩,
    ⟨0, 1, .start .getClient⟩]

/-- Whether call 0 awaits `acreate_client`. -/
def creatorAwaits (s : Sessions ℕ) : Bool :=
  match s.calls 0 with
  | some (_, .creating) => true
  | _ => false

theorem createsSoundly_of_queuedRun :
    ∃ s s' : Sessions ℕ, Run (step Settings.default) (fun _ _ => True) initial queuedRun s ∧
      creatorAwaits s = true ∧ step Settings.default s ⟨1, 0, .created (.ok 0)⟩ = some s' ∧
      CreatesSoundly Settings.default s ⟨1, 0, .created (.ok 0)⟩ s' := by
  obtain ⟨s, s', hrun, h, hawaits⟩ : ∃ s s', Run (step Settings.default) (fun _ _ => True)
      initial queuedRun s ∧ step Settings.default s ⟨1, 0, .created (.ok 0)⟩ = some s' ∧
      creatorAwaits s = true :=
    Run.of_observed_step (p := fun s _ => creatorAwaits s) (by decide +kernel)
  exact ⟨s, s', hrun, hawaits, h, createsSoundly_of_run hrun h⟩

/-- Whether call 1 has been refused by the backoff. -/
def refusedAfterReset (s : Sessions ℕ) : Bool :=
  match s.calls 1 with
  | some (.getClient, .done (.error x)) => x.isinstance .connectionError
  | _ => false

/-- Whether call 1 waits for the lock. -/
def callerWaits (s : Sessions ℕ) : Bool :=
  match s.calls 1 with
  | some (_, .waiting) => true
  | _ => false

/-- The client is created for both callers, but the query of its creator fails and resets it
before the other one gets the lock. -/
theorem waiting_caller_is_refused :
    ∃ s s' : Sessions ℕ, Run (step Settings.default) (fun _ _ => True) initial
        (queuedRun ++ [⟨1, 0, .created (.ok 0)⟩, ⟨1, 0, .answered (.error disconnected)⟩]) s ∧
      (∃ op, s.calls 1 = some (op, .waiting)) ∧
      step Settings.default s ⟨1, 1, .acquire⟩ = some s' ∧ refusedAfterReset s' = true := by
  obtain ⟨s, s', hrun, h, hobserved⟩ : ∃ s s', Run (step Settings.default) (fun _ _ => True)
      initial (queuedRun ++
        [⟨1, 0, .created (.ok 0)⟩, ⟨1, 0, .answered (.error disconnected)⟩]) s ∧
      step Settings.default s ⟨1, 1, .acquire⟩ = some s' ∧
      (callerWaits s && refusedAfterReset s') = true :=
    Run.of_observed_step (p := fun s s' => callerWaits s && refusedAfterReset s')
      (by decide +kernel)
  rw [Bool.and_eq_true, callerWaits] at hobserved
  obtain ⟨hwaits, hrefused⟩ := hobserved
  refine ⟨s, s', hrun, ?_, h, hrefused⟩
  split at hwaits
  · exact ⟨_, by assumption⟩
  · cases hwaits

end Sessions

end ImageDescriptor.Db
