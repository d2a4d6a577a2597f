/-
# Which failures discard the client

The shared client should be discarded when a connection is lost, and by a failure that was
observed on that client.  The `except` clauses of the operations call `_reset_client` for
every exception that no earlier clause has taken: also when the database has answered with
an error, or a query without a clause for it has timed out, and also when the operation has
failed on a client that has been replaced meanwhile.
-/
import ImageDescriptor.Db.Sessions

namespace ImageDescriptor.Db

open Lib

variable {Client : Type}

/-- The connection could not be made, or was lost. -/
def lostConnection (e : Exc) : Bool :=
  e.isinstance .connectionError || e.isinstance .gaierror || e.isinstance .httpConnectError ||
    e.isinstance .httpConnectTimeout || e.isinstance .httpRemoteProtocolError ||
    decide (e.cls = .osError) || decide (e.cls = .httpError)

/-- The operation has a clause `except TimeoutError`. -/
def Query.hasTimeoutClause : Query → Bool
  | .ping | .saveDescription _ => true
  | _ => false

/-- The clauses of the operation count the exception: they call `_reset_client`. -/
def countsFailure (x : Exc) (op : Op) : Bool :=
  match op with
  | .getClient => false
  | .operation .ping => !x.isinstance .timeoutError
  | .operation q =>
    !((q.hasTimeoutClause && x.isinstance .timeoutError) || x.isinstance .connectionError)

lemma onException_fst (Client : Type) (x : Exc) (op : Op) :
    (onException x op : Bool × Except Exc (Reply Client)).1 = countsFailure x op := by
  rcases op with _ | q
  · rfl
  · cases q <;> by_cases ht : x.isinstance .timeoutError = true <;>
      by_cases hc : x.isinstance .connectionError = true <;>
      simp [onException, countsFailure, Query.hasTimeoutClause, ht, hc]

/-- A call that fails resets the client exactly when its clauses count the exception. -/
lemma fail_shared (now : ℚ) (op : Op) (g : Shared Client) (x : Exc) :
    (fail now op g x).1 = if countsFailure x op then resetClient now g else g := by
  have hfst := onException_fst Client x op
  rcases hex : (onException x op : Bool × Except Exc (Reply Client)) with ⟨_ | _, r⟩
  · rw [hex] at hfst
    simp [fail, hex, ← hfst]
  · rw [hex] at hfst
    simp [fail, hex, ← hfst]

/-- A reset is seen: it counts one more failure. -/
lemma resetClient_ne (now : ℚ) (g : Shared Client) : resetClient now g ≠ g := by
  intro h
  have hcount : g.consecutiveFailures + 1 = g.consecutiveFailures :=
    congrArg Shared.consecutiveFailures h
  omega

lemma fail_shared_eq_iff (now : ℚ) (op : Op) (g : Shared Client) (x : Exc) :
    (fail now op g x).1 = g ↔ countsFailure x op = false := by
  rw [fail_shared]
  by_cases hc : countsFailure x op = true
  · simp [hc, resetClient_ne]
  · simp [hc]

/-! ### Failures that are no lost connections -/

namespace Sessions

variable {cfg : Settings} {s s' : Sessions Client} {e : Event Client}

/-- The step in which the query of a call fails. -/
lemma step_failed {op : Op} {q : Query} {c : Client} {x : Exc} (h : step cfg s e = some s')
    (hcall : s.calls e.task = some (op, .querying q c)) (hres : e.resume = .answered (.error x)) :
    s'.shared = (fail e.time (.operation q) s.shared x).1 := by
  obtain ⟨-, hmoves⟩ := moves_of_step h
  rw [hres] at hmoves
  cases hmoves with
  | answered hcall' =>
    rw [hcall, Option.some.injEq, Prod.mk.injEq] at hcall'
    obtain ⟨-, hphase⟩ := hcall'
    cases hphase
    rfl

/-- **A failure that is no lost connection leaves the module variables alone exactly when it
is a timeout of an operation that has a clause for it.** -/
theorem rejected_query_spares_iff {op : Op} {q : Query} {c : Client} {x : Exc}
    (h : step cfg s e = some s') (hcall : s.calls e.task = some (op, .querying q c))
    (hres : e.resume = .answered (.error x)) (hx : lostConnection x = false) :
    s'.shared = s.shared ↔ q.hasTimeoutClause = true ∧ x.isinstance .timeoutError = true := by
  rw [step_failed h hcall hres, fail_shared_eq_iff]
  have hconn : x.isinstance .connectionError = false := by
    simp only [lostConnection, Bool.or_eq_false_iff] at hx
    exact hx.1.1.1.1.1.1
  cases q <;> simp [countsFailure, Query.hasTimeoutClause, hconn]

/-- A `ping` on client 0 that has no answer yet. -/
def pingedSession : Sessions ℕ where
  shared := ⟨some 0, 0, 0⟩
  holder := none
  calls := fun i => if i = 0 then some (.operation .ping, .querying .ping 0) else none
  now := 0
  lastRealFailure := none

/-- The error of `asyncio.wait_for`. -/
def queryTimeout : Exc := ⟨.timeoutError, ""⟩

theorem timed_out_ping_spares : ∃ s' : Sessions ℕ,
    step Settings.default pingedSession ⟨3, 0, .answered (.error queryTimeout)⟩ = some s' ∧
      s'.shared = pingedSession.shared := by
  obtain ⟨s', h⟩ : ∃ s', step Settings.default pingedSession
      ⟨3, 0, .answered (.error queryTimeout)⟩ = some s' := by
    simp [step, pingedSession]
  refine ⟨s', h, ?_⟩
  exact (rejected_query_spares_iff h rfl rfl (by decide)).mpr ⟨rfl, by decide⟩

/-- The `APIError` with which the database answers a page range past the end. -/
def rangeError : Exc := ⟨.exception, "Requested range not satisfiable"⟩

/-- The first call lists the descriptions; a client is created for it. -/
def listedRun : List (Event ℕ) :=
  [⟨0, 0, .start (.operation (.listDescriptions 100 20 none none))⟩, ⟨0, 0, .acquire⟩,
    ⟨1, 0, .created (.ok 0)⟩]

theorem rejected_list_discards_client :
    ∃ s s' : Sessions ℕ, Run (step Settings.default) (fun _ _ => True) initial listedRun s ∧
      step Settings.default s ⟨2, 0, .answered (.error rangeError)⟩ = some s' ∧
      lostConnection rangeError = false ∧ s.shared = ⟨some 0, 0, 0⟩ ∧
      s'.shared = ⟨none, 2, 1⟩ ∧ BackoffRunning Settings.default 2 s'.shared := by
  obtain ⟨s, s', hrun, h, hobserved⟩ : ∃ s s', Run (step Settings.default) (fun _ _ => True)
      initial listedRun s ∧ step Settings.default s ⟨2, 0, .answered (.error rangeError)⟩ =
        some s' ∧ decide (s.shared = ⟨some 0, 0, 0⟩ ∧ s'.shared = ⟨none, 2, 1⟩) = true :=
    Run.of_observed_step (by decide +kernel)
  obtain ⟨hshared, hreset⟩ := of_decide_eq_true hobserved
  refine ⟨s, s', hrun, h, by decide, hshared, hreset, ?_⟩
  rw [hreset]
  exact ⟨by decide, 1, by decide +kernel, by decide +kernel⟩

/-! ### Failures on a client that has been replaced -/

/-- The failure of an operation is counted although the shared client is not the one on
which it was observed. -/
def CountsStale (s : Sessions Client) (e : Event Client) : Prop :=
  ∃ op q c x c', s.calls e.task = some (op, .querying q c) ∧ e.resume = .answered (.error x) ∧
    s.shared.client = some c' ∧ c' ≠ c ∧ countsFailure x (.operation q) = true

/-- A step that changes the module variables while there is a shared client is a query that
fails on that client. -/
def DiscardsOwn (s : Sessions Client) (e : Event Client) (s' : Sessions Client) : Prop :=
  ∀ c, s.shared.client = some c → s'.shared ≠ s.shared →
    ∃ op q x, s.calls e.task = some (op, .querying q c) ∧ e.resume = .answered (.error x)

/-- While there is a shared client, the module variables change in the failure of a query
only. -/
lemma step_shared_of_client (hs : CreatesLocked s) {c' : Client}
    (hclient : s.shared.client = some c') (h : step cfg s e = some s')
    (hchange : s'.shared ≠ s.shared) :
    ∃ op q c x, s.calls e.task = some (op, .querying q c) ∧ e.resume = .answered (.error x) := by
  obtain ⟨t, i, resume⟩ := e
  cases (moves_of_step h).2 with
  | start | release | cancel => exact absurd rfl hchange
  | acquire hcall =>
    refine absurd ?_ hchange
    simp [put, acquire, lockedSection_some hclient]
  | created hcall =>
    rw [(hs i _ hcall).2] at hclient
    cases hclient
  | @answered op q c r hcall =>
    rcases r with x | a
    · exact ⟨op, q, c, x, hcall, rfl⟩
    · exact absurd rfl hchange

/-- **A step discards no other client than the one that has failed exactly when no failure
is counted that was observed on a client that has been replaced.**  This holds in every
state that any interleaving of the calls reaches. -/
theorem discardsOwn_iff {es : List (Event Client)}
    (hrun : Run (step cfg) (fun _ _ => True) initial es s) (h : step cfg s e = some s') :
    DiscardsOwn s e s' ↔ ¬ CountsStale s e := by
  have hs : CreatesLocked s := createsLocked_run hrun
  constructor
  · rintro hown ⟨op, q, c, x, c', hcall, hres, hclient, hne, hcounts⟩
    have hchange : s'.shared ≠ s.shared := by
      rw [step_failed h hcall hres, ne_eq, fail_shared_eq_iff, hcounts]
      simp
    obtain ⟨op', q', x', hcall', -⟩ := hown c' hclient hchange
    rw [hcall, Option.some.injEq, Prod.mk.injEq, Phase.querying.injEq] at hcall'
    exact hne hcall'.2.2.symm
  · intro hstale c' hclient hchange
    obtain ⟨op, q, c, x, hcall, hres⟩ := step_shared_of_client hs hclient h hchange
    have hcounts : countsFailure x (.operation q) = true := by
      by_contra hnot
      rw [step_failed h hcall hres] at hchange
      exact hchange ((fail_shared_eq_iff _ _ _ _).mpr (by simpa using hnot))
    obtain rfl : c' = c := by
      by_contra hne
      exact hstale ⟨op, q, c, x, c', hcall, hres, hclient, hne, hcounts⟩
    exact ⟨op, q, x, hcall, hres⟩

/-- Whether call `i` awaits its query on client `c`. -/
def queries (s : Sessions ℕ) (i c : ℕ) : Bool :=
  match s.calls i with
  | some (_, .querying _ c') => decide (c' = c)
  | _ => false

lemma calls_of_queries {s : Sessions ℕ} {i c : ℕ} (h : queries s i c = true) :
    ∃ op q, s.calls i = some (op, .querying q c) := by
  unfold queries at h
  split at h
  · rename_i op q c' hcall
    obtain rfl : c' = c := of_decide_eq_true h
    exact ⟨op, q, hcall⟩
  · cases h

/-- The error of a connection that the server has closed. -/
def disconnected : Exc := ⟨.httpRemoteProtocolError, "Server disconnected"⟩

/-- Call 1 is a second call on the client of call 0. -/
def sharedRun : List (Event ℕ) :=
  listedRun ++ [⟨1, 1, .start (.operation (.getDescription "img-1"))⟩]

theorem discardsOwn_at_first_failure :
    ∃ s s' : Sessions ℕ, Run (step Settings.default) (fun _ _ => True) initial sharedRun s ∧
      step Settings.default s ⟨2, 1, .answered (.error disconnected)⟩ = some s' ∧
      DiscardsOwn s ⟨2, 1, .answered (.error disconnected)⟩ s' := by
  obtain ⟨s, s', hrun, h, hobserved⟩ : ∃ s s', Run (step Settings.default) (fun _ _ => True)
      initial sharedRun s ∧ step Settings.default s ⟨2, 1, .answered (.error disconnected)⟩ =
        some s' ∧ (queries s 1 0 && decide (s.shared.client = some 0)) = true :=
    Run.of_observed_step (by decide +kernel)
  rw [Bool.and_eq_true, decide_eq_true_eq] at hobserved
  obtain ⟨hquery, hclient⟩ := hobserved
  obtain ⟨op, q, hcall⟩ := calls_of_queries hquery
  refine ⟨s, s', hrun, h, (discardsOwn_iff hrun h).mpr ?_⟩
  rintro ⟨op', q', c, x, c', hcall', -, hclient', hne, -⟩
  rw [hcall, Option.some.injEq, Prod.mk.injEq, Phase.querying.injEq] at hcall'
  rw [hclient, Option.some.injEq] at hclient'
  exact hne (hclient'.symm.trans hcall'.2.2)

/-- Call 1 fails and discards client 0; after the delay call 2 gets client 1, while call 0 is
still listing on client 0. -/
def replacedRun : List (Event ℕ) :=
  sharedRun ++
    [⟨2, 1, .answered (.error disconnected)⟩, ⟨4, 2, .start .getClient⟩, ⟨4, 2, .acquire⟩,
      ⟨4, 2, .created (.ok 1)⟩]

theorem late_failure_discards_new_client :
    ∃ s s' : Sessions ℕ, Run (step Settings.default) (fun _ _ => True) initial replacedRun s ∧
      step Settings.default s ⟨5, 0, .answered (.error disconnected)⟩ = some s' ∧
      s.shared.client = some 1 ∧ s'.shared.client = none ∧
      ¬ DiscardsOwn s ⟨5, 0, .answered (.error disconnected)⟩ s' := by
  obtain ⟨s, s', hrun, h, hobserved⟩ : ∃ s s', Run (step Settings.default) (fun _ _ => True)
      initial replacedRun s ∧ step Settings.default s ⟨5, 0, .answered (.error disconnected)⟩ =
        some s' ∧ (queries s 0 0 &&
          decide (s.shared.client = some 1 ∧ s'.shared.client = none)) = true :=
    Run.of_observed_step (by decide +kernel)
  rw [Bool.and_eq_true, decide_eq_true_eq] at hobserved
  obtain ⟨hquery, hclient, hreset⟩ := hobserved
  obtain ⟨op, q, hcall⟩ := calls_of_queries hquery
  refine ⟨s, s', hrun, h, hclient, hreset, fun hown => ?_⟩
  have hchange : s'.shared ≠ s.shared := by
    intro hsame
    rw [hsame, hclient] at hreset
    cases hreset
  -- the only client that may have failed here is the shared one, client 1
  obtain ⟨op', q', x, hcall', -⟩ := hown 1 hclient hchange
  rw [hcall, Option.some.injEq, Prod.mk.injEq, Phase.querying.injEq] at hcall'
  exact absurd hcall'.2.2 (by decide)

end Sessions

end ImageDescriptor.Db
