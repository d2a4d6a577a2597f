/-
# The shared HTTP client

`http_client` keeps one `httpx.AsyncClient` in a module variable.  `get_client` creates it
under a lock of the event loop, in which nothing is awaited; `close_client` takes no lock, and
awaits `aclose` between its look at the variable and the moment at which it clears it.
`aclose` marks the client closed before it awaits anything.
-/
import Mathlib.Data.Set.Subsingleton
import ImageDescriptor.Lib.Run
import ImageDescriptor.Python.Exceptions

namespace ImageDescriptor.App

open Lib

/-- Where a call stands: `get_client` waits for the lock or has ended, `close_client` awaits
the `aclose` of a client or has ended. -/
inductive ClientCall
  | waiting
  | got (ending : Ending ℕ)
  | closing (client : ℕ)
  | closed (ending : Ending Unit)

/-- The module variables `_client` and `_lock`, the clients that have been created, which are
numbered in the order of their creation, and the calls. -/
structure HttpClients where
  client : Option ℕ
  /-- `none` before the lock has been created, else whether it is locked. -/
  lock : Option Bool
  created : ℕ
  isClosed : ℕ → Bool
  calls : ℕ → Option ClientCall

/-- What happens: a call is made, a call gets the lock, an `aclose` ends, or a call is
cancelled where it is suspended.  `made` is how the constructor of `AsyncClient` ends when it
is called. -/
inductive ClientEvent
  | getClient (id : ℕ) (made : Except Exc Unit)
  | acquire (id : ℕ) (made : Except Exc Unit)
  | closeClient (id : ℕ)
  | acloseEnds (id : ℕ) (r : Except Exc Unit)
  | cancel (id : ℕ)

namespace HttpClients

/-- The module after its import. -/
def imported : HttpClients := ⟨none, none, 0, fun _ => false, fun _ => none⟩

def put (s : HttpClients) (id : ℕ) (call : ClientCall) : HttpClients :=
  { s with calls := Function.update s.calls id (some call) }

/-- `_client`, when `_client is not None and not _client.is_closed`. -/
def openClient (s : HttpClients) : Option ℕ := s.client.filter fun c => !s.isClosed c

/-- `_get_lock()`. -/
def getLock (s : HttpClients) : HttpClients := { s with lock := some (s.lock.getD false) }

/-- `async with _get_lock():` around statements that await nothing. -/
def underLock (body : HttpClients → HttpClients) (s : HttpClients) : HttpClients :=
  { body { s with lock := some true } with lock := some false }

/-- The statements of `get_client` under the lock. -/
def create (id : ℕ) (made : Except Exc Unit) (s : HttpClients) : HttpClients :=
  match s.openClient with
  | some c => s.put id (.got (.value c))
  | none =>
    match made with
    | .ok () =>
      { s with client := some s.created, created := s.created + 1 }.put id
        (.got (.value s.created))
    | .error e => s.put id (.got (.raised e))

/-- One event; `none` when it cannot happen. -/
def step (s : HttpClients) : ClientEvent → Option HttpClients
  | .getClient id made =>
    match s.calls id with
    | some _ => none
    | none =>
      match s.openClient with
      | some c => some (s.put id (.got (.value c)))
      | none =>
        let s := s.getLock
        if s.lock = some true then some (s.put id .waiting)
        else some (s.underLock (create id made))
  | .acquire id made =>
    match s.calls id with
    | some .waiting =>
      if s.lock = some true then none else some (s.underLock (create id made))
    | _ => none
  | .closeClient id =>
    match s.calls id with
    | some _ => none
    | none =>
      match s.openClient with
      | some c => some ({ s with isClosed := Function.update s.isClosed c true }.put id (.closing c))
      | none => some (s.put id (.closed (.value ())))
  | .acloseEnds id r =>
    match s.calls id with
    | some (.closing _) =>
      match r with
      -- whatever the variable refers to by now
      | .ok () => some ({ s with client := none }.put id (.closed (.value ())))
      | .error e => some (s.put id (.closed (.raised e)))
    | _ => none
  | .cancel id =>
    match s.calls id with
    | some .waiting => some (s.put id (.got .cancelled))
    | some (.closing _) => some (s.put id (.closed .cancelled))
    | _ => none

/-- The client has been created and has not been closed. -/
def Unclosed (s : HttpClients) (c : ℕ) : Prop := c < s.created ∧ s.isClosed c = false

/-- The clients that are open are accounted for: there is one at most, and the module variable
refers to it. -/
structure OneClient (s : HttpClients) : Prop where
  atMostOne : {c | s.Unclosed c}.Subsingleton
  referred : ∀ c, s.Unclosed c → s.client = some c

/-- A `close_client` that is about to clear the module variable finds no open client there. -/
def ClearsClosed (s : HttpClients) (e : ClientEvent) : Prop :=
  ∀ id, e = .acloseEnds id (.ok ()) → s.openClient = none

/-- The `aclose` of a `close_client` returns. -/
def acloseReturns : ClientEvent → Bool
  | .acloseEnds _ (.ok ()) => true
  | _ => false

instance (s : HttpClients) (e : ClientEvent) : Decidable (ClearsClosed s e) :=
  decidable_of_iff (acloseReturns e = true → s.openClient = none) <| by
    constructor
    · rintro h id rfl
      exact h rfl
    · intro h hclosed
      rcases e with _ | _ | _ | ⟨id, _ | _⟩ | _
      all_goals first
        | exact h id rfl
        | cases hclosed

/-! ### What an event does to the clients -/

/-- The number of the module variable is the number of a client that was created. -/
def Numbered (s : HttpClients) : Prop := ∀ c, s.client = some c → c < s.created

/-- What an event does to the module variable and the clients. -/
inductive Moves (s : HttpClients) : ClientEvent → HttpClients → Prop
  | keep {e : ClientEvent} {s' : HttpClients} (hclient : s'.client = s.client)
      (hcreated : s'.created = s.created) (hclosed : s'.isClosed = s.isClosed)
      (hkeeps : ∀ id, e ≠ .acloseEnds id (.ok ())) : Moves s e s'
  | create {e : ClientEvent} {s' : HttpClients} (hnone : s.openClient = none)
      (hclient : s'.client = some s.created) (hcreated : s'.created = s.created + 1)
      (hclosed : s'.isClosed = s.isClosed) (hkeeps : ∀ id, e ≠ .acloseEnds id (.ok ())) :
      Moves s e s'
  | close {id c : ℕ} {s' : HttpClients} (hopen : s.openClient = some c)
      (hclient : s'.client = s.client) (hcreated : s'.created = s.created)
      (hclosed : s'.isClosed = Function.update s.isClosed c true) :
      Moves s (.closeClient id) s'
  | clear {id : ℕ} {s' : HttpClients} (hclient : s'.client = none)
      (hcreated : s'.created = s.created) (hclosed : s'.isClosed = s.isClosed) :
      Moves s (.acloseEnds id (.ok ())) s'

variable {s s' : HttpClients} {e : ClientEvent} {es : List ClientEvent} {c : ℕ}

lemma openClient_eq_some_iff : s.openClient = some c ↔ s.client = some c ∧ s.isClosed c = false := by
  simp [openClient, Option.filter_eq_some_iff]

lemma openClient_eq_none_iff :
    s.openClient = none ↔ ∀ c, s.client = some c → s.isClosed c = true := by
  simp [openClient, Option.filter_eq_none_iff]

lemma moves_underLock_create {id : ℕ} {made : Except Exc Unit}
    (hkeeps : ∀ id, e ≠ .acloseEnds id (.ok ())) : Moves s e (s.underLock (create id made)) := by
  have hsame : ({ s with lock := some true } : HttpClients).openClient = s.openClient := rfl
  unfold underLock create
  rw [hsame]
  rcases hopen : s.openClient with _ | c
  · rcases made with x | ⟨⟩
    · exact .keep rfl rfl rfl hkeeps
    · exact .create hopen rfl rfl rfl hkeeps
  · exact .keep rfl rfl rfl hkeeps

lemma moves_of_step (h : step s e = some s') : Moves s e s' := by
  cases e with
  | getClient id made =>
    simp only [step] at h
    split at h
    · cases h
    · split at h
      · cases h
        exact .keep rfl rfl rfl (by simp)
      · split at h
        · cases h
          exact .keep rfl rfl rfl (by simp)
        · cases h
          -- the lock is taken and left all the same
          have hlock : s.getLock.underLock (create id made) = s.underLock (create id made) := rfl
          rw [hlock]
          exact moves_underLock_create (by simp)
  | acquire id made =>
    simp only [step] at h
    split at h
    · split at h
      · cases h
      · cases h
        exact moves_underLock_create (by simp)
    · cases h
  | closeClient id =>
    simp only [step] at h
    split at h
    · cases h
    · split at h
      · rename_i hopen
        cases h
        exact .close hopen rfl rfl rfl
      · cases h
        exact .keep rfl rfl rfl (by simp)
  | acloseEnds id r =>
    simp only [step] at h
    split at h
    · split at h
      · cases h
        exact .clear rfl rfl rfl
      · cases h
        exact .keep rfl rfl rfl (by simp)
    · cases h
  | cancel id =>
    simp only [step] at h
    split at h
    · cases h
      exact .keep rfl rfl rfl (by simp)
    · cases h
      exact .keep rfl rfl rfl (by simp)
    · cases h

/-! ### One client at a time -/

lemma numbered_step (hs : Numbered s) (h : Moves s e s') : Numbered s' := by
  intro c hc
  cases h with
  | keep hclient hcreated _ _ | close _ hclient hcreated _ =>
    rw [hcreated]
    exact hs c (hclient ▸ hc)
  | create _ hclient hcreated _ _ =>
    rw [hclient, Option.some.injEq] at hc
    omega
  | clear hclient _ _ => cases hclient.symm.trans hc

/-- It is enough that the module variable refers to every open client. -/
lemma oneClient_iff : OneClient s ↔ ∀ c, s.Unclosed c → s.client = some c := by
  refine ⟨OneClient.referred, fun h => ⟨fun c hc d hd => ?_, h⟩⟩
  exact Option.some.inj ((h c hc).symm.trans (h d hd))

/-- While the open clients are accounted for, none is open when the module variable shows
none. -/
lemma OneClient.not_unclosed (hs : OneClient s) (hnone : s.openClient = none) :
    ¬ s.Unclosed c := by
  intro hc
  have hclosed := openClient_eq_none_iff.mp hnone c (hs.referred c hc)
  rw [hc.2] at hclosed
  exact Bool.false_ne_true hclosed

/-- What becomes of a client that has been created: it stays open, or it is the one that is
closed. -/
lemma Moves.unclosed (h : Moves s e s') (hc : s.Unclosed c) :
    s'.Unclosed c ∨ s.client = some c := by
  cases h with
  | keep _ hcreated hclosed _ | clear _ hcreated hclosed =>
    left
    rwa [Unclosed, hcreated, hclosed]
  | create _ _ hcreated hclosed _ =>
    left
    rw [Unclosed, hcreated, hclosed]
    exact ⟨Nat.lt_succ_of_lt hc.1, hc.2⟩
  | @close id d s' hopen _ hcreated hclosed =>
    by_cases hd : c = d
    · subst hd
      exact .inr (openClient_eq_some_iff.mp hopen).1
    · left
      rw [Unclosed, hcreated, hclosed, Function.update_of_ne hd]
      exact hc

/-- An open client that the module variable has lost is never found again. -/
lemma oneClient_of_step (h : Moves s e s') (hs' : OneClient s') : OneClient s := by
  rw [oneClient_iff] at hs' ⊢
  intro c hc
  rcases h.unclosed hc with hc' | hclient
  · have hclient' := hs' c hc'
    cases h with
    | keep hclient _ _ _ | close _ hclient _ _ => rwa [hclient] at hclient'
    | create _ hclient _ _ _ =>
      -- the variable refers to the client that was created just now
      rw [hclient, Option.some.injEq] at hclient'
      exact absurd hc.1 (by omega)
    | clear hclient _ _ => cases hclient.symm.trans hclient'
  · exact hclient

/-- After a step the open clients are accounted for exactly when the step has not cleared the
module variable while it referred to an open client. -/
lemma oneClient_step_iff (hn : Numbered s) (hs : OneClient s) (h : Moves s e s') :
    OneClient s' ↔ s.ClearsClosed e := by
  rw [oneClient_iff]
  cases h with
  | keep hclient hcreated hclosed hkeeps =>
    refine iff_of_true (fun c hc => ?_) fun id he => absurd he (hkeeps id)
    rw [Unclosed, hcreated, hclosed] at hc
    rw [hclient]
    exact hs.referred c hc
  | create hnone hclient hcreated hclosed hkeeps =>
    refine iff_of_true (fun c hc => ?_) fun id he => absurd he (hkeeps id)
    rw [Unclosed, hcreated, hclosed] at hc
    rcases Nat.lt_succ_iff_lt_or_eq.mp hc.1 with hold | rfl
    · exact absurd ⟨hold, hc.2⟩ (hs.not_unclosed hnone)
    · exact hclient
  | @close id d s' hopen hclient hcreated hclosed =>
    refine iff_of_true (fun c hc => ?_) fun id he => by cases he
    rw [Unclosed, hcreated, hclosed] at hc
    by_cases hd : c = d
    · subst hd
      simp at hc
    · rw [Function.update_of_ne hd] at hc
      rw [hclient]
      exact hs.referred c hc
  | @clear id s' hclient hcreated hclosed =>
    constructor
    · intro hs' _ _
      rw [openClient_eq_none_iff]
      intro c hc
      by_contra hopen
      have hunclosed : s'.Unclosed c := by
        rw [Unclosed, hcreated, hclosed]
        exact ⟨hn c hc, by simpa using hopen⟩
      cases hclient.symm.trans (hs' c hunclosed)
    · intro hcond c hc
      rw [Unclosed, hcreated, hclosed] at hc
      exact absurd hc (hs.not_unclosed (hcond id rfl))

lemma oneClient_imported : OneClient imported :=
  oneClient_iff.mpr fun c hc => absurd hc.1 (Nat.not_lt_zero c)

/-- **One client at a time.**  In every interleaving of the calls the open clients are
accounted for exactly as long as no `close_client` clears the module variable while it refers
to an open client, that is to one which was created during the `aclose`. -/
theorem oneClient_iff_clearsClosed (hrun : Run step (fun _ _ => True) imported es s) :
    OneClient s ↔ Run step ClearsClosed imported es s := by
  refine hrun.holds_iff (I := Numbered) (J := OneClient) ?_ ?_ ?_ ?_ oneClient_imported
  · exact fun _ _ _ hs _ h => numbered_step hs (moves_of_step h)
  · exact fun _ _ _ hn hs _ h => oneClient_step_iff hn hs (moves_of_step h)
  · exact fun _ _ _ _ h => oneClient_of_step (moves_of_step h)
  · exact fun c hc => by cases hc

/-- The calls follow one another, as in a shutdown without requests. -/
def orderlyRun : List ClientEvent :=
  [.getClient 0 (.ok ()), .closeClient 1, .acloseEnds 1 (.ok ()), .getClient 2 (.ok ())]

theorem oneClient_of_orderlyRun :
    ∃ s, Run step (fun _ _ => True) imported orderlyRun s ∧ OneClient s ∧ s.client = some 1 := by
  obtain ⟨s, hclears, hclient⟩ : ∃ s, Run step ClearsClosed imported orderlyRun s ∧
      decide (s.client = some 1) = true := Run.of_observed (by decide +kernel)
  have hrun : Run step (fun _ _ => True) imported orderlyRun s :=
    hclears.mono fun _ _ _ => trivial
  exact ⟨s, hrun, (oneClient_iff_clearsClosed hrun).mpr hclears, of_decide_eq_true hclient⟩

/-- A client is created while the old one is being closed. -/
def forgottenRun : List ClientEvent :=
  [.getClient 0 (.ok ()), .closeClient 1, .getClient 2 (.ok ()), .acloseEnds 1 (.ok ())]

/-- The client that a caller got during the `aclose` is open, and the module variable does not
refer to it any more. -/
theorem not_oneClient_of_forgottenRun :
    ¬ ∀ s, Run step (fun _ _ => True) imported forgottenRun s → OneClient s := by
  intro h
  obtain ⟨s, hrun, hs⟩ : ∃ s, Run step (fun _ _ => True) imported forgottenRun s ∧
      (decide (1 < s.created) && !s.isClosed 1 && decide (s.client = none)) = true :=
    Run.of_observed (by decide +kernel)
  simp only [Bool.and_eq_true, decide_eq_true_eq, Bool.not_eq_true'] at hs
  cases hs.2.symm.trans ((h s hrun).referred 1 hs.1)

end HttpClients

end ImageDescriptor.App
