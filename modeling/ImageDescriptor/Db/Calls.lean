/-
# One call of an operation against an arbitrary world

While a call is suspended, any other call may change the module variables.  Seen from one
call, all that the rest of the process and the outside can do is to choose the module
variables and the clock reading at each resumption, and what the two awaited calls end
with.  A `World` is such a choice; a result about all worlds holds in every interleaving.
-/
import ImageDescriptor.Db.Supabase

namespace ImageDescriptor.Db

variable {Client : Type}

/-- What one call meets: the module variables and the clock each time it is resumed, and
how `acreate_client` and the query end if they are awaited. -/
structure World (Client : Type) where
  atStart : Shared Client
  lockTime : ℚ
  atLock : Shared Client
  acreateClient : Except Exc Client
  createdTime : ℚ
  atCreated : Shared Client
  execute : Except Exc Answer
  answerTime : ℚ
  atAnswer : Shared Client

variable (cfg : Settings) (q : Query) (w : World Client)

/-- The call after its wait for the lock, if it had to wait. -/
def afterLock : Phase Client → Phase Client
  | .waiting => (acquire cfg w.lockTime (.operation q) w.atLock).2
  | p => p

/-- The call after `acreate_client`, if it awaited it. -/
def afterCreate : Phase Client → Phase Client
  | .creating => (created w.createdTime (.operation q) w.atCreated w.acreateClient).2
  | p => p

/-- The call after its query, if it awaited it. -/
def afterQuery : Phase Client → Phase Client
  | .querying q' _ => (answered w.answerTime q' w.atAnswer w.execute).2
  | p => p

/-- A call that finds a client and gets the answer `a`. -/
def World.answering (c : Client) (a : Answer) : World Client where
  atStart := ⟨some c, 0, 0⟩
  lockTime := 0
  atLock := ⟨some c, 0, 0⟩
  acreateClient := .ok c
  createdTime := 0
  atCreated := ⟨some c, 0, 0⟩
  execute := .ok a
  answerTime := 0
  atAnswer := ⟨some c, 0, 0⟩

/-- The last phase of the call. -/
def lastPhase : Phase Client :=
  afterQuery w (afterCreate q w (afterLock cfg q w (start (.operation q) w.atStart)))

/-- The ending of a phase in which the call has ended. -/
def Phase.ending : Phase Client → Ending (Reply Client)
  | .done r => .ofExcept r
  | _ => .cancelled

/-- How the call ends. -/
def call : Ending (Reply Client) := (lastPhase cfg q w).ending

/-- The value of a call that returns a boolean. -/
def Reply.isTrue : Reply Client → Bool
  | .pong ok => ok
  | .saved ok => ok
  | .deleted ok => ok
  | _ => true

/-- The value of a call that returns a row. -/
def Reply.toRow : Reply Client → Option Row
  | .row r => r
  | _ => none

/-- `save_description`. -/
def saveDescription (cfg : Settings) (row : Row) (w : World Client) : Ending Bool :=
  (call cfg (.saveDescription row) w).map Reply.isTrue

/-- `delete_description` of the database module. -/
def deleteDescription (cfg : Settings) (cogImageId : String) (w : World Client) : Ending Bool :=
  (call cfg (.deleteDescription cogImageId) w).map Reply.isTrue

/-- `get_description` of the database module. -/
def getDescription (cfg : Settings) (cogImageId : String) (w : World Client) :
    Ending (Option Row) :=
  (call cfg (.getDescription cogImageId) w).map Reply.toRow

/-! ### Which exception reaches the operation -/

/-- The exception with which the query ends. -/
def World.queryFailure : Option Exc :=
  match w.execute with
  | .error e => some e
  | .ok _ => none

/-- The exception that is raised into the operation: by the refusal or the overflow in
`get_client`, by `acreate_client`, or by the query. -/
def World.failure : Option Exc :=
  match w.atStart.client with
  | some _ => w.queryFailure
  | none =>
    match lockedSection cfg w.lockTime w.atLock with
    | .error e => some e
    | .ok (some _) => w.queryFailure
    | .ok none =>
      match w.acreateClient with
      | .error e => some e
      | .ok _ => w.queryFailure

/-- The answer that the database gave to the query of the call. -/
def World.dbAnswer : Option Answer :=
  match w.failure cfg, w.execute with
  | none, .ok a => some a
  | _, _ => none

/-- The call is refused because the backoff is running. -/
def World.Refused : Prop :=
  w.atStart.client = none ∧ w.atLock.client = none ∧ BackoffRunning cfg w.lockTime w.atLock

/-- The call awaits `acreate_client`. -/
def World.Creates : Prop :=
  w.atStart.client = none ∧ w.atLock.client = none ∧
    ¬ BackoffRunning cfg w.lockTime w.atLock ∧ ¬ BackoffOverflows w.atLock

/-- The call awaits its query. -/
def World.Queries : Prop :=
  (∃ c, w.atStart.client = some c) ∨
    (w.atStart.client = none ∧ ∃ c, w.atLock.client = some c) ∨
    (w.Creates cfg ∧ ∃ c, w.acreateClient = .ok c)

/-- The call fails with a `ConnectionError`: it is refused, or what it awaits ends with
one. -/
inductive World.ConnectionLost : Prop
  | refused (h : w.Refused cfg)
  | creation (h : w.Creates cfg) {e : Exc} (he : w.acreateClient = .error e)
      (hcls : e.isinstance .connectionError = true)
  | query (h : w.Queries cfg) {e : Exc} (he : w.execute = .error e)
      (hcls : e.isinstance .connectionError = true)

variable {cfg q w}

lemma afterQuery_querying {c : Client} :
    (∃ e, w.queryFailure = some e ∧
        afterQuery w (.querying q c) = .done (onException e (.operation q)).2) ∨
      (w.queryFailure = none ∧ ∃ a, w.execute = .ok a ∧
        afterQuery w (.querying q c) = .done (.ok (onSuccess a q))) := by
  rcases hx : w.execute with e | a
  · exact .inl ⟨e, by simp [World.queryFailure, hx], by simp [afterQuery, answered, hx]⟩
  · exact .inr ⟨by simp [World.queryFailure, hx], a, rfl, by simp [afterQuery, answered, hx]⟩

/-- **What a call returns.**  The call ends by its `except` clauses when an exception has
been raised into it, and otherwise returns what the answer of the database says. -/
theorem call_spec :
    (∃ e, w.failure cfg = some e ∧
        call cfg q w = .ofExcept (onException e (.operation q)).2) ∨
      (∃ a, w.failure cfg = none ∧ w.execute = .ok a ∧
        call cfg q w = .value (onSuccess a q)) := by
  have hquery : ∀ c, lastPhase cfg q w = afterQuery w (.querying q c) →
      w.failure cfg = w.queryFailure →
      (∃ e, w.failure cfg = some e ∧
          call cfg q w = .ofExcept (onException e (.operation q)).2) ∨
        (∃ a, w.failure cfg = none ∧ w.execute = .ok a ∧
          call cfg q w = .value (onSuccess a q)) := by
    intro c hlast hfail
    rcases afterQuery_querying (q := q) (w := w) (c := c) with ⟨e, he, h⟩ | ⟨he, a, ha, h⟩
    · exact .inl ⟨e, by rw [hfail, he], by rw [call, hlast, h, Phase.ending]⟩
    · exact .inr ⟨a, by rw [hfail, he], ha, by rw [call, hlast, h, Phase.ending]; rfl⟩
  rcases hstart : w.atStart.client with _ | c
  · rcases hlock : lockedSection cfg w.lockTime w.atLock with e | _ | c
    · -- refused, or the delay overflows
      refine .inl ⟨e, by simp [World.failure, hstart, hlock], ?_⟩
      simp [call, lastPhase, start, hstart, afterLock, acquire, hlock, afterCreate, afterQuery,
        Phase.ending]
    · rcases hcreate : w.acreateClient with e | c
      · refine .inl ⟨e, by simp [World.failure, hstart, hlock, hcreate], ?_⟩
        simp [call, lastPhase, start, hstart, afterLock, acquire, hlock, afterCreate, created,
          clientCreated, hcreate, afterQuery, Phase.ending]
      · refine hquery c ?_ (by simp [World.failure, hstart, hlock, hcreate])
        simp [lastPhase, start, hstart, afterLock, acquire, hlock, afterCreate, created,
          clientCreated, hcreate, withClient]
    · refine hquery c ?_ (by simp [World.failure, hstart, hlock])
      simp [lastPhase, start, hstart, afterLock, acquire, hlock, afterCreate, withClient]
  · refine hquery c ?_ (by simp [World.failure, hstart])
    simp [lastPhase, start, hstart, afterLock, afterCreate, withClient]

/-! ### The three operations of the routes -/

lemma call_of_failure (q : Query) {e : Exc} (h : w.failure cfg = some e) :
    call cfg q w = .ofExcept (onException e (.operation q)).2 := by
  rcases @call_spec _ cfg q w with ⟨e', he', hcall⟩ | ⟨a, hnone, -, -⟩
  · rw [hcall, Option.some.inj (h.symm.trans he')]
  · rw [h] at hnone
    cases hnone

lemma call_of_success (q : Query) {a : Answer} (h : w.failure cfg = none)
    (ha : w.execute = .ok a) : call cfg q w = .value (onSuccess a q) := by
  rcases @call_spec _ cfg q w with ⟨e', he', -⟩ | ⟨a', -, ha', hcall⟩
  · rw [h] at he'
    cases he'
  · rw [ha, Except.ok.injEq] at ha'
    rw [hcall, ha']

/-- A save that fails returns `False`, except that it raises a `ConnectionError` again. -/
lemma saveDescription_of_failure (row : Row) {e : Exc} (h : w.failure cfg = some e) :
    saveDescription cfg row w =
      if e.isinstance .connectionError then .raised e else .value false := by
  rw [saveDescription, call_of_failure _ h]
  by_cases hc : e.isinstance .connectionError = true
  · have ht := Exc.not_timeoutError_of_connectionError hc
    simp [onException, hc, ht, Ending.ofExcept, Ending.map]
  · by_cases ht : e.isinstance .timeoutError = true <;>
      simp [onException, hc, ht, Ending.ofExcept, Ending.map, Reply.isTrue]

lemma deleteDescription_of_failure (id : String) {e : Exc} (h : w.failure cfg = some e) :
    deleteDescription cfg id w =
      if e.isinstance .connectionError then .raised e else .value false := by
  rw [deleteDescription, call_of_failure _ h]
  by_cases hc : e.isinstance .connectionError = true <;>
    simp [onException, hc, Ending.ofExcept, Ending.map, Reply.isTrue]

lemma getDescription_of_failure (id : String) {e : Exc} (h : w.failure cfg = some e) :
    getDescription cfg id w =
      if e.isinstance .connectionError then .raised e else .value none := by
  rw [getDescription, call_of_failure _ h]
  by_cases hc : e.isinstance .connectionError = true <;>
    simp [onException, hc, Ending.ofExcept, Ending.map, Reply.toRow]

lemma deleteDescription_of_success (id : String) {a : Answer} (h : w.failure cfg = none)
    (ha : w.execute = .ok a) :
    deleteDescription cfg id w = .value (!a.data.isEmpty) := by
  rw [deleteDescription, call_of_success _ h ha]
  rfl

lemma getDescription_of_success (id : String) {a : Answer} (h : w.failure cfg = none)
    (ha : w.execute = .ok a) : getDescription cfg id w = .value a.data.head? := by
  rw [getDescription, call_of_success _ h ha]
  rfl

/-! ### Which failures are lost connections -/

/-- A call that found no client before its query has created one. -/
lemma World.Queries.created (h : w.Queries cfg) (hstart : w.atStart.client = none)
    (hlock : w.atLock.client = none) : w.Creates cfg ∧ ∃ c, w.acreateClient = .ok c := by
  rcases h with ⟨c, hc⟩ | ⟨-, c, hc⟩ | hcreated
  · rw [hstart] at hc
    cases hc
  · rw [hlock] at hc
    cases hc
  · exact hcreated

lemma World.Queries.not_refused (h : w.Queries cfg) : ¬ w.Refused cfg := by
  rintro ⟨hstart, hlock, hrunning⟩
  obtain ⟨⟨-, -, hnot, -⟩, -⟩ := h.created hstart hlock
  exact hnot hrunning

/-- A call that awaits its query has not failed in `acreate_client`. -/
lemma World.Queries.acreateClient_ne (h : w.Queries cfg) (hcr : w.Creates cfg) (e : Exc) :
    w.acreateClient ≠ .error e := by
  intro he
  obtain ⟨-, c, hc⟩ := h.created hcr.1 hcr.2.1
  rw [he] at hc
  cases hc

lemma World.ConnectionLost.iff_of_queries (h : w.Queries cfg) {e : Exc}
    (he : w.execute = .error e) :
    w.ConnectionLost cfg ↔ e.isinstance .connectionError = true := by
  constructor
  · rintro (hr | ⟨hcr, he', -⟩ | ⟨-, he', hcls⟩)
    · exact absurd hr h.not_refused
    · exact absurd he' (h.acreateClient_ne hcr _)
    · rw [he, Except.error.injEq] at he'
      exact he' ▸ hcls
  · exact .query h he

/-- Which exception reached a call, told by the world alone. -/
lemma World.failure_cases {e : Exc} (h : w.failure cfg = some e) :
    (w.Refused cfg ∧ e.cls = .connectionError) ∨
      (w.atStart.client = none ∧ w.atLock.client = none ∧ BackoffOverflows w.atLock ∧
        e = intTooLarge) ∨
      (w.Creates cfg ∧ w.acreateClient = .error e) ∨
      (w.Queries cfg ∧ w.execute = .error e) := by
  have hexec : w.queryFailure = some e → w.execute = .error e := by
    intro hq
    rcases hx : w.execute with e' | a <;> simp_all [World.queryFailure]
  rcases hstart : w.atStart.client with _ | c
  · rcases hlock : w.atLock.client with _ | c
    · rcases lockedSection_none cfg w.lockTime hlock with
        ⟨hrun, r, hr⟩ | ⟨hover, hr⟩ | ⟨hrun, hover, hr⟩
      · refine .inl ⟨⟨hstart, hlock, hrun⟩, ?_⟩
        obtain rfl : backoffRefusal r = e := by simpa [World.failure, hstart, hr] using h
        rfl
      · refine .inr (.inl ⟨rfl, rfl, hover, ?_⟩)
        simpa [World.failure, hstart, hr, eq_comm] using h
      · have hcr : w.Creates cfg := ⟨hstart, hlock, hrun, hover⟩
        rcases hcreate : w.acreateClient with e' | c
        · refine .inr (.inr (.inl ⟨hcr, ?_⟩))
          simpa [World.failure, hstart, hr, hcreate] using h
        · refine .inr (.inr (.inr ⟨.inr (.inr ⟨hcr, c, hcreate⟩), hexec ?_⟩))
          simpa [World.failure, hstart, hr, hcreate] using h
    · refine .inr (.inr (.inr ⟨.inr (.inl ⟨hstart, c, hlock⟩), hexec ?_⟩))
      simpa [World.failure, hstart, lockedSection_some hlock] using h
  · refine .inr (.inr (.inr ⟨.inl ⟨c, hstart⟩, hexec ?_⟩))
    simpa [World.failure, hstart] using h

lemma World.connectionLost_iff {e : Exc} (h : w.failure cfg = some e) :
    w.ConnectionLost cfg ↔ e.isinstance .connectionError = true := by
  rcases World.failure_cases h with
    ⟨hr, hcls⟩ | ⟨hstart, hlock, hover, rfl⟩ | ⟨hcr, he⟩ | ⟨hq, he⟩
  · exact ⟨fun _ => by simp [Exc.isinstance, hcls, ExcClass.mro], fun _ => .refused hr⟩
  · -- the overflow is no `ConnectionError`, and it excludes the three ways to meet one
    refine ⟨?_, fun hc => absurd hc (by decide)⟩
    rintro (hr | ⟨hcr, -, -⟩ | ⟨hq, -, -⟩)
    · exact absurd hover hr.2.2.not_overflows
    · exact absurd hover hcr.2.2.2
    · exact absurd hover (hq.created hstart hlock).1.2.2.2
  · constructor
    · rintro (hr | ⟨-, he', hcls⟩ | ⟨hq, -, -⟩)
      · exact absurd hr.2.2 hcr.2.2.1
      · rw [he, Except.error.injEq] at he'
        exact he' ▸ hcls
      · exact absurd he (hq.acreateClient_ne hcr e)
    · exact .creation hcr he
  · exact World.ConnectionLost.iff_of_queries hq he

lemma World.execute_of_success (h : w.failure cfg = none) : ∃ a, w.execute = .ok a := by
  rcases @call_spec _ cfg .ping w with ⟨e, he, -⟩ | ⟨a, -, ha, -⟩
  · rw [h] at he
    cases he
  · exact ⟨a, ha⟩

lemma World.dbAnswer_of_failure {e : Exc} (h : w.failure cfg = some e) :
    w.dbAnswer cfg = none := by
  simp [World.dbAnswer, h]

lemma World.dbAnswer_of_success {a : Answer} (h : w.failure cfg = none)
    (ha : w.execute = .ok a) : w.dbAnswer cfg = some a := by
  simp [World.dbAnswer, h, ha]

end ImageDescriptor.Db
