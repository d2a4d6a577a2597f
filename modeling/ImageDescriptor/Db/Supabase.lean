/-
# The Supabase client and its five operations

The module keeps one shared client, the time of the last failure and the number of
consecutive failures.  An operation first obtains the client from `get_client` and then
awaits one query.  Control returns to the event loop at three places: while the operation
waits for the lock of `get_client`, while `acreate_client` runs, and while the query runs.
The code between two of these places runs without interruption; each such segment is a
function of the module variables and the clock.  `Db/Sessions.lean` interleaves the
segments of any number of operations.
-/
import Mathlib.Order.Lattice
import ImageDescriptor.Config
import ImageDescriptor.Python.Json
import ImageDescriptor.Python.Numbers

namespace ImageDescriptor.Db

variable {Client : Type}

/-- A row of the table `image_descriptions`, or the columns of an upsert. -/
abbrev Row := Fields

/-- The module variables `_client`, `_last_failure_time` and `_consecutive_failures`. -/
structure Shared (Client : Type) where
  client : Option Client
  lastFailureTime : ℚ
  consecutiveFailures : ℕ
deriving DecidableEq

/-- The module variables when the module has been loaded. -/
def Shared.initial : Shared Client := ⟨none, 0, 0⟩

/-! ### `get_client` -/

/-- `_reset_client`. -/
def resetClient (now : ℚ) (g : Shared Client) : Shared Client where
  client := none
  lastFailureTime := now
  consecutiveFailures := g.consecutiveFailures + 1

/-- The magnitude from which on an `int` has no `float`. -/
def floatLimit : ℕ := 2 ^ 1024

/-- The error of the conversion of such an `int`. -/
def intTooLarge : Exc := ⟨.overflowError, "int too large to convert to float"⟩

/-- The delay after `n` failures: the power of two is an `int` that is converted to `float`
before it is multiplied with the base. -/
def backoffDelay (cfg : Settings) (n : ℕ) : Except Exc ℚ :=
  if floatLimit ≤ 2 ^ (n - 1) then .error intTooLarge
  else .ok (min (cfg.supabaseReconnectBackoffBase * 2 ^ (n - 1))
    cfg.supabaseReconnectBackoffMax)

/-- The error of a call that is refused because the backoff has not elapsed. -/
def backoffRefusal (remaining : ℚ) : Exc :=
  ⟨.connectionError, "Supabase reconnect backoff: " ++ formatFixed1 remaining ++ "s remaining"⟩

/-- What `get_client` does with the lock in hand and before it awaits anything: return the
client (`some`), go on to `acreate_client` (`none`), or raise. -/
def lockedSection (cfg : Settings) (now : ℚ) (g : Shared Client) : Except Exc (Option Client) :=
  match g.client with
  | some c => .ok (some c)
  | none =>
    if 0 < g.consecutiveFailures then do
      -- may raise: the power of two has to fit into a `float`
      let backoff ← backoffDelay cfg g.consecutiveFailures
      let elapsed := now - g.lastFailureTime
      if elapsed < backoff then throw (backoffRefusal (backoff - elapsed))
      else pure none
    else pure none

/-- The end of `get_client` after `acreate_client`. -/
def clientCreated (now : ℚ) (g : Shared Client) :
    Except Exc Client → Shared Client × Except Exc Client
  | .ok c => ({ g with client := some c, consecutiveFailures := 0 }, .ok c)
  -- `_reset_client` before the exception goes on into the operation
  | .error e => (resetClient now g, .error e)

/-- The delay after the last failure has not elapsed. -/
def BackoffRunning (cfg : Settings) (now : ℚ) (g : Shared Client) : Prop :=
  0 < g.consecutiveFailures ∧
    ∃ b, backoffDelay cfg g.consecutiveFailures = .ok b ∧ now - g.lastFailureTime < b

/-- The number of failures is one for which the delay cannot be computed. -/
def BackoffOverflows (g : Shared Client) : Prop :=
  0 < g.consecutiveFailures ∧ floatLimit ≤ 2 ^ (g.consecutiveFailures - 1)

lemma floatLimit_le_iff {k : ℕ} : floatLimit ≤ 2 ^ k ↔ 1024 ≤ k := by
  have hpow : ∀ m, 2 ^ m ≤ 2 ^ k ↔ m ≤ k := fun _ => Nat.pow_le_pow_iff_right Nat.one_lt_two
  exact hpow 1024

lemma backoffDelay_eq_ok_iff {cfg : Settings} {n : ℕ} {b : ℚ} :
    backoffDelay cfg n = .ok b ↔ ¬ floatLimit ≤ 2 ^ (n - 1) ∧
      b = min (cfg.supabaseReconnectBackoffBase * 2 ^ (n - 1)) cfg.supabaseReconnectBackoffMax := by
  unfold backoffDelay
  split
  · rename_i h
    simp [h]
  · rename_i h
    simp [h, eq_comm]

lemma backoffDelay_le_max {cfg : Settings} {n : ℕ} {b : ℚ} (h : backoffDelay cfg n = .ok b) :
    b ≤ cfg.supabaseReconnectBackoffMax := by
  rw [(backoffDelay_eq_ok_iff.mp h).2]
  exact min_le_right _ _

lemma lockedSection_some {cfg : Settings} {now : ℚ} {g : Shared Client} {c : Client}
    (h : g.client = some c) : lockedSection cfg now g = .ok (some c) := by
  simp [lockedSection, h]

/-- What the locked section does without a client, one case for each of its ends. -/
lemma lockedSection_none (cfg : Settings) (now : ℚ) {g : Shared Client} (h : g.client = none) :
    (BackoffRunning cfg now g ∧
        ∃ remaining, lockedSection cfg now g = .error (backoffRefusal remaining)) ∨
      (BackoffOverflows g ∧ lockedSection cfg now g = .error intTooLarge) ∨
      (¬ BackoffRunning cfg now g ∧ ¬ BackoffOverflows g ∧
        lockedSection cfg now g = .ok none) := by
  by_cases hn : 0 < g.consecutiveFailures
  · by_cases hover : floatLimit ≤ 2 ^ (g.consecutiveFailures - 1)
    · refine .inr (.inl ⟨⟨hn, hover⟩, ?_⟩)
      simp only [lockedSection, h, hn, if_true, backoffDelay, hover]
      rfl
    · obtain ⟨b, hb⟩ : ∃ b, backoffDelay cfg g.consecutiveFailures = .ok b :=
        ⟨_, backoffDelay_eq_ok_iff.mpr ⟨hover, rfl⟩⟩
      by_cases hlt : now - g.lastFailureTime < b
      · refine .inl ⟨⟨hn, b, hb, hlt⟩, b - (now - g.lastFailureTime), ?_⟩
        simp only [lockedSection, h, hn, if_true, hb, bind, Except.bind, hlt]
        rfl
      · refine .inr (.inr ⟨?_, fun ho => hover ho.2, ?_⟩)
        · rintro ⟨-, b', hb', hlt'⟩
          rw [hb, Except.ok.injEq] at hb'
          exact hlt (hb' ▸ hlt')
        · simp only [lockedSection, h, hn, if_true, hb, bind, Except.bind, hlt, if_false]
          rfl
  · refine .inr (.inr ⟨fun hr => hn hr.1, fun ho => hn ho.1, ?_⟩)
    simp only [lockedSection, h, hn, if_false]
    rfl

@[simp] lemma backoffRefusal_cls (remaining : ℚ) :
    (backoffRefusal remaining).cls = .connectionError := rfl

/-- The delay and its overflow exclude each other. -/
lemma BackoffRunning.not_overflows {cfg : Settings} {now : ℚ} {g : Shared Client}
    (h : BackoffRunning cfg now g) : ¬ BackoffOverflows g := by
  obtain ⟨-, b, hb, -⟩ := h
  exact fun ho => (backoffDelay_eq_ok_iff.mp hb).1 ho.2

/-! ### The operations -/

/-- The columns that `save_description` sends.  Those of the location, of the land cover
and of the context are present only when the value is. -/
def saveRow (cogImageId : String) (coordinates : ℚ × ℚ) (capturedAt : Option String)
    (location landCover : Option Fields) (description : Option String)
    (context : Option Fields) : Row :=
  let base : Row :=
    [("cog_image_id", .str cogImageId),
      ("coordinates", .arr [.num coordinates.1, .num coordinates.2]),
      ("captured_at", .ofOptStr capturedAt), ("description", .ofOptStr description)]
  let column (fields : Fields) (name : String) : Json := (fields.lookup name).getD .null
  base ++
    (match location with
      | some l =>
        if l.isEmpty then []
        else [("country", column l "country"), ("country_code", column l "country_code"),
          ("region", column l "region"), ("city", column l "city"),
          ("place_name", column l "place_name")]
      | none => []) ++
    (match landCover with
      | some l =>
        if l.isEmpty then []
        else [("land_cover_json", column l "classes"), ("land_cover_summary", column l "summary")]
      | none => []) ++
    (match context with
      | some c =>
        if c.isEmpty then []
        else [("context_json", column c "events"), ("context_summary", column c "summary")]
      | none => [])

/-- An operation on the table, with its arguments. -/
inductive Query
  | ping
  | saveDescription (row : Row)
  | listDescriptions (offset limit : ℕ) (createdAfter createdBefore : Option String)
  | deleteDescription (cogImageId : String)
  | getDescription (cogImageId : String)

/-- A call of one of the functions of the module. -/
inductive Op
  | getClient
  | operation (q : Query)

/-- The answer of the database to a query: `result.data` and `result.count`. -/
structure Answer where
  data : List Row
  count : Option ℕ

/-- What a call returns. -/
inductive Reply (Client : Type)
  | client (c : Client)
  | pong (ok : Bool)
  | saved (ok : Bool)
  | page (items : List Row) (total : ℕ)
  | deleted (ok : Bool)
  | row (r : Option Row)

/-- The end of an operation whose query was answered. -/
def onSuccess (a : Answer) : Query → Reply Client
  | .ping => .pong true
  | .saveDescription _ => .saved true
  | .listDescriptions .. => .page a.data (a.count.getD 0)
  | .deleteDescription _ => .deleted (!a.data.isEmpty)
  | .getDescription _ => .row a.data.head?

/-- The `except` clauses of a call: whether they call `_reset_client`, and what the call
then returns or raises.  `get_client` itself has none. -/
def onException (e : Exc) : Op → Bool × Except Exc (Reply Client)
  | .getClient => (false, .error e)
  | .operation .ping =>
    -- there is no clause for `ConnectionError`: a refusal by the backoff resets as well
    if e.isinstance .timeoutError then (false, .ok (.pong false))
    else (true, .ok (.pong false))
  | .operation (.saveDescription _) =>
    -- the clauses in their order; a timeout is no `ConnectionError`
    if e.isinstance .timeoutError then (false, .ok (.saved false))
    else if e.isinstance .connectionError then (false, .error e)
    else (true, .ok (.saved false))
  | .operation (.listDescriptions ..) =>
    if e.isinstance .connectionError then (false, .error e)
    else (true, .ok (.page [] 0))
  | .operation (.deleteDescription _) =>
    if e.isinstance .connectionError then (false, .error e)
    else (true, .ok (.deleted false))
  | .operation (.getDescription _) =>
    if e.isinstance .connectionError then (false, .error e)
    else (true, .ok (.row none))

/-- Where a call stands: waiting for the lock, awaiting `acreate_client`, awaiting its
query, or finished. -/
inductive Phase (Client : Type)
  | waiting
  | creating
  | querying (q : Query) (c : Client)
  | done (r : Except Exc (Reply Client))
  | cancelled

/-- A call that has got its client awaits its query; `get_client` returns. -/
def withClient (op : Op) (c : Client) : Phase Client :=
  match op with
  | .getClient => .done (.ok (.client c))
  | .operation q => .querying q c

/-- A call into which an exception is raised. -/
def fail (now : ℚ) (op : Op) (g : Shared Client) (e : Exc) : Shared Client × Phase Client :=
  match onException e op with
  | (true, r) => (resetClient now g, .done r)
  | (false, r) => (g, .done r)

@[simp] lemma fail_snd (now : ℚ) (op : Op) (g : Shared Client) (e : Exc) :
    (fail now op g e).2 = .done (onException e op).2 := by
  rcases h : (onException e op : Bool × Except Exc (Reply Client)) with ⟨_ | _, r⟩ <;>
    simp [fail, h]

lemma fail_fst (now : ℚ) (op : Op) (g : Shared Client) (e : Exc) :
    (fail now op g e).1 = g ∨ (fail now op g e).1 = resetClient now g := by
  rcases h : (onException e op : Bool × Except Exc (Reply Client)) with ⟨_ | _, r⟩ <;>
    simp [fail, h]

/-- The first segment of a call: the test of `_client` before the lock. -/
def start (op : Op) (g : Shared Client) : Phase Client :=
  match g.client with
  | some c => withClient op c
  | none => .waiting

/-- The segment that begins when the call has got the lock. -/
def acquire (cfg : Settings) (now : ℚ) (op : Op) (g : Shared Client) :
    Shared Client × Phase Client :=
  match lockedSection cfg now g with
  | .error e => fail now op g e
  | .ok (some c) => (g, withClient op c)
  | .ok none => (g, .creating)

/-- The segment that begins when `acreate_client` has ended. -/
def created (now : ℚ) (op : Op) (g : Shared Client) (r : Except Exc Client) :
    Shared Client × Phase Client :=
  match clientCreated now g r with
  | (g', .ok c) => (g', withClient op c)
  | (g', .error e) => fail now op g' e

/-- The segment that begins when the query has ended. -/
def answered (now : ℚ) (q : Query) (g : Shared Client) (r : Except Exc Answer) :
    Shared Client × Phase Client :=
  match r with
  | .ok a => (g, .done (.ok (onSuccess a q)))
  | .error e => fail now (.operation q) g e

end ImageDescriptor.Db
