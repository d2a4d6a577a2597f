/-
# The cache store

`CacheStore` keeps JSON texts in one SQLite table whose primary key is the cache key, next
to the time at which a row expires.  A row's text is represented by what `json.loads` makes
of it: a value, or an exception of any class, such as the `RecursionError` of a text that is
nested too deeply or the `ValueError` of a number with too many digits.  Every statement may
fail with an exception of SQLite or of the operating system; the store catches the classes
that its `except` clauses name and lets any other exception through.
-/
import Mathlib.Algebra.Order.Ring.Rat
import Mathlib.Logic.Function.Basic
import ImageDescriptor.Lib.Table
import ImageDescriptor.Python.Json

namespace ImageDescriptor

open Lib

/-- The text of a row: the value that is read from it, where a number stands for each `NaN` and
each infinity in it, or the exception with which reading it ends. -/
inductive CellText
  | dumps (v : Json)
  | invalid (e : Exc)

/-- `json.loads` on the text of a row. -/
def CellText.loads : CellText → Except Exc Json
  | .dumps v => .ok v
  | .invalid e => .error e

/-- A row of the table `cache` beside its key. -/
structure CacheRow where
  value : CellText
  expiresAt : Option ℚ

/-- The store: the table, and how often a module has hit and missed. -/
structure CacheStore where
  table : Table String CacheRow
  hits : String → ℕ
  misses : String → ℕ

namespace CacheStore

/-- The store on an empty database. -/
def init : CacheStore := ⟨∅, fun _ => 0, fun _ => 0⟩

def allowedModules : List String := ["geocode", "landcover", "mission", "context", "describe"]

/-- `_module_from_key`. -/
def moduleFromKey (key : String) : String :=
  let module :=
    if ':' ∈ key.toList then String.ofList (key.toList.takeWhile (· ≠ ':')) else "unknown"
  if module ∈ allowedModules then module else "unknown"

/-- The exceptions that the store catches around its statements. -/
def catches (e : Exc) : Bool :=
  e.isinstance .databaseError || e.isinstance .osError || e.isinstance .valueError

/-- `expires_at and time.time() > expires_at`. -/
def expired (now : ℚ) (row : CacheRow) : Bool :=
  match row.expiresAt with
  | some t => decide (t ≠ 0) && decide (t < now)
  | none => false

def countHit (s : CacheStore) (module : String) : CacheStore :=
  { s with hits := Function.update s.hits module (s.hits module + 1) }

def countMiss (s : CacheStore) (module : String) : CacheStore :=
  { s with misses := Function.update s.misses module (s.misses module + 1) }

/-- How a statement that writes fails: it raises, or the commit after it does.  What it has
done stays visible to the connection when only the commit fails. -/
inductive WriteFault
  | execute (e : Exc)
  | commit (e : Exc)

def WriteFault.exc : WriteFault → Exc
  | execute e => e
  | commit e => e

/-- The table after a write, which turns `before` into `after`. -/
def WriteFault.table (fault : Option WriteFault) (before after : Table String CacheRow) :
    Table String CacheRow :=
  match fault with
  | some (.execute _) => before
  | _ => after

/-- How the statements of one `get` end: `none` when the statement is carried out. -/
structure GetFaults where
  select : Option Exc := none
  delete : Option WriteFault := none

/-- `get(key)`, with `None` as `null`. -/
def get (s : CacheStore) (now : ℚ) (key : String) (faults : GetFaults) :
    CacheStore × Except Exc Json :=
  let module := moduleFromKey key
  match faults.select with
  | some e => (s, if catches e then .ok .null else .error e)
  | none =>
    match s.table.lookup key with
    | none => (s.countMiss module, .ok .null)
    | some row =>
      if expired now row then
        -- a row whose deletion fails is answered as a miss all the same
        let s := { s with table := WriteFault.table faults.delete s.table (s.table.erase key) }
        match faults.delete with
        | none => (s.countMiss module, .ok .null)
        | some fault =>
          if catches fault.exc then (s.countMiss module, .ok .null) else (s, .error fault.exc)
      else
        -- counted before the text is read: one that is no JSON is a hit as well
        (s.countHit module,
          match row.value.loads with
          | .ok v => .ok v
          | .error e => if e.isinstance .jsonDecodeError then .ok .null else .error e)

/-- The time to live that is passed to `set`. -/
structure Ttl where
  days : Option ℕ := none
  seconds : Option ℕ := none

/-- When a row that is written now expires: seconds take precedence over days. -/
def expiresAt (now : ℚ) (ttl : Ttl) : Option ℚ :=
  match ttl.seconds, ttl.days with
  | some n, _ => some (now + n)
  | none, some d => some (now + d * 86400)
  | none, none => none

/-- `set(key, value, ttl_days, ttl_seconds)`. -/
def set (s : CacheStore) (now : ℚ) (key : String) (value : Fields) (ttl : Ttl)
    (fault : Option WriteFault) : CacheStore × Except Exc Unit :=
  let written := s.table.insert key ⟨.dumps (.obj value), expiresAt now ttl⟩
  ({ s with table := WriteFault.table fault s.table written },
    match fault with
    | none => .ok ()
    | some fault => if catches fault.exc then .ok () else .error fault.exc)

/-- `DELETE FROM cache WHERE expires_at IS NOT NULL AND expires_at < now`. -/
def pastExpiry (now : ℚ) (row : CacheRow) : Bool :=
  match row.expiresAt with
  | some t => decide (t < now)
  | none => false

/-- `cleanup_expired()`, which returns the number of rows that it has deleted. -/
def cleanupExpired (s : CacheStore) (now : ℚ) (fault : Option WriteFault) :
    CacheStore × Except Exc ℕ :=
  let kept := s.table.deleteWhere (pastExpiry now)
  ({ s with table := WriteFault.table fault s.table kept },
    match fault with
    | none => .ok (s.table.entries.length - kept.entries.length)
    | some fault => if catches fault.exc then .ok 0 else .error fault.exc)

/-! ### What the operations do to a row -/

variable {s : CacheStore} {now : ℚ} {key k : String} {row : CacheRow}

/-- A row is live while its time to live has not passed. -/
def Live (now : ℚ) (row : CacheRow) : Prop := ∀ t, row.expiresAt = some t → now ≤ t

lemma Live.not_expired (h : Live now row) : expired now row = false := by
  unfold expired
  rcases ht : row.expiresAt with _ | t
  · rfl
  · have hle : now ≤ t := h t ht
    simp [not_lt.mpr hle]

lemma Live.not_pastExpiry (h : Live now row) : pastExpiry now row = false := by
  unfold pastExpiry
  rcases ht : row.expiresAt with _ | t
  · rfl
  · simpa using h t ht

@[simp] lemma table_countHit (m : String) : (s.countHit m).table = s.table := rfl

@[simp] lemma table_countMiss (m : String) : (s.countMiss m).table = s.table := rfl

lemma WriteFault.table_cases (fault : Option WriteFault) (before after : Table String CacheRow) :
    table fault before after = before ∨ table fault before after = after := by
  rcases fault with _ | _ | _
  · exact .inr rfl
  · exact .inl rfl
  · exact .inr rfl

/-- A `get` leaves the table alone, or deletes the row of its key, which has expired. -/
lemma get_table (s : CacheStore) (now : ℚ) (key : String) (faults : GetFaults) :
    (s.get now key faults).1.table = s.table ∨
      (∃ row, s.table.lookup key = some row ∧ expired now row = true) ∧
        (s.get now key faults).1.table = s.table.erase key := by
  rcases hsel : faults.select with _ | e
  · rcases hrow : s.table.lookup key with _ | row
    · left
      simp [get, hsel, hrow]
    · by_cases hexp : expired now row = true
      · have htable := WriteFault.table_cases faults.delete s.table (s.table.erase key)
        -- whatever becomes of the statement, the table is the one that it leaves
        have hleft : (s.get now key faults).1.table =
            WriteFault.table faults.delete s.table (s.table.erase key) := by
          simp only [get, hsel, hrow, hexp, if_true]
          split
          · rfl
          · split <;> rfl
        rcases htable with hsame | herased
        · left
          rw [hleft, hsame]
        · exact .inr ⟨⟨row, rfl, hexp⟩, by rw [hleft, herased]⟩
      · left
        simp [get, hsel, hrow, hexp]
  · left
    simp [get, hsel]

/-- A `get` finds a live row that it can read. -/
lemma get_of_live {v : Json} (hrow : s.table.lookup key = some row) (hlive : Live now row)
    (hv : row.value = .dumps v) (faults : GetFaults) (hsel : faults.select = none) :
    (s.get now key faults).2 = .ok v := by
  simp [get, hsel, hrow, hlive.not_expired, hv, CellText.loads]

/-- What a `get` returns comes from the row of its key. -/
lemma get_ok {v : Json} {faults : GetFaults} (h : (s.get now key faults).2 = .ok v)
    (hv : v ≠ .null) :
    ∃ row, s.table.lookup key = some row ∧ expired now row = false ∧ row.value = .dumps v := by
  unfold get at h
  rcases hsel : faults.select with _ | e
  · rcases hrow : s.table.lookup key with _ | row
    · simp only [hsel, hrow, Except.ok.injEq] at h
      exact absurd h.symm hv
    · by_cases hexp : expired now row = true
      · rcases hdel : faults.delete with _ | fault
        · simp only [hsel, hrow, hexp, hdel, if_true, Except.ok.injEq] at h
          exact absurd h.symm hv
        · by_cases hc : catches fault.exc = true <;> simp [hsel, hrow, hexp, hdel, hc] at h
          exact absurd h.symm hv
      · refine ⟨row, rfl, by simpa using hexp, ?_⟩
        rcases hval : row.value with w | e
        · simp [hsel, hrow, hexp, hval, CellText.loads] at h
          rw [h]
        · -- a text that cannot be read is answered with `None` or an exception
          by_cases he : e.isinstance .jsonDecodeError = true <;>
            simp [hsel, hrow, hexp, hval, CellText.loads, he] at h
          exact absurd h.symm hv
  · by_cases hc : catches e = true <;> simp [hsel, hc] at h
    exact absurd h.symm hv

lemma lookup_get (s : CacheStore) {faults : GetFaults} (hrow : s.table.lookup k = some row)
    (hlive : Live now row) : (s.get now key faults).1.table.lookup k = some row := by
  rcases get_table s now key faults with h | ⟨⟨row', hrow', hexp⟩, h⟩
  · rw [h, hrow]
  · have hne : k ≠ key := by
      rintro rfl
      rw [hrow, Option.some.injEq] at hrow'
      rw [← hrow', hlive.not_expired] at hexp
      exact Bool.false_ne_true hexp
    rw [h, AList.lookup_erase_ne hne, hrow]

lemma lookup_get_subset {faults : GetFaults}
    (h : (s.get now key faults).1.table.lookup k = some row) : s.table.lookup k = some row := by
  rcases get_table s now key faults with h' | ⟨-, h'⟩
  · rwa [h'] at h
  · rw [h'] at h
    exact Table.lookup_of_lookup_erase h

lemma lookup_set_self (s : CacheStore) (now : ℚ) (key : String) (value : Fields) (ttl : Ttl) :
    (s.set now key value ttl none).1.table.lookup key =
      some ⟨.dumps (.obj value), expiresAt now ttl⟩ :=
  AList.lookup_insert _

/-- A `set` leaves the table alone or writes the row. -/
lemma set_table (s : CacheStore) (now : ℚ) (key : String) (value : Fields) (ttl : Ttl)
    (fault : Option WriteFault) :
    (s.set now key value ttl fault).1.table = s.table ∨
      (s.set now key value ttl fault).1.table = (s.set now key value ttl none).1.table :=
  WriteFault.table_cases fault _ _

lemma lookup_set_of_ne {value : Fields} {ttl : Ttl} {fault : Option WriteFault} (h : k ≠ key) :
    (s.set now key value ttl fault).1.table.lookup k = s.table.lookup k := by
  rcases set_table s now key value ttl fault with hsame | hset
  · rw [hsame]
  · rw [hset]
    exact AList.lookup_insert_ne h

/-- A cleanup leaves the table alone or deletes the rows whose time has passed. -/
lemma cleanup_table (s : CacheStore) (now : ℚ) (fault : Option WriteFault) :
    (s.cleanupExpired now fault).1.table = s.table ∨
      (s.cleanupExpired now fault).1.table = s.table.deleteWhere (pastExpiry now) :=
  WriteFault.table_cases fault _ _

lemma lookup_cleanup {fault : Option WriteFault} (hrow : s.table.lookup k = some row)
    (hlive : Live now row) : (s.cleanupExpired now fault).1.table.lookup k = some row := by
  rcases cleanup_table s now fault with h | h
  · rw [h, hrow]
  · rw [h]
    exact Table.lookup_deleteWhere_eq_some_iff.mpr ⟨hrow, hlive.not_pastExpiry⟩

lemma lookup_cleanup_subset {fault : Option WriteFault}
    (h : (s.cleanupExpired now fault).1.table.lookup k = some row) :
    s.table.lookup k = some row := by
  rcases cleanup_table s now fault with h' | h'
  · rwa [h'] at h
  · rw [h'] at h
    exact (Table.lookup_deleteWhere_eq_some_iff.mp h).1

end CacheStore

end ImageDescriptor
