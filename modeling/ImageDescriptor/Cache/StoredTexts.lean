/-
# The texts in the table

The column `value` of the table `cache` holds texts: `set` writes what `json.dumps` makes of a
value, and `get` returns what `json.loads` makes of the text that it finds.  `Cache/Store.lean`
keeps the decoded value in its place.  This file models the store with its texts and shows that
it answers every call as the other one does, on any database, whatever becomes of its
statements.
-/
import ImageDescriptor.Cache.Expiry
import ImageDescriptor.Lib.Run
import ImageDescriptor.Python.JsonText

namespace ImageDescriptor

open Lib

/-- A row of the table `cache`, with its text. -/
structure TextRow where
  text : List Char
  expiresAt : Option ℚ

/-- The store on a table of texts. -/
structure TextStore where
  table : Table String TextRow
  hits : String → ℕ
  misses : String → ℕ

variable (py : Interpreter)

namespace TextStore

open CacheStore (moduleFromKey catches WriteFault GetFaults Ttl)

def countHit (s : TextStore) (module : String) : TextStore :=
  { s with hits := Function.update s.hits module (s.hits module + 1) }

def countMiss (s : TextStore) (module : String) : TextStore :=
  { s with misses := Function.update s.misses module (s.misses module + 1) }

/-- `expires_at and time.time() > expires_at`. -/
def expired (now : ℚ) (row : TextRow) : Bool :=
  match row.expiresAt with
  | some t => decide (t ≠ 0) && decide (t < now)
  | none => false

/-- `expires_at IS NOT NULL AND expires_at < now`. -/
def pastExpiry (now : ℚ) (row : TextRow) : Bool :=
  match row.expiresAt with
  | some t => decide (t < now)
  | none => false

/-- The store after a write, which turns its table into `after`. -/
def written (s : TextStore) (fault : Option WriteFault) (after : Table String TextRow) :
    TextStore :=
  match fault with
  | some (.execute _) => s
  | _ => { s with table := after }

/-- `get(key)`. -/
def get (s : TextStore) (now : ℚ) (key : String) (faults : GetFaults) :
    TextStore × Except Exc Json :=
  let module := moduleFromKey key
  match faults.select with
  | some e => (s, if catches e then .ok .null else .error e)
  | none =>
    match s.table.lookup key with
    | none => (s.countMiss module, .ok .null)
    | some row =>
      if expired now row then
        let s := s.written faults.delete (s.table.erase key)
        match faults.delete with
        | none => (s.countMiss module, .ok .null)
        | some fault =>
          if catches fault.exc then (s.countMiss module, .ok .null) else (s, .error fault.exc)
      else
        (s.countHit module,
          match loads py row.text with
          | .ok v => .ok v
          | .error e => if e.isinstance .jsonDecodeError then .ok .null else .error e)

/-- `set(key, value, ttl_days, ttl_seconds)`. -/
def set (s : TextStore) (now : ℚ) (key : String) (value : Fields) (ttl : Ttl)
    (fault : Option WriteFault) : TextStore × Except Exc Unit :=
  (s.written fault
      (s.table.insert key ⟨dumps py (.obj value), CacheStore.expiresAt now ttl⟩),
    match fault with
    | none => .ok ()
    | some fault => if catches fault.exc then .ok () else .error fault.exc)

/-- `cleanup_expired()`. -/
def cleanupExpired (s : TextStore) (now : ℚ) (fault : Option WriteFault) :
    TextStore × Except Exc ℕ :=
  let kept := s.table.deleteWhere (pastExpiry now)
  (s.written fault kept,
    match fault with
    | none => .ok (s.table.entries.length - kept.entries.length)
    | some fault => if catches fault.exc then .ok 0 else .error fault.exc)

end TextStore

/-! ### The calls of both stores -/

/-- What is passed to `set`: a `dict` of numbers that can be written and read, which is not nested
too deeply. -/
abbrev StoredValue := {value : Fields // Proper py (.obj value) py.depth}

/-- A call with its clock reading and with how its statements end. -/
inductive StoreCall
  | get (now : ℚ) (key : String) (faults : CacheStore.GetFaults)
  | set (now : ℚ) (key : String) (value : StoredValue py) (ttl : CacheStore.Ttl)
      (fault : Option CacheStore.WriteFault)
  | cleanupExpired (now : ℚ) (fault : Option CacheStore.WriteFault)

inductive StoreAnswer
  | got (r : Except Exc Json)
  | stored (r : Except Exc Unit)
  | cleaned (r : Except Exc ℕ)

variable {py}

def TextStore.call (s : TextStore) : StoreCall py → TextStore × StoreAnswer
  | .get now key faults => (s.get py now key faults).map id .got
  | .set now key value ttl fault => (s.set py now key value.1 ttl fault).map id .stored
  | .cleanupExpired now fault => (s.cleanupExpired now fault).map id .cleaned

def CacheStore.call (s : CacheStore) : StoreCall py → CacheStore × StoreAnswer
  | .get now key faults => (s.get now key faults).map id .got
  | .set now key value ttl fault => (s.set now key value.1 ttl fault).map id .stored
  | .cleanupExpired now fault => (s.cleanupExpired now fault).map id .cleaned

/-! ### Decoding a table -/

/-- The row of the other store. -/
def TextRow.decode (py : Interpreter) (row : TextRow) : CacheRow where
  value :=
    match loads py row.text with
    | .ok v => .dumps v
    | .error e => .invalid e
  expiresAt := row.expiresAt

/-- The store with its texts decoded. -/
def TextStore.decode (py : Interpreter) (s : TextStore) : CacheStore where
  table := Table.mapRows (TextRow.decode py) s.table
  hits := s.hits
  misses := s.misses

namespace TextStore

variable {s : TextStore} {now : ℚ} {key : String} {row : TextRow}

lemma loads_decode (row : TextRow) : (row.decode py).value.loads = loads py row.text := by
  unfold TextRow.decode
  cases loads py row.text <;> rfl

lemma expired_decode (now : ℚ) (row : TextRow) :
    CacheStore.expired now (row.decode py) = expired now row := rfl

/-- A value that is written is decoded as itself. -/
lemma decode_dumps (value : StoredValue py) (expiresAt : Option ℚ) :
    TextRow.decode py ⟨dumps py (.obj value.1), expiresAt⟩ =
      ⟨.dumps (.obj value.1), expiresAt⟩ := by
  rw [TextRow.decode, loads_dumps value.2]

/-- A write to the one store is the write of the decoded table to the other. -/
lemma decode_written (fault : Option CacheStore.WriteFault) {after : Table String TextRow}
    {after' : Table String CacheRow} (h : Table.mapRows (TextRow.decode py) after = after') :
    (s.written fault after).decode py =
      { s.decode py with
        table := CacheStore.WriteFault.table fault (s.decode py).table after' } := by
  subst h
  rcases fault with _ | _ | _ <;> rfl

/-- A `get` answers from the text as the other store does from the value. -/
lemma decode_get (faults : CacheStore.GetFaults) :
    (s.decode py).get now key faults =
      ((s.get py now key faults).1.decode py, (s.get py now key faults).2) := by
  have hlookup : (s.decode py).table.lookup key = (s.table.lookup key).map (TextRow.decode py) :=
    Table.lookup_mapRows ..
  unfold CacheStore.get get
  rw [hlookup]
  cases faults.select with
  | some e => rfl
  | none =>
    cases s.table.lookup key with
    | none => rfl
    | some row =>
      simp only [Option.map_some, expired_decode, loads_decode]
      cases hexpired : expired now row with
      | false => rfl
      | true =>
        have hdeleted : { s.decode py with
            table := CacheStore.WriteFault.table faults.delete (s.decode py).table
              ((s.decode py).table.erase key) } =
            (s.written faults.delete (s.table.erase key)).decode py :=
          (decode_written faults.delete (Table.mapRows_erase ..)).symm
        simp only [if_true, hdeleted]
        cases faults.delete with
        | none => rfl
        | some fault =>
          cases hcaught : CacheStore.catches fault.exc with
          | true => simp only [hcaught, if_true]; rfl
          | false => simp only [hcaught, Bool.false_eq_true, if_false]

lemma decode_set (value : StoredValue py) (ttl : CacheStore.Ttl)
    (fault : Option CacheStore.WriteFault) :
    (s.decode py).set now key value.1 ttl fault =
      ((s.set py now key value.1 ttl fault).1.decode py,
        (s.set py now key value.1 ttl fault).2) := by
  have htable : Table.mapRows (TextRow.decode py)
      (s.table.insert key ⟨dumps py (.obj value.1), CacheStore.expiresAt now ttl⟩) =
      (s.decode py).table.insert key ⟨.dumps (.obj value.1), CacheStore.expiresAt now ttl⟩ := by
    rw [Table.mapRows_insert, decode_dumps]
    rfl
  exact Prod.ext (decode_written fault htable).symm rfl

lemma decode_cleanupExpired (fault : Option CacheStore.WriteFault) :
    (s.decode py).cleanupExpired now fault =
      ((s.cleanupExpired now fault).1.decode py, (s.cleanupExpired now fault).2) := by
  have htable : Table.mapRows (TextRow.decode py) (s.table.deleteWhere (pastExpiry now)) =
      (s.decode py).table.deleteWhere (CacheStore.pastExpiry now) :=
    Table.mapRows_deleteWhere (TextRow.decode py) s.table (CacheStore.pastExpiry now)
  have hlength : ∀ t : Table String TextRow,
      (Table.mapRows (TextRow.decode py) t).entries.length = t.entries.length :=
    fun t => List.length_map ..
  have hbefore : (s.decode py).table.entries.length = s.table.entries.length := hlength s.table
  have hafter : ((s.decode py).table.deleteWhere (CacheStore.pastExpiry now)).entries.length =
      (s.table.deleteWhere (pastExpiry now)).entries.length := by
    rw [← htable]
    exact hlength _
  refine Prod.ext (decode_written fault htable).symm ?_
  cases fault with
  | none => exact congrArg Except.ok (congrArg₂ (· - ·) hbefore hafter)
  | some fault => rfl

/-- Every call changes the two stores alike and is answered alike. -/
lemma decode_call (s : TextStore) (c : StoreCall py) :
    (s.decode py).call c = ((s.call c).1.decode py, (s.call c).2) := by
  cases c with
  | get now key faults =>
    rw [CacheStore.call, decode_get]
    rfl
  | set now key value ttl fault =>
    rw [CacheStore.call, decode_set]
    rfl
  | cleanupExpired now fault =>
    rw [CacheStore.call, decode_cleanupExpired]
    rfl

end TextStore

end ImageDescriptor
