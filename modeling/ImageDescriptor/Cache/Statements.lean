/-
# One statement of a call after the other

A call of `get` or `set` awaits one thing at a time: its SELECT, the event loop with the row
that it has read, the DELETE of that row and the commit, or its INSERT and the commit.  This
file says what the call does when that has ended, with an exception or without one, so that
any machine whose calls use the store can take these steps between those of other calls.  A
step touches the row of its own key only.
-/
import ImageDescriptor.Cache.Races

namespace ImageDescriptor

open Lib

namespace CacheStore

/-- The end of a `get` whose DELETE or whose commit raises: a miss, unless the exception is
let through. -/
def deleteFailed (s : CacheStore) (key : String) (e : Exc) : CacheStore × StorePhase :=
  (if catches e then s.countMiss (moduleFromKey key) else s, .returned (getFailed e))

/-- The end of a `set` whose INSERT or whose commit raises. -/
def setFailed (e : Exc) : StorePhase := if catches e then .stored else .returned (.error e)

end CacheStore

namespace StorePhase

/-- The key whose row the next statement of a call touches. -/
def key : StorePhase → Option String
  | .selecting key | .selected key _ | .deleting key | .deleted key | .inserting key _ => some key
  | _ => none

/-- The call awaits a statement that writes. -/
def writes : StorePhase → Bool
  | .deleting _ | .inserting .. => true
  | _ => false

/-- A phase of a `get` of a key. -/
def OfGet (k : String) : StorePhase → Prop
  | .selecting k' | .selected k' _ | .deleting k' | .deleted k' => k' = k
  | .returned _ => True
  | _ => False

/-- A phase of a `set` of a key that writes a row.  It returns nothing, or raises. -/
def OfSet (k : String) (row : CacheRow) : StorePhase → Prop
  | .inserting k' row' => k' = k ∧ row' = row
  | .inserted | .stored | .returned (.error _) => True
  | _ => False

/-- What a call does when what it awaits has ended, with an exception or without one. -/
def resume (store : CacheStore) (now : ℚ) (fault : Option Exc) :
    StorePhase → Option (CacheStore × StorePhase)
  | .selecting key =>
    match fault with
    | none => some (store, .selected key (store.table.lookup key))
    | some e => some (store, .returned (CacheStore.getFailed e))
  | .selected key row =>
    match fault with
    | none => some (SharedStore.judge store now key row)
    -- the cursor of the SELECT is closed inside the same `try`
    | some e => some (store, .returned (CacheStore.getFailed e))
  | .deleting key =>
    match fault with
    | none => some (store.without key, .deleted key)
    | some e => some (store.deleteFailed key e)
  | .deleted key =>
    match fault with
    | none => some (store.countMiss (CacheStore.moduleFromKey key), .returned (.ok .null))
    | some e => some (store.deleteFailed key e)
  | .inserting key row =>
    match fault with
    | none => some ({ store with table := store.table.insert key row }, .inserted)
    | some e => some (store, CacheStore.setFailed e)
  | .inserted =>
    match fault with
    | none => some (store, .stored)
    | some e => some (store, CacheStore.setFailed e)
  | _ => none

/-! ### The steps as a relation -/

/-- What a call may go on to. -/
inductive Resumes (store : CacheStore) (now : ℚ) :
    Option Exc → StorePhase → CacheStore × StorePhase → Prop
  | select {k : String} :
      Resumes store now none (.selecting k) (store, .selected k (store.table.lookup k))
  | selectFailed {k : String} {e : Exc} :
      Resumes store now (some e) (.selecting k) (store, .returned (CacheStore.getFailed e))
  | cursorFailed {k : String} {row : Option CacheRow} {e : Exc} :
      Resumes store now (some e) (.selected k row) (store, .returned (CacheStore.getFailed e))
  | found {k : String} {row : Option CacheRow} {store' : CacheStore} {v : Except Exc Json}
      (htable : store'.table = store.table) :
      Resumes store now none (.selected k row) (store', .returned v)
  | expired {k : String} {row : Option CacheRow} :
      Resumes store now none (.selected k row) (store, .deleting k)
  | delete {k : String} : Resumes store now none (.deleting k) (store.without k, .deleted k)
  | missed {k : String} : Resumes store now none (.deleted k)
      (store.countMiss (CacheStore.moduleFromKey k), .returned (.ok .null))
  | deleteFailed {k : String} {p : StorePhase} {e : Exc} (hp : p = .deleting k ∨ p = .deleted k) :
      Resumes store now (some e) p (store.deleteFailed k e)
  | insert {k : String} {row : CacheRow} : Resumes store now none (.inserting k row)
      ({ store with table := store.table.insert k row }, .inserted)
  | stored : Resumes store now none .inserted (store, .stored)
  | setFailed {p : StorePhase} {e : Exc} (hp : (∃ k row, p = .inserting k row) ∨ p = .inserted) :
      Resumes store now (some e) p (store, CacheStore.setFailed e)

variable {store store' : CacheStore} {now : ℚ} {fault : Option Exc} {p : StorePhase}
  {r : CacheStore × StorePhase} {k : String}

lemma resumes_judge (store : CacheStore) (now : ℚ) (k : String) (row : Option CacheRow) :
    Resumes store now none (.selected k row) (SharedStore.judge store now k row) := by
  rcases row with _ | row
  · exact .found rfl
  · simp only [SharedStore.judge]
    split
    · exact .expired
    · exact .found rfl

lemma resumes_of_resume (h : p.resume store now fault = some r) : Resumes store now fault p r := by
  cases p with
  | selecting k =>
    rcases fault with _ | e <;> cases h
    · exact .select
    · exact .selectFailed
  | selected k row =>
    rcases fault with _ | e <;> cases h
    · exact resumes_judge store now k row
    · exact .cursorFailed
  | deleting k =>
    rcases fault with _ | e <;> cases h
    · exact .delete
    · exact .deleteFailed (.inl rfl)
  | deleted k =>
    rcases fault with _ | e <;> cases h
    · exact .missed
    · exact .deleteFailed (.inr rfl)
  | inserting k row =>
    rcases fault with _ | e <;> cases h
    · exact .insert
    · exact .setFailed (.inl ⟨k, row, rfl⟩)
  | inserted =>
    rcases fault with _ | e <;> cases h
    · exact .stored
    · exact .setFailed (.inr rfl)
  | returned | stored | abandoned => cases h

lemma setFailed_cases (e : Exc) :
    CacheStore.setFailed e = .stored ∨ CacheStore.setFailed e = .returned (.error e) := by
  unfold CacheStore.setFailed
  split
  · exact .inl rfl
  · exact .inr rfl

lemma table_deleteFailed (store : CacheStore) (k : String) (e : Exc) :
    (store.deleteFailed k e).1.table = store.table := by
  unfold CacheStore.deleteFailed
  split <;> rfl

/-- A step leaves the table alone, or carries out the DELETE or the INSERT of its call. -/
lemma table_of_resume (h : p.resume store now fault = some r) :
    r.1.table = store.table ∨
      (fault = none ∧ ∃ k, p = .deleting k ∧ r.1.table = store.table.erase k) ∨
      fault = none ∧ ∃ k row, p = .inserting k row ∧ r.2 = .inserted ∧
        r.1.table = store.table.insert k row := by
  cases resumes_of_resume h with
  | select | selectFailed | cursorFailed | expired | missed | stored | setFailed =>
    exact .inl rfl
  | found htable => exact .inl htable
  | deleteFailed => exact .inl (table_deleteFailed store _ _)
  | delete => exact .inr (.inl ⟨rfl, _, rfl, rfl⟩)
  | insert => exact .inr (.inr ⟨rfl, _, _, rfl, rfl, rfl⟩)

/-- The rows of other keys stay. -/
lemma lookup_resume_of_ne (h : p.resume store now fault = some r) (hk : p.key ≠ some k) :
    r.1.table.lookup k = store.table.lookup k := by
  rcases table_of_resume h with htable | ⟨-, k', rfl, htable⟩ | ⟨-, k', row, rfl, -, htable⟩
  · rw [htable]
  · have hne : k ≠ k' := fun heq => hk (congrArg some heq.symm)
    rw [htable, AList.lookup_erase_ne hne]
  · have hne : k ≠ k' := fun heq => hk (congrArg some heq.symm)
    rw [htable, AList.lookup_insert_ne hne]

/-- What a call goes on to depends on the row of its key only. -/
lemma resume_congr (h : p.resume store now fault = some r)
    (hrow : ∀ k, p.key = some k → store.table.lookup k = store'.table.lookup k) :
    ∃ r', p.resume store' now fault = some r' ∧ r'.2 = r.2 ∧
      ∀ k, store.table.lookup k = store'.table.lookup k →
        r.1.table.lookup k = r'.1.table.lookup k := by
  have hjudge : ∀ (k : String) (row : Option CacheRow),
      (SharedStore.judge store' now k row).2 = (SharedStore.judge store now k row).2 := by
    intro k row
    rcases row with _ | row
    · rfl
    · simp only [SharedStore.judge]
      split <;> rfl
  cases p with
  | selecting k =>
    rcases fault with _ | e <;> cases h
    · refine ⟨_, rfl, ?_, fun _ h => h⟩
      rw [hrow k rfl]
    · exact ⟨_, rfl, rfl, fun _ h => h⟩
  | inserted =>
    rcases fault with _ | e <;> cases h <;> exact ⟨_, rfl, rfl, fun _ h => h⟩
  | selected k row =>
    rcases fault with _ | e <;> cases h
    · refine ⟨_, rfl, hjudge k row, fun k' h => ?_⟩
      rw [SharedStore.judge_table, SharedStore.judge_table, h]
    · exact ⟨_, rfl, rfl, fun _ h => h⟩
  | deleting k =>
    rcases fault with _ | e <;> cases h
    · refine ⟨_, rfl, rfl, fun k' h => ?_⟩
      exact Table.lookup_erase_congr h
    · refine ⟨_, rfl, rfl, fun k' h => ?_⟩
      rw [table_deleteFailed, table_deleteFailed, h]
  | deleted k =>
    rcases fault with _ | e <;> cases h
    · exact ⟨_, rfl, rfl, fun _ h => h⟩
    · refine ⟨_, rfl, rfl, fun k' h => ?_⟩
      rw [table_deleteFailed, table_deleteFailed, h]
  | inserting k row =>
    rcases fault with _ | e <;> cases h
    · refine ⟨_, rfl, rfl, fun k' h => ?_⟩
      exact Table.lookup_insert_congr h
    · exact ⟨_, rfl, rfl, fun _ h => h⟩
  | returned | stored | abandoned => cases h

/-- A `get` stays a `get` of its key. -/
lemma ofGet_resume (hp : p.OfGet k) (h : p.resume store now fault = some r) : r.2.OfGet k := by
  cases resumes_of_resume h with
  | select | expired | delete => exact hp
  | selectFailed | cursorFailed | found | missed | deleteFailed => trivial
  | insert | stored => cases hp
  | setFailed hset => rcases hset with ⟨_, _, rfl⟩ | rfl <;> cases hp

/-- A `set` stays a `set` of its key and its row. -/
lemma ofSet_resume {row : CacheRow} (hp : p.OfSet k row) (h : p.resume store now fault = some r) :
    r.2.OfSet k row := by
  cases resumes_of_resume h with
  | select | selectFailed | cursorFailed | found | expired | delete | missed => cases hp
  | deleteFailed hget => rcases hget with rfl | rfl <;> cases hp
  | insert | stored => trivial
  | @setFailed _ e => rcases setFailed_cases e with he | he <;> rw [he] <;> trivial

lemma OfGet.key_eq {k' : String} (hp : p.OfGet k) (h : p.key = some k') : k' = k := by
  cases p <;> simp only [key, OfGet, Option.some.injEq, reduceCtorEq] at hp h <;>
    exact h.symm.trans hp

lemma OfSet.key_eq {row : CacheRow} {k' : String} (hp : p.OfSet k row) (h : p.key = some k') :
    k' = k := by
  cases p <;> simp only [key, OfSet, Option.some.injEq, reduceCtorEq] at hp h
  exact h.symm.trans hp.1

/-- No step leads to the beginning of a `set`. -/
lemma resume_ne_inserting {row : CacheRow} (h : p.resume store now fault = some r) :
    r.2 ≠ .inserting k row := by
  cases resumes_of_resume h with
  | @setFailed _ e => rcases setFailed_cases e with he | he <;> simp [he]
  | _ => simp [CacheStore.deleteFailed]

/-- A row that a `get` has read is the row of its key. -/
lemma selected_of_resume {row : Option CacheRow} (h : p.resume store now fault = some r)
    (hr : r.2 = .selected k row) :
    p = .selecting k ∧ fault = none ∧ row = store.table.lookup k := by
  cases resumes_of_resume h with
  | select =>
    cases hr
    exact ⟨rfl, rfl, rfl⟩
  | @setFailed _ e => rcases setFailed_cases e with he | he <;> simp [he] at hr
  | _ => simp [CacheStore.deleteFailed] at hr

/-! ### Calls that nothing interrupts -/

/-- A call to its end, when nothing else happens and no statement fails. -/
def alone (store : CacheStore) (now : ℚ) : ℕ → StorePhase → CacheStore × StorePhase
  | 0, p => (store, p)
  | n + 1, p =>
    match p.resume store now none with
    | some (store', p') => alone store' now n p'
    | none => (store, p)

/-- The steps of a `get` make up `get`. -/
theorem alone_get (s : CacheStore) (now : ℚ) (k : String) :
    alone s now 4 (.selecting k) = ((s.get now k {}).1, .returned (s.get now k {}).2) := by
  rcases hrow : s.table.lookup k with _ | row
  · simp [alone, resume, hrow, SharedStore.judge, CacheStore.get]
  · by_cases hexp : CacheStore.expired now row = true
    · simp [alone, resume, hrow, SharedStore.judge, CacheStore.get, hexp, CacheStore.without,
        CacheStore.WriteFault.table]
    · rcases hval : row.value.loads with e | v <;>
        simp [alone, resume, hrow, SharedStore.judge, CacheStore.get, hexp, hval]

/-- The steps of a `set` make up `set`. -/
theorem alone_set (s : CacheStore) (now : ℚ) (k : String) (value : Fields)
    (ttl : CacheStore.Ttl) :
    alone s now 2 (.inserting k ⟨.dumps (.obj value), CacheStore.expiresAt now ttl⟩) =
      ((s.set now k value ttl none).1, .stored) := rfl

end StorePhase

end ImageDescriptor
