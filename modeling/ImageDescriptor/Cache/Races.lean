/-
# Concurrent calls of the store

Many coroutines share the one connection of the store.  A `get` awaits its SELECT and, when
the row that it has read has expired, a DELETE and a commit; a `set` awaits its INSERT and a
commit.  Between two of these statements those of other coroutines may run.  The DELETE of a
`get` names the key alone, so that it also removes a row that has replaced the expired one
in the meantime; the runs in which no `get` does so serve every value until its time to live
has passed.
-/
import Mathlib.Tactic.NormNum
import ImageDescriptor.Cache.Expiry
import ImageDescriptor.Lib.Run

namespace ImageDescriptor

open Lib

/-- Where a call of `get` or `set` stands: it awaits a statement (`selecting`, `deleting`,
`inserting`), a commit (`deleted`, `inserted`), or the event loop (`selected`); or it has
ended. -/
inductive StorePhase
  | selecting (key : String)
  | selected (key : String) (row : Option CacheRow)
  | deleting (key : String)
  | deleted (key : String)
  | returned (v : Except Exc Json)
  | inserting (key : String) (row : CacheRow)
  | inserted
  | stored
  | abandoned

/-- The call awaits neither its SELECT nor the event loop with the row that it has read. -/
def StorePhase.PastSelect : StorePhase → Prop
  | .selecting _ => False
  | .selected .. => False
  | _ => True

/-- The state of the process: the store, the calls, and beside them the row of the last
INSERT of every key. -/
structure SharedStore where
  store : CacheStore
  calls : ℕ → Option StorePhase
  now : ℚ
  lastInsert : String → Option CacheRow

/-- What happens: a call begins, the statement that it awaits is carried out, a `get` goes
on with the row that it has read, a commit returns, a call ends early because it is
cancelled or its statement fails; or the cleanup runs. -/
inductive StoreAction
  | get (task : ℕ) (key : String)
  | set (task : ℕ) (key : String) (value : Fields) (ttl : CacheStore.Ttl)
  | execute (task : ℕ)
  | resume (task : ℕ)
  | commit (task : ℕ)
  | abandon (task : ℕ)
  | cleanup

/-- An action at a clock reading. -/
structure StoreEvent where
  time : ℚ
  action : StoreAction

/-- What a `get` returns or raises when a statement of it has failed. -/
def CacheStore.getFailed (e : Exc) : Except Exc Json := if catches e then .ok .null else .error e

/-- The store without the row of a key. -/
def CacheStore.without (s : CacheStore) (key : String) : CacheStore :=
  { s with table := s.table.erase key }

namespace SharedStore

/-- The process on a database with the rows of earlier processes. -/
def initial (store : CacheStore) : SharedStore :=
  ⟨store, fun _ => none, 0, fun key => store.table.lookup key⟩

def put (s : SharedStore) (task : ℕ) (p : StorePhase) : SharedStore :=
  { s with calls := Function.update s.calls task (some p) }

/-- `get` after its SELECT. -/
def judge (store : CacheStore) (now : ℚ) (key : String) (row : Option CacheRow) :
    CacheStore × StorePhase :=
  let module := CacheStore.moduleFromKey key
  match row with
  | none => (store.countMiss module, .returned (.ok .null))
  | some row =>
    if CacheStore.expired now row then (store, .deleting key)
    else
      (store.countHit module, .returned
        (match row.value.loads with
        | .ok v => .ok v
        | .error e => if e.isinstance .jsonDecodeError then .ok .null else .error e))

def withTable (s : SharedStore) (table : Table String CacheRow) : SharedStore :=
  { s with store := { s.store with table := table } }

/-- A statement that a call awaits. -/
def execute (s : SharedStore) (task : ℕ) : StorePhase → Option SharedStore
  | .selecting key => some (s.put task (.selected key (s.store.table.lookup key)))
  | .deleting key =>
    -- DELETE FROM cache WHERE key = ?
    some ((s.withTable (s.store.table.erase key)).put task (.deleted key))
  | .inserting key row =>
    some { (s.withTable (s.store.table.insert key row)).put task .inserted with
      lastInsert := Function.update s.lastInsert key (some row) }
  | _ => none

/-- One action; `none` when it cannot happen. -/
def act (s : SharedStore) (now : ℚ) : StoreAction → Option SharedStore
  | .get task key =>
    match s.calls task with
    | none => some (s.put task (.selecting key))
    | some _ => none
  | .set task key value ttl =>
    match s.calls task with
    | none =>
      some (s.put task (.inserting key ⟨.dumps (.obj value), CacheStore.expiresAt now ttl⟩))
    | some _ => none
  | .execute task =>
    match s.calls task with
    | some p => s.execute task p
    | none => none
  | .resume task =>
    match s.calls task with
    | some (.selected key row) =>
      let r := judge s.store now key row
      some ({ s with store := r.1 }.put task r.2)
    | _ => none
  | .commit task =>
    match s.calls task with
    | some (.deleted key) =>
      some ({ s with store := s.store.countMiss (CacheStore.moduleFromKey key) }.put task
        (.returned (.ok .null)))
    | some .inserted => some (s.put task .stored)
    | _ => none
  | .abandon task =>
    match s.calls task with
    | some (.returned _) | some .stored | some .abandoned | none => none
    | some _ => some (s.put task .abandoned)
  | .cleanup => some { s with store := (s.store.cleanupExpired now none).1 }

/-- One event at its clock reading. -/
def step (s : SharedStore) (e : StoreEvent) : Option SharedStore :=
  if e.time < s.now then none
  else (s.act e.time e.action).map fun s' => { s' with now := e.time }

/-! ### The actions as a relation -/

/-- What an action does, with what has to hold before it. -/
inductive Acts (s : SharedStore) (now : ℚ) : StoreAction → SharedStore → Prop
  | get {task : ℕ} {key : String} (hnew : s.calls task = none) :
      Acts s now (.get task key) (s.put task (.selecting key))
  | set {task : ℕ} {key : String} {value : Fields} {ttl : CacheStore.Ttl}
      (hnew : s.calls task = none) : Acts s now (.set task key value ttl)
        (s.put task (.inserting key ⟨.dumps (.obj value), CacheStore.expiresAt now ttl⟩))
  | select {task : ℕ} {key : String} (hcall : s.calls task = some (.selecting key)) :
      Acts s now (.execute task) (s.put task (.selected key (s.store.table.lookup key)))
  | delete {task : ℕ} {key : String} (hcall : s.calls task = some (.deleting key)) :
      Acts s now (.execute task)
        ((s.withTable (s.store.table.erase key)).put task (.deleted key))
  | insert {task : ℕ} {key : String} {row : CacheRow}
      (hcall : s.calls task = some (.inserting key row)) :
      Acts s now (.execute task)
        { (s.withTable (s.store.table.insert key row)).put task .inserted with
          lastInsert := Function.update s.lastInsert key (some row) }
  | resume {task : ℕ} {key : String} {row : Option CacheRow}
      (hcall : s.calls task = some (.selected key row)) :
      Acts s now (.resume task)
        ({ s with store := (judge s.store now key row).1 }.put task
          (judge s.store now key row).2)
  | missed {task : ℕ} {key : String} (hcall : s.calls task = some (.deleted key)) :
      Acts s now (.commit task)
        ({ s with store := s.store.countMiss (CacheStore.moduleFromKey key) }.put task
          (.returned (.ok .null)))
  | stored {task : ℕ} (hcall : s.calls task = some .inserted) :
      Acts s now (.commit task) (s.put task .stored)
  | abandon {task : ℕ} (hcall : s.calls task ≠ none) :
      Acts s now (.abandon task) (s.put task .abandoned)
  | cleanup : Acts s now .cleanup { s with store := (s.store.cleanupExpired now none).1 }

variable {s s' s₁ : SharedStore} {e : StoreEvent} {a : StoreAction} {now t : ℚ} {task : ℕ}
  {key : String}

lemma acts_of_act (h : s.act now a = some s') : s.Acts now a s' := by
  cases a with
  | get task key =>
    simp only [act] at h
    split at h <;> cases h
    exact .get ‹_›
  | set task key value ttl =>
    simp only [act] at h
    split at h <;> cases h
    exact .set ‹_›
  | execute task =>
    simp only [act] at h
    split at h
    · rename_i p hcall
      cases p with
      | selecting key =>
        cases h
        exact .select hcall
      | deleting key =>
        cases h
        exact .delete hcall
      | inserting key row =>
        cases h
        exact .insert hcall
      | _ => cases h
    · cases h
  | resume task =>
    simp only [act] at h
    split at h <;> cases h
    exact .resume ‹_›
  | commit task =>
    simp only [act] at h
    split at h <;> cases h
    · exact .missed ‹_›
    · exact .stored ‹_›
  | abandon task =>
    simp only [act] at h
    split at h <;> cases h
    exact .abandon (by simp_all)
  | cleanup =>
    cases h
    exact .cleanup

lemma step_acts (h : step s e = some s') :
    s.now ≤ e.time ∧ ∃ s₁, s.Acts e.time e.action s₁ ∧ s' = { s₁ with now := e.time } := by
  unfold step at h
  split at h
  · cases h
  · rename_i hlt
    obtain ⟨s₁, hact, hs'⟩ := Option.map_eq_some_iff.mp h
    exact ⟨not_lt.mp hlt, s₁, acts_of_act hact, hs'.symm⟩

lemma judge_table (store : CacheStore) (now : ℚ) (key : String) (row : Option CacheRow) :
    (judge store now key row).1.table = store.table := by
  rcases row with _ | row
  · rfl
  · simp only [judge]
    split <;> rfl

/-! ### The table stands for the last INSERTs -/

/-- The condition on a step: the DELETE of a `get` finds no row under its key, or one whose
time to live has passed. -/
def DeletesExpired (s : SharedStore) (e : StoreEvent) : Prop :=
  ∀ task key row, e.action = .execute task → s.calls task = some (.deleting key) →
    s.store.table.lookup key = some row → ¬ CacheStore.Live e.time row

/-- A table that has lost no row of the given INSERTs that still lives. -/
abbrev KeepsRows (now : ℚ) (table : Table String CacheRow)
    (lastInsert : String → Option CacheRow) : Prop :=
  StandsFor CacheStore.Live now (fun key => table.lookup key) lastInsert

/-- The invariant of the process. -/
def Kept (s : SharedStore) : Prop := KeepsRows s.now s.store.table s.lastInsert

lemma keepsRows_erase {table : Table String CacheRow} {lastInsert : String → Option CacheRow}
    (h : KeepsRows now table lastInsert)
    (hexpired : ∀ row, table.lookup key = some row → ¬ CacheStore.Live now row) :
    KeepsRows now (table.erase key) lastInsert := by
  refine h.prune (fun k row hrow => Table.lookup_of_lookup_erase hrow) fun k row hrow hlive => ?_
  have hk : k ≠ key := by
    rintro rfl
    exact hexpired row hrow hlive
  rwa [AList.lookup_erase_ne hk]

lemma keepsRows_insert {table : Table String CacheRow} {lastInsert : String → Option CacheRow}
    (h : KeepsRows now table lastInsert) (key : String) (row : CacheRow) :
    KeepsRows now (table.insert key row) (Function.update lastInsert key (some row)) := by
  have hlookup : (fun k => (table.insert key row).lookup k) =
      Function.update (fun k => table.lookup k) key (some row) := by
    funext k
    by_cases hk : k = key
    · subst hk
      rw [Function.update_self]
      exact AList.lookup_insert _
    · rw [Function.update_of_ne hk]
      exact AList.lookup_insert_ne hk
  rw [KeepsRows, hlookup]
  exact h.write key row

lemma kept_initial (store : CacheStore) : Kept (initial store) :=
  .refl CacheStore.Live 0 fun key => store.table.lookup key

lemma kept_step (hs : Kept s) (hC : DeletesExpired s e) (h : step s e = some s') : Kept s' := by
  obtain ⟨hle, s₁, hacts, rfl⟩ := step_acts h
  obtain ⟨t, action⟩ := e
  have hnow : KeepsRows t s.store.table s.lastInsert := hs.later CacheStore.live_antitone hle
  show KeepsRows t s₁.store.table s₁.lastInsert
  cases hacts with
  | get | set | select | missed | stored | abandon => exact hnow
  | @delete task key hcall =>
    exact keepsRows_erase hnow fun row hrow => hC task key row rfl hcall hrow
  | insert => exact keepsRows_insert hnow _ _
  | resume =>
    simp only [put, judge_table]
    exact hnow
  | cleanup =>
    exact hnow.prune (fun _ _ hrow => CacheStore.lookup_cleanup_subset hrow)
      fun _ _ hrow hlive => CacheStore.lookup_cleanup hrow hlive

/-! ### A `get` returns the row that it has read -/

/-- A `get` that has read a row has not gone on, or is past its SELECT for good. -/
def HasRead (task : ℕ) (key : String) (row : Option CacheRow) (s : SharedStore) : Prop :=
  s.calls task = some (.selected key row) ∨ ∃ p, s.calls task = some p ∧ p.PastSelect

/-- A call other than the one that a step moves, or the one with its new phase. -/
lemma hasRead_put {i : ℕ} {p : StorePhase} {row : Option CacheRow} (hs : HasRead task key row s)
    (hp : i = task → p.PastSelect) : HasRead task key row (s.put i p) := by
  by_cases hi : task = i
  · subst hi
    exact .inr ⟨p, by simp [put], hp rfl⟩
  · simpa [HasRead, put, Function.update_of_ne hi] using hs

lemma hasRead_step {row : Option CacheRow} (hs : HasRead task key row s)
    (h : step s e = some s') : HasRead task key row s' := by
  obtain ⟨-, s₁, hacts, rfl⟩ := step_acts h
  obtain ⟨t, action⟩ := e
  show HasRead task key row s₁
  have hnew : ∀ {i : ℕ} {p : StorePhase}, s.calls i = none → i = task → p.PastSelect := by
    rintro i p hnone rfl
    rcases hs with hread | ⟨p', hcall, -⟩
    · simp [hnone] at hread
    · simp [hnone] at hcall
  cases hacts with
  | get hnone => exact hasRead_put hs (hnew hnone)
  | set hnone => exact hasRead_put hs (hnew hnone)
  | @select i key' hcall =>
    refine hasRead_put hs ?_
    rintro rfl
    -- the call has read its row already
    rcases hs with hread | ⟨p, hcall', hp⟩
    · simp [hcall] at hread
    · obtain rfl : .selecting key' = p := by simpa [hcall] using hcall'
      exact absurd hp (by simp [StorePhase.PastSelect])
  | delete => exact hasRead_put (s := s.withTable _) hs fun _ => trivial
  | insert => exact hasRead_put (s := s.withTable _) hs fun _ => trivial
  | @resume i key' row' hcall =>
    refine hasRead_put (s := { s with store := _ }) hs fun _ => ?_
    simp only [judge]
    split
    · trivial
    · split <;> trivial
  | missed => exact hasRead_put (s := { s with store := _ }) hs fun _ => trivial
  | stored => exact hasRead_put hs fun _ => trivial
  | abandon => exact hasRead_put hs fun _ => trivial
  | cleanup => exact hs

lemma hasRead_run {row : Option CacheRow} {es : List StoreEvent}
    (hrun : Run step (fun _ _ => True) s es s') (hs : HasRead task key row s) :
    HasRead task key row s' :=
  hrun.invariant (fun _ _ _ hs _ h => hasRead_step hs h) hs

/-- A call that goes on with a live row returns its value. -/
lemma judge_of_live {store : CacheStore} {row : CacheRow} {v : Json}
    (hlive : CacheStore.Live now row) (hv : row.value = .dumps v) :
    (judge store now key (some row)).2 = .returned (.ok v) := by
  simp [judge, hlive.not_expired, hv, CellText.loads]

/-! ### Calls that nothing interrupts -/

/-- A `get` whose statements follow each other is the `get` of the store. -/
lemma get_alone (hnew : s.calls task = none) (hle : s.now ≤ t) (key : String) :
    ∃ es s', Run step (fun _ _ => True) s es s' ∧ s'.store = (s.store.get t key {}).1 ∧
      s'.calls task = some (.returned (s.store.get t key {}).2) := by
  have hbegin : step s ⟨t, .get task key⟩ =
      some { s.put task (.selecting key) with now := t } := by
    simp [step, not_lt.mpr hle, act, hnew]
  have hselect : step { s.put task (.selecting key) with now := t } ⟨t, .execute task⟩ =
      some { s.put task (.selected key (s.store.table.lookup key)) with now := t } := by
    simp [step, act, put, execute]
  have hresume : step { s.put task (.selected key (s.store.table.lookup key)) with now := t }
      ⟨t, .resume task⟩ = some { s.put task (judge s.store t key (s.store.table.lookup key)).2 with
        store := (judge s.store t key (s.store.table.lookup key)).1, now := t } := by
    simp [step, act, put]
  rcases hrow : s.store.table.lookup key with _ | row
  · refine ⟨_, _, .cons trivial hbegin (.cons trivial hselect (.cons trivial hresume (.nil _))), ?_⟩
    simp [hrow, judge, CacheStore.get, put]
  · by_cases hexp : CacheStore.expired t row = true
    · -- the row has expired: the DELETE and its commit follow
      have hdelete : step { s.put task (.deleting key) with now := t } ⟨t, .execute task⟩ =
          some { (s.withTable (s.store.table.erase key)).put task (.deleted key) with now := t } := by
        simp [step, act, put, execute, withTable]
      have hcommit : step { (s.withTable (s.store.table.erase key)).put task (.deleted key) with
          now := t } ⟨t, .commit task⟩ = some { s.put task (.returned (.ok .null)) with
            store := (s.store.get t key {}).1, now := t } := by
        simp [step, act, put, withTable, CacheStore.get, hrow, hexp, CacheStore.WriteFault.table]
      simp only [hrow, judge, hexp, if_true] at hselect hresume
      refine ⟨_, _, .cons trivial hbegin (.cons trivial hselect (.cons trivial hresume
        (.cons trivial hdelete (.cons trivial hcommit (.nil _))))), rfl, ?_⟩
      simp [put, CacheStore.get, hrow, hexp]
    · refine ⟨_, _, .cons trivial hbegin (.cons trivial hselect (.cons trivial hresume (.nil _))),
        ?_⟩
      rcases hval : row.value with v | _ <;>
        simp [hrow, judge, hexp, hval, CellText.loads, CacheStore.get, put]

/-- A `set` whose statements follow each other is the `set` of the store. -/
lemma set_alone (hnew : s.calls task = none) (hle : s.now ≤ t) (key : String) (value : Fields)
    (ttl : CacheStore.Ttl) :
    ∃ es s', Run step (fun _ _ => True) s es s' ∧
      s'.store = (s.store.set t key value ttl none).1 ∧ s'.calls task = some .stored := by
  have hbegin : step s ⟨t, .set task key value ttl⟩ = some { s.put task
      (.inserting key ⟨.dumps (.obj value), CacheStore.expiresAt t ttl⟩) with now := t } := by
    simp [step, not_lt.mpr hle, act, hnew]
  obtain ⟨s₁, hinsert, hstore, hcalls, hnow⟩ : ∃ s₁, step { s.put task
      (.inserting key ⟨.dumps (.obj value), CacheStore.expiresAt t ttl⟩) with now := t }
      ⟨t, .execute task⟩ = some s₁ ∧ s₁.store = (s.store.set t key value ttl none).1 ∧
        s₁.calls task = some .inserted ∧ s₁.now = t := by
    simp [step, act, put, execute, withTable, CacheStore.set, CacheStore.WriteFault.table]
  have hcommit : step s₁ ⟨t, .commit task⟩ = some { s₁.put task .stored with now := t } := by
    simp [step, act, hcalls, hnow]
  refine ⟨_, _, .cons trivial hbegin (.cons trivial hinsert (.cons trivial hcommit (.nil _))),
    hstore, ?_⟩
  simp [put]

/-! ### Values are served until their time to live has passed -/

/-- Whatever the last `set` of a key has written is returned by every `get` that reads the
key from now on and goes on before the time to live of the row has passed. -/
def Serves (s : SharedStore) : Prop :=
  ∀ task key row v t₁ s₁ es s₂ t₂ s₃, s.lastInsert key = some row → row.value = .dumps v →
    s.calls task = some (.selecting key) → step s ⟨t₁, .execute task⟩ = some s₁ →
    Run step (fun _ _ => True) s₁ es s₂ → step s₂ ⟨t₂, .resume task⟩ = some s₃ →
    CacheStore.Live t₂ row → s₃.calls task = some (.returned (.ok v))

lemma step_now (h : step s e = some s') : s.now ≤ s'.now := by
  obtain ⟨hle, s₁, -, rfl⟩ := step_acts h
  exact hle

lemma run_now {es : List StoreEvent} (hrun : Run step (fun _ _ => True) s es s') :
    s.now ≤ s'.now :=
  hrun.invariant (I := fun s' => s.now ≤ s'.now)
    (fun _ _ _ hs _ h => hs.trans (step_now h)) le_rfl

lemma serves_of_kept (hs : Kept s) : Serves s := by
  intro task key row v t₁ s₁ es s₂ t₂ s₃ hlast hv hcall hselect hrest hresume hlive
  have hle : s.now ≤ t₂ := by
    have h₁ : s.now ≤ s₁.now := step_now hselect
    have h₂ : s₁.now ≤ s₂.now := run_now hrest
    exact h₁.trans (h₂.trans (step_acts hresume).1)
  -- the SELECT reads the row
  have hrow : s.store.table.lookup key = some row :=
    hs.kept key row hlast (CacheStore.live_antitone row hle hlive)
  obtain ⟨-, s₁', hacts, rfl⟩ := step_acts hselect
  have hread : HasRead task key (some row) { s₁' with now := t₁ } := by
    left
    cases hacts with
    | select hcall' =>
      obtain rfl : key = _ := by simpa [hcall] using hcall'
      simp [put, hrow]
    | delete hcall' => simp [hcall] at hcall'
    | insert hcall' => simp [hcall] at hcall'
  -- and the call goes on with it
  obtain ⟨-, s₃', hacts', rfl⟩ := step_acts hresume
  cases hacts' with
  | resume hcall' =>
    rcases hasRead_run hrest hread with hsel | ⟨p, hp, hpast⟩
    · obtain ⟨rfl, rfl⟩ : key = _ ∧ some row = _ := by simpa [hsel] using hcall'
      simp [put, judge_of_live hlive hv]
    · rw [hp, Option.some.injEq] at hcall'
      subst hcall'
      exact absurd hpast (by simp [StorePhase.PastSelect])

/-- **In every run in which no `get` deletes a live row, every value is served until its time
to live has passed.** -/
theorem serves_of_run {store : CacheStore} {es : List StoreEvent}
    (hrun : Run step DeletesExpired (initial store) es s) : Serves s :=
  serves_of_kept (hrun.invariant (fun _ _ _ hs hC h => kept_step hs hC h) (kept_initial store))

/-! ### A `get` and a `set` of one key -/

instance (now : ℚ) (row : CacheRow) : Decidable (CacheStore.Live now row) :=
  decidable_of_iff ((row.expiresAt.all fun t => decide (now ≤ t)) = true)
    (by rcases h : row.expiresAt with _ | t <;> simp [CacheStore.Live, h])

instance (s : SharedStore) (e : StoreEvent) : Decidable (DeletesExpired s e) :=
  decidable_of_iff
    ((match e.action with
      | .execute task =>
        match s.calls task with
        | some (.deleting key) =>
          (s.store.table.lookup key).all fun row => !decide (CacheStore.Live e.time row)
        | _ => true
      | _ => true) = true)
    (by
      unfold DeletesExpired
      split
      · rename_i task haction
        split
        · rename_i key hcall
          simp only [Option.all_eq_true, Bool.not_eq_true', decide_eq_false_iff_not]
          constructor
          · intro hall task' key' row htask hdeleting hrow
            obtain rfl : task = task' := by simpa [haction] using htask
            obtain rfl : key = key' := by simpa [hcall] using hdeleting
            exact hall row hrow
          · intro hC row hrow
            exact hC task key row haction hcall hrow
        · rename_i hother
          refine iff_of_true rfl fun task' key' _ htask hdeleting _ => ?_
          obtain rfl : task = task' := by simpa [haction] using htask
          exact absurd hdeleting (hother key')
      · rename_i hother
        exact iff_of_true rfl fun task' _ _ htask _ _ => absurd htask (hother task'))

/-- A value for a second, and the `get` of another call that finds at 3 that it has
expired. -/
def expiredGet : List StoreEvent :=
  [⟨1, .set 0 "context:Seoul:2025-06" [("summary", .str "old")] { seconds := some 1 }⟩,
    ⟨1, .execute 0⟩, ⟨1, .commit 0⟩, ⟨3, .get 1 "context:Seoul:2025-06"⟩, ⟨3, .execute 1⟩,
    ⟨3, .resume 1⟩]

/-- A value for a hundred seconds that a third call commits. -/
def freshSet : List StoreEvent :=
  [⟨4, .set 2 "context:Seoul:2025-06" [("summary", .str "new")] { seconds := some 100 }⟩,
    ⟨4, .execute 2⟩, ⟨4, .commit 2⟩]

/-- The DELETE of the second call. -/
def lateDelete : List StoreEvent := [⟨4, .execute 1⟩, ⟨4, .commit 1⟩]

/-- A fourth call asks for the value. -/
def laterGet : List StoreEvent := [⟨6, .get 3 "context:Seoul:2025-06"⟩]

theorem serves_after_delete :
    ∃ s, Run step DeletesExpired (initial .init)
      (expiredGet ++ lateDelete ++ freshSet ++ laterGet) s ∧ Serves s := by
  obtain ⟨s, hrun, -⟩ : ∃ s, Run step DeletesExpired (initial .init)
      (expiredGet ++ lateDelete ++ freshSet ++ laterGet) s ∧ decide (s.now = 6) = true :=
    Run.of_observed (by decide +kernel)
  exact ⟨s, hrun, serves_of_run hrun⟩

/-- Whether a row holds an object and expires at 104. -/
def expiresAt104 : Option CacheRow → Bool
  | some ⟨.dumps (.obj _), some t⟩ => decide (t = 104)
  | _ => false

/-- Whether a call has returned `None`. -/
def returnedNone : Option StorePhase → Bool
  | some (.returned (.ok .null)) => true
  | _ => false

/-- Whether call 3 is returned `None` at 7 although a fresh row has been written. -/
def losesFreshRow (s : SharedStore) : Bool :=
  expiresAt104 (s.lastInsert "context:Seoul:2025-06") &&
    match s.calls 3, step s ⟨6, .execute 3⟩ with
    | some (.selecting key), some s₁ =>
      decide (key = "context:Seoul:2025-06") &&
        match step s₁ ⟨7, .resume 3⟩ with
        | some s₃ => returnedNone (s₃.calls 3)
        | none => false
    | _, _ => false

theorem fresh_row_is_deleted :
    ∃ s, Run step (fun _ _ => True) (initial .init)
      (expiredGet ++ freshSet ++ lateDelete ++ laterGet) s ∧ ¬ Serves s := by
  obtain ⟨s, hrun, hs⟩ : ∃ s, Run step (fun _ _ => True) (initial .init)
      (expiredGet ++ freshSet ++ lateDelete ++ laterGet) s ∧ losesFreshRow s = true :=
    Run.of_observed (by decide +kernel)
  refine ⟨s, hrun, fun hserves => ?_⟩
  simp only [losesFreshRow, Bool.and_eq_true] at hs
  obtain ⟨hrow, hget⟩ := hs
  obtain ⟨fields, hlast⟩ : ∃ fields,
      s.lastInsert "context:Seoul:2025-06" = some ⟨.dumps (.obj fields), some 104⟩ := by
    unfold expiresAt104 at hrow
    split at hrow
    · rename_i fields t hlast
      obtain rfl : t = 104 := by simpa using hrow
      exact ⟨fields, hlast⟩
    · cases hrow
  have hlive : CacheStore.Live 7 ⟨.dumps (.obj fields), some 104⟩ := by
    intro t ht
    obtain rfl : 104 = t := by simpa using ht
    norm_num
  split at hget
  · rename_i key s₁ hcall hselect
    simp only [Bool.and_eq_true, decide_eq_true_eq] at hget
    obtain ⟨rfl, hnone⟩ := hget
    split at hnone
    · rename_i s₃ hresume
      have hreturned := hserves 3 _ _ _ 6 s₁ [] s₁ 7 s₃ hlast rfl hcall hselect (.nil s₁) hresume
        hlive
      simp [hreturned, returnedNone] at hnone
    · cases hnone
  · cases hget

end SharedStore

end ImageDescriptor
