/-
# Concurrent calls of the geocoder

Any number of calls of `geocode` share the cache and the lock.  A call reads the cache; if it
finds nothing it waits for the lock, holds it while it sleeps until a second has passed
since the last request and while it looks the point up, and writes its entry when it has
left the lock.  The cache is read before the lock only.  The statements of a read, its SELECT
and the DELETE of an expired row, and the INSERT of a write are steps of their own, between
which other calls may go on; a commit is taken with its statement, since what has been
executed is visible to every call before the commit already.  How long a call sleeps, and
the attempts of which a lookup consists, are the subject of `Modules/NominatimRate.lean`.

Beside the state, the machine records the calls that have made a lookup, and the point for
which the row of each key was written.
-/
import ImageDescriptor.Cache.Races
import ImageDescriptor.Modules.Geocoder

namespace ImageDescriptor

/-- A longitude and a latitude. -/
abbrev Point := ℚ × ℚ

/-- The key of the cell of a point. -/
def cellKey (point : Point) : String := Geocoder.cacheKey point.1 point.2

/-- Where a call of `geocode` stands: it awaits its SELECT; it awaits the event loop with the
row that it has read, beside which the point stands for which the row was written; it awaits
the DELETE of that row; it waits for the lock, sleeps with the lock, looks its point up with
the lock; it awaits the INSERT of its entry since it has computed when the entry expires; or
it has ended, where `asked` tells whether it has made a lookup. -/
inductive GeocodePhase
  | reading
  | selected (row : Option CacheRow) (writtenFor : Option Point)
  | deleting
  | waiting
  | sleeping
  | fetching
  | storing (since : ℚ) (entry : CacheEntry) (result : Except Exc Location)
  | ended (asked : Bool) (result : Except Exc Location)
  | cancelled (asked : Bool)

/-- The state of the process. -/
structure GeocodeCalls where
  store : CacheStore
  /-- the call that holds `_lock` -/
  holder : Option ℕ
  calls : ℕ → Option (Point × GeocodePhase)
  now : ℚ
  /-- the calls that have made a lookup, the last one first -/
  lookups : List ℕ
  /-- the point for which the row of a key was written -/
  writtenFor : String → Option Point

/-- What happens to a call: it begins, its SELECT is carried out, it goes on with the row that
it has read, its DELETE is carried out, it gets the lock, it has slept and makes its lookup,
the lookup ends, its entry is written, or it is cancelled, where the statement that it awaits
may have been carried out all the same.  And the cleanup may run. -/
inductive GeocodeAction
  | begin (task : ℕ) (point : Point)
  | select (task : ℕ) (fault : Option Exc)
  | resume (task : ℕ)
  | delete (task : ℕ) (fault : Option CacheStore.WriteFault)
  | acquire (task : ℕ)
  | lookup (task : ℕ)
  | fetched (task : ℕ) (fetched : Fetched)
  | stored (task : ℕ) (fault : Option CacheStore.WriteFault)
  | cancel (task : ℕ) (executed : Bool)
  | cleanup (fault : Option CacheStore.WriteFault)

/-- An action at a clock reading. -/
structure GeocodeEvent where
  time : ℚ
  action : GeocodeAction

namespace GeocodePhase

/-- A call that holds the lock. -/
def holds : GeocodePhase → Bool
  | sleeping | fetching => true
  | _ => false

/-- A call that is over. -/
def final : GeocodePhase → Bool
  | ended .. | cancelled _ => true
  | _ => false

/-- A call that has made its lookup. -/
def asked : GeocodePhase → Bool
  | fetching | storing .. => true
  | ended b _ | cancelled b => b
  | _ => false

end GeocodePhase

/-- The end of a `get` that has read an expired row: its DELETE, and what it returns. -/
def CacheStore.deleteExpired (s : CacheStore) (key : String) (fault : Option WriteFault) :
    CacheStore × Except Exc Json :=
  let module := moduleFromKey key
  let s := { s with table := WriteFault.table fault s.table (s.table.erase key) }
  match fault with
  | none => (s.countMiss module, .ok .null)
  | some fault =>
    if catches fault.exc then (s.countMiss module, .ok .null) else (s, .error fault.exc)

/-- A `get` is its SELECT, what it makes of the row, and its DELETE. -/
lemma CacheStore.get_eq_steps (s : CacheStore) (now : ℚ) (key : String) (faults : GetFaults) :
    s.get now key faults =
      match faults.select with
      | some e => (s, getFailed e)
      | none =>
        match SharedStore.judge s now key (s.table.lookup key) with
        | (s, .returned v) => (s, v)
        | (s, _) => s.deleteExpired key faults.delete := by
  unfold get SharedStore.judge
  rcases faults.select with _ | e
  · rcases s.table.lookup key with _ | row
    · rfl
    · by_cases hexp : expired now row = true
      · simp only [hexp, if_true]
        rfl
      · simp only [hexp]
        rfl
  · rfl

namespace GeocodeCalls

def initial : GeocodeCalls := ⟨CacheStore.init, none, fun _ => none, 0, [], fun _ => none⟩

def put (s : GeocodeCalls) (time : ℚ) (task : ℕ) (point : Point) (p : GeocodePhase) :
    GeocodeCalls :=
  { s with calls := Function.update s.calls task (some (point, p)), now := time }

def withStore (s : GeocodeCalls) (store : CacheStore) : GeocodeCalls := { s with store := store }

variable (lax : LaxMode) (cfg : Settings)

/-- The phase of a call after its read of the cache. -/
def afterGet : Except Exc Json → GeocodePhase
  | .error e => .ended false (.error e)
  | .ok v =>
    match fromCache (Location.ofFields lax) v with
    | some r => .ended false r
    | none => .waiting

/-- The phase of a call after its SELECT. -/
def afterSelect (s : GeocodeCalls) (key : String) : Option Exc → GeocodePhase
  | some e => afterGet lax (CacheStore.getFailed e)
  | none => .selected (s.store.table.lookup key) (s.writtenFor key)

/-- The phase of a call that has gone on with the row that it has read. -/
def afterJudge : StorePhase → GeocodePhase
  | .returned v => afterGet lax v
  | _ => .deleting

/-- The phase of a call after its lookup. -/
def afterLookup (t : ℚ) (point : Point) (fetched : Fetched) : GeocodePhase :=
  let rest := Geocoder.afterFetch lax cfg point.1 point.2 fetched
  match rest.entry with
  | none => .ended true rest.result
  | some entry => .storing t entry rest.result

/-- The row is written: the statement has been carried out. -/
def noteWrite (s : GeocodeCalls) (point : Point) (entry : CacheEntry)
    (fault : Option CacheStore.WriteFault) : String → Option Point :=
  match fault with
  | some (.execute _) => s.writtenFor
  | _ => Function.update s.writtenFor entry.key (some point)

/-- The INSERT of a call that has computed at `since` when its entry expires. -/
def write (s : GeocodeCalls) (since : ℚ) (point : Point) (entry : CacheEntry)
    (fault : Option CacheStore.WriteFault) : GeocodeCalls :=
  { s with
    store := (s.store.set since entry.key entry.value entry.ttl fault).1
    writtenFor := s.noteWrite point entry fault }

/-- A call that is cancelled. -/
def cancelled (s : GeocodeCalls) (t : ℚ) (task : ℕ) (point : Point) (p : GeocodePhase) :
    GeocodeCalls :=
  { s.put t task point (.cancelled p.asked) with
    holder := if p.holds then none else s.holder }

/-- One event; `none` when it cannot happen. -/
def step (s : GeocodeCalls) (e : GeocodeEvent) : Option GeocodeCalls :=
  if e.time < s.now then none
  else
    match e.action with
    | .begin task point =>
      match s.calls task with
      | none => some (s.put e.time task point .reading)
      | some _ => none
    | .select task fault =>
      match s.calls task with
      | some (point, .reading) =>
        some (s.put e.time task point (s.afterSelect lax (cellKey point) fault))
      | _ => none
    | .resume task =>
      match s.calls task with
      | some (point, .selected row _) =>
        let r := SharedStore.judge s.store e.time (cellKey point) row
        some ((s.withStore r.1).put e.time task point (afterJudge lax r.2))
      | _ => none
    | .delete task fault =>
      match s.calls task with
      | some (point, .deleting) =>
        let r := s.store.deleteExpired (cellKey point) fault
        some ((s.withStore r.1).put e.time task point (afterGet lax r.2))
      | _ => none
    | .acquire task =>
      match s.calls task, s.holder with
      | some (point, .waiting), none =>
        some { s.put e.time task point .sleeping with holder := some task }
      | _, _ => none
    | .lookup task =>
      match s.calls task with
      | some (point, .sleeping) =>
        some { s.put e.time task point .fetching with lookups := task :: s.lookups }
      | _ => none
    | .fetched task fetched =>
      match s.calls task with
      | some (point, .fetching) =>
        some { s.put e.time task point (afterLookup lax cfg e.time point fetched) with
          holder := none }
      | _ => none
    | .stored task fault =>
      match s.calls task with
      | some (point, .storing since entry result) =>
        let written := s.store.set since entry.key entry.value entry.ttl fault
        some ((s.write since point entry fault).put e.time task point
          (.ended true ((Rest.mk (some entry) result).after written.2)))
      | _ => none
    | .cancel task executed =>
      match s.calls task with
      | some (point, .storing since entry result) =>
        let s' := if executed then s.write since point entry none else s
        some (s'.cancelled e.time task point (.storing since entry result))
      | some (point, .deleting) =>
        let store := if executed then s.store.without (cellKey point) else s.store
        some ((s.withStore store).cancelled e.time task point .deleting)
      | some (point, p) => if p.final then none else some (s.cancelled e.time task point p)
      | none => none
    | .cleanup fault =>
      some { s with store := (s.store.cleanupExpired e.time fault).1, now := e.time }

/-! ### The steps as a relation -/

/-- What an action at a clock reading does, with what has to hold before it. -/
inductive Moves (s : GeocodeCalls) (t : ℚ) : GeocodeAction → GeocodeCalls → Prop
  | begin {task : ℕ} {point : Point} (hnew : s.calls task = none) :
      Moves s t (.begin task point) (s.put t task point .reading)
  | select {task : ℕ} {point : Point} {fault : Option Exc}
      (hcall : s.calls task = some (point, .reading)) :
      Moves s t (.select task fault)
        (s.put t task point (s.afterSelect lax (cellKey point) fault))
  | resume {task : ℕ} {point : Point} {row : Option CacheRow} {c : Option Point}
      (hcall : s.calls task = some (point, .selected row c)) :
      Moves s t (.resume task)
        ((s.withStore (SharedStore.judge s.store t (cellKey point) row).1).put t task point
          (afterJudge lax (SharedStore.judge s.store t (cellKey point) row).2))
  | delete {task : ℕ} {point : Point} {fault : Option CacheStore.WriteFault}
      (hcall : s.calls task = some (point, .deleting)) :
      Moves s t (.delete task fault)
        ((s.withStore (s.store.deleteExpired (cellKey point) fault).1).put t task point
          (afterGet lax (s.store.deleteExpired (cellKey point) fault).2))
  | acquire {task : ℕ} {point : Point} (hcall : s.calls task = some (point, .waiting))
      (hfree : s.holder = none) :
      Moves s t (.acquire task) { s.put t task point .sleeping with holder := some task }
  | lookup {task : ℕ} {point : Point} (hcall : s.calls task = some (point, .sleeping)) :
      Moves s t (.lookup task)
        { s.put t task point .fetching with lookups := task :: s.lookups }
  | fetched {task : ℕ} {point : Point} {fetched : Fetched}
      (hcall : s.calls task = some (point, .fetching)) :
      Moves s t (.fetched task fetched)
        { s.put t task point (afterLookup lax cfg t point fetched) with holder := none }
  | stored {task : ℕ} {point : Point} {since : ℚ} {entry : CacheEntry}
      {result : Except Exc Location} {fault : Option CacheStore.WriteFault}
      (hcall : s.calls task = some (point, .storing since entry result)) :
      Moves s t (.stored task fault)
        ((s.write since point entry fault).put t task point (.ended true
          ((Rest.mk (some entry) result).after
            (s.store.set since entry.key entry.value entry.ttl fault).2)))
  | cancelWrite {task : ℕ} {point : Point} {since : ℚ} {entry : CacheEntry}
      {result : Except Exc Location}
      (hcall : s.calls task = some (point, .storing since entry result)) :
      Moves s t (.cancel task true)
        ((s.write since point entry none).cancelled t task point (.storing since entry result))
  | cancelDelete {task : ℕ} {point : Point} (hcall : s.calls task = some (point, .deleting)) :
      Moves s t (.cancel task true)
        ((s.withStore (s.store.without (cellKey point))).cancelled t task point .deleting)
  | cancel {task : ℕ} {point : Point} {p : GeocodePhase} {executed : Bool}
      (hcall : s.calls task = some (point, p)) (hp : p.final = false) :
      Moves s t (.cancel task executed) (s.cancelled t task point p)
  | cleanup {fault : Option CacheStore.WriteFault} :
      Moves s t (.cleanup fault)
        { s with store := (s.store.cleanupExpired t fault).1, now := t }

variable {lax cfg} {s s' : GeocodeCalls} {e : GeocodeEvent}

lemma moves_of_step (h : step lax cfg s e = some s') :
    s.now ≤ e.time ∧ Moves lax cfg s e.time e.action s' := by
  obtain ⟨t, action⟩ := e
  simp only [step] at h
  split at h
  · cases h
  · rename_i hlt
    refine ⟨not_lt.mp hlt, ?_⟩
    cases action with
    | begin task point =>
      dsimp only at h
      split at h <;> cases h
      exact .begin ‹_›
    | select task fault =>
      dsimp only at h
      split at h <;> cases h
      exact .select ‹_›
    | resume task =>
      dsimp only at h
      split at h <;> cases h
      exact .resume ‹_›
    | delete task fault =>
      dsimp only at h
      split at h <;> cases h
      exact .delete ‹_›
    | acquire task =>
      dsimp only at h
      split at h <;> cases h
      exact .acquire ‹_› ‹_›
    | lookup task =>
      dsimp only at h
      split at h <;> cases h
      exact .lookup ‹_›
    | fetched task fetched =>
      dsimp only at h
      split at h <;> cases h
      exact .fetched ‹_›
    | stored task fault =>
      dsimp only at h
      split at h <;> cases h
      exact .stored ‹_›
    | cancel task executed =>
      dsimp only at h
      split at h
      · rename_i point since entry result hcall
        cases executed <;> cases h
        · exact .cancel hcall rfl
        · exact .cancelWrite hcall
      · rename_i point hcall
        cases executed <;> cases h
        · exact .cancel hcall rfl
        · exact .cancelDelete hcall
      · split at h <;> cases h
        rename_i hfinal
        exact .cancel ‹_› (by simpa using hfinal)
      · cases h
    | cleanup fault =>
      cases h
      exact .cleanup

lemma step_time (h : step lax cfg s e = some s') : s.now ≤ e.time ∧ s'.now = e.time := by
  obtain ⟨t, action⟩ := e
  obtain ⟨hle, hmoves⟩ := moves_of_step h
  refine ⟨hle, ?_⟩
  cases hmoves <;> rfl

/-! ### One call -/

/-- What holds of the call that is set and of the other calls holds of every call. -/
lemma forall_calls_update {calls : ℕ → Option (Point × GeocodePhase)}
    {P : ℕ → Point → GeocodePhase → Prop} {i : ℕ} {point : Point} {p : GeocodePhase}
    (hset : P i point p)
    (hother : ∀ j point' p', j ≠ i → calls j = some (point', p') → P j point' p')
    (j : ℕ) (point' : Point) (p' : GeocodePhase)
    (h : Function.update calls i (some (point, p)) j = some (point', p')) : P j point' p' := by
  rcases Lib.update_some_cases h with ⟨rfl, hsame⟩ | ⟨hj, hold⟩
  · rw [Prod.mk.injEq] at hsame
    obtain ⟨rfl, rfl⟩ := hsame
    exact hset
  · exact hother j point' p' hj hold

/-- A step changes one call at most, which begins or is not over. -/
lemma step_calls (h : step lax cfg s e = some s') : s'.calls = s.calls ∨
    ∃ i point p', s'.calls = Function.update s.calls i (some (point, p')) ∧
      (s.calls i = none ∨ ∃ p, s.calls i = some (point, p) ∧ p.final = false) := by
  obtain ⟨t, action⟩ := e
  cases (moves_of_step h).2 with
  | begin hnew => exact .inr ⟨_, _, _, rfl, .inl hnew⟩
  | select hcall => exact .inr ⟨_, _, _, rfl, .inr ⟨_, hcall, rfl⟩⟩
  | resume hcall => exact .inr ⟨_, _, _, rfl, .inr ⟨_, hcall, rfl⟩⟩
  | delete hcall => exact .inr ⟨_, _, _, rfl, .inr ⟨_, hcall, rfl⟩⟩
  | acquire hcall => exact .inr ⟨_, _, _, rfl, .inr ⟨_, hcall, rfl⟩⟩
  | lookup hcall => exact .inr ⟨_, _, _, rfl, .inr ⟨_, hcall, rfl⟩⟩
  | fetched hcall => exact .inr ⟨_, _, _, rfl, .inr ⟨_, hcall, rfl⟩⟩
  | stored hcall => exact .inr ⟨_, _, _, rfl, .inr ⟨_, hcall, rfl⟩⟩
  | cancelWrite hcall => exact .inr ⟨_, _, _, rfl, .inr ⟨_, hcall, rfl⟩⟩
  | cancelDelete hcall => exact .inr ⟨_, _, _, rfl, .inr ⟨_, hcall, rfl⟩⟩
  | cancel hcall hp => exact .inr ⟨_, _, _, rfl, .inr ⟨_, hcall, hp⟩⟩
  | cleanup => exact .inl rfl

lemma calls_ne_none_step (h : step lax cfg s e = some s') {j : ℕ} (hj : s.calls j ≠ none) :
    s'.calls j ≠ none := by
  rcases step_calls h with hsame | ⟨i, point, p', hcalls, -⟩
  · rwa [hsame]
  · rw [hcalls]
    by_cases hji : j = i
    · subst hji
      simp
    · rwa [Function.update_of_ne hji]

/-- A call that is over stays as it is. -/
lemma final_step (h : step lax cfg s e = some s') {j : ℕ} {point : Point} {p : GeocodePhase}
    (hj : s.calls j = some (point, p)) (hp : p.final = true) : s'.calls j = some (point, p) := by
  rcases step_calls h with hsame | ⟨i, point', p', hcalls, hi⟩
  · rw [hsame, hj]
  · rw [hcalls]
    have hne : j ≠ i := by
      rintro rfl
      rcases hi with hnone | ⟨q, hq, hfinal⟩
      · rw [hj] at hnone
        cases hnone
      · rw [hj, Option.some.injEq, Prod.mk.injEq] at hq
        rw [← hq.2, hp] at hfinal
        cases hfinal
    rw [Function.update_of_ne hne, hj]

/-! ### The calls that have made a lookup -/

/-- Call `j` has made its lookup. -/
def hasAsked (s : GeocodeCalls) (j : ℕ) : Bool := (s.calls j).any fun call => call.2.asked

/-- The invariant of the record: it lists the calls that have made a lookup, each once. -/
def LookupsListed (s : GeocodeCalls) : Prop :=
  s.lookups.Nodup ∧ ∀ j, j ∈ s.lookups ↔ s.hasAsked j = true

lemma asked_afterGet (r : Except Exc Json) : (afterGet lax r).asked = false := by
  unfold afterGet
  split
  · rfl
  · split <;> rfl

lemma asked_afterSelect (s : GeocodeCalls) (key : String) (fault : Option Exc) :
    (s.afterSelect lax key fault).asked = false := by
  rcases fault with _ | e
  · rfl
  · exact asked_afterGet _

lemma asked_afterJudge (p : StorePhase) : (afterJudge lax p).asked = false := by
  cases p with
  | returned v => exact asked_afterGet v
  | _ => rfl

lemma asked_afterLookup (t : ℚ) (point : Point) (fetched : Fetched) :
    (afterLookup lax cfg t point fetched).asked = true := by
  unfold afterLookup
  dsimp only
  split <;> rfl

/-- A call that goes on without a lookup. -/
lemma hasAsked_update {i : ℕ} {point point' : Point} {p p' : GeocodePhase}
    (hcall : s.calls i = some (point, p))
    (hcalls : s'.calls = Function.update s.calls i (some (point', p')))
    (h : p'.asked = p.asked) (j : ℕ) : s'.hasAsked j = s.hasAsked j := by
  by_cases hj : j = i
  · subst hj
    simp [hasAsked, hcalls, hcall, h]
  · simp [hasAsked, hcalls, Function.update_of_ne hj]

lemma hasAsked_begin {i : ℕ} {point : Point} (hnew : s.calls i = none)
    (hcalls : s'.calls = Function.update s.calls i (some (point, .reading))) (j : ℕ) :
    s'.hasAsked j = s.hasAsked j := by
  by_cases hj : j = i
  · subst hj
    simp [hasAsked, hcalls, hnew, GeocodePhase.asked]
  · simp [hasAsked, hcalls, Function.update_of_ne hj]

/-- The record after a step: nothing changes, or a call makes its lookup. -/
lemma step_lookups (h : step lax cfg s e = some s') :
    (s'.lookups = s.lookups ∧ ∀ j, s'.hasAsked j = s.hasAsked j) ∨
      ∃ i point, s.calls i = some (point, .sleeping) ∧ s'.lookups = i :: s.lookups ∧
        s'.calls = Function.update s.calls i (some (point, .fetching)) := by
  obtain ⟨t, action⟩ := e
  cases (moves_of_step h).2 with
  | begin hnew => exact .inl ⟨rfl, hasAsked_begin hnew rfl⟩
  | select hcall => exact .inl ⟨rfl, hasAsked_update hcall rfl (asked_afterSelect _ _ _)⟩
  | resume hcall => exact .inl ⟨rfl, hasAsked_update hcall rfl (asked_afterJudge _)⟩
  | delete hcall => exact .inl ⟨rfl, hasAsked_update hcall rfl (asked_afterGet _)⟩
  | acquire hcall => exact .inl ⟨rfl, hasAsked_update hcall rfl rfl⟩
  | @lookup task point hcall => exact .inr ⟨task, point, hcall, rfl, rfl⟩
  | fetched hcall => exact .inl ⟨rfl, hasAsked_update hcall rfl (asked_afterLookup _ _ _)⟩
  | stored hcall => exact .inl ⟨rfl, hasAsked_update hcall rfl rfl⟩
  | cancelWrite hcall => exact .inl ⟨rfl, hasAsked_update hcall rfl rfl⟩
  | cancelDelete hcall => exact .inl ⟨rfl, hasAsked_update hcall rfl rfl⟩
  | cancel hcall => exact .inl ⟨rfl, hasAsked_update hcall rfl rfl⟩
  | cleanup => exact .inl ⟨rfl, fun _ => rfl⟩

lemma lookupsListed_step (hs : LookupsListed s) (h : step lax cfg s e = some s') :
    LookupsListed s' := by
  obtain ⟨hnodup, hlisted⟩ := hs
  rcases step_lookups h with ⟨hsame, hasked⟩ | ⟨i, point, hsleeps, hlookups, hcalls⟩
  · refine ⟨hsame ▸ hnodup, fun j => ?_⟩
    rw [hsame, hlisted, hasked]
  · -- a call makes its lookup: it had made none before
    have hnew : i ∉ s.lookups := by
      rw [hlisted]
      simp [hasAsked, hsleeps, GeocodePhase.asked]
    refine ⟨hlookups ▸ List.nodup_cons.mpr ⟨hnew, hnodup⟩, fun j => ?_⟩
    rw [hlookups, List.mem_cons, hlisted]
    by_cases hj : j = i
    · subst hj
      simp [hasAsked, hcalls, GeocodePhase.asked]
    · simp [hasAsked, hcalls, hj]

lemma lookupsListed_initial : LookupsListed initial :=
  ⟨List.nodup_nil, fun j => by simp [initial, hasAsked]⟩

/-! ### What a call writes and returns -/

/-- The fields of a location that was built. -/
lemma point_of_ofFields {fields : Fields} {l : Location}
    (h : Location.ofFields lax fields = .ok l) :
    floatField lax fields "lat" = .ok l.lat ∧ floatField lax fields "lon" = .ok l.lon := by
  simp only [Location.ofFields, bind_eq_ok] at h
  obtain ⟨_, -, _, -, _, -, _, -, _, -, lat, hlat, lon, hlon, hl⟩ := h
  cases hl
  exact ⟨hlat, hlon⟩

/-- A location that is parsed carries the point that was asked for. -/
lemma point_of_parse {lon lat : ℚ} {data : Json} {l : Location}
    (h : Geocoder.parse lax lon lat data = .ok l) : l.lon = lon ∧ l.lat = lat := by
  obtain ⟨_, _, _, _, _, _, -, -, hl⟩ := Geocoder.parse_ok h
  obtain ⟨hlat, hlon⟩ := point_of_ofFields hl
  cases hlat
  cases hlon
  exact ⟨rfl, rfl⟩

/-- What a call makes of its lookup carries its point. -/
lemma point_of_afterFetch {lon lat : ℚ} {fetched : Fetched} {l : Location}
    (h : (Geocoder.afterFetch lax cfg lon lat fetched).result = .ok l) :
    l.lon = lon ∧ l.lat = lat := by
  rcases fetched with e | e | data
  · cases h
  · simp only [Geocoder.afterFetch] at h
    split at h
    · cases h
      exact ⟨rfl, rfl⟩
    · cases h
  · rcases hparse : Geocoder.parse lax lon lat data with e | l'
    · simp [Geocoder.afterFetch, hparse] at h
    · obtain rfl : l' = l := by simpa [Geocoder.afterFetch, hparse] using h
      exact point_of_parse hparse

lemma modelDump_ne_nil (l : Location) : l.modelDump ≠ [] := by
  simp [Location.modelDump]

/-- A row that can be read serves the call. -/
lemma afterGet_modelDump (l : Location) :
    afterGet lax (.ok (.obj l.modelDump)) = .ended false (.ok l) := by
  simp [afterGet, fromCache_obj _ (modelDump_ne_nil l)]

/-- The entry of a location. -/
def entryOf (cfg : Settings) (l : Location) : CacheEntry :=
  ⟨cellKey (l.lon, l.lat), l.modelDump, { seconds := some cfg.cacheTtlSeconds }⟩

/-- A row of a key holds a location of its cell, and was written for the point of that
location. -/
def RowFits (key : String) (row : CacheRow) (c : Option Point) : Prop :=
  ∃ l : Location, row.value = .dumps (.obj l.modelDump) ∧ c = some (l.lon, l.lat) ∧
    cellKey (l.lon, l.lat) = key

/-- What a phase may hold: a row of the cell; the entry of the location to be returned, which
carries the point of the call; and that location. -/
def Fits (cfg : Settings) (point : Point) : GeocodePhase → Prop
  | .selected (some row) c => RowFits (cellKey point) row c
  | .storing _ entry result =>
    ∃ l : Location, result = .ok l ∧ entry = entryOf cfg l ∧ (l.lon, l.lat) = point
  | .ended true result => ∀ l, result = .ok l → (l.lon, l.lat) = point
  | _ => True

/-- The invariant of the process. -/
structure Coherent (cfg : Settings) (s : GeocodeCalls) : Prop where
  rows : ∀ key row, s.store.table.lookup key = some row → RowFits key row (s.writtenFor key)
  phases : ∀ j point p, s.calls j = some (point, p) → Fits cfg point p

lemma fits_afterGet (point : Point) (r : Except Exc Json) : Fits cfg point (afterGet lax r) := by
  unfold afterGet
  split
  · trivial
  · split <;> trivial

lemma fits_afterJudge (point : Point) (p : StorePhase) :
    Fits cfg point (afterJudge lax p) := by
  cases p with
  | returned v => exact fits_afterGet point v
  | _ => trivial

lemma fits_afterSelect (hs : Coherent cfg s) (point : Point) (fault : Option Exc) :
    Fits cfg point (s.afterSelect lax (cellKey point) fault) := by
  rcases fault with _ | e
  · simp only [afterSelect]
    rcases hrow : s.store.table.lookup (cellKey point) with _ | row
    · trivial
    · exact hs.rows _ _ hrow
  · exact fits_afterGet point _

lemma fits_afterLookup (t : ℚ) (point : Point) (fetched : Fetched) :
    Fits cfg point (afterLookup lax cfg t point fetched) := by
  unfold afterLookup
  dsimp only
  split
  · intro l hl
    obtain ⟨hlon, hlat⟩ := point_of_afterFetch hl
    rw [hlon, hlat]
  · rename_i entry hentry
    obtain ⟨l, hl, rfl⟩ := Geocoder.afterFetch_entry hentry
    obtain ⟨hlon, hlat⟩ := point_of_afterFetch hl
    exact ⟨l, hl, by rw [entryOf, hlon, hlat, cellKey], by rw [hlon, hlat]⟩

/-- A call that has written its entry returns what it has written. -/
lemma fits_stored {point : Point} {since : ℚ} {entry : CacheEntry} {result : Except Exc Location}
    (h : Fits cfg point (.storing since entry result)) (written : Except Exc Unit) :
    Fits cfg point (.ended true ((Rest.mk (some entry) result).after written)) := by
  intro l hl
  obtain ⟨l', rfl, -, hpoint⟩ := h
  rcases written with x | _
  · cases hl
  · cases hl
    exact hpoint

lemma phases_update {calls : ℕ → Option (Point × GeocodePhase)} {i : ℕ} {point : Point}
    {p : GeocodePhase} (hcalls : ∀ j point p, calls j = some (point, p) → Fits cfg point p)
    (hp : Fits cfg point p) : ∀ j point' p',
      Function.update calls i (some (point, p)) j = some (point', p') → Fits cfg point' p' :=
  forall_calls_update (P := fun _ => Fits cfg) hp fun j point' p' _ => hcalls j point' p'

lemma table_deleteExpired (store : CacheStore) (key : String)
    (fault : Option CacheStore.WriteFault) : (store.deleteExpired key fault).1.table =
      CacheStore.WriteFault.table fault store.table (store.table.erase key) := by
  unfold CacheStore.deleteExpired
  dsimp only
  split
  · rfl
  · split <;> rfl

lemma lookup_deleteExpired_subset {store : CacheStore} {k key : String} {row : CacheRow}
    {fault : Option CacheStore.WriteFault}
    (h : (store.deleteExpired k fault).1.table.lookup key = some row) :
    store.table.lookup key = some row := by
  rw [table_deleteExpired] at h
  rcases CacheStore.WriteFault.table_cases fault store.table (store.table.erase k) with
    hsame | herased
  · rwa [hsame] at h
  · rw [herased] at h
    exact Lib.Table.lookup_of_lookup_erase h

/-- The row of a location fits, and so do the others. -/
lemma rows_insert (hs : Coherent cfg s) (l : Location) (t : Option ℚ) (key : String)
    (row : CacheRow)
    (h : (s.store.table.insert (cellKey (l.lon, l.lat)) ⟨.dumps (.obj l.modelDump), t⟩).lookup key =
      some row) :
    RowFits key row
      (Function.update s.writtenFor (cellKey (l.lon, l.lat)) (some (l.lon, l.lat)) key) := by
  by_cases hk : key = cellKey (l.lon, l.lat)
  · subst hk
    rw [AList.lookup_insert, Option.some.injEq] at h
    rw [Function.update_self, ← h]
    exact ⟨l, rfl, rfl, rfl⟩
  · rw [AList.lookup_insert_ne hk] at h
    rw [Function.update_of_ne hk]
    exact hs.rows key row h

lemma rows_write {since : ℚ} {point : Point} {entry : CacheEntry}
    {result : Except Exc Location} (fault : Option CacheStore.WriteFault) (hs : Coherent cfg s)
    (hfits : Fits cfg point (.storing since entry result)) (key : String) (row : CacheRow)
    (h : (s.write since point entry fault).store.table.lookup key = some row) :
    RowFits key row ((s.write since point entry fault).writtenFor key) := by
  obtain ⟨l, -, rfl, rfl⟩ := hfits
  rcases fault with _ | x | x
  · exact rows_insert hs l _ key row h
  · -- the statement has not been carried out
    exact hs.rows key row h
  · exact rows_insert hs l _ key row h

lemma coherent_step (hs : Coherent cfg s) (h : step lax cfg s e = some s') : Coherent cfg s' := by
  obtain ⟨t, action⟩ := e
  cases (moves_of_step h).2 with
  | begin => exact ⟨hs.rows, phases_update hs.phases trivial⟩
  | select => exact ⟨hs.rows, phases_update hs.phases (fits_afterSelect hs _ _)⟩
  | @resume task point row c hcall =>
    have htable := SharedStore.judge_table s.store t (cellKey point) row
    exact ⟨fun key row hrow => hs.rows key row (htable ▸ hrow),
      phases_update hs.phases (fits_afterJudge _ _)⟩
  | delete =>
    exact ⟨fun key row hrow => hs.rows key row (lookup_deleteExpired_subset hrow),
      phases_update hs.phases (fits_afterGet _ _)⟩
  | acquire => exact ⟨hs.rows, phases_update hs.phases trivial⟩
  | lookup => exact ⟨hs.rows, phases_update hs.phases trivial⟩
  | fetched => exact ⟨hs.rows, phases_update hs.phases (fits_afterLookup _ _ _)⟩
  | @stored task point since entry result fault hcall =>
    exact ⟨rows_write fault hs (hs.phases _ _ _ hcall),
      phases_update hs.phases (fits_stored (hs.phases _ _ _ hcall) _)⟩
  | cancelWrite hcall =>
    exact ⟨rows_write none hs (hs.phases _ _ _ hcall), phases_update hs.phases trivial⟩
  | cancelDelete =>
    exact ⟨fun key row hrow => hs.rows key row (Lib.Table.lookup_of_lookup_erase hrow),
      phases_update hs.phases trivial⟩
  | cancel => exact ⟨hs.rows, phases_update hs.phases trivial⟩
  | cleanup =>
    exact ⟨fun key row hrow => hs.rows key row (CacheStore.lookup_cleanup_subset hrow), hs.phases⟩

lemma coherent_initial : Coherent cfg initial := by
  refine ⟨fun key row h => ?_, fun j point p h => ?_⟩
  · cases h
  · cases h

end GeocodeCalls

end ImageDescriptor
