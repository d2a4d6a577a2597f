/-
# Keys that do not disturb each other

All calls of the modules share one table and one connection.  Still, what the calls of one
key find, fetch and return depends on nothing that happens under other keys: when all other
traffic is taken out of a run, these calls go through the same steps to the same results, and
the row of the key is the same.
-/
import ImageDescriptor.Modules.CacheCoherence

namespace ImageDescriptor

open Lib

namespace CacheStore

variable {s t : CacheStore} {now : ℚ} {key k : String}

/-- A `get` depends on the row of its key. -/
lemma get_congr (h : s.table.lookup key = t.table.lookup key) (faults : GetFaults) :
    (s.get now key faults).2 = (t.get now key faults).2 := by
  unfold get
  rw [h]
  split
  · rfl
  · split
    · rfl
    · split
      · split
        · rfl
        · split <;> rfl
      · rfl

lemma lookup_get_of_ne (hne : k ≠ key) (faults : GetFaults) :
    (s.get now key faults).1.table.lookup k = s.table.lookup k := by
  rcases get_table s now key faults with h | ⟨-, h⟩
  · rw [h]
  · rw [h, AList.lookup_erase_ne hne]

lemma WriteFault.lookup_table_congr (fault : Option WriteFault)
    {before before' after after' : Table String CacheRow}
    (hbefore : before.lookup k = before'.lookup k) (hafter : after.lookup k = after'.lookup k) :
    (WriteFault.table fault before after).lookup k =
      (WriteFault.table fault before' after').lookup k := by
  rcases fault with _ | _ | _
  · exact hafter
  · exact hbefore
  · exact hafter

/-- So does what it leaves of the row. -/
lemma lookup_get_congr (h : s.table.lookup key = t.table.lookup key) (faults : GetFaults) :
    (s.get now key faults).1.table.lookup key = (t.get now key faults).1.table.lookup key := by
  have herase : (WriteFault.table faults.delete s.table (s.table.erase key)).lookup key =
      (WriteFault.table faults.delete t.table (t.table.erase key)).lookup key := by
    refine WriteFault.lookup_table_congr _ h ?_
    rw [AList.lookup_erase, AList.lookup_erase]
  unfold get
  rw [h]
  split
  · exact h
  · split
    · exact h
    · split
      · split
        · exact herase
        · split <;> exact herase
      · exact h

lemma lookup_set_congr (h : s.table.lookup k = t.table.lookup k) (value : Fields) (ttl : Ttl)
    (fault : Option WriteFault) : (s.set now key value ttl fault).1.table.lookup k =
      (t.set now key value ttl fault).1.table.lookup k := by
  refine WriteFault.lookup_table_congr fault h ?_
  by_cases hk : k = key
  · subst hk
    rw [AList.lookup_insert, AList.lookup_insert]
  · rw [AList.lookup_insert_ne hk, AList.lookup_insert_ne hk, h]

lemma lookup_cleanup_congr (h : s.table.lookup k = t.table.lookup k) (fault : Option WriteFault) :
    (s.cleanupExpired now fault).1.table.lookup k =
      (t.cleanupExpired now fault).1.table.lookup k :=
  WriteFault.lookup_table_congr fault h (Table.lookup_deleteWhere_congr h)

end CacheStore

namespace CachedCalls

variable {lax : LaxMode} {cfg : Settings} {s s' t : CachedCalls} {e : CacheEvent}
  {key : String} {keys : ℕ → Option String}

/-! ### The traffic of a key -/

/-- The calls that begin have the keys that are given for their tasks. -/
def BeginsWith (keys : ℕ → Option String) (_ : CachedCalls) (e : CacheEvent) : Prop :=
  match e.action with
  | .begin task call => call.cacheKey = keys task
  | .describerGet task cogImageId | .describerSet task cogImageId _ =>
    some (Describer.cacheKey cogImageId) = keys task
  | _ => True

/-- An event is of a key: it belongs to a call of the key, or the cleanup runs, which goes
through the rows of all keys. -/
def OfKey (keys : ℕ → Option String) (key : String) (e : CacheEvent) : Bool :=
  match e.action.task with
  | some task => decide (keys task = some key)
  | none => true

/-- Every call has the key that is given for its task. -/
def Keyed (keys : ℕ → Option String) (s : CachedCalls) : Prop :=
  ∀ task q key, s.calls task = some q → q.key = some key → keys task = some key

/-- Two states that look alike from a key: its row and the phases of its calls. -/
structure SameForKey (lax : LaxMode) (keys : ℕ → Option String) (key : String)
    (s t : CachedCalls) : Prop where
  row : s.store.table.lookup key = t.store.table.lookup key
  calls : ∀ task, keys task = some key → s.calls task = t.calls task
  sound : AllSound lax s
  keyed : Keyed keys s
  now : t.now ≤ s.now

lemma keyed_step (hbegins : BeginsWith keys s e) (hs : Keyed keys s)
    (h : step lax cfg s e = some s') : Keyed keys s' := by
  intro task q key hq hkey
  obtain ⟨time, action⟩ := e
  rcases turns_of_step h task with ⟨-, hsame⟩ | ⟨q', hturns, hq'⟩
  · exact hs task q key (hsame ▸ hq) hkey
  · obtain rfl := Option.some.inj (hq.symm.trans hq')
    cases hturns with
    | @begin call hnew =>
      have hcall : call.cacheKey = keys task := hbegins
      rw [← hcall, ← key_begin, hkey]
    | describerGet | describerSet => exact hbegins.symm.trans hkey
    | resume hcall hp hmay hr => exact hs task _ key hcall (key_next hp hkey)
    | fetched hcall =>
      rw [key_afterFetched] at hkey
      exact hs task _ key hcall hkey
    | cancel hcall => exact hs task _ key hcall hkey

/-! ### One event -/

/-- A statement of a call touches the row of its key. -/
lemma key_of_resume (hsame : SameForKey lax keys key s t) {task : ℕ} {q : CallPhase}
    {p : StorePhase} {k : String} (hcall : s.calls task = some q) (hp : q.inStore = some p)
    (hk : p.key = some k) : keys task = some k :=
  hsame.keyed task q k hcall (key_of_sound (hsame.sound task q hcall) hp hk)

/-- An event of another key changes nothing that can be seen from this one. -/
lemma sameForKey_of_other (hsame : SameForKey lax keys key s t) (hbegins : BeginsWith keys s e)
    (hother : OfKey keys key e = false) (h : step lax cfg s e = some s') :
    SameForKey lax keys key s' t where
  sound := allSound_step hsame.sound h
  keyed := keyed_step hbegins hsame.keyed h
  now := by
    obtain ⟨hle, hnow⟩ := step_time h
    exact hsame.now.trans (hle.trans hnow.ge)
  calls := by
    intro task htask
    rcases turns_of_step h task with ⟨-, hcalls⟩ | ⟨q, hturns, -⟩
    · exact hcalls.trans (hsame.calls task htask)
    · -- the task of the event is no task of the key
      obtain ⟨time, action⟩ := e
      cases hturns <;> exact absurd htask (of_decide_eq_false hother)
  row := by
    obtain ⟨time, action⟩ := e
    cases (moves_of_step h).2 with
    | begin | describerGet | describerSet | fetched | cancel => exact hsame.row
    | @resume task fault q p r hcall hp hmay hr =>
      have htask : keys task ≠ some key := of_decide_eq_false hother
      have hk : p.key ≠ some key := fun hk => htask (key_of_resume hsame hcall hp hk)
      exact (StorePhase.lookup_resume_of_ne hr hk).trans hsame.row
    | cleanup => cases hother

/-- A call of the key that is moved alike in both states. -/
lemma calls_put (hsame : SameForKey lax keys key s t) {time : ℚ} {store store' : CacheStore}
    {task : ℕ} {q : CallPhase} (i : ℕ) (hi : keys i = some key) :
    (s.put time store task q).calls i = (t.put time store' task q).calls i := by
  simp only [put, Function.update_apply, hsame.calls i hi]

/-- An event of the key does the same in both states. -/
lemma sameForKey_of_own (hsame : SameForKey lax keys key s t) (hbegins : BeginsWith keys s e)
    (hown : OfKey keys key e = true) (h : step lax cfg s e = some s') :
    ∃ t', step lax cfg t e = some t' ∧ SameForKey lax keys key s' t' := by
  have hsound := allSound_step hsame.sound h
  have hkeyed := keyed_step hbegins hsame.keyed h
  have hle : t.now ≤ e.time := hsame.now.trans (step_time h).1
  -- the call of the event is where it is in the whole run
  have hcalls : ∀ {task : ℕ} {q : Option CallPhase}, e.action.task = some task →
      s.calls task = q → t.calls task = q := by
    intro task q haction hcall
    rw [OfKey, haction] at hown
    exact (hsame.calls task (of_decide_eq_true hown)).symm.trans hcall
  obtain ⟨time, action⟩ := e
  cases (moves_of_step h).2 with
  | begin hnew =>
    exact ⟨_, step_of_moves hle (.begin (hcalls rfl hnew)), hsame.row, calls_put hsame, hsound,
      hkeyed, le_rfl⟩
  | describerGet hnew =>
    exact ⟨_, step_of_moves hle (.describerGet (hcalls rfl hnew)), hsame.row, calls_put hsame,
      hsound, hkeyed, le_rfl⟩
  | describerSet hnew =>
    exact ⟨_, step_of_moves hle (.describerSet (hcalls rfl hnew)), hsame.row, calls_put hsame,
      hsound, hkeyed, le_rfl⟩
  | @resume task fault q p r hcall hp hmay hr =>
    have htask : keys task = some key := of_decide_eq_true hown
    -- the call depends on the row of its key only
    have hrow : ∀ k, p.key = some k → s.store.table.lookup k = t.store.table.lookup k := by
      intro k hk
      obtain rfl : key = k := Option.some.inj (htask.symm.trans (key_of_resume hsame hcall hp hk))
      exact hsame.row
    obtain ⟨r', hr', hphase, hrows⟩ := StorePhase.resume_congr hr hrow
    refine ⟨_, step_of_moves hle (.resume (hcalls rfl hcall) hp hmay hr'), hrows key hsame.row, ?_,
      hsound, hkeyed, le_rfl⟩
    rw [hphase]
    exact calls_put hsame
  | fetched hcall =>
    exact ⟨_, step_of_moves hle (.fetched (hcalls rfl hcall)), hsame.row, calls_put hsame, hsound,
      hkeyed, le_rfl⟩
  | cancel hcall hawaits =>
    exact ⟨_, step_of_moves hle (.cancel (hcalls rfl hcall) hawaits), hsame.row, calls_put hsame,
      hsound, hkeyed, le_rfl⟩
  | @cleanup reading fault hreading =>
    exact ⟨_, step_of_moves hle (.cleanup hreading),
      CacheStore.lookup_cleanup_congr hsame.row fault, hsame.calls, hsound, hkeyed, le_rfl⟩

instance (keys : ℕ → Option String) (s : CachedCalls) (e : CacheEvent) :
    Decidable (BeginsWith keys s e) := by
  unfold BeginsWith
  split <;> infer_instance

/-- Calls for the items of two images.  The second one reads its row between the SELECT of the
first one and its going on, and is answered and has written its entry before the first one. -/
def twoItems : List CacheEvent :=
  [⟨1, .begin 0 itemCall⟩, ⟨1, .resume 0 none⟩, ⟨2, .begin 1 (.getMissionMetadata (some "LC09"))⟩,
    ⟨2, .resume 1 none⟩, ⟨2, .resume 0 none⟩, ⟨2, .resume 1 none⟩,
    ⟨3, .fetched 1 (.ok (.ok (itemOf (.str "landsat-9"))))⟩, ⟨3, .resume 1 none⟩,
    ⟨4, .fetched 0 (.ok (.ok (itemOf (.str "sentinel-2a"))))⟩, ⟨4, .resume 0 none⟩,
    ⟨4, .resume 1 none⟩, ⟨5, .resume 0 none⟩]

/-- The keys of the two calls. -/
def keysOfItems (task : ℕ) : Option String :=
  if task = 0 then itemCall.cacheKey else some (MissionModule.cacheKey "LC09")

end CachedCalls

end ImageDescriptor
