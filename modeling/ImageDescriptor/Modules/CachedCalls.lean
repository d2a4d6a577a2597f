/-
# Module calls on one cache

Any number of calls of the four modules share one `CacheStore`.  A call is begun, reads the
cache, and either returns or goes on to its fetch; it ends when the fetch has ended, after
it has written its entry.  Whenever a call awaits something, a statement of the store, its
commit or its fetch, other calls may go on, the describer may read and write entries of its
own, the cleanup may run, and the call may be cancelled.
-/
import ImageDescriptor.Cache.Statements
import ImageDescriptor.Modules.Context
import ImageDescriptor.Modules.Describer
import ImageDescriptor.Modules.Geocoder
import ImageDescriptor.Modules.Landcover
import ImageDescriptor.Modules.Mission

namespace ImageDescriptor

open Lib

/-- A call of one of the four modules, with its arguments. -/
inductive ModuleCall
  | geocode (lon lat : ℚ)
  | getLandCover (lon lat : ℚ)
  | getMissionMetadata (stacId : Option String)
  | researchContext (placeName : String) (capturedAt : Option String) (region : String)
      (city : Option String)
deriving DecidableEq

/-- What such a call returns. -/
inductive ModuleResult
  | location (l : Location)
  | landCover (l : LandCover)
  | mission (m : Option Mission)
  | context (c : Context)
deriving DecidableEq

/-- The rest of a call with its result as one of the results of the modules. -/
def Rest.map {α β : Type} (f : α → β) (rest : Rest α) : Rest β :=
  ⟨rest.entry, rest.result.map f⟩

namespace ModuleCall

variable (lax : LaxMode) (cfg : Settings)

/-- The key under which a call reads the cache; without a STAC id there is no read. -/
def cacheKey : ModuleCall → Option String
  | geocode lon lat => some (Geocoder.cacheKey lon lat)
  | getLandCover lon lat => some (Landcover.cacheKey lon lat)
  | getMissionMetadata stacId =>
    if nonEmpty stacId then some (MissionModule.cacheKey (stacId.getD "")) else none
  | researchContext placeName capturedAt region city =>
    some (ContextModule.cacheKey (ContextModule.searchName placeName region city)
      (ContextModule.month capturedAt))

/-- The result that a call builds from the items of an entry. -/
def build (call : ModuleCall) (fields : Fields) : Except Exc ModuleResult :=
  match call with
  | geocode .. => (Location.ofFields lax fields).map .location
  | getLandCover .. => (LandCover.ofFields lax fields).map .landCover
  | getMissionMetadata _ => (Mission.ofFields lax fields).map fun m => .mission (some m)
  | researchContext .. => (Context.ofFields fields).map .context

/-- The call after its fetch. -/
def afterFetch (call : ModuleCall) (fetched : Fetched) : Rest ModuleResult :=
  match call with
  | geocode lon lat => (Geocoder.afterFetch lax cfg lon lat fetched).map .location
  | getLandCover lon lat => (Landcover.afterFetch cfg lon lat fetched).map .landCover
  | getMissionMetadata stacId =>
    (MissionModule.afterFetch lax (stacId.getD "") fetched).map .mission
  | researchContext placeName capturedAt region city =>
    (ContextModule.afterFetch (ContextModule.searchName placeName region city)
      (ContextModule.month capturedAt) fetched).map .context

/-- The first letter of the key, which tells the modules apart. -/
def initial : ModuleCall → Char
  | geocode .. => 'g'
  | getLandCover .. => 'l'
  | getMissionMetadata _ => 'm'
  | researchContext .. => 'c'

lemma head_cacheKey {call : ModuleCall} {key : String} (h : call.cacheKey = some key) :
    key.toList.head? = some call.initial := by
  cases call with
  | geocode lon lat =>
    obtain rfl : Geocoder.cacheKey lon lat = key := by simpa [cacheKey] using h
    simp [Geocoder.cacheKey, initial]
  | getLandCover lon lat =>
    obtain rfl : Landcover.cacheKey lon lat = key := by simpa [cacheKey] using h
    simp [Landcover.cacheKey, initial]
  | getMissionMetadata stacId =>
    simp only [cacheKey] at h
    split at h
    · obtain rfl : MissionModule.cacheKey (stacId.getD "") = key := by simpa using h
      simp [MissionModule.cacheKey, initial]
    · cases h
  | researchContext placeName capturedAt region city =>
    simp only [cacheKey, Option.some.injEq] at h
    subst h
    simp [ContextModule.cacheKey, initial]

/-- Two calls of one key are calls of one module, and build the same from its entry. -/
lemma build_eq_of_cacheKey_eq {call call' : ModuleCall} {key : String}
    (h : call.cacheKey = some key) (h' : call'.cacheKey = some key) :
    build lax call = build lax call' := by
  have hinit : call.initial = call'.initial := by
    have h1 := head_cacheKey h
    rw [head_cacheKey h', Option.some.injEq] at h1
    exact h1.symm
  cases call <;> cases call' <;> first | rfl | simp [initial] at hinit

/-- An entry has the key of its call, and what is built from it is what the call returns or
raises. -/
lemma entry_spec {cfg : Settings} {call : ModuleCall} {fetched : Fetched} {entry : CacheEntry}
    (hkey : call.cacheKey ≠ none) (h : (call.afterFetch lax cfg fetched).entry = some entry) :
    call.cacheKey = some entry.key ∧ entry.value ≠ [] ∧
      call.build lax entry.value = (call.afterFetch lax cfg fetched).result := by
  cases call with
  | geocode lon lat =>
    obtain ⟨location, hr, rfl⟩ := Geocoder.afterFetch_entry h
    refine ⟨rfl, by simp [Location.modelDump], ?_⟩
    simp [build, afterFetch, Rest.map, hr]
  | getLandCover lon lat =>
    obtain ⟨landCover, hr, rfl⟩ := Landcover.afterFetch_entry h
    refine ⟨rfl, by simp [LandCover.modelDump], ?_⟩
    simp [build, afterFetch, Rest.map, hr]
  | getMissionMetadata stacId =>
    have hid : nonEmpty stacId = true := by
      by_contra hid
      simp [cacheKey, hid] at hkey
    obtain ⟨data, item, -, hparse, hr, rfl⟩ := MissionModule.afterFetch_entry h
    have hne : item ≠ [] := by
      obtain ⟨_, _, _, _, _, -, -, -, -, rfl⟩ := MissionModule.parseMission_ok hparse
      simp
    refine ⟨by simp [cacheKey, hid], hne, ?_⟩
    simp only [build, afterFetch, Rest.map, hr]
    rcases Mission.ofFields lax item with e | m <;> rfl
  | researchContext placeName capturedAt region city =>
    obtain ⟨context, hr, rfl⟩ := ContextModule.afterFetch_entry h
    refine ⟨rfl, by simp [Context.modelDump], ?_⟩
    simp [build, afterFetch, Rest.map, hr]

/-- The key of the describer is no key of the four modules. -/
lemma cacheKey_ne_describer {call : ModuleCall} (cogImageId : String) :
    call.cacheKey ≠ some (Describer.cacheKey cogImageId) := by
  intro h
  have hhead := head_cacheKey h
  cases call <;> simp [Describer.cacheKey, initial] at hhead

end ModuleCall

/-! ### The machine -/

/-- Where a call stands: it is in its `get` or its `set` of the cache, where the phase of that
call says what it awaits, or in its fetch; it has ended, where `contacted` tells whether it has
made its fetch; or it was cancelled, and a DELETE or INSERT that it awaited may still be carried
out.  The describer reads and writes entries of its own. -/
inductive CallPhase
  | reading (call : ModuleCall) (p : StorePhase)
  | fetching (call : ModuleCall)
  | writing (call : ModuleCall) (result : Except Exc ModuleResult) (p : StorePhase)
  | describing (cogImageId : String) (p : StorePhase)
  | ended (call : ModuleCall) (contacted : Bool) (result : Except Exc ModuleResult)
  | cancelled (was : CallPhase)
  | gone

namespace CallPhase

/-- The call of the store that a call is in. -/
def inStore : CallPhase → Option StorePhase
  | reading _ p | writing _ _ p | describing _ p => some p
  | cancelled was => was.inStore
  | _ => none

def isCancelled : CallPhase → Bool
  | cancelled _ => true
  | _ => false

/-- The key under which a call reads and writes. -/
def key : CallPhase → Option String
  | reading call _ | fetching call | writing call .. | ended call .. => call.cacheKey
  | describing cogImageId _ => some (Describer.cacheKey cogImageId)
  | cancelled was => was.key
  | gone => none

/-- The call awaits something. -/
def awaits : CallPhase → Bool
  | reading .. | fetching _ | writing .. => true
  | describing _ (.returned _) | describing _ .stored => false
  | describing .. => true
  | _ => false

end CallPhase

/-- The state of the process: the store and the calls. -/
structure CachedCalls where
  store : CacheStore
  calls : ℕ → Option CallPhase
  now : ℚ

/-- What happens: a call begins, what it awaits in the store ends with an exception or without
one, its fetch ends, it is cancelled; the describer begins to read or to write; the cleanup
deletes the rows that had expired when it read the clock. -/
inductive CacheAction
  | begin (task : ℕ) (call : ModuleCall)
  | describerGet (task : ℕ) (cogImageId : String)
  | describerSet (task : ℕ) (cogImageId description : String)
  | resume (task : ℕ) (fault : Option Exc)
  | fetched (task : ℕ) (fetched : Fetched)
  | cancel (task : ℕ)
  | cleanup (reading : ℚ) (fault : Option CacheStore.WriteFault)

/-- The call that an action is about. -/
def CacheAction.task : CacheAction → Option ℕ
  | .begin task _ | .describerGet task _ | .describerSet task .. | .resume task _
  | .fetched task _ | .cancel task => some task
  | .cleanup .. => none

/-- An action at a clock reading. -/
structure CacheEvent where
  time : ℚ
  action : CacheAction

namespace CachedCalls

/-- The process on a database with any content. -/
def opened (store : CacheStore) : CachedCalls := ⟨store, fun _ => none, 0⟩

def initial : CachedCalls := opened CacheStore.init

def put (s : CachedCalls) (time : ℚ) (store : CacheStore) (task : ℕ) (p : CallPhase) :
    CachedCalls :=
  ⟨store, Function.update s.calls task (some p), time⟩

@[simp] lemma put_self (s : CachedCalls) (time : ℚ) (store : CacheStore) (task : ℕ)
    (p : CallPhase) : (s.put time store task p).calls task = some p := Function.update_self ..

variable (lax : LaxMode) (cfg : Settings)

/-- The phase of a call that begins; without a key there is no read. -/
def begin (call : ModuleCall) : CallPhase :=
  match call.cacheKey with
  | none => .ended call false (.ok (.mission none))
  | some key => .reading call (.selecting key)

/-- The phase of a call after its read of the cache. -/
def afterGet (call : ModuleCall) : Except Exc Json → CallPhase
  | .error e => .ended call false (.error e)
  | .ok v =>
    match fromCache (call.build lax) v with
    | some r => .ended call false r
    | none => .fetching call

/-- The phase of a call after its fetch.  When it writes an entry, it has computed when the
entry expires before it awaits the INSERT. -/
def afterFetched (t : ℚ) (call : ModuleCall) (fetched : Fetched) : CallPhase :=
  let rest := call.afterFetch lax cfg fetched
  match rest.entry with
  | none => .ended call true rest.result
  | some entry =>
    .writing call rest.result
      (.inserting entry.key ⟨.dumps (.obj entry.value), CacheStore.expiresAt t entry.ttl⟩)

/-- The phase of a call whose call of the store has gone on. -/
def next : CallPhase → StorePhase → CallPhase
  | .reading call _, .returned v => afterGet lax call v
  | .reading call _, p => .reading call p
  | .writing call result _, .stored => .ended call true result
  | .writing call _ _, .returned (.error e) => .ended call true (.error e)
  | .writing call result _, p => .writing call result p
  | .describing cogImageId _, p => .describing cogImageId p
  | .cancelled _, _ => .gone
  | q, _ => q

/-- A call of the store may go on: of a cancelled call only a write that is carried out. -/
def mayResume (q : CallPhase) (p : StorePhase) (fault : Option Exc) : Bool :=
  !q.isCancelled || (p.writes && fault.isNone)

/-- One event; `none` when it cannot happen. -/
def step (s : CachedCalls) (e : CacheEvent) : Option CachedCalls :=
  if e.time < s.now then none
  else
    match e.action with
    | .begin task call =>
      match s.calls task with
      | none => some (s.put e.time s.store task (begin call))
      | some _ => none
    | .describerGet task cogImageId =>
      match s.calls task with
      | none =>
        some (s.put e.time s.store task
          (.describing cogImageId (.selecting (Describer.cacheKey cogImageId))))
      | some _ => none
    | .describerSet task cogImageId description =>
      match s.calls task with
      | none =>
        some (s.put e.time s.store task (.describing cogImageId (.inserting
          (Describer.cacheKey cogImageId)
          ⟨.dumps (.obj [("description", .str description)]), CacheStore.expiresAt e.time {}⟩)))
      | some _ => none
    | .resume task fault =>
      match s.calls task with
      | some q =>
        match q.inStore with
        | some p =>
          if mayResume q p fault then
            (p.resume s.store e.time fault).map fun r => s.put e.time r.1 task (next lax q r.2)
          else none
        | none => none
      | none => none
    | .fetched task fetched =>
      match s.calls task with
      | some (.fetching call) => some (s.put e.time s.store task (afterFetched lax cfg e.time call fetched))
      | _ => none
    | .cancel task =>
      match s.calls task with
      | some q => if q.awaits then some (s.put e.time s.store task (.cancelled q)) else none
      | none => none
    | .cleanup reading fault =>
      if e.time < reading then none
      else some { s with store := (s.store.cleanupExpired reading fault).1, now := e.time }

/-! ### The steps as a relation -/

/-- What an action at a clock reading does, with what has to hold before it. -/
inductive Moves (s : CachedCalls) (t : ℚ) : CacheAction → CachedCalls → Prop
  | begin {task : ℕ} {call : ModuleCall} (hnew : s.calls task = none) :
      Moves s t (.begin task call) (s.put t s.store task (begin call))
  | describerGet {task : ℕ} {cogImageId : String} (hnew : s.calls task = none) :
      Moves s t (.describerGet task cogImageId)
        (s.put t s.store task (.describing cogImageId (.selecting (Describer.cacheKey cogImageId))))
  | describerSet {task : ℕ} {cogImageId description : String} (hnew : s.calls task = none) :
      Moves s t (.describerSet task cogImageId description)
        (s.put t s.store task (.describing cogImageId (.inserting (Describer.cacheKey cogImageId)
          ⟨.dumps (.obj [("description", .str description)]), CacheStore.expiresAt t {}⟩)))
  | resume {task : ℕ} {fault : Option Exc} {q : CallPhase} {p : StorePhase}
      {r : CacheStore × StorePhase} (hcall : s.calls task = some q) (hp : q.inStore = some p)
      (hmay : mayResume q p fault = true) (hr : p.resume s.store t fault = some r) :
      Moves s t (.resume task fault) (s.put t r.1 task (next lax q r.2))
  | fetched {task : ℕ} {call : ModuleCall} {fetched : Fetched}
      (hcall : s.calls task = some (.fetching call)) :
      Moves s t (.fetched task fetched)
        (s.put t s.store task (afterFetched lax cfg t call fetched))
  | cancel {task : ℕ} {q : CallPhase} (hcall : s.calls task = some q) (hawaits : q.awaits = true) :
      Moves s t (.cancel task) (s.put t s.store task (.cancelled q))
  | cleanup {reading : ℚ} {fault : Option CacheStore.WriteFault} (hle : reading ≤ t) :
      Moves s t (.cleanup reading fault)
        { s with store := (s.store.cleanupExpired reading fault).1, now := t }

/-- What an action makes of its call. -/
inductive Turns (s : CachedCalls) (t : ℚ) (task : ℕ) : CacheAction → CallPhase → Prop
  | begin {call : ModuleCall} (hnew : s.calls task = none) :
      Turns s t task (.begin task call) (begin call)
  | describerGet {cogImageId : String} (hnew : s.calls task = none) :
      Turns s t task (.describerGet task cogImageId)
        (.describing cogImageId (.selecting (Describer.cacheKey cogImageId)))
  | describerSet {cogImageId description : String} {row : CacheRow} (hnew : s.calls task = none) :
      Turns s t task (.describerSet task cogImageId description)
        (.describing cogImageId (.inserting (Describer.cacheKey cogImageId) row))
  | resume {fault : Option Exc} {q : CallPhase} {p : StorePhase} {r : CacheStore × StorePhase}
      (hcall : s.calls task = some q) (hp : q.inStore = some p)
      (hmay : mayResume q p fault = true) (hr : p.resume s.store t fault = some r) :
      Turns s t task (.resume task fault) (next lax q r.2)
  | fetched {call : ModuleCall} {fetched : Fetched} (hcall : s.calls task = some (.fetching call)) :
      Turns s t task (.fetched task fetched) (afterFetched lax cfg t call fetched)
  | cancel {q : CallPhase} (hcall : s.calls task = some q) (hawaits : q.awaits = true) :
      Turns s t task (.cancel task) (.cancelled q)

variable {lax cfg} {s s' : CachedCalls} {e : CacheEvent}

lemma moves_of_step (h : step lax cfg s e = some s') :
    s.now ≤ e.time ∧ Moves lax cfg s e.time e.action s' := by
  obtain ⟨t, action⟩ := e
  simp only [step] at h
  split at h
  · cases h
  · rename_i hlt
    refine ⟨not_lt.mp hlt, ?_⟩
    cases action with
    | begin task call =>
      dsimp only at h
      split at h <;> cases h
      exact .begin ‹_›
    | describerGet task cogImageId =>
      dsimp only at h
      split at h <;> cases h
      exact .describerGet ‹_›
    | describerSet task cogImageId description =>
      dsimp only at h
      split at h <;> cases h
      exact .describerSet ‹_›
    | resume task fault =>
      dsimp only at h
      split at h
      · split at h
        · split at h
          · obtain ⟨r, hr, rfl⟩ := Option.map_eq_some_iff.mp h
            exact .resume ‹_› ‹_› ‹_› hr
          · cases h
        · cases h
      · cases h
    | fetched task fetched =>
      dsimp only at h
      split at h <;> cases h
      exact .fetched ‹_›
    | cancel task =>
      dsimp only at h
      split at h
      · split at h <;> cases h
        exact .cancel ‹_› ‹_›
      · cases h
    | cleanup reading fault =>
      dsimp only at h
      split at h <;> cases h
      exact .cleanup (not_lt.mp ‹_›)

/-- What can happen happens. -/
lemma step_of_moves (hle : s.now ≤ e.time) (h : Moves lax cfg s e.time e.action s') :
    step lax cfg s e = some s' := by
  obtain ⟨t, action⟩ := e
  have hlt : ¬ t < s.now := not_lt.mpr hle
  cases h with
  | begin hnew | describerGet hnew | describerSet hnew => simp only [step, if_neg hlt, hnew]
  | resume hcall hp hmay hr =>
    simp only [step, if_neg hlt, hcall, hp, hmay, if_true, hr, Option.map_some]
  | fetched hcall => simp only [step, if_neg hlt, hcall]
  | cancel hcall hawaits => simp only [step, if_neg hlt, hcall, hawaits, if_true]
  | cleanup hreading => simp only [step, if_neg hlt, if_neg (not_lt.mpr hreading)]

lemma step_time (h : step lax cfg s e = some s') : s.now ≤ e.time ∧ s'.now = e.time := by
  obtain ⟨t, action⟩ := e
  obtain ⟨hle, hmoves⟩ := moves_of_step h
  refine ⟨hle, ?_⟩
  cases hmoves <;> rfl

/-- A step moves the call of its action, and no other. -/
lemma turns_of_step (h : step lax cfg s e = some s') (task : ℕ) :
    (e.action.task ≠ some task ∧ s'.calls task = s.calls task) ∨
      ∃ q, Turns lax cfg s e.time task e.action q ∧ s'.calls task = some q := by
  obtain ⟨t, action⟩ := e
  by_cases htask : action.task = some task
  · refine .inr ?_
    cases (moves_of_step h).2 with
    | begin hnew =>
      cases htask
      exact ⟨_, .begin hnew, put_self ..⟩
    | describerGet hnew =>
      cases htask
      exact ⟨_, .describerGet hnew, put_self ..⟩
    | describerSet hnew =>
      cases htask
      exact ⟨_, .describerSet hnew, put_self ..⟩
    | resume hcall hp hmay hr =>
      cases htask
      exact ⟨_, .resume hcall hp hmay hr, put_self ..⟩
    | fetched hcall =>
      cases htask
      exact ⟨_, .fetched hcall, put_self ..⟩
    | cancel hcall hawaits =>
      cases htask
      exact ⟨_, .cancel hcall hawaits, put_self ..⟩
    | cleanup => cases htask
  · refine .inl ⟨htask, ?_⟩
    cases (moves_of_step h).2 with
    | cleanup => rfl
    | begin | describerGet | describerSet | resume | fetched | cancel =>
      exact Function.update_of_ne (fun heq => htask (congrArg some heq.symm)) ..

/-- The step in which what a call awaits in the store has ended. -/
lemma step_resume {task : ℕ} {fault : Option Exc} {t : ℚ}
    (h : step lax cfg s ⟨t, .resume task fault⟩ = some s') :
    ∃ q p r, s.calls task = some q ∧ q.inStore = some p ∧ mayResume q p fault = true ∧
      p.resume s.store t fault = some r ∧ s' = s.put t r.1 task (next lax q r.2) := by
  cases (moves_of_step h).2 with
  | resume hcall hp hmay hr => exact ⟨_, _, _, hcall, hp, hmay, hr, rfl⟩

/-- What a step does to the table: nothing, or the DELETE or the INSERT that a call awaits, or
the deletion of rows that had expired. -/
lemma step_table (h : step lax cfg s e = some s') :
    s'.store.table = s.store.table ∨
      (∃ task q key, e.action = .resume task none ∧ s.calls task = some q ∧
        q.inStore = some (.deleting key) ∧ s'.store.table = s.store.table.erase key) ∨
      (∃ task q key row, e.action = .resume task none ∧ s.calls task = some q ∧
        q.inStore = some (.inserting key row) ∧ s'.store.table = s.store.table.insert key row) ∨
      ∃ reading, reading ≤ e.time ∧
        s'.store.table = s.store.table.deleteWhere (CacheStore.pastExpiry reading) := by
  obtain ⟨t, action⟩ := e
  cases (moves_of_step h).2 with
  | begin | describerGet | describerSet | fetched | cancel => exact .inl rfl
  | @resume task fault q p r hcall hp hmay hr =>
    rcases StorePhase.table_of_resume hr with htable | ⟨rfl, key, rfl, htable⟩ |
      ⟨rfl, key, row, rfl, -, htable⟩
    · exact .inl htable
    · exact .inr (.inl ⟨task, q, key, rfl, hcall, hp, htable⟩)
    · exact .inr (.inr (.inl ⟨task, q, key, row, rfl, hcall, hp, htable⟩))
  | @cleanup reading fault hle =>
    rcases CacheStore.cleanup_table s.store reading fault with hsame | hdeleted
    · exact .inl hsame
    · exact .inr (.inr (.inr ⟨reading, hle, hdeleted⟩))

/-! ### What is known of a call in a phase -/

/-- A row that a call writes stands under its key, and what is built from it is what the call
returns or raises. -/
structure EntryOf (lax : LaxMode) (call : ModuleCall) (result : Except Exc ModuleResult)
    (key : String) (row : CacheRow) : Prop where
  key_eq : call.cacheKey = some key
  built : ∃ fields expires, row = ⟨.dumps (.obj fields), expires⟩ ∧ fields ≠ [] ∧
    call.build lax fields = result

/-- A call reads the cache with its own key, and writes the entry of its own result. -/
def Sound (lax : LaxMode) : CallPhase → Prop
  | .reading call p => ∃ key, call.cacheKey = some key ∧ p.OfGet key
  | .fetching call => call.cacheKey ≠ none
  | .writing call result p => ∃ key row, EntryOf lax call result key row ∧ p.OfSet key row
  | .describing cogImageId p =>
    p.OfGet (Describer.cacheKey cogImageId) ∨ ∃ row, p.OfSet (Describer.cacheKey cogImageId) row
  | .cancelled was => Sound lax was
  | _ => True

variable {call : ModuleCall} {q : CallPhase} {p : StorePhase} {r : CacheStore × StorePhase}
  {fault : Option Exc} {t : ℚ}

lemma sound_begin : Sound lax (begin call) := by
  unfold begin
  split
  · trivial
  · exact ⟨_, ‹_›, rfl⟩

/-- After its read a call has ended, or goes on to its fetch. -/
lemma afterGet_cases (lax : LaxMode) (call : ModuleCall) (v : Except Exc Json) :
    (∃ result, afterGet lax call v = .ended call false result) ∨
      afterGet lax call v = .fetching call := by
  rcases v with e | v
  · exact .inl ⟨_, rfl⟩
  · simp only [afterGet]
    split
    · exact .inl ⟨_, rfl⟩
    · exact .inr rfl

lemma sound_afterFetched (hkey : call.cacheKey ≠ none) (fetched : Fetched) :
    Sound lax (afterFetched lax cfg t call fetched) := by
  simp only [afterFetched]
  split
  · trivial
  · rename_i entry hentry
    obtain ⟨hkey', hne, hbuild⟩ := ModuleCall.entry_spec lax hkey hentry
    exact ⟨_, _, ⟨hkey', _, _, rfl, hne, hbuild⟩, rfl, rfl⟩

lemma sound_next (hq : Sound lax q) (hp : q.inStore = some p)
    (hr : p.resume s.store t fault = some r) : Sound lax (next lax q r.2) := by
  cases q with
  | reading call p' =>
    obtain rfl : p' = p := Option.some.inj hp
    obtain ⟨key, hkey, hget⟩ := hq
    have hrest := StorePhase.ofGet_resume hget hr
    rcases hphase : r.2 with _ | _ | _ | _ | v | _ | _ | _ | _ <;> rw [hphase] at hrest
    case returned =>
      rcases afterGet_cases lax call v with ⟨result, hv⟩ | hv
      · simp [next, hv, Sound]
      · simp [next, hv, Sound, hkey]
    all_goals exact ⟨key, hkey, hrest⟩
  | writing call result p' =>
    obtain rfl : p' = p := Option.some.inj hp
    obtain ⟨key, row, hentry, hset⟩ := hq
    have hrest := StorePhase.ofSet_resume hset hr
    rcases hphase : r.2 with _ | _ | _ | _ | (e | v) | _ | _ | _ | _ <;> rw [hphase] at hrest
    case returned.error => trivial
    case stored => trivial
    all_goals exact ⟨key, row, hentry, hrest⟩
  | describing cogImageId p' =>
    obtain rfl : p' = p := Option.some.inj hp
    rcases hq with hget | ⟨row, hset⟩
    · exact .inl (StorePhase.ofGet_resume hget hr)
    · exact .inr ⟨row, StorePhase.ofSet_resume hset hr⟩
  | cancelled was => trivial
  | fetching | ended | gone => cases hp

/-- A read has its row after its SELECT only. -/
lemma selecting_of_next {key : String} {row : Option CacheRow} (hp : q.inStore = some p)
    (hr : p.resume s.store t fault = some r)
    (h : next lax q r.2 = .reading call (.selected key row)) :
    q = .reading call (.selecting key) ∧ fault = none ∧ row = s.store.table.lookup key := by
  cases q with
  | reading call' p' =>
    obtain rfl : p' = p := Option.some.inj hp
    rcases hphase : r.2 with k | ⟨k, row'⟩ | k | k | v | ⟨k, row'⟩ | _ | _ | _ <;>
      rw [hphase] at h
    case selected =>
      cases h
      obtain ⟨rfl, rfl, rfl⟩ := StorePhase.selected_of_resume hr hphase
      exact ⟨rfl, rfl, rfl⟩
    case returned => rcases afterGet_cases lax call' v with ⟨_, hv⟩ | hv <;> simp [next, hv] at h
    all_goals cases h
  | writing call' result p' =>
    rcases hphase : r.2 with _ | _ | _ | _ | (e | v) | _ | _ | _ | _ <;> rw [hphase] at h <;> cases h
  | describing | cancelled => cases h
  | fetching | ended | gone => cases hp

/-- A call touches the row of its key only. -/
lemma key_of_sound {key : String} (hq : Sound lax q) (hp : q.inStore = some p)
    (hkey : p.key = some key) : q.key = some key := by
  induction q with
  | reading call p' =>
    obtain rfl := Option.some.inj hp
    obtain ⟨key', hcall, hget⟩ := hq
    rw [hget.key_eq hkey]
    exact hcall
  | writing call result p' =>
    obtain rfl := Option.some.inj hp
    obtain ⟨key', row, hentry, hset⟩ := hq
    rw [hset.key_eq hkey]
    exact hentry.key_eq
  | describing cogImageId p' =>
    obtain rfl := Option.some.inj hp
    rcases hq with hget | ⟨row, hset⟩
    · rw [hget.key_eq hkey]
      rfl
    · rw [hset.key_eq hkey]
      rfl
  | cancelled was ih => exact ih hq hp
  | fetching | ended | gone => cases hp

lemma key_begin (call : ModuleCall) : (begin call).key = call.cacheKey := by
  unfold begin
  split <;> rfl

lemma key_afterFetched (lax : LaxMode) (cfg : Settings) (t : ℚ) (call : ModuleCall)
    (fetched : Fetched) : (afterFetched lax cfg t call fetched).key = call.cacheKey := by
  simp only [afterFetched]
  split <;> rfl

/-- A call keeps its key. -/
lemma key_next {key : String} (hp : q.inStore = some p) (h : (next lax q r.2).key = some key) :
    q.key = some key := by
  cases q with
  | reading call p' =>
    rcases hphase : r.2 with _ | _ | _ | _ | v | _ | _ | _ | _ <;> rw [hphase] at h
    case returned =>
      rcases afterGet_cases lax call v with ⟨result, hv⟩ | hv <;>
        simpa [next, hv, CallPhase.key] using h
    all_goals exact h
  | writing call result p' =>
    rcases hphase : r.2 with _ | _ | _ | _ | (e | v) | _ | _ | _ | _ <;> rw [hphase] at h <;> exact h
  | describing => exact h
  | cancelled => cases h
  | fetching | ended | gone => cases hp

/-- Only the end of a fetch begins to write. -/
lemma next_ne_inserting {result : Except Exc ModuleResult} {key : String} {row : CacheRow}
    (hr : p.resume s.store t fault = some r) :
    next lax q r.2 ≠ .writing call result (.inserting key row) := by
  intro h
  have hne : r.2 ≠ .inserting key row := StorePhase.resume_ne_inserting hr
  cases q with
  | reading call' p' =>
    rcases hphase : r.2 with _ | _ | _ | _ | v | _ | _ | _ | _ <;> rw [hphase] at h
    case returned => rcases afterGet_cases lax call' v with ⟨_, hv⟩ | hv <;> simp [next, hv] at h
    all_goals cases h
  | writing call' result' p' =>
    rcases hphase : r.2 with _ | _ | _ | _ | (e | v) | _ | _ | _ | _ <;> rw [hphase] at h hne <;>
      cases h
    exact hne rfl
  | describing | cancelled | fetching | ended | gone => cases h

/-- Every call of the process is in a sound phase. -/
def AllSound (lax : LaxMode) (s : CachedCalls) : Prop :=
  ∀ task q, s.calls task = some q → Sound lax q

lemma allSound_opened (store : CacheStore) : AllSound lax (opened store) := by
  rintro task q ⟨⟩

lemma allSound_step (hs : AllSound lax s) (h : step lax cfg s e = some s') :
    AllSound lax s' := by
  intro task q hq
  obtain ⟨t, action⟩ := e
  rcases turns_of_step h task with ⟨-, hsame⟩ | ⟨q', hturns, hq'⟩
  · exact hs task q (hsame ▸ hq)
  · obtain rfl : q = q' := Option.some.inj (hq.symm.trans hq')
    cases hturns with
    | begin => exact sound_begin
    | describerGet => exact .inl rfl
    | describerSet => exact .inr ⟨_, rfl, rfl⟩
    | resume hcall hp hmay hr => exact sound_next (hs _ _ hcall) hp hr
    | fetched hcall => exact sound_afterFetched (hs _ _ hcall) _
    | @cancel q hcall =>
      have hq : Sound lax q := hs task q hcall
      exact hq

end CachedCalls

end ImageDescriptor
