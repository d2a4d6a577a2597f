/-
# What a module writes, it can read back

An entry of the cache should stand for a result that a call has returned: until it expires,
every call of the same arguments should return that result without asking the upstream.
Three of the modules write the dump of a model that they have built; the mission module
writes the parsed item and builds its model afterwards, so that an item that the model
refuses is left in the cache and makes every later call raise.  Beside that an entry is lost
early when another call of its key overwrites it or deletes its row, and it is passed over
when a read fails; and it is left by a call that does not return when that call is cancelled
or its commit raises.  The runs in which none of this happens are coherent.
-/
import ImageDescriptor.Modules.CachedCalls

namespace ImageDescriptor

open Lib

/-! ### The items that fit the model -/

/-- A value for a field of type `str | None`. -/
def fitsOptStr : Json → Bool
  | .null | .str _ => true
  | _ => false

/-- A value for a field of type `float | None`. -/
def fitsOptFloat (lax : LaxMode) : Json → Bool
  | .null | .num _ => true
  | v => (lax.float v).isSome

/-- The fields of the model `Mission` get values that they accept: the platform is a string,
the constellation and the processing level are strings or null, the cloud cover and the
resolution numbers or null. -/
structure PropertiesFit (lax : LaxMode) (top props : Fields) : Prop where
  platform : ∃ s, (props.lookup "platform").getD (.str "unknown") = .str s
  constellation : fitsOptStr ((props.lookup "constellation").getD .null) = true
  processingLevel : ∀ level, MissionModule.processingLevel
    ((top.lookup "collection").getD (.str ""))
    ((props.lookup "s2:processing_level").getD .null) = .ok level → fitsOptStr level = true
  cloudCover : fitsOptFloat lax ((props.lookup "eo:cloud_cover").getD .null) = true
  gsd : fitsOptFloat lax ((props.lookup "gsd").getD .null) = true

/-- The answer of a STAC server fits the model. -/
def ItemFits (lax : LaxMode) (data : Json) : Prop :=
  ∀ top props, data = .obj top → (top.lookup "properties").getD (.obj []) = .obj props →
    PropertiesFit lax top props

lemma optStrField_isOk_iff (fields : Fields) (name : String) (v : Json)
    (h : fields.lookup name = some v) :
    (∃ s, optStrField fields name = .ok s) ↔ fitsOptStr v = true := by
  cases v <;> simp [optStrField, h, fitsOptStr]

lemma optFloatField_isOk_iff (lax : LaxMode) (fields : Fields) (name : String) (v : Json)
    (h : fields.lookup name = some v) :
    (∃ x, optFloatField lax fields name = .ok x) ↔ fitsOptFloat lax v = true := by
  have hlax : ∀ w : Json, (∃ x, (((lax.float w).map Except.ok).getD
      (.error (validationError name))).map some = .ok x) ↔ (lax.float w).isSome = true := by
    intro w
    rcases lax.float w with _ | x <;> simp [Except.map]
  cases v with
  | null => simp [optFloatField, h, fitsOptFloat]
  | num q => simp [optFloatField, h, fitsOptFloat, floatValue, Except.map]
  | bool _ | str _ | arr _ | obj _ =>
    simp only [optFloatField, h, fitsOptFloat, floatValue]
    exact hlax _

lemma strField_isOk_iff (fields : Fields) (name : String) (v : Json)
    (h : fields.lookup name = some v) :
    (∃ s, strField fields name = .ok s) ↔ ∃ s, v = .str s := by
  cases v <;> simp [strField, h]

/-- A parsed item passes the validation of the model exactly when the answer fits it. -/
lemma ofFields_parseMission_iff {lax : LaxMode} {data : Json} {item : Fields}
    (h : MissionModule.parseMission data = .ok item) :
    (∃ m, Mission.ofFields lax item = .ok m) ↔ ItemFits lax data := by
  obtain ⟨top, props, instrument, level, bands, rfl, hprops, hlevel, hbands, rfl⟩ :=
    MissionModule.parseMission_ok h
  generalize hitem : [("platform", (props.lookup "platform").getD (.str "unknown")),
    ("instrument", Json.str instrument),
    ("constellation", (props.lookup "constellation").getD .null), ("processing_level", level),
    ("cloud_cover", (props.lookup "eo:cloud_cover").getD .null),
    ("gsd", (props.lookup "gsd").getD .null), ("spectral_bands", bands)] = item
  have hinstrument : strField item "instrument" = .ok instrument := by
    rw [← hitem]
    rfl
  have hspectral : ∃ n, optIntField lax item "spectral_bands" = .ok n := by
    have hlookup : item.lookup "spectral_bands" = some bands := by rw [← hitem]; rfl
    rcases hbands with rfl | ⟨n, rfl⟩
    · exact ⟨none, by simp [optIntField, hlookup]⟩
    · exact ⟨some n, by simp [optIntField, hlookup, intValue, Except.map]⟩
  have hplatform := strField_isOk_iff item "platform"
    ((props.lookup "platform").getD (.str "unknown")) (by rw [← hitem]; rfl)
  have hconstellation := optStrField_isOk_iff item "constellation"
    ((props.lookup "constellation").getD .null) (by rw [← hitem]; rfl)
  have hprocessing := optStrField_isOk_iff item "processing_level" level
    (by rw [← hitem]; rfl)
  have hcloud := optFloatField_isOk_iff lax item "cloud_cover"
    ((props.lookup "eo:cloud_cover").getD .null) (by rw [← hitem]; rfl)
  have hgsd := optFloatField_isOk_iff lax item "gsd"
    ((props.lookup "gsd").getD .null) (by rw [← hitem]; rfl)
  obtain ⟨n, hn⟩ := hspectral
  constructor
  · rintro ⟨m, hm⟩ top' props' htop hprops'
    obtain rfl : top = top' := by simpa using htop
    obtain rfl : props = props' := by simpa [hprops] using hprops'
    simp only [Mission.ofFields, bind_eq_ok] at hm
    obtain ⟨platform, hp, _, -, constellation, hc, processing, hl, cloud, hcl, gsd, hg, -⟩ := hm
    have hlevels : ∀ level', MissionModule.processingLevel
        ((top.lookup "collection").getD (.str ""))
        ((props.lookup "s2:processing_level").getD .null) = .ok level' →
        fitsOptStr level' = true := by
      intro level' hlevel'
      obtain rfl : level = level' := by simpa [hlevel] using hlevel'
      exact hprocessing.mp ⟨_, hl⟩
    exact ⟨hplatform.mp ⟨_, hp⟩, hconstellation.mp ⟨_, hc⟩, hlevels, hcloud.mp ⟨_, hcl⟩,
      hgsd.mp ⟨_, hg⟩⟩
  · intro hfits
    have hfit : PropertiesFit lax top props := hfits top props rfl hprops
    obtain ⟨platform, hp⟩ := hplatform.mpr hfit.platform
    obtain ⟨constellation, hc⟩ := hconstellation.mpr hfit.constellation
    obtain ⟨processing, hl⟩ := hprocessing.mpr (hfit.processingLevel level hlevel)
    obtain ⟨cloud, hcl⟩ := hcloud.mpr hfit.cloudCover
    obtain ⟨gsd, hg⟩ := hgsd.mpr hfit.gsd
    refine ⟨⟨platform, instrument, constellation, processing, cloud, gsd, n⟩, ?_⟩
    simp only [Mission.ofFields, bind_eq_ok]
    exact ⟨_, hp, _, hinstrument, _, hc, _, hl, _, hcl, _, hg, _, hn, rfl⟩

/-! ### What a call writes -/

variable {lax : LaxMode} {cfg : Settings} {call : ModuleCall} {fetched : Fetched}
  {entry : CacheEntry}

/-- The condition on the end of a call: what a mission call parses fits the model. -/
def ModuleCall.Fits (lax : LaxMode) (call : ModuleCall) (fetched : Fetched) : Prop :=
  ∀ stacId data, call = .getMissionMetadata stacId → fetched = .ok (.ok data) →
    (∃ item, MissionModule.parseMission data = .ok item) → ItemFits lax data

/-- A call that writes an entry returns, under the condition. -/
lemma ModuleCall.result_of_entry (hfits : call.Fits lax fetched)
    (h : (call.afterFetch lax cfg fetched).entry = some entry) :
    ∃ v, (call.afterFetch lax cfg fetched).result = .ok v := by
  cases call with
  | geocode lon lat =>
    obtain ⟨location, hr, -⟩ := Geocoder.afterFetch_entry h
    exact ⟨.location location, by simp [afterFetch, Rest.map, hr, Except.map]⟩
  | getLandCover lon lat =>
    obtain ⟨landCover, hr, -⟩ := Landcover.afterFetch_entry h
    exact ⟨.landCover landCover, by simp [afterFetch, Rest.map, hr, Except.map]⟩
  | getMissionMetadata stacId =>
    obtain ⟨data, item, rfl, hparse, hr, -⟩ := MissionModule.afterFetch_entry h
    have hitem : ItemFits lax data := hfits stacId data rfl rfl ⟨item, hparse⟩
    obtain ⟨m, hm⟩ := (ofFields_parseMission_iff hparse).mpr hitem
    exact ⟨.mission (some m), by simp [afterFetch, Rest.map, hr, hm, Except.map]⟩
  | researchContext placeName capturedAt region city =>
    obtain ⟨context, hr, -⟩ := ContextModule.afterFetch_entry h
    exact ⟨.context context, by simp [afterFetch, Rest.map, hr, Except.map]⟩

/-! ### What has been written, and what is found -/

/-- An entry that a call has written. -/
structure Written where
  task : ℕ
  call : ModuleCall
  result : Except Exc ModuleResult
  row : CacheRow

/-- A read of the cache: the entries that had been written when the call read its row, the
reading of the clock when it went on, and where it has got to. -/
structure Looked where
  call : ModuleCall
  due : List Written
  time : ℚ
  outcome : Option CallPhase

/-- The process, and beside it the entries that have been written, those that had been written
when the calls that go on with their rows have read them, and the reads. -/
structure RecordedCalls where
  calls : CachedCalls
  written : List Written
  due : ℕ → List Written
  looked : List Looked

/-- The entry whose INSERT a call awaits, also when it has been cancelled. -/
def CallPhase.inserts (task : ℕ) : CallPhase → Option Written
  | .writing call result (.inserting _ row) => some ⟨task, call, result, row⟩
  | .cancelled was => was.inserts task
  | _ => none

namespace RecordedCalls

variable (lax cfg)

/-- The process on a database with any content; none of its rows has been written yet. -/
def opened (store : CacheStore) : RecordedCalls := ⟨.opened store, [], fun _ => [], []⟩

/-- The entry that an event writes. -/
def inserted (s : CachedCalls) (e : CacheEvent) : Option Written :=
  match e.action with
  | .resume task none => (s.calls task).bind (CallPhase.inserts task)
  | _ => none

/-- The entries that had been written when a call has read its row. -/
def readBy (s : RecordedCalls) (e : CacheEvent) (task : ℕ) : List Written :=
  match e.action, s.calls.calls task with
  | .resume i none, some (.reading _ (.selecting _)) => if i = task then s.written else s.due task
  | _, _ => s.due task

/-- The entries that a read has to find when it goes on: one whose SELECT fails, or one that
has its row. -/
def dueTo (s : RecordedCalls) (task : ℕ) (fault : Option Exc) : StorePhase → Option (List Written)
  | .selecting _ => if fault.isSome then some s.written else none
  | .selected .. => some (s.due task)
  | _ => none

/-- The read that ends in an event. -/
def looks (s : RecordedCalls) (e : CacheEvent) (after : CachedCalls) : Option Looked :=
  match e.action with
  | .resume task fault =>
    match s.calls.calls task with
    | some (.reading call p) =>
      (s.dueTo task fault p).map fun due => ⟨call, due, e.time, after.calls task⟩
    | _ => none
  | _ => none

def step (s : RecordedCalls) (e : CacheEvent) : Option RecordedCalls :=
  (s.calls.step lax cfg e).map fun calls =>
    ⟨calls, (inserted s.calls e).toList ++ s.written, s.readBy e,
      (s.looks e calls).toList ++ s.looked⟩

/-- An entry is written only by a call that returns a result, or is about to: it awaits the
commit.  And a call that reads the cache after an entry of its key has been written, and goes on
before the entry expires, returns that result without contacting the upstream. -/
structure Coherent (s : RecordedCalls) : Prop where
  returned : ∀ w ∈ s.written, (∃ v, w.result = .ok v) ∧
    (s.calls.calls w.task = some (.writing w.call w.result .inserted) ∨
      s.calls.calls w.task = some (.ended w.call true w.result))
  served : ∀ l ∈ s.looked, ∀ w ∈ l.due, l.call.cacheKey = w.call.cacheKey →
    CacheStore.Live l.time w.row → l.outcome = some (.ended l.call false w.result)

/-- The condition on a step. -/
structure Undisturbed (s : RecordedCalls) (e : CacheEvent) : Prop where
  /-- An answer for a mission call fits its model. -/
  fits : ∀ task call fetched, e.action = .fetched task fetched →
    s.calls.calls task = some (.fetching call) → call.Fits lax fetched
  /-- An INSERT over an entry that has not expired has the same result, and expires no
  earlier. -/
  overwrites : ∀ w ∈ inserted s.calls e, ∀ w' ∈ s.written, w'.call.cacheKey = w.call.cacheKey →
    CacheStore.Live e.time w'.row →
      w'.result = w.result ∧ ∀ t, CacheStore.Live t w'.row → CacheStore.Live t w.row
  /-- A DELETE meets no entry that has not expired. -/
  deletes : ∀ task q key, e.action = .resume task none → s.calls.calls task = some q →
    q.inStore = some (.deleting key) →
    ∀ w ∈ s.written, w.call.cacheKey = some key → ¬ CacheStore.Live e.time w.row
  /-- A read that fails had no entry to find. -/
  reads : ∀ task call p x due, e.action = .resume task (some x) →
    s.calls.calls task = some (.reading call p) → s.dueTo task (some x) p = some due →
    ∀ w ∈ due, call.cacheKey = w.call.cacheKey → ¬ CacheStore.Live e.time w.row
  /-- The INSERT of a cancelled call is not carried out. -/
  abandons : ∀ task was, e.action = .resume task none →
    s.calls.calls task = some (.cancelled was) → was.inserts task = none
  /-- A call is not cancelled in the commit of its INSERT. -/
  cancels : ∀ task call result, e.action = .cancel task →
    s.calls.calls task ≠ some (.writing call result .inserted)
  /-- A commit that fails raises what the store catches. -/
  commits : ∀ task call result x, e.action = .resume task (some x) →
    s.calls.calls task = some (.writing call result .inserted) → CacheStore.catches x = true

/-- A row from which the result of an entry is read, for as long as the entry lives. -/
structure Serves (w : Written) (row : CacheRow) : Prop where
  lives : ∀ t, CacheStore.Live t w.row → CacheStore.Live t row
  built : ∃ fields, row.value = .dumps (.obj fields) ∧ fields ≠ [] ∧
    w.call.build lax fields = w.result

/-- The invariant: beside the coherence, every entry that has not expired is served by the row
of its key, and by the row of every read that it is due to. -/
structure Kept (s : RecordedCalls) : Prop where
  sound : CachedCalls.AllSound lax s.calls
  writes : ∀ task call result key row,
    s.calls.calls task = some (.writing call result (.inserting key row)) → ∃ v, result = .ok v
  rows : ∀ w ∈ s.written, ∃ key, w.call.cacheKey = some key ∧
    (CacheStore.Live s.calls.now w.row →
      ∃ row, s.calls.store.table.lookup key = some row ∧ Serves lax w row)
  due : ∀ task call key row, s.calls.calls task = some (.reading call (.selected key row)) →
    ∀ w ∈ s.due task, call.cacheKey = w.call.cacheKey → CacheStore.Live s.calls.now w.row →
      ∃ row', row = some row' ∧ Serves lax w row'
  coherent : Coherent s

variable {lax cfg} {s s' : RecordedCalls} {e : CacheEvent} {w : Written} {row : CacheRow}
  {key : String} {task : ℕ}

lemma step_calls (h : step lax cfg s e = some s') :
    s.calls.step lax cfg e = some s'.calls ∧
      s'.written = (inserted s.calls e).toList ++ s.written ∧ s'.due = s.readBy e ∧
      s'.looked = (s.looks e s'.calls).toList ++ s.looked := by
  obtain ⟨calls, hcalls, rfl⟩ := Option.map_eq_some_iff.mp h
  exact ⟨hcalls, rfl, rfl, rfl⟩

/-! ### The entry that is written -/

/-- The INSERT of a row is one of the describer, or writes the entry of a call. -/
lemma inserts_of_sound (task : ℕ) {q : CallPhase} (hq : CachedCalls.Sound lax q)
    (hp : q.inStore = some (.inserting key row)) :
    (∃ cogImageId, key = Describer.cacheKey cogImageId) ∨
      ∃ w, q.inserts task = some w ∧ w.row = row ∧
        CachedCalls.EntryOf lax w.call w.result key row := by
  induction q with
  | reading call p =>
    obtain rfl := Option.some.inj hp
    obtain ⟨_, -, hget⟩ := hq
    cases hget
  | writing call result p =>
    obtain rfl := Option.some.inj hp
    obtain ⟨_, _, hentry, rfl, rfl⟩ := hq
    exact .inr ⟨_, rfl, rfl, hentry⟩
  | describing cogImageId p =>
    obtain rfl := Option.some.inj hp
    rcases hq with hget | ⟨_, rfl, -⟩
    · cases hget
    · exact .inl ⟨cogImageId, rfl⟩
  | cancelled was ih => exact ih hq hp
  | fetching | ended | gone => cases hp

lemma inserts_eq_some {q : CallPhase} (h : q.inserts task = some w) :
    (∃ key, w.task = task ∧ q = .writing w.call w.result (.inserting key w.row)) ∨
      ∃ was, q = .cancelled was ∧ was.inserts task = some w := by
  cases q with
  | writing call result p =>
    cases p <;> cases h
    exact .inl ⟨_, rfl, rfl⟩
  | cancelled was => exact .inr ⟨was, rfl, h⟩
  | reading | fetching | describing | ended | gone => cases h

/-- Under the condition, the entry that an event writes is one of a call that has not been
cancelled. -/
lemma writing_of_inserted (hC : Undisturbed lax s e) (h : inserted s.calls e = some w) :
    e.action = .resume w.task none ∧
      ∃ key, s.calls.calls w.task = some (.writing w.call w.result (.inserting key w.row)) := by
  unfold inserted at h
  split at h
  · rename_i task haction
    obtain ⟨q, hcall, hins⟩ := Option.bind_eq_some_iff.mp h
    rcases inserts_eq_some hins with ⟨key, rfl, rfl⟩ | ⟨was, rfl, hwas⟩
    · exact ⟨haction, key, hcall⟩
    · rw [hC.abandons task was haction hcall] at hwas
      cases hwas
  · cases h

/-- The step that writes it. -/
lemma step_of_inserted (hs : Kept lax s) (hC : Undisturbed lax s e)
    (h : s.calls.step lax cfg e = some s'.calls) (hw : inserted s.calls e = some w) :
    ∃ key, CachedCalls.EntryOf lax w.call w.result key w.row ∧
      s'.calls.store.table = s.calls.store.table.insert key w.row ∧
      s'.calls.calls w.task = some (.writing w.call w.result .inserted) := by
  obtain ⟨haction, key, hcall⟩ := writing_of_inserted hC hw
  obtain ⟨key', row', hentry, rfl, rfl⟩ := hs.sound _ _ hcall
  obtain ⟨t, action⟩ := e
  obtain rfl : action = .resume w.task none := haction
  obtain ⟨q, p, r, hcall', hp, -, hr, hs'⟩ := CachedCalls.step_resume h
  obtain rfl := Option.some.inj (hcall.symm.trans hcall')
  obtain rfl := Option.some.inj hp
  cases hr
  refine ⟨key, hentry, ?_, ?_⟩
  · rw [hs']
    rfl
  · rw [hs']
    exact CachedCalls.put_self ..

lemma serves_self (hentry : CachedCalls.EntryOf lax w.call w.result key w.row) :
    Serves lax w w.row := by
  obtain ⟨fields, expires, hrow, hne, hbuild⟩ := hentry.built
  exact ⟨fun t h => h, fields, by rw [hrow], hne, hbuild⟩

/-! ### The invariant, step by step -/

lemma live_of_step (h : s.calls.step lax cfg e = some s'.calls)
    (hlive : CacheStore.Live s'.calls.now row) :
    CacheStore.Live e.time row ∧ CacheStore.Live s.calls.now row := by
  obtain ⟨hle, hnow⟩ := CachedCalls.step_time h
  rw [hnow] at hlive
  exact ⟨hlive, CacheStore.live_antitone row hle hlive⟩

/-- The row that serves an entry stays, or is replaced by one that serves it too. -/
lemma row_step (hs : Kept lax s) (hC : Undisturbed lax s e)
    (h : s.calls.step lax cfg e = some s'.calls) (hw : w ∈ s.written)
    (hkey : w.call.cacheKey = some key) (hlive : CacheStore.Live e.time w.row)
    (hrow : s.calls.store.table.lookup key = some row) (hserves : Serves lax w row) :
    ∃ row', s'.calls.store.table.lookup key = some row' ∧ Serves lax w row' := by
  rcases CachedCalls.step_table h with htable | ⟨task, q, key', haction, hcall, hp, htable⟩ |
    ⟨task, q, key', row', haction, hcall, hp, htable⟩ | ⟨reading, hle, htable⟩
  · exact ⟨row, by rw [htable, hrow], hserves⟩
  · have hne : key ≠ key' := by
      rintro rfl
      exact hC.deletes task q key haction hcall hp w hw hkey hlive
    exact ⟨row, by rw [htable, AList.lookup_erase_ne hne, hrow], hserves⟩
  · by_cases hne : key = key'
    · -- another call of the key writes its entry
      subst hne
      rcases inserts_of_sound task (hs.sound task q hcall) hp with
        ⟨cogImageId, rfl⟩ | ⟨w', hins, rfl, hentry⟩
      · exact absurd hkey (ModuleCall.cacheKey_ne_describer cogImageId)
      · have hinserted : inserted s.calls e = some w' := by
          simp only [inserted, haction, hcall, Option.bind_some, hins]
        obtain ⟨hresult, hlives⟩ := hC.overwrites w' hinserted w hw
          (hkey.trans hentry.key_eq.symm) hlive
        obtain ⟨-, fields, hvalue, hne, hbuild⟩ := serves_self hentry
        refine ⟨w'.row, by rw [htable, AList.lookup_insert], hlives, fields, hvalue, hne, ?_⟩
        rw [ModuleCall.build_eq_of_cacheKey_eq lax hkey hentry.key_eq, hbuild, hresult]
    · exact ⟨row, by rw [htable, AList.lookup_insert_ne hne, hrow], hserves⟩
  · refine ⟨row, ?_, hserves⟩
    have hlive' : CacheStore.Live reading row :=
      CacheStore.live_antitone row hle (hserves.lives _ hlive)
    rw [htable, Table.lookup_deleteWhere_eq_some_iff]
    exact ⟨hrow, hlive'.not_pastExpiry⟩

lemma rows_step (hs : Kept lax s) (hC : Undisturbed lax s e)
    (h : step lax cfg s e = some s') : ∀ w ∈ s'.written, ∃ key, w.call.cacheKey = some key ∧
      (CacheStore.Live s'.calls.now w.row →
        ∃ row, s'.calls.store.table.lookup key = some row ∧ Serves lax w row) := by
  obtain ⟨hcalls, hwritten, -, -⟩ := step_calls h
  intro w hw
  rw [hwritten, List.mem_append, Option.mem_toList] at hw
  rcases hw with hnew | hold
  · obtain ⟨key, hentry, htable, -⟩ := step_of_inserted hs hC hcalls hnew
    refine ⟨key, hentry.key_eq, fun _ => ⟨w.row, ?_, serves_self hentry⟩⟩
    rw [htable, AList.lookup_insert]
  · obtain ⟨key, hkey, hserved⟩ := hs.rows w hold
    refine ⟨key, hkey, fun hlive => ?_⟩
    obtain ⟨hlive', hbefore⟩ := live_of_step hcalls hlive
    obtain ⟨row, hrow, hserves⟩ := hserved hbefore
    exact row_step hs hC hcalls hold hkey hlive' hrow hserves

lemma writes_step (hs : Kept lax s) (hC : Undisturbed lax s e)
    (h : s.calls.step lax cfg e = some s'.calls) {call : ModuleCall}
    {result : Except Exc ModuleResult}
    (hcall : s'.calls.calls task = some (.writing call result (.inserting key row))) :
    ∃ v, result = .ok v := by
  obtain ⟨t, action⟩ := e
  rcases CachedCalls.turns_of_step h task with ⟨-, hsame⟩ | ⟨q, hturns, hq⟩
  · exact hs.writes task call result key row (hsame ▸ hcall)
  · rw [hcall, Option.some.injEq] at hq
    cases hturns with
    | begin =>
      unfold CachedCalls.begin at hq
      split at hq <;> cases hq
    | describerGet | describerSet | cancel => cases hq
    | fetched hfetching =>
      -- the item fits the model
      simp only [CachedCalls.afterFetched] at hq
      split at hq
      · cases hq
      · rename_i entry hentry
        cases hq
        exact ModuleCall.result_of_entry (hC.fits task call _ rfl hfetching) hentry
    | resume hcall' hp hmay hr => exact absurd hq.symm (CachedCalls.next_ne_inserting hr)

/-- A read that has its row has read it in the last step, or had it before. -/
lemma selected_cases (h : s.calls.step lax cfg e = some s'.calls) {row : Option CacheRow}
    (hcall : s'.calls.calls task = some (.reading call (.selected key row))) :
    (e.action = .resume task none ∧ s.calls.calls task = some (.reading call (.selecting key)) ∧
        row = s.calls.store.table.lookup key) ∨
      (s.calls.calls task = some (.reading call (.selected key row)) ∧
        s.readBy e task = s.due task) := by
  obtain ⟨t, action⟩ := e
  rcases CachedCalls.turns_of_step h task with ⟨hother, hsame⟩ | ⟨q, hturns, hq⟩
  · refine .inr ⟨hsame ▸ hcall, ?_⟩
    unfold readBy
    split
    · rename_i i _ _ haction _
      obtain rfl : action = .resume i none := haction
      rw [if_neg fun heq => hother (congrArg some heq)]
    · rfl
  · rw [hcall, Option.some.injEq] at hq
    cases hturns with
    | begin =>
      unfold CachedCalls.begin at hq
      split at hq <;> cases hq
    | describerGet | describerSet | cancel => cases hq
    | fetched =>
      simp only [CachedCalls.afterFetched] at hq
      split at hq <;> cases hq
    | resume hcall' hp hmay hr =>
      obtain ⟨rfl, rfl, rfl⟩ := CachedCalls.selecting_of_next hp hr hq.symm
      exact .inl ⟨rfl, hcall', rfl⟩

lemma due_step (hs : Kept lax s) (h : step lax cfg s e = some s') {row : Option CacheRow}
    (hcall : s'.calls.calls task = some (.reading call (.selected key row)))
    (hw : w ∈ s'.due task) (hkey : call.cacheKey = w.call.cacheKey)
    (hlive : CacheStore.Live s'.calls.now w.row) :
    ∃ row', row = some row' ∧ Serves lax w row' := by
  obtain ⟨hcalls, -, hdue, -⟩ := step_calls h
  obtain ⟨-, hbefore⟩ := live_of_step hcalls hlive
  rw [hdue] at hw
  rcases selected_cases hcalls hcall with ⟨haction, hselecting, rfl⟩ | ⟨hselected, hsame⟩
  · simp only [readBy, haction, hselecting, if_true] at hw
    obtain ⟨key', hcallKey, hget⟩ := hs.sound _ _ hselecting
    obtain rfl : key = key' := hget
    obtain ⟨key', hwKey, hserved⟩ := hs.rows w hw
    obtain rfl : key = key' := Option.some.inj (hcallKey.symm.trans (hkey.trans hwKey))
    exact hserved hbefore
  · rw [hsame] at hw
    exact hs.due task call key row hselected w hw hkey hbefore

/-! ### Who returns what he has written -/

/-- A call that has written an entry goes on to return it. -/
lemma stays_returned (hC : Undisturbed lax s e) (h : s.calls.step lax cfg e = some s'.calls)
    {call : ModuleCall} {result : Except Exc ModuleResult}
    (hphase : s.calls.calls task = some (.writing call result .inserted) ∨
      s.calls.calls task = some (.ended call true result)) :
    s'.calls.calls task = some (.writing call result .inserted) ∨
      s'.calls.calls task = some (.ended call true result) := by
  obtain ⟨t, action⟩ := e
  rcases CachedCalls.turns_of_step h task with ⟨-, hsame⟩ | ⟨q, hturns, hq⟩
  · rwa [hsame]
  · rw [hq]
    cases hturns with
    | begin hnew | describerGet hnew | describerSet hnew => simp [hnew] at hphase
    | fetched hcall => simp [hcall] at hphase
    | cancel hcall hawaits =>
      rcases hphase with hinserted | hended
      · exact absurd hinserted (hC.cancels task call result rfl)
      · obtain rfl := Option.some.inj (hcall.symm.trans hended)
        cases hawaits
    | @resume fault q' p r hcall hp hmay hr =>
      rcases hphase with hinserted | hended
      · -- the commit returns, or what it raises is caught
        obtain rfl := Option.some.inj (hcall.symm.trans hinserted)
        obtain rfl := Option.some.inj hp
        rcases fault with _ | x
        · cases hr
          exact .inr rfl
        · have hcaught := hC.commits task call result x rfl hinserted
          cases hr
          simp [CacheStore.setFailed, hcaught, CachedCalls.next]
      · obtain rfl := Option.some.inj (hcall.symm.trans hended)
        cases hp

lemma returned_step (hs : Kept lax s) (hC : Undisturbed lax s e)
    (h : step lax cfg s e = some s') : ∀ w ∈ s'.written, (∃ v, w.result = .ok v) ∧
      (s'.calls.calls w.task = some (.writing w.call w.result .inserted) ∨
        s'.calls.calls w.task = some (.ended w.call true w.result)) := by
  obtain ⟨hcalls, hwritten, -, -⟩ := step_calls h
  intro w hw
  rw [hwritten, List.mem_append, Option.mem_toList] at hw
  rcases hw with hnew | hold
  · obtain ⟨-, key, hcall⟩ := writing_of_inserted hC hnew
    obtain ⟨_, -, -, hinserted⟩ := step_of_inserted hs hC hcalls hnew
    exact ⟨hs.writes _ _ _ _ _ hcall, .inl hinserted⟩
  · obtain ⟨hok, hphase⟩ := hs.coherent.returned w hold
    exact ⟨hok, stays_returned hC hcalls hphase⟩

/-! ### Who finds what -/

/-- A read that goes on with a row that serves an entry returns its result. -/
lemma next_of_serves {store : CacheStore} {t : ℚ} {r : CacheStore × StorePhase}
    (hserves : Serves lax w row) (hlive : CacheStore.Live t w.row)
    (hcall : call.cacheKey = some key) (hw : w.call.cacheKey = some key)
    (hr : (StorePhase.selected key (some row)).resume store t none = some r) :
    CachedCalls.next lax (.reading call (.selected key (some row))) r.2 =
      .ended call false w.result := by
  obtain ⟨fields, hvalue, hne, hbuild⟩ := hserves.built
  cases hr
  rw [SharedStore.judge_of_live (hserves.lives t hlive) hvalue]
  simp only [CachedCalls.next, CachedCalls.afterGet, fromCache_obj _ hne,
    ModuleCall.build_eq_of_cacheKey_eq lax hcall hw, hbuild]

/-- The read that ends in an event. -/
lemma looks_eq_some {after : CachedCalls} {l : Looked} (h : s.looks e after = some l) :
    ∃ task fault p, e.action = .resume task fault ∧
      s.calls.calls task = some (.reading l.call p) ∧ s.dueTo task fault p = some l.due ∧
      l.time = e.time ∧ l.outcome = after.calls task := by
  unfold looks at h
  split at h
  · rename_i task fault haction
    split at h
    · rename_i call p hcall
      obtain ⟨due, hdue, rfl⟩ := Option.map_eq_some_iff.mp h
      exact ⟨task, fault, p, haction, hcall, hdue, rfl, rfl⟩
    · cases h
  · cases h

lemma served_step (hs : Kept lax s) (hC : Undisturbed lax s e)
    (h : step lax cfg s e = some s') : ∀ l ∈ s'.looked, ∀ w ∈ l.due,
      l.call.cacheKey = w.call.cacheKey → CacheStore.Live l.time w.row →
        l.outcome = some (.ended l.call false w.result) := by
  obtain ⟨hcalls, -, -, hlooked⟩ := step_calls h
  intro l hl w hw hkey hlive
  rw [hlooked, List.mem_append, Option.mem_toList] at hl
  rcases hl with hnew | hold
  · obtain ⟨task, fault, p, haction, hcall, hdue, htime, houtcome⟩ := looks_eq_some hnew
    rw [htime] at hlive
    rcases fault with _ | x
    · -- the read goes on with its row
      cases p with
      | selected key row =>
        have hdue' : s.due task = l.due := Option.some.inj hdue
        obtain ⟨key', hcallKey, hget⟩ := hs.sound _ _ hcall
        obtain rfl : key = key' := hget
        have hbefore : CacheStore.Live s.calls.now w.row :=
          CacheStore.live_antitone w.row (CachedCalls.step_time hcalls).1 hlive
        obtain ⟨row', rfl, hserves⟩ := hs.due task l.call key row hcall w (hdue' ▸ hw) hkey hbefore
        obtain ⟨t, action⟩ := e
        obtain rfl : action = .resume task none := haction
        obtain ⟨q, p, r, hcall', hp, -, hr, hafter⟩ := CachedCalls.step_resume hcalls
        obtain rfl := Option.some.inj (hcall.symm.trans hcall')
        obtain rfl := Option.some.inj hp
        rw [houtcome, hafter, CachedCalls.put_self,
          next_of_serves hserves hlive hcallKey (hkey ▸ hcallKey) hr]
      | _ => cases hdue
    · exact absurd hlive (hC.reads task l.call p x l.due haction hcall hdue w hw hkey)
  · exact hs.coherent.served l hold w hw hkey hlive

lemma kept_step (hs : Kept lax s) (hC : Undisturbed lax s e) (h : step lax cfg s e = some s') :
    Kept lax s' where
  sound := CachedCalls.allSound_step hs.sound (step_calls h).1
  writes _ _ _ _ _ hcall := writes_step hs hC (step_calls h).1 hcall
  rows := rows_step hs hC h
  due _ _ _ _ hcall _ hw hkey hlive := due_step hs h hcall hw hkey hlive
  coherent := ⟨returned_step hs hC h, served_step hs hC h⟩

lemma kept_opened (store : CacheStore) : Kept lax (opened store) where
  sound := CachedCalls.allSound_opened store
  writes := by rintro _ _ _ _ _ ⟨⟩
  rows := by rintro w ⟨⟩
  due := by rintro _ _ _ _ ⟨⟩
  coherent := ⟨by rintro w ⟨⟩, by rintro l ⟨⟩⟩

end RecordedCalls

/-! ### An item that fits and one that does not -/

namespace CachedCalls

/-- Conversions that accept nothing but numbers. -/
def numbersOnly : LaxMode := ⟨fun _ => none, fun _ => none⟩

/-- The answer of a STAC server with one property. -/
def itemOf (platform : Json) : Json := .obj [("properties", .obj [("platform", platform)])]

/-- A call for the item of an image. -/
def itemCall : ModuleCall := .getMissionMetadata (some "S2A_31UFU")

end CachedCalls

namespace RecordedCalls

open CachedCalls (numbersOnly itemOf itemCall)

/-- A call misses the cache and fetches an item of a platform, and a second call follows when
it has ended. -/
def twoCalls (platform : Json) : List CacheEvent :=
  [⟨1, .begin 0 itemCall⟩, ⟨1, .resume 0 none⟩, ⟨1, .resume 0 none⟩,
    ⟨2, .fetched 0 (.ok (.ok (itemOf platform)))⟩, ⟨2, .resume 0 none⟩, ⟨2, .resume 0 none⟩,
    ⟨3, .begin 1 itemCall⟩, ⟨3, .resume 1 none⟩, ⟨3, .resume 1 none⟩]

/-- The steps that `Undisturbed` asks nothing of, and the answer that fits. -/
def asksNothing (s : RecordedCalls) (e : CacheEvent) : Bool :=
  match e.action with
  | .begin .. => true
  | .fetched _ (.ok (.ok (.obj [("properties", .obj [("platform", .str _)])]))) => true
  | .resume task none =>
    match s.calls.calls task with
    | some (.reading _ (.selecting _)) | some (.reading _ (.selected ..)) => true
    | some (.writing _ _ (.inserting ..)) => s.written.isEmpty
    | some (.writing _ _ .inserted) => true
    | _ => false
  | _ => false

lemma fits_item (call : ModuleCall) (platform : String) :
    call.Fits numbersOnly (.ok (.ok (itemOf (.str platform)))) := by
  rintro stacId data - hdata - top props rfl hprops
  simp only [itemOf, Except.ok.injEq, Json.obj.injEq] at hdata
  subst hdata
  obtain rfl : [("platform", Json.str platform)] = props := by
    simpa [List.lookup_cons] using hprops
  exact ⟨⟨_, rfl⟩, rfl, fun level hlevel => by cases hlevel; rfl, rfl, rfl⟩

/-- A statement of which nothing is asked: the SELECT of a read, its going on, the only INSERT,
or its commit. -/
lemma asksNothing_resume {s : RecordedCalls} {t : ℚ} {task : ℕ} {q : CallPhase}
    (hcall : s.calls.calls task = some q) (h : asksNothing s ⟨t, .resume task none⟩ = true) :
    (∀ was, q ≠ .cancelled was) ∧ (∀ key, q.inStore ≠ some (.deleting key)) ∧
      (q.inserts task = none ∨ s.written = []) := by
  simp only [asksNothing, hcall] at h
  split at h
  · rename_i heq
    obtain rfl := Option.some.inj heq
    simp [CallPhase.inStore, CallPhase.inserts]
  · rename_i heq
    obtain rfl := Option.some.inj heq
    simp [CallPhase.inStore, CallPhase.inserts]
  · rename_i heq
    obtain rfl := Option.some.inj heq
    simpa [CallPhase.inStore, CallPhase.inserts] using h
  · rename_i heq
    obtain rfl := Option.some.inj heq
    simp [CallPhase.inStore, CallPhase.inserts]
  · cases h

lemma undisturbed_of_asksNothing {s : RecordedCalls} {e : CacheEvent}
    (h : asksNothing s e = true) : Undisturbed numbersOnly s e where
  fits := by
    obtain ⟨t, action⟩ := e
    rintro task call fetched rfl -
    simp only [asksNothing] at h
    split at h <;> simp_all
    exact fits_item call _
  overwrites := by
    obtain ⟨t, action⟩ := e
    intro w hw w' hw'
    simp only [inserted, Option.mem_def] at hw
    split at hw
    · rename_i task
      obtain ⟨q, hcall, hins⟩ := Option.bind_eq_some_iff.mp hw
      rcases (asksNothing_resume hcall h).2.2 with hnone | hempty
      · simp [hnone] at hins
      · simp [hempty] at hw'
    · cases hw
  deletes := by
    obtain ⟨t, action⟩ := e
    rintro task q key rfl hcall hp
    exact absurd hp ((asksNothing_resume hcall h).2.1 key)
  reads := by
    obtain ⟨t, action⟩ := e
    rintro task call p x due rfl
    cases h
  abandons := by
    obtain ⟨t, action⟩ := e
    rintro task was rfl hcall
    exact absurd rfl ((asksNothing_resume hcall h).1 was)
  cancels := by
    obtain ⟨t, action⟩ := e
    rintro task call result rfl
    cases h
  commits := by
    obtain ⟨t, action⟩ := e
    rintro task call result x rfl
    cases h

/-- Whether a call has raised. -/
def hasRaised : Option CallPhase → Bool
  | some (.ended _ _ (.error _)) => true
  | _ => false

/-- Whether both calls have raised, the second one without a fetch of its own, and the entry of
the first one is in the table. -/
def raisesTwice (s : RecordedCalls) : Bool :=
  hasRaised (s.calls.calls 0) && hasRaised (s.calls.calls 1) &&
    s.written.any fun w => hasRaised (some (.ended w.call true w.result))

end RecordedCalls

end ImageDescriptor
