/-
# A description in two places

The description of an image is kept in the cache, where the next describe request finds it,
and in the table `image_descriptions`, which the read and delete routes work on.  A describe
request writes the two in separate awaits, a delete request touches the table alone, and
any number of requests of one image may interleave.  Gemini may fail and requests may be
cancelled, but the statements of the cache and of the database do what they are asked, and no
breaker refuses a call.  This file follows the entry and the row of an image and gives the
runs in which they agree whenever no request of the image is in progress.
-/
import ImageDescriptor.Api.Routes
import ImageDescriptor.Services.Composer

namespace ImageDescriptor

open Lib Db

/-- A `cog_image_id` for which something is stored. -/
abbrev CogImageId := {id : String // id ≠ ""}

/-- The key of the cached description of an image. -/
def CogImageId.cacheKey (id : CogImageId) : String := Describer.cacheKey id.1

/-- The row that `cache.set` leaves for a description. -/
def descriptionEntry (text : String) : CacheRow :=
  ⟨.dumps (.obj [("description", .str text)]), none⟩

/-- The column `description` of a row. -/
def Db.Row.description (row : Row) : Json := (row.lookup "description").getD .null

/-- The row after an upsert: the columns that are sent replace those that are there. -/
def Db.Row.upsert (sent : Row) : Option Row → Row
  | none => sent
  | some row => sent ++ row

/-- What is stored beside the description: it comes from the request and from the other
modules. -/
structure Surroundings where
  coordinates : ℚ × ℚ
  capturedAt : Option String
  location : Option Location
  landCover : Option LandCover
  context : Option Context

/-- Where a request of an image stands.  A describe request awaits the SELECT of the cache
(`reading`), the thumbnail and Gemini (`asking`), the INSERT of the cache (`writing`), the
end of `compose_description` with what its describer call has returned (`composing`), or the
upsert (`saving`); a delete request awaits its DELETE. -/
inductive ImagePhase
  | reading
  | asking
  | writing (text : String)
  | composing (result : Option (Json × Bool))
  | saving (row : Row)
  | deleting
  | finished

/-- The request still has to write the description `text` into the table. -/
def ImagePhase.Saves (text : String) : ImagePhase → Prop
  | .composing result => ∃ cached, result = some (.str text, cached)
  | .saving row => row.description = .str text
  | _ => False

/-- A request of an image. -/
structure ImageRequest where
  id : CogImageId
  phase : ImagePhase

/-- The cache, the table and the requests. -/
structure StoredDescriptions where
  cache : CacheStore
  rows : Table String Row
  requests : ℕ → Option ImageRequest

/-- What happens.  A request whose statement may still be carried out is in progress, also
when nobody waits for it any more: it is `cancelled` when its statement is dropped or has
been carried out. -/
inductive ImageAction
  | describe (task : ℕ) (id : CogImageId)
  | delete (task : ℕ) (id : CogImageId)
  | read (task : ℕ) (now : ℚ)
  | answered (task : ℕ) (text : Except Exc String)
  | write (task : ℕ) (now : ℚ)
  | composed (task : ℕ) (around : Surroundings)
  | save (task : ℕ)
  | erase (task : ℕ)
  | cancel (task : ℕ)

namespace StoredDescriptions

/-- Two stores and no request. -/
def initial (cache : CacheStore) (rows : Table String Row) : StoredDescriptions :=
  ⟨cache, rows, fun _ => none⟩

def put (s : StoredDescriptions) (task : ℕ) (id : CogImageId) (phase : ImagePhase) :
    StoredDescriptions :=
  { s with requests := Function.update s.requests task (some ⟨id, phase⟩) }

/-- `describe_image` after its read of the cache. -/
def afterRead : Except Exc Json → ImagePhase
  | .error _ => .composing none
  | .ok v =>
    if v.truthy then
      match Describer.cachedDescription v with
      | .ok d => .composing (some (d, true))
      | .error _ => .composing none
    else .asking

/-- `_describe_and_save` after `compose_description`. -/
def afterCompose (id : CogImageId) (around : Surroundings) (result : Option (Json × Bool)) :
    ImagePhase :=
  match Composer.Composition.describedBy result with
  | .error _ => .finished
  | .ok (description, _) =>
    if nonEmpty description then
      .saving (saveRow id.1 around.coordinates around.capturedAt
        (around.location.map Location.modelDump) (around.landCover.map LandCover.modelDump)
        description (around.context.map Context.modelDump))
    else .finished

/-- One action; `none` when it cannot happen. -/
def step (s : StoredDescriptions) : ImageAction → Option StoredDescriptions
  | .describe task id =>
    match s.requests task with
    | none => some (s.put task id .reading)
    | some _ => none
  | .delete task id =>
    match s.requests task with
    | none => some (s.put task id .deleting)
    | some _ => none
  | .read task now =>
    match s.requests task with
    | some ⟨id, .reading⟩ =>
      let r := s.cache.get now id.cacheKey {}
      some ({ s with cache := r.1 }.put task id (afterRead r.2))
    | _ => none
  | .answered task text =>
    match s.requests task with
    | some ⟨id, .asking⟩ =>
      match text with
      | .ok text => some (s.put task id (.writing text))
      | .error _ => some (s.put task id (.composing none))
    | _ => none
  | .write task now =>
    match s.requests task with
    | some ⟨id, .writing text⟩ =>
      some ({ s with
        cache := (s.cache.set now id.cacheKey [("description", .str text)] {} none).1 }.put task id
          (.composing (some (.str text, false))))
    | _ => none
  | .composed task around =>
    match s.requests task with
    | some ⟨id, .composing result⟩ => some (s.put task id (afterCompose id around result))
    | _ => none
  | .save task =>
    match s.requests task with
    | some ⟨id, .saving row⟩ =>
      some ({ s with rows := s.rows.insert id.1 (row.upsert (s.rows.lookup id.1)) }.put task id
        .finished)
    | _ => none
  | .erase task =>
    match s.requests task with
    | some ⟨id, .deleting⟩ => some ({ s with rows := s.rows.erase id.1 }.put task id .finished)
    | _ => none
  | .cancel task =>
    match s.requests task with
    | some ⟨id, _⟩ => some (s.put task id .finished)
    | none => none

/-! ### The actions as a relation -/

/-- What an action does, with what has to hold before it. -/
inductive Moves (s : StoredDescriptions) : ImageAction → StoredDescriptions → Prop
  | describe {task : ℕ} {id : CogImageId} (hnew : s.requests task = none) :
      Moves s (.describe task id) (s.put task id .reading)
  | delete {task : ℕ} {id : CogImageId} (hnew : s.requests task = none) :
      Moves s (.delete task id) (s.put task id .deleting)
  | read {task : ℕ} {now : ℚ} {id : CogImageId} (hreq : s.requests task = some ⟨id, .reading⟩) :
      Moves s (.read task now) ({ s with cache := (s.cache.get now id.cacheKey {}).1 }.put task id
        (afterRead (s.cache.get now id.cacheKey {}).2))
  | answered {task : ℕ} {id : CogImageId} {text : String}
      (hreq : s.requests task = some ⟨id, .asking⟩) :
      Moves s (.answered task (.ok text)) (s.put task id (.writing text))
  | unanswered {task : ℕ} {id : CogImageId} {e : Exc}
      (hreq : s.requests task = some ⟨id, .asking⟩) :
      Moves s (.answered task (.error e)) (s.put task id (.composing none))
  | write {task : ℕ} {now : ℚ} {id : CogImageId} {text : String}
      (hreq : s.requests task = some ⟨id, .writing text⟩) :
      Moves s (.write task now) ({ s with
        cache := (s.cache.set now id.cacheKey [("description", .str text)] {} none).1 }.put task id
          (.composing (some (.str text, false))))
  | composed {task : ℕ} {id : CogImageId} {around : Surroundings} {result : Option (Json × Bool)}
      (hreq : s.requests task = some ⟨id, .composing result⟩) :
      Moves s (.composed task around) (s.put task id (afterCompose id around result))
  | save {task : ℕ} {id : CogImageId} {row : Row}
      (hreq : s.requests task = some ⟨id, .saving row⟩) :
      Moves s (.save task) ({ s with
        rows := s.rows.insert id.1 (row.upsert (s.rows.lookup id.1)) }.put task id .finished)
  | erase {task : ℕ} {id : CogImageId} (hreq : s.requests task = some ⟨id, .deleting⟩) :
      Moves s (.erase task) ({ s with rows := s.rows.erase id.1 }.put task id .finished)
  | cancel {task : ℕ} {id : CogImageId} {phase : ImagePhase}
      (hreq : s.requests task = some ⟨id, phase⟩) :
      Moves s (.cancel task) (s.put task id .finished)

variable {s s' : StoredDescriptions} {a : ImageAction} {task : ℕ} {id : CogImageId}

lemma moves_of_step (h : step s a = some s') : s.Moves a s' := by
  cases a with
  | describe task id =>
    simp only [step] at h
    split at h <;> cases h
    exact .describe ‹_›
  | delete task id =>
    simp only [step] at h
    split at h <;> cases h
    exact .delete ‹_›
  | read task now =>
    simp only [step] at h
    split at h <;> cases h
    exact .read ‹_›
  | answered task text =>
    simp only [step] at h
    split at h
    · split at h <;> cases h
      · exact .answered ‹_›
      · exact .unanswered ‹_›
    · cases h
  | write task now =>
    simp only [step] at h
    split at h <;> cases h
    exact .write ‹_›
  | composed task around =>
    simp only [step] at h
    split at h <;> cases h
    exact .composed ‹_›
  | save task =>
    simp only [step] at h
    split at h <;> cases h
    exact .save ‹_›
  | erase task =>
    simp only [step] at h
    split at h <;> cases h
    exact .erase ‹_›
  | cancel task =>
    simp only [step] at h
    split at h <;> cases h
    exact .cancel ‹_›

/-! ### What the two stores hold -/

/-- The cache holds the description `text` of an image, or no entry. -/
def Caches (s : StoredDescriptions) (id : CogImageId) (text : Option String) : Prop :=
  s.cache.table.lookup id.cacheKey = text.map descriptionEntry

/-- The table holds the description `text` of an image, or no row. -/
def Stores (s : StoredDescriptions) (id : CogImageId) (text : Option String) : Prop :=
  (s.rows.lookup id.1).map Row.description = text.map Json.str

/-- The entry and the row of an image agree. -/
def Agree (s : StoredDescriptions) (id : CogImageId) : Prop :=
  ∃ text, s.Caches id text ∧ s.Stores id text

/-- No request of the image is in progress. -/
def Idle (s : StoredDescriptions) (id : CogImageId) : Prop :=
  ∀ task phase, s.requests task = some ⟨id, phase⟩ → phase = .finished

/-- The request still has to write the description `text` of the image into the table. -/
def SavedBy (s : StoredDescriptions) (id : CogImageId) (text : String) (task : ℕ) : Prop :=
  text ≠ "" ∧ ∃ phase, s.requests task = some ⟨id, phase⟩ ∧ phase.Saves text

/-- A request other than `task` still has to write the cached description. -/
def Covered (s : StoredDescriptions) (id : CogImageId) (task : ℕ) : Prop :=
  ∃ text other, other ≠ task ∧ s.Caches id (some text) ∧ s.SavedBy id text other

/-- The condition on a step.  A row is deleted only when nothing is cached for the image; an
upsert writes the cached description; no blank description is cached; and no request gives
up that has cached a description and not stored it.  The first, the second and the last are
excused when another request still has to write the cached description. -/
def KeepsTogether (s : StoredDescriptions) : ImageAction → Prop
  | .erase task => ∀ id, s.requests task = some ⟨id, .deleting⟩ →
    s.Caches id none ∨ s.Covered id task
  | .save task => ∀ id row, s.requests task = some ⟨id, .saving row⟩ →
    (∃ text, s.Caches id (some text) ∧ row.description = .str text) ∨ s.Covered id task
  | .write task _ => ∀ id text, s.requests task = some ⟨id, .writing text⟩ → text ≠ ""
  | .cancel task => ∀ id text, s.Caches id (some text) → s.SavedBy id text task →
    s.Stores id (some text) ∨ s.Covered id task
  | _ => True

/-- The invariant: the table holds what the cache holds, or a request still has to write
it. -/
def Tracked (s : StoredDescriptions) (id : CogImageId) : Prop :=
  ∃ text, s.Caches id text ∧
    (s.Stores id text ∨ ∃ t task, text = some t ∧ s.SavedBy id t task)

/-! ### One step -/

lemma cacheKey_injective : Function.Injective CogImageId.cacheKey := by
  intro id id' h
  have hlist := congrArg String.toList h
  simp only [CogImageId.cacheKey, Describer.cacheKey, String.toList_append] at hlist
  exact Subtype.ext (String.toList_inj.mp (List.append_cancel_left hlist))

lemma live_descriptionEntry (now : ℚ) (text : String) :
    CacheStore.Live now (descriptionEntry text) := by
  intro t ht
  cases ht

/-- A `get` removes no cached description and brings none. -/
lemma lookup_get_description {cache : CacheStore} {key k : String} {now : ℚ}
    {text : Option String} (h : cache.table.lookup k = text.map descriptionEntry) :
    (cache.get now key {}).1.table.lookup k = text.map descriptionEntry := by
  rcases text with _ | t
  · rcases hrow : (cache.get now key {}).1.table.lookup k with _ | row
    · rfl
    · have hold : cache.table.lookup k = some row := CacheStore.lookup_get_subset hrow
      rw [h] at hold
      cases hold
  · exact CacheStore.lookup_get cache h (live_descriptionEntry now t)

lemma savedBy_put_of_ne {other : ℕ} {text : String} {id' : CogImageId} {p : ImagePhase}
    (h : s.SavedBy id text other) (hne : other ≠ task) : (s.put task id' p).SavedBy id text other := by
  obtain ⟨hblank, phase, hreq, hsaves⟩ := h
  exact ⟨hblank, phase, by simpa [put, Function.update_of_ne hne] using hreq, hsaves⟩

/-- A request moves on: what it had to write is stored, or another request has to write it,
or it still has to. -/
lemma tracked_put {id' : CogImageId} {p : ImagePhase} (hs : s.Tracked id)
    (h : ∀ text, s.Caches id (some text) → s.SavedBy id text task →
      s.Stores id (some text) ∨ s.Covered id task ∨ (s.put task id' p).SavedBy id text task) :
    (s.put task id' p).Tracked id := by
  obtain ⟨text, hcache, hstored | ⟨t, saver, rfl, hsaver⟩⟩ := hs
  · exact ⟨text, hcache, .inl hstored⟩
  · by_cases htask : saver = task
    · subst htask
      rcases h t hcache hsaver with hstored | ⟨t', other, hne, hcache', hother⟩ | hstill
      · exact ⟨some t, hcache, .inl hstored⟩
      · exact ⟨some t', hcache', .inr ⟨t', other, rfl, savedBy_put_of_ne hother hne⟩⟩
      · exact ⟨some t, hcache, .inr ⟨t, saver, rfl, hstill⟩⟩
    · exact ⟨some t, hcache, .inr ⟨t, saver, rfl, savedBy_put_of_ne hsaver htask⟩⟩

/-- A request that has nothing to write moves on. -/
lemma tracked_put_of_not_saves {id' : CogImageId} {p : ImagePhase} (hs : s.Tracked id)
    (h : ∀ text, ¬ s.SavedBy id text task) : (s.put task id' p).Tracked id :=
  tracked_put hs fun text _ hsaves => absurd hsaves (h text)

/-- A request in one of the phases before the entry has been written. -/
lemma not_savedBy_of_phase {id' : CogImageId} {p : ImagePhase}
    (hreq : s.requests task = some ⟨id', p⟩) (hp : ∀ text, ¬ p.Saves text) (text : String) :
    ¬ s.SavedBy id text task := by
  rintro ⟨-, phase, hreq', hsaves⟩
  rw [hreq, Option.some.injEq, ImageRequest.mk.injEq] at hreq'
  exact hp text (hreq'.2 ▸ hsaves)

/-- `compose_description` hands the description on. -/
lemma saves_afterCompose {around : Surroundings} {text : String} {cached : Bool}
    (h : text ≠ "") :
    (afterCompose id around (some (.str text, cached))).Saves text := by
  simp only [afterCompose, Composer.Composition.describedBy, nonEmpty, h, ne_eq, not_false_eq_true,
    decide_true, if_true]
  rfl

/-- The description of a row after an upsert is the one that was sent. -/
lemma description_upsert {row : Row} {old : Option Row} {text : String}
    (h : row.description = .str text) : (row.upsert old).description = .str text := by
  rcases old with _ | old
  · exact h
  · rcases hd : row.lookup "description" with _ | v
    · simp [Row.description, hd] at h
    · have hv : v = .str text := by simpa [Row.description, hd] using h
      simp [Row.description, Row.upsert, List.lookup_append, hd, hv]

/-- The write of an entry: the request that has written it still has to write the row. -/
lemma tracked_write {id' : CogImageId} {text : String} {now : ℚ} (hs : s.Tracked id)
    (hreq : s.requests task = some ⟨id', .writing text⟩) (hblank : text ≠ "") :
    ({ s with cache := (s.cache.set now id'.cacheKey [("description", .str text)] {} none).1 }.put
      task id' (.composing (some (.str text, false)))).Tracked id := by
  by_cases hid : id = id'
  · subst hid
    refine ⟨some text, CacheStore.lookup_set_self s.cache now _ _ _, .inr ⟨text, task, rfl, ?_⟩⟩
    exact ⟨hblank, _, Function.update_self .., false, rfl⟩
  · -- the entry of another image is untouched
    have hkey : id.cacheKey ≠ id'.cacheKey := fun h => hid (cacheKey_injective h)
    have hother : StoredDescriptions.Tracked { s with
        cache := (s.cache.set now id'.cacheKey [("description", .str text)] {} none).1 } id := by
      obtain ⟨u, hcache, hu⟩ := hs
      refine ⟨u, ?_, hu⟩
      show (s.cache.set now id'.cacheKey _ {} none).1.table.lookup id.cacheKey = _
      rw [CacheStore.lookup_set_of_ne hkey]
      exact hcache
    exact tracked_put_of_not_saves hother (not_savedBy_of_phase hreq fun _ h => h)

/-- The rows change, but not the one of the image. -/
lemma tracked_withRows {rows : Table String Row} (hs : s.Tracked id)
    (hrow : rows.lookup id.1 = s.rows.lookup id.1) :
    StoredDescriptions.Tracked { s with rows := rows } id := by
  obtain ⟨text, hcache, hstored | hsaver⟩ := hs
  · refine ⟨text, hcache, .inl ?_⟩
    show (rows.lookup id.1).map Row.description = _
    rw [hrow]
    exact hstored
  · exact ⟨text, hcache, .inr hsaver⟩

/-- The write of a row: it is the one that the entry asks for, or another request has to write
it. -/
lemma tracked_save {id' : CogImageId} {row : Row} (hs : s.Tracked id)
    (hC : s.KeepsTogether (.save task)) (hreq : s.requests task = some ⟨id', .saving row⟩) :
    ({ s with rows := s.rows.insert id'.1 (row.upsert (s.rows.lookup id'.1)) }.put
      task id' .finished).Tracked id := by
  by_cases hid : id = id'
  · subst hid
    have hrow : ∀ text, row.description = .str text → StoredDescriptions.Stores
        { s with rows := s.rows.insert id.1 (row.upsert (s.rows.lookup id.1)) } id (some text) := by
      intro text htext
      show ((s.rows.insert id.1 _).lookup id.1).map Row.description = _
      rw [AList.lookup_insert, Option.map_some, description_upsert htext]
      rfl
    rcases hC id row hreq with ⟨text, hcache, htext⟩ | ⟨text, other, hne, hcache, hsaves⟩
    · exact ⟨some text, hcache, .inl (hrow text htext)⟩
    · exact ⟨some text, hcache, .inr ⟨text, other, rfl, savedBy_put_of_ne hsaves hne⟩⟩
  · have hne : id.1 ≠ id'.1 := fun h => hid (Subtype.ext h)
    have hlookup : (s.rows.insert id'.1 (row.upsert (s.rows.lookup id'.1))).lookup id.1 =
        s.rows.lookup id.1 := AList.lookup_insert_ne hne
    have hother := tracked_withRows hs hlookup
    refine tracked_put_of_not_saves hother ?_
    rintro text ⟨-, phase, hreq', -⟩
    have hsame : some ⟨id', .saving row⟩ = some (⟨id, phase⟩ : ImageRequest) :=
      hreq.symm.trans hreq'
    rw [Option.some.injEq, ImageRequest.mk.injEq] at hsame
    exact hid hsame.1.symm

/-- The deletion of a row, while no entry asks for one or another request has to write it. -/
lemma tracked_erase {id' : CogImageId} (hs : s.Tracked id) (hC : s.KeepsTogether (.erase task))
    (hreq : s.requests task = some ⟨id', .deleting⟩) :
    ({ s with rows := s.rows.erase id'.1 }.put task id' .finished).Tracked id := by
  by_cases hid : id = id'
  · subst hid
    rcases hC id hreq with hnone | ⟨text, other, hne, hcache, hsaves⟩
    · refine ⟨none, hnone, .inl ?_⟩
      show ((s.rows.erase id.1).lookup id.1).map Row.description = _
      rw [AList.lookup_erase]
      rfl
    · exact ⟨some text, hcache, .inr ⟨text, other, rfl, savedBy_put_of_ne hsaves hne⟩⟩
  · have hne : id.1 ≠ id'.1 := fun h => hid (Subtype.ext h)
    have hlookup : (s.rows.erase id'.1).lookup id.1 = s.rows.lookup id.1 :=
      AList.lookup_erase_ne hne
    have hother := tracked_withRows hs hlookup
    exact tracked_put_of_not_saves hother (not_savedBy_of_phase hreq fun _ h => h)

lemma tracked_step (hs : s.Tracked id) (hC : s.KeepsTogether a) (h : step s a = some s') :
    s'.Tracked id := by
  cases moves_of_step h with
  | describe hnew | delete hnew =>
    refine tracked_put_of_not_saves hs ?_
    rintro text ⟨-, phase, hreq, -⟩
    rw [hnew] at hreq
    cases hreq
  | @read task now id' hreq =>
    have hcache : StoredDescriptions.Tracked
        { s with cache := (s.cache.get now id'.cacheKey {}).1 } id := by
      obtain ⟨text, hcache, hrest⟩ := hs
      exact ⟨text, lookup_get_description hcache, hrest⟩
    exact tracked_put_of_not_saves hcache (not_savedBy_of_phase hreq fun _ h => h)
  | answered hreq | unanswered hreq =>
    exact tracked_put_of_not_saves hs (not_savedBy_of_phase hreq fun _ h => h)
  | @write task now id' text hreq => exact tracked_write hs hreq (hC id' text hreq)
  | @composed task id' around result hreq =>
    refine tracked_put hs fun text _ hsaves => .inr (.inr ?_)
    obtain ⟨hblank, phase, hreq', hphase⟩ := hsaves
    rw [hreq, Option.some.injEq, ImageRequest.mk.injEq] at hreq'
    obtain ⟨rfl, rfl⟩ := hreq'
    obtain ⟨cached, rfl⟩ := hphase
    exact ⟨hblank, _, Function.update_self .., saves_afterCompose hblank⟩
  | save hreq => exact tracked_save hs hC hreq
  | erase hreq => exact tracked_erase hs hC hreq
  | cancel hreq =>
    refine tracked_put hs fun text hcache hsaves => ?_
    rcases hC id text hcache hsaves with hstored | hcovered
    · exact .inl hstored
    · exact .inr (.inl hcovered)

/-! ### Whole runs -/

/-- Nobody has anything left to write: the row is the one that the entry asks for. -/
lemma agree_of_tracked (hs : s.Tracked id) (hidle : s.Idle id) : s.Agree id := by
  obtain ⟨text, hcache, hstored | ⟨t, task, rfl, -, phase, hreq, hsaves⟩⟩ := hs
  · exact ⟨text, hcache, hstored⟩
  · rw [hidle task phase hreq] at hsaves
    exact hsaves.elim

/-- **The entry and the row of an image agree whenever no request of the image is in
progress**, in every run of describe and delete requests whose steps meet the condition. -/
theorem agree_of_run {cache : CacheStore} {rows : Table String Row} {as : List ImageAction}
    (hagree : (initial cache rows).Agree id) (hrun : Run step KeepsTogether (initial cache rows) as s)
    (hidle : s.Idle id) : s.Agree id := by
  have hstart : (initial cache rows).Tracked id := by
    obtain ⟨text, hcache, hstored⟩ := hagree
    exact ⟨text, hcache, .inl hstored⟩
  have hs : s.Tracked id :=
    hrun.invariant (I := fun s => s.Tracked id) (fun _ _ _ hs hC h => tracked_step hs hC h) hstart
  exact agree_of_tracked hs hidle

/-! ### A description that is deleted -/

/-- A describe request whose description is not cached. -/
def firstDescribe (id : CogImageId) : List ImageAction :=
  [.describe 0 id, .read 0 0, .answered 0 (.ok "A harbour."), .write 0 1,
    .composed 0 ⟨(127, 37), none, none, none, none⟩, .save 0]

/-- On its own, it leaves the description in both places. -/
lemma run_firstDescribe (id : CogImageId) :
    ∃ s, Run step KeepsTogether (initial .init ∅) (firstDescribe id) s ∧
      s.Caches id (some "A harbour.") ∧
      s.requests = Function.update (fun _ => none) 0 (some ⟨id, .finished⟩) := by
  let s₁ := (initial .init ∅).put 0 id .reading
  let s₂ := { s₁ with cache := (CacheStore.init.get 0 id.cacheKey {}).1 }.put 0 id .asking
  let s₃ := s₂.put 0 id (.writing "A harbour.")
  let s₄ := { s₃ with cache := (s₃.cache.set 1 id.cacheKey
    [("description", .str "A harbour.")] {} none).1 }.put 0 id
      (.composing (some (.str "A harbour.", false)))
  let row := saveRow id.1 (127, 37) none none none (some "A harbour.") none
  let s₅ := s₄.put 0 id (.saving row)
  let s₆ := { s₅ with rows := s₅.rows.insert id.1 (row.upsert (s₅.rows.lookup id.1)) }.put 0 id
    .finished
  have h₁ : step (initial .init ∅) (.describe 0 id) = some s₁ := rfl
  have h₂ : step s₁ (.read 0 0) = some s₂ := rfl
  have h₃ : step s₂ (.answered 0 (.ok "A harbour.")) = some s₃ := rfl
  have h₄ : step s₃ (.write 0 1) = some s₄ := rfl
  have h₅ : step s₄ (.composed 0 ⟨(127, 37), none, none, none, none⟩) = some s₅ := rfl
  have h₆ : step s₅ (.save 0) = some s₆ := rfl
  have hcached : s₅.Caches id (some "A harbour.") := CacheStore.lookup_set_self ..
  have hwrites : s₃.KeepsTogether (.write 0 1) := by
    intro id' text hreq
    have hphase : (⟨id, .writing "A harbour."⟩ : ImageRequest) = ⟨id', .writing text⟩ :=
      Option.some.inj hreq
    cases hphase
    decide
  have hsaves : s₅.KeepsTogether (.save 0) := by
    intro id' row' hreq
    have hphase : (⟨id, .saving row⟩ : ImageRequest) = ⟨id', .saving row'⟩ := Option.some.inj hreq
    cases hphase
    exact .inl ⟨_, hcached, rfl⟩
  refine ⟨s₆, .cons trivial h₁ (.cons trivial h₂ (.cons trivial h₃ (.cons hwrites h₄
    (.cons trivial h₅ (.cons hsaves h₆ (.nil _)))))), hcached, ?_⟩
  funext task
  by_cases htask : task = 0
  · subst htask
    rfl
  · simp [s₆, s₅, s₄, s₃, s₂, s₁, put, initial, Function.update_of_ne htask]

/-- A delete request after it. -/
def deleteAfter (id : CogImageId) : List ImageAction := [.delete 1 id, .erase 1]

/-- Two stores with nothing in them agree. -/
lemma agree_initial (id : CogImageId) : (initial .init ∅).Agree id := ⟨none, rfl, rfl⟩

theorem describe_leaves_agreement :
    ∃ s, Run step KeepsTogether (initial .init ∅) (firstDescribe ⟨"img-1", by decide⟩) s ∧
      s.Agree ⟨"img-1", by decide⟩ := by
  obtain ⟨s, hrun, -, hreqs⟩ := run_firstDescribe ⟨"img-1", by decide⟩
  refine ⟨s, hrun, agree_of_run (agree_initial _) hrun fun task phase hreq => ?_⟩
  rw [hreqs] at hreq
  by_cases htask : task = 0
  · subst htask
    simpa using hreq.symm
  · simp [Function.update_of_ne htask] at hreq

/-- The deleted description is still cached. -/
theorem delete_leaves_entry :
    ∃ s, Run step (fun _ _ => True) (initial .init ∅)
        (firstDescribe ⟨"img-1", by decide⟩ ++ deleteAfter ⟨"img-1", by decide⟩) s ∧
      s.Idle ⟨"img-1", by decide⟩ ∧ ¬ s.Agree ⟨"img-1", by decide⟩ := by
  let id : CogImageId := ⟨"img-1", by decide⟩
  obtain ⟨s, hrun, hcached, hreqs⟩ := run_firstDescribe id
  have hnew : s.requests 1 = none := by rw [hreqs]; rfl
  have hdelete : step s (.delete 1 id) = some (s.put 1 id .deleting) := by
    simp only [step, hnew]
  have herase : step (s.put 1 id .deleting) (.erase 1) = some
      ({ s.put 1 id .deleting with rows := s.rows.erase id.1 }.put 1 id .finished) := by
    simp [step, put]
  have hrest := hrun.mono (D := fun _ _ => True) fun _ _ _ => trivial
  refine ⟨_, hrest.append (.cons trivial hdelete (.cons trivial herase (.nil _))), ?_, ?_⟩
  · intro task phase hreq
    by_cases htask : task = 1
    · subst htask
      have hsame : id = ⟨"img-1", by decide⟩ ∧ .finished = phase := by simpa [put] using hreq
      exact hsame.2.symm
    · by_cases hzero : task = 0
      · subst hzero
        have hsame : id = ⟨"img-1", by decide⟩ ∧ .finished = phase := by
          simpa [put, hreqs] using hreq
        exact hsame.2.symm
      · simp [put, hreqs, Function.update_of_ne htask, Function.update_of_ne hzero] at hreq
  · rintro ⟨text, hcache, hstored⟩
    have hnone : (s.rows.erase id.1).lookup id.1 = none := AList.lookup_erase _ _
    have htext : text = none := by
      have hmap : ((s.rows.erase id.1).lookup id.1).map Row.description = text.map Json.str := hstored
      rw [hnone] at hmap
      exact Option.map_eq_none_iff.mp hmap.symm
    have hentry : s.cache.table.lookup id.cacheKey = text.map descriptionEntry := hcache
    rw [hcached, htext] at hentry
    cases hentry

end StoredDescriptions

end ImageDescriptor
