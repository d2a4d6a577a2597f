/-
# Upstream calls that yield nothing

An upstream call that fails, is answered with something that is no JSON, or brings a text
without a letter should leave no entry in the cache, so that the next call with the same
arguments asks the upstream again.  Two branches of the modules do not leave before their
`cache.set`: the `except` clause of `research_context`, after which a context without events
is stored for a week, and the description that is empty once it has been stripped, which
`describe_image` stores for good.
-/
import ImageDescriptor.Services.BreakerAccounting

namespace ImageDescriptor

/-- The store after a call that has passed `entry` to `cache.set`, or nothing. -/
def CacheStore.afterWrite (s : CacheStore) (now : ℚ) : Option CacheEntry → CacheStore
  | none => s
  | some entry => (s.set now entry.key entry.value entry.ttl none).1

/-- A `get` that found nothing to serve finds nothing later either, when its key has got no
row meanwhile. -/
lemma CacheStore.get_falsy_later {s s' : CacheStore} {t t' : ℚ} {key : String} {v : Json}
    (hle : t ≤ t') (hget : (s.get t key {}).2 = .ok v) (hv : v.truthy = false)
    (hrows : ∀ row, s'.table.lookup key = some row →
      (s.get t key {}).1.table.lookup key = some row) :
    ∃ v', (s'.get t' key {}).2 = .ok v' ∧ v'.truthy = false := by
  rcases hrow' : s'.table.lookup key with _ | row
  · exact ⟨.null, by simp [get, hrow'], rfl⟩
  · have hrow : s.table.lookup key = some row := lookup_get_subset (hrows row hrow')
    by_cases hexp : expired t' row = true
    · exact ⟨.null, by simp [get, hrow', hexp], rfl⟩
    · -- the row is the one that was read
      have hlive : expired t row = false := by
        by_contra hexp'
        have hpast : expired t row = true := by simpa using hexp'
        refine hexp ?_
        rcases hat : row.expiresAt with _ | u
        · simp [expired, hat] at hpast
        · simp only [expired, hat, Bool.and_eq_true, decide_eq_true_eq] at hpast ⊢
          exact ⟨hpast.1, hpast.2.trans_le hle⟩
      rcases hval : row.value with w | e
      · have hw : w = v := by simpa [get, hrow, hlive, hval, CellText.loads] using hget
        exact ⟨w, by simp [get, hrow', hexp, hval, CellText.loads], hw ▸ hv⟩
      · -- the first `get` has returned, so that the exception is the one that is caught
        cases he : e.isinstance .jsonDecodeError with
        | true => exact ⟨.null, by simp [get, hrow', hexp, hval, CellText.loads, he], rfl⟩
        | false => simp [get, hrow, hlive, hval, CellText.loads, he] at hget

namespace Composer

namespace Composition

variable (rt : Runtime) (cfg : Settings) (c : Composition)

/-- The key under which the coroutine of a service reads the cache, if it does. -/
def cacheKey : Service → Option String
  | .geocoder => some (Geocoder.cacheKey c.request.coordinates.1 c.request.coordinates.2)
  | .landcover => some (Landcover.cacheKey c.request.coordinates.1 c.request.coordinates.2)
  | .mission =>
    if nonEmpty c.request.stacId then some (MissionModule.cacheKey (c.request.stacId.getD ""))
    else none
  | .describer =>
    if nonEmpty c.request.cogImageId then
      some (Describer.cacheKey (c.request.cogImageId.getD ""))
    else none
  | .context => some (ContextModule.cacheKey
      (ContextModule.searchName (c.placeName rt) ((c.location.map Location.region).getD "")
        (c.location.bind Location.city))
      (ContextModule.month c.request.capturedAt))

/-- The read of the cache by the coroutine of a service is answered by a store. -/
def ReadFrom (s : CacheStore) (t : ℚ) (svc : Service) (cached : Except Exc Json) : Prop :=
  ∀ key, c.cacheKey rt svc = some key → cached = (s.get t key {}).2

/-- The store after the coroutine of a service has read from `s` at `t` and written at `t'`
what it writes. -/
def storeAfter (s : CacheStore) (t t' : ℚ) (svc : Service) (answers : Answers) : CacheStore :=
  let read := match c.cacheKey rt svc with
    | some key => (s.get t key {}).1
    | none => s
  read.afterWrite t' (c.runService rt cfg svc answers).entry

/-- The bytes of the thumbnail have been got and shrunk to `image`. -/
def Shrunk (answers : Answers) (image : Bytes) : Prop :=
  ∃ bytes, (Describer.thumbnailBytes c.request.thumbnail answers.describer).2 = .ok bytes ∧
    answers.describer.resizeForGemini bytes = .ok image

/-- Gemini has answered with a text of which `strip` leaves nothing. -/
def BlankText (answers : Answers) : Prop :=
  ∃ image, c.Shrunk answers image ∧
    Describer.callGemini (answers.describer.generateContent (c.prompt rt) image) = .ok ""

/-- The upstream calls of a service have yielded nothing: a request has failed after its
retries, the body of a response is no JSON, or Gemini's text is blank. -/
def Unusable (svc : Service) (answers : Answers) : Prop :=
  match svc with
  | .describer =>
    (Describer.thumbnailBytes c.request.thumbnail answers.describer).1 = .failed ∨
      (∃ image e, c.Shrunk answers image ∧
        Describer.callGemini (answers.describer.generateContent (c.prompt rt) image) = .error e) ∨
      c.BlankText rt answers
  | _ => ∃ e, answers.fetched = .error e ∨ answers.fetched = .ok (.error e)

/-- The call writes no entry, and the next call with the same arguments asks the upstream
again, whatever rows have gone from the cache in between. -/
structure LeavesNoEntry (svc : Service) (answers : Answers) : Prop where
  noEntry : (c.runService rt cfg svc answers).entry = none
  asksAgain : ∀ (s s' : CacheStore) (t t₁ t' : ℚ) (next : Answers), t ≤ t₁ → t₁ ≤ t' →
    c.ReadFrom rt s t svc answers.cached → c.ReadFrom rt s' t' svc next.cached →
    (∀ key row, s'.table.lookup key = some row →
      (c.storeAfter rt cfg s t t₁ svc answers).table.lookup key = some row) →
    next.describer.validateThumbnailUrl = answers.describer.validateThumbnailUrl →
    next.describer.resizeForGemini = answers.describer.resizeForGemini →
    (c.runService rt cfg svc next).upstream ≠ .notContacted

/-- The error is one that `research_context` catches around its fetch. -/
def SwallowsError (svc : Service) (answers : Answers) : Prop :=
  svc = .context ∧ ∃ e, (answers.fetched = .error e ∨ answers.fetched = .ok (.error e)) ∧
    ContextModule.swallows e = true

/-- A blank text arrives for an image that has an id. -/
def StoresBlank (svc : Service) (answers : Answers) : Prop :=
  svc = .describer ∧ nonEmpty c.request.cogImageId = true ∧ c.BlankText rt answers

variable {rt cfg c}

/-! ### Which calls contact their upstream -/

/-- A call of a module is made when the cache has nothing to serve. -/
lemma runModule_contacted_iff {α : Type} {build : Fields → Except Exc α}
    {afterFetch : Fetched → Rest α} {cached : Except Exc Json} {fetched : Fetched}
    {written : Except Exc Unit} :
    (runModule (fromCache build) afterFetch cached fetched written).upstream ≠ .notContacted ↔
      ∃ v, cached = .ok v ∧ v.truthy = false := by
  rcases cached with e | v
  · simp [runModule]
  · by_cases hv : v.truthy = true
    · simp [runModule, fromCache, hv]
    · rcases fetched with e | body <;> simp [runModule, fromCache, hv, upstreamOf]

/-- What such a call writes is what is left of it after the fetch. -/
lemma runModule_entry {α : Type} {build : Fields → Except Exc α} {afterFetch : Fetched → Rest α}
    {cached : Except Exc Json} {fetched : Fetched} {written : Except Exc Unit}
    (h : (runModule (fromCache build) afterFetch cached fetched written).upstream ≠
      .notContacted) :
    (runModule (fromCache build) afterFetch cached fetched written).entry =
      (afterFetch fetched).entry := by
  obtain ⟨v, rfl, hv⟩ := runModule_contacted_iff.mp h
  simp [runModule, fromCache, hv]

lemma afterCache_contacted_iff (prompt : Describer.Prompt) (id : Option String)
    (answers : Answers) (written : Except Exc Unit) :
    (Describer.afterCache c.request.thumbnail prompt id answers.describer written).upstream ≠
        .notContacted ↔
      (Describer.thumbnailBytes c.request.thumbnail answers.describer).1 ≠ .notContacted ∨
        ∃ image, c.Shrunk answers image := by
  rcases hbytes : Describer.thumbnailBytes c.request.thumbnail answers.describer with
    ⟨upstream, e | bytes⟩
  · simp [Describer.afterCache, hbytes, Shrunk]
  · rcases hresize : answers.describer.resizeForGemini bytes with e | image
    · simp [Describer.afterCache, hbytes, hresize, Shrunk]
    · have hshrunk : ∃ image, c.Shrunk answers image := ⟨image, bytes, by rw [hbytes], hresize⟩
      simp only [Describer.afterCache, hbytes, hresize, hshrunk, or_true, iff_true]
      split <;> simp

/-- The description is asked for when there is nothing in the cache and the thumbnail can be
got. -/
lemma describer_contacted_iff {answers : Answers} :
    (c.runService rt cfg .describer answers).upstream ≠ .notContacted ↔
      (c.cacheKey rt .describer = none ∨ ∃ v, answers.cached = .ok v ∧ v.truthy = false) ∧
        ((Describer.thumbnailBytes c.request.thumbnail answers.describer).1 ≠ .notContacted ∨
          ∃ image, c.Shrunk answers image) := by
  rw [← afterCache_contacted_iff (c.prompt rt) c.request.cogImageId answers answers.written]
  by_cases hid : nonEmpty c.request.cogImageId = true
  · rcases hcached : answers.cached with e | v
    · simp [runService, Describer.describeImage, cacheKey, hid, hcached]
    · by_cases hv : v.truthy = true <;>
        simp [runService, Describer.describeImage, cacheKey, hid, hcached, hv]
  · simp [runService, Describer.describeImage, cacheKey, hid]

/-- A mission call for an id is a call of the common form. -/
lemma runService_mission {answers : Answers} (hid : nonEmpty c.request.stacId = true) :
    c.runService rt cfg .mission answers =
      runModule (fromCache fun fields => (Mission.ofFields rt.lax fields).map some)
        (MissionModule.afterFetch rt.lax (c.request.stacId.getD "")) answers.cached
        answers.fetched answers.written := by
  simp only [runService, MissionModule.getMissionMetadata, hid, if_true]
  rfl

lemma lookup_contacted_iff {svc : Service} (hsvc : svc ≠ .describer) {answers : Answers} :
    (c.runService rt cfg svc answers).upstream ≠ .notContacted ↔
      c.cacheKey rt svc ≠ none ∧ ∃ v, answers.cached = .ok v ∧ v.truthy = false := by
  cases svc with
  | describer => exact absurd rfl hsvc
  | mission =>
    by_cases hid : nonEmpty c.request.stacId = true
    · rw [runService_mission hid]
      refine ⟨fun h => ⟨by simp [cacheKey, hid], runModule_contacted_iff.mp h⟩, fun h => ?_⟩
      exact runModule_contacted_iff.mpr h.2
    · simp [runService, MissionModule.getMissionMetadata, cacheKey, hid]
  | geocoder | landcover | context =>
    refine ⟨fun h => ⟨by simp [cacheKey], runModule_contacted_iff.mp h⟩, fun h => ?_⟩
    exact runModule_contacted_iff.mpr h.2

/-- Getting the bytes again ends as before when the host of the URL passes the check as
before, or it goes as far as the download. -/
lemma thumbnail_again (thumbnail : String) {first next : Describer.Answers}
    (hvalidate : next.validateThumbnailUrl = first.validateThumbnailUrl) :
    Describer.thumbnailBytes thumbnail next = Describer.thumbnailBytes thumbnail first ∨
      (Describer.thumbnailBytes thumbnail next).1 ≠ .notContacted := by
  unfold Describer.thumbnailBytes
  split
  · exact .inl rfl
  · split
    · rw [hvalidate]
      rcases first.validateThumbnailUrl with e | u
      · exact .inl rfl
      · right
        rcases next.downloadImage with e | bytes <;> simp [upstreamOf]
    · exact .inl rfl

/-! ### No entry, no answer from the cache -/

variable {svc : Service} {answers : Answers}

/-- A call that found nothing in the cache and writes nothing is made again. -/
lemma asksAgain_of_noEntry (hcontact : (c.runService rt cfg svc answers).upstream ≠ .notContacted)
    (hentry : (c.runService rt cfg svc answers).entry = none) :
    c.LeavesNoEntry rt cfg svc answers where
  noEntry := hentry
  asksAgain := by
    intro s s' t t₁ t' next hle₁ hle' hread hread' hrows hvalidate hresize
    -- what was not in the cache is not there at the next call
    have hnothing : ∀ {v : Json}, c.cacheKey rt svc ≠ none → answers.cached = .ok v →
        v.truthy = false → ∃ v', next.cached = .ok v' ∧ v'.truthy = false := by
      intro v hkey hv hfalsy
      obtain ⟨key, hkey⟩ := Option.ne_none_iff_exists'.mp hkey
      have hget : (s.get t key {}).2 = .ok v := by rw [← hread key hkey, hv]
      have hsub : ∀ row, s'.table.lookup key = some row →
          (s.get t key {}).1.table.lookup key = some row := by
        intro row hrow
        have hafter := hrows key row hrow
        simpa [storeAfter, hkey, hentry, CacheStore.afterWrite] using hafter
      rw [hread' key hkey]
      exact CacheStore.get_falsy_later (hle₁.trans hle') hget hfalsy hsub
    by_cases hsvc : svc = .describer
    · subst hsvc
      obtain ⟨hcache, hthumb⟩ := describer_contacted_iff.mp hcontact
      refine describer_contacted_iff.mpr ⟨?_, ?_⟩
      · by_cases hkey : c.cacheKey rt .describer = none
        · exact .inl hkey
        · right
          rcases hcache with hnone | ⟨v, hv, hfalsy⟩
          · exact absurd hnone hkey
          · exact hnothing hkey hv hfalsy
      · rcases thumbnail_again c.request.thumbnail hvalidate with hsame | hdownload
        · rcases hthumb with hold | ⟨image, bytes, hbytes, himage⟩
          · exact .inl (hsame ▸ hold)
          · exact .inr ⟨image, bytes, by rw [hsame, hbytes], by rw [hresize, himage]⟩
        · exact .inl hdownload
    · obtain ⟨hkey, v, hv, hfalsy⟩ := (lookup_contacted_iff hsvc).mp hcontact
      exact (lookup_contacted_iff hsvc).mpr ⟨hkey, hnothing hkey hv hfalsy⟩

/-- What a description call writes. -/
lemma afterCache_entry {prompt : Describer.Prompt} {id : Option String}
    {written : Except Exc Unit} :
    (Describer.afterCache c.request.thumbnail prompt id answers.describer written).entry ≠ none ↔
      nonEmpty id = true ∧ ∃ image text, c.Shrunk answers image ∧
        Describer.callGemini (answers.describer.generateContent prompt image) = .ok text := by
  rcases hbytes : Describer.thumbnailBytes c.request.thumbnail answers.describer with
    ⟨upstream, e | bytes⟩
  · simp [Describer.afterCache, hbytes, Shrunk]
  · rcases hresize : answers.describer.resizeForGemini bytes with e | image
    · simp [Describer.afterCache, hbytes, hresize, Shrunk]
    · rcases hgemini : Describer.callGemini (answers.describer.generateContent prompt image) with
        e | text
      · simp [Describer.afterCache, hbytes, hresize, hgemini, Shrunk]
      · simp [Describer.afterCache, hbytes, hresize, hgemini, Shrunk]

lemma Shrunk.unique {image image' : Bytes} (h : c.Shrunk answers image)
    (h' : c.Shrunk answers image') : image = image' := by
  obtain ⟨bytes, hbytes, himage⟩ := h
  obtain ⟨bytes', hbytes', himage'⟩ := h'
  obtain rfl : bytes = bytes' := Except.ok.inj (hbytes.symm.trans hbytes')
  exact Except.ok.inj (himage.symm.trans himage')

/-- A download that has failed has brought no image. -/
lemma not_shrunk_of_failed {image : Bytes}
    (h : (Describer.thumbnailBytes c.request.thumbnail answers.describer).1 = .failed) :
    ¬ c.Shrunk answers image := by
  rintro ⟨bytes, hbytes, -⟩
  unfold Describer.thumbnailBytes at h hbytes
  split at h
  · split at h <;> cases h
  · rename_i hdata
    rw [if_neg hdata] at hbytes
    split at h
    · split at h
      · cases h
      · rename_i hvalidate
        rcases hdownload : answers.describer.downloadImage with e | b
        · simp_all
        · simp [hdownload, upstreamOf] at h
    · cases h

/-- A description call that contacts its upstream goes on after the cache. -/
lemma runService_describer
    (hcontact : (c.runService rt cfg .describer answers).upstream ≠ .notContacted) :
    c.runService rt cfg .describer answers =
      Describer.afterCache c.request.thumbnail (c.prompt rt) c.request.cogImageId
        answers.describer answers.written := by
  obtain ⟨hcache, -⟩ := describer_contacted_iff.mp hcontact
  by_cases hid : nonEmpty c.request.cogImageId = true
  · rcases hcache with hnone | ⟨v, hv, hfalsy⟩
    · simp [cacheKey, hid] at hnone
    · simp only [runService, Describer.describeImage, hid, if_true, hv, hfalsy,
        Bool.false_eq_true, if_false]
      rfl
  · simp only [runService, Describer.describeImage, hid]
    rfl

lemma describer_entry_iff
    (hcontact : (c.runService rt cfg .describer answers).upstream ≠ .notContacted)
    (hun : c.Unusable rt .describer answers) :
    (c.runService rt cfg .describer answers).entry ≠ none ↔
      nonEmpty c.request.cogImageId = true ∧ c.BlankText rt answers := by
  rw [runService_describer hcontact, afterCache_entry]
  refine and_congr_right fun _ => ⟨?_, ?_⟩
  · rintro ⟨image, text, hshrunk, htext⟩
    rcases hun with hfailed | ⟨image', e, hshrunk', herror⟩ | hblank
    · exact absurd hshrunk (not_shrunk_of_failed hfailed)
    · obtain rfl : image = image' := hshrunk.unique hshrunk'
      rw [htext] at herror
      cases herror
    · exact hblank
  · rintro ⟨image, hshrunk, hblank⟩
    exact ⟨image, "", hshrunk, hblank⟩

/-- After a fetch that has failed, or brought no JSON, `research_context` writes an entry when
it catches the error; an exception of another class leaves it. -/
lemma context_entry_of_failed (searchName month : String) {fetched : Fetched}
    {e : Exc} (h : fetched = .error e ∨ fetched = .ok (.error e)) :
    (ContextModule.afterFetch searchName month fetched).entry ≠ none ↔
      ContextModule.swallows e = true := by
  by_cases hcatch : ContextModule.swallows e = true
  · rcases h with rfl | rfl <;> simp [ContextModule.afterFetch, ContextModule.collect, hcatch]
  · rcases h with rfl | rfl <;> simp [ContextModule.afterFetch, ContextModule.collect, hcatch]

/-- A fetch that has failed, or brought no JSON, is written down by `research_context`
alone, and only when it catches the error. -/
lemma lookup_entry_iff (hsvc : svc ≠ .describer)
    (hcontact : (c.runService rt cfg svc answers).upstream ≠ .notContacted)
    (hun : c.Unusable rt svc answers) :
    (c.runService rt cfg svc answers).entry ≠ none ↔ SwallowsError svc answers := by
  obtain ⟨e, hfetched⟩ : ∃ e, answers.fetched = .error e ∨ answers.fetched = .ok (.error e) := by
    cases svc with
    | describer => exact absurd rfl hsvc
    | geocoder | landcover | mission | context => exact hun
  cases svc with
  | describer => exact absurd rfl hsvc
  | geocoder =>
    have hentry : (c.runService rt cfg .geocoder answers).entry = _ := runModule_entry hcontact
    rw [hentry]
    rcases hfetched with h | h <;> simp [h, Geocoder.afterFetch, SwallowsError]
  | landcover =>
    have hentry : (c.runService rt cfg .landcover answers).entry = _ := runModule_entry hcontact
    rw [hentry]
    rcases hfetched with h | h <;> simp [h, Landcover.afterFetch, SwallowsError]
  | mission =>
    have hid : nonEmpty c.request.stacId = true := by
      by_contra hid
      exact ((lookup_contacted_iff hsvc).mp hcontact).1 (by simp [cacheKey, hid])
    have hentry : (c.runService rt cfg .mission answers).entry =
        (MissionModule.afterFetch rt.lax (c.request.stacId.getD "") answers.fetched).entry := by
      rw [runService_mission hid] at hcontact ⊢
      exact runModule_entry hcontact
    rw [hentry]
    rcases hfetched with h | h <;> simp [h, MissionModule.afterFetch, SwallowsError]
  | context =>
    have hentry : (c.runService rt cfg .context answers).entry = _ := runModule_entry hcontact
    rw [hentry, context_entry_of_failed _ _ hfetched]
    constructor
    · intro hcatch
      exact ⟨rfl, e, hfetched, hcatch⟩
    · rintro ⟨-, e', hfetched', hcatch⟩
      obtain rfl : e = e' := by
        rcases hfetched with h | h <;> rcases hfetched' with h' | h' <;> simp_all
      exact hcatch

/-- **An upstream call that yields nothing leaves no entry** exactly when its error is not
caught by `research_context` and no blank text arrives for an image with an id. -/
theorem leavesNoEntry_iff
    (hcontact : (c.runService rt cfg svc answers).upstream ≠ .notContacted)
    (hun : c.Unusable rt svc answers) :
    c.LeavesNoEntry rt cfg svc answers ↔
      ¬ SwallowsError svc answers ∧ ¬ c.StoresBlank rt svc answers := by
  have hentry : (c.runService rt cfg svc answers).entry = none ↔
      ¬ SwallowsError svc answers ∧ ¬ c.StoresBlank rt svc answers := by
    by_cases hsvc : svc = .describer
    · subst hsvc
      have hblank := describer_entry_iff hcontact hun
      have hstores : c.StoresBlank rt .describer answers ↔
          nonEmpty c.request.cogImageId = true ∧ c.BlankText rt answers :=
        ⟨fun h => h.2, fun h => ⟨rfl, h⟩⟩
      have hswallows : ¬ SwallowsError .describer answers := fun h => by cases h.1
      rw [hstores, ← hblank, not_not]
      exact ⟨fun h => ⟨hswallows, h⟩, fun h => h.2⟩
    · have hstores : ¬ c.StoresBlank rt svc answers := fun h => hsvc h.1
      rw [← lookup_entry_iff hsvc hcontact hun, not_not]
      exact ⟨fun h => ⟨h, hstores⟩, fun h => h.1⟩
  rw [← hentry]
  exact ⟨fun h => h.noEntry, fun h => asksAgain_of_noEntry hcontact h⟩

/-! ### A minute without DuckDuckGo -/

/-- A request whose place is known. -/
def inSeoul : Composition := .start (Process.sceneRequest none) 0 true

theorem serverError_leaves_no_entry :
    inSeoul.LeavesNoEntry Process.plainRuntime .default .geocoder Process.serverError := by
  have hcontact : (inSeoul.runService Process.plainRuntime .default .geocoder
      Process.serverError).upstream ≠ .notContacted := by decide +kernel
  have hun : inSeoul.Unusable Process.plainRuntime .geocoder Process.serverError := ⟨_, .inl rfl⟩
  refine (leavesNoEntry_iff hcontact hun).mpr ⟨?_, ?_⟩
  · rintro ⟨hsvc, -⟩
    cases hsvc
  · rintro ⟨hsvc, -⟩
    cases hsvc

theorem serverError_is_stored_as_context :
    (inSeoul.runService Process.plainRuntime .default .context Process.serverError).upstream ≠
        .notContacted ∧
      inSeoul.Unusable Process.plainRuntime .context Process.serverError ∧
      ¬ inSeoul.LeavesNoEntry Process.plainRuntime .default .context Process.serverError := by
  refine ⟨by decide +kernel, ⟨_, .inl rfl⟩, fun h => ?_⟩
  have hentry := h.noEntry
  simp [runService, ContextModule.researchContext, runModule, Process.serverError,
    ContextModule.afterFetch, ContextModule.collect, ContextModule.swallows, Exc.isinstance,
    ExcClass.mro] at hentry

end Composition

end Composer

end ImageDescriptor
