/-
# A description that is asked for again

When a composition has got all its parts, each of its calls has been served from the cache or
has written there what it returned.  As long as these rows live, the next composition of the
same request asks no service, and its response is the first one with `cached` set.  So from
the second response on the text of the response and its `ETag` stay the same, and a client
that sends the tag back is answered without a body.
-/
import ImageDescriptor.Api.Etags
import ImageDescriptor.Services.UnusableAnswers

namespace ImageDescriptor

/-- `v` is what a call leaves under its key: the value from which it was served, or the one
that it wrote. -/
def ModuleRun.Leaves {α : Type} (run : ModuleRun α) (cached : Except Exc Json) (v : Json) : Prop :=
  (run.entry = none ∧ cached = .ok v) ∨ ∃ entry, run.entry = some entry ∧ v = .obj entry.value

/-- A call has been served from the cache or has written an entry. -/
def ModuleRun.Remembered {α : Type} (run : ModuleRun α) : Prop :=
  run.upstream = .notContacted ∨ run.entry ≠ none

/-! ### One call -/

/-- A module whose entries bring back what was returned returns it again, without a fetch. -/
lemma runModule_again {α : Type} {build : Fields → Except Exc α} {afterFetch : Fetched → Rest α}
    {cached : Except Exc Json} {fetched : Fetched} {written : Except Exc Unit} {x : α}
    (hround : ∀ entry, (afterFetch fetched).entry = some entry →
      entry.value ≠ [] ∧ build entry.value = (afterFetch fetched).result)
    (hx : (runModule (fromCache build) afterFetch cached fetched written).result = .ok x)
    (hremembered : (runModule (fromCache build) afterFetch cached fetched written).Remembered) :
    ∃ v, v.truthy = true ∧
      (runModule (fromCache build) afterFetch cached fetched written).Leaves cached v ∧
      ∀ cached' fetched' written', cached' = .ok v →
        runModule (fromCache build) afterFetch cached' fetched' written' =
          ⟨.notContacted, none, .ok x⟩ := by
  rcases cached with e | v
  · cases hx
  · by_cases hv : v.truthy = true
    · have hrun : ∀ fetched' written', runModule (fromCache build) afterFetch (.ok v) fetched'
          written' = ⟨.notContacted, none, buildFrom build v⟩ := by
        intro fetched' written'
        simp [runModule, fromCache, hv]
      rw [hrun] at hx ⊢
      have hbuilt : buildFrom build v = .ok x := hx
      refine ⟨v, hv, .inl ⟨rfl, rfl⟩, fun cached' fetched' written' hcached => ?_⟩
      rw [hcached, hrun, hbuilt]
    · have hrun : runModule (fromCache build) afterFetch (.ok v) fetched written =
          ⟨upstreamOf fetched, (afterFetch fetched).entry, (afterFetch fetched).after written⟩ := by
        simp [runModule, fromCache, hv]
      rw [hrun] at hx hremembered ⊢
      -- the fetch was made, so that an entry was written
      have hcontacted : upstreamOf fetched ≠ .notContacted := by
        rcases fetched with e | body <;> simp [upstreamOf]
      rcases hentry : (afterFetch fetched).entry with _ | entry
      · exact absurd hentry (hremembered.resolve_left hcontacted)
      · obtain ⟨hne, hbuild⟩ := hround entry hentry
        have hresult : (afterFetch fetched).result = .ok x := by
          rcases written with e | ⟨⟩
          · simp [Rest.after, hentry] at hx
          · simpa [Rest.after, hentry] using hx
        refine ⟨.obj entry.value, ?_, .inr ⟨entry, rfl, rfl⟩, ?_⟩
        · cases hfields : entry.value with
          | nil => exact absurd hfields hne
          | cons field fields => rfl
        · rintro cached' fetched' written' rfl
          simp [runModule, fromCache_obj build hne, hbuild, hresult]

/-- What a module writes is what it has made of its fetch. -/
lemma afterFetch_entry_of_runModule {α : Type} {fromCache : Json → Option (Except Exc α)}
    {afterFetch : Fetched → Rest α} {cached : Except Exc Json} {fetched : Fetched}
    {written : Except Exc Unit} {entry : CacheEntry}
    (h : (runModule fromCache afterFetch cached fetched written).entry = some entry) :
    (afterFetch fetched).entry = some entry := by
  unfold runModule at h
  split at h
  · cases h
  · split at h
    · cases h
    · exact h

/-- The next read finds what a call has left, while the row lives. -/
lemma CacheStore.get_of_leaves {α : Type} {run : ModuleRun α} {s s' : CacheStore} {t t₁ t' : ℚ}
    {key : String} {v : Json} (hleaves : run.Leaves (s.get t key {}).2 v) (hv : v.truthy = true)
    (hkey : ∀ entry, run.entry = some entry → entry.key = key)
    (hkept : ∀ row, ((s.get t key {}).1.afterWrite t₁ run.entry).table.lookup key = some row →
      s'.table.lookup key = some row ∧ Live t' row) :
    (s'.get t' key {}).2 = .ok v := by
  rcases hleaves with ⟨hnone, hget⟩ | ⟨entry, hentry, rfl⟩
  · obtain ⟨row, hrow, hexp, hval⟩ := get_ok hget (by rintro rfl; cases hv)
    have hafter : (s.get t key {}).1.table.lookup key = some row := by
      rcases get_table s t key {} with hsame | ⟨⟨row', hrow', hexp'⟩, -⟩
      · rw [hsame, hrow]
      · rw [hrow, Option.some.injEq] at hrow'
        rw [← hrow', hexp] at hexp'
        cases hexp'
    obtain ⟨hrow', hlive⟩ := hkept row (by rw [hnone]; exact hafter)
    exact get_of_live hrow' hlive hval {} rfl
  · obtain rfl := hkey entry hentry
    have hafter := lookup_set_self (s.get t entry.key {}).1 t₁ entry.key entry.value entry.ttl
    obtain ⟨hrow', hlive⟩ := hkept _ (by rw [hentry]; exact hafter)
    exact get_of_live hrow' hlive rfl {} rfl

namespace Describer

variable {thumbnail : String} {prompt : Prompt} {id : Option String} {cached : Except Exc Json}
  {answers : Answers} {written : Except Exc Unit}

/-- A generated description is written for an image with an id, and returned if the write
succeeds. -/
lemma afterCache_ok {x : Json × Bool}
    (hx : (afterCache thumbnail prompt id answers written).result = .ok x) :
    ∃ text, x = (.str text, false) ∧
      (afterCache thumbnail prompt id answers written).entry =
        if nonEmpty id then some ⟨cacheKey (id.getD ""), [("description", .str text)], {}⟩
        else none := by
  unfold afterCache at hx ⊢
  split at hx
  · cases hx
  · split at hx
    · cases hx
    · split at hx
      · cases hx
      · rename_i text _
        refine ⟨text, ?_, rfl⟩
        dsimp only [Rest.after] at hx
        split at hx
        · cases hx
        · exact (Except.ok.inj hx).symm

/-- A description that has been read or written is read the next time. -/
lemma describeImage_again {x : Json × Bool} (hid : nonEmpty id = true)
    (hx : (describeImage thumbnail prompt id cached answers written).result = .ok x) :
    ∃ v, v.truthy = true ∧
      (describeImage thumbnail prompt id cached answers written).Leaves cached v ∧
      ∀ prompt' cached' answers' written', cached' = .ok v →
        describeImage thumbnail prompt' id cached' answers' written' =
          ⟨.notContacted, none, .ok (x.1, true)⟩ := by
  rcases cached with e | v
  · simp [describeImage, hid] at hx
  · by_cases hv : v.truthy = true
    · have hrun : ∀ prompt' answers' written', describeImage thumbnail prompt' id (.ok v) answers'
          written' = ⟨.notContacted, none, (cachedDescription v).map fun d => (d, true)⟩ := by
        intro prompt' answers' written'
        simp [describeImage, hid, hv]
      rw [hrun] at hx ⊢
      refine ⟨v, hv, .inl ⟨rfl, rfl⟩, fun prompt' cached' answers' written' hcached => ?_⟩
      rw [hcached, hrun]
      rcases hfound : cachedDescription v with e | d
      · simp [hfound, Except.map] at hx
      · simp only [hfound, Except.map, Except.ok.injEq] at hx
        rw [← hx]
        rfl
    · have hrun : describeImage thumbnail prompt id (.ok v) answers written =
          afterCache thumbnail prompt id answers written := by
        simp [describeImage, hid, hv]
      rw [hrun] at hx ⊢
      obtain ⟨text, rfl, hentry⟩ := afterCache_ok hx
      rw [if_pos hid] at hentry
      refine ⟨.obj [("description", .str text)], rfl, .inr ⟨_, hentry, rfl⟩, ?_⟩
      rintro prompt' cached' answers' written' rfl
      simp [describeImage, hid, Json.truthy, cachedDescription, Except.map]

/-- What is written is a description, under the key of the image. -/
lemma describeImage_entry {entry : CacheEntry}
    (h : (describeImage thumbnail prompt id cached answers written).entry = some entry) :
    nonEmpty id = true ∧ entry.key = cacheKey (id.getD "") := by
  have hafter : (afterCache thumbnail prompt id answers written).entry = some entry := by
    unfold describeImage at h
    split at h
    · split at h
      · cases h
      · split at h
        · cases h
        · exact h
    · exact h
  unfold afterCache at hafter
  split at hafter
  · cases hafter
  · split at hafter
    · cases hafter
    · split at hafter
      · cases hafter
      · dsimp only at hafter
        split at hafter
        · rename_i hid
          cases hafter
          exact ⟨hid, rfl⟩
        · cases hafter

end Describer

namespace Composer

/-- What a service returns when it is asked again: a description is a cached one then. -/
def again : (svc : Service) → svc.Result → svc.Result
  | .describer, d => (d.1, true)
  | .geocoder, x | .landcover, x | .mission, x | .context, x => x

namespace Composition

variable {rt : Runtime} {cfg : Settings} {c c' : Composition} {svc : Service} {answers : Answers}

/-- The entry of a call stands under the key of its read. -/
lemma entry_key {entry : CacheEntry} (h : (c.runService rt cfg svc answers).entry = some entry) :
    c.cacheKey rt svc = some entry.key := by
  cases svc with
  | geocoder =>
    obtain ⟨_, -, rfl⟩ := Geocoder.afterFetch_entry (afterFetch_entry_of_runModule h)
    rfl
  | landcover =>
    obtain ⟨_, -, rfl⟩ := Landcover.afterFetch_entry (afterFetch_entry_of_runModule h)
    rfl
  | mission =>
    by_cases hid : nonEmpty c.request.stacId = true
    · rw [runService_mission hid] at h
      obtain ⟨_, _, -, -, -, rfl⟩ :=
        MissionModule.afterFetch_entry (afterFetch_entry_of_runModule h)
      rw [cacheKey, if_pos hid]
    · simp [runService, MissionModule.getMissionMetadata, hid] at h
  | describer =>
    obtain ⟨hid, hkey⟩ := Describer.describeImage_entry h
    rw [cacheKey, if_pos hid, hkey]
  | context =>
    obtain ⟨_, -, rfl⟩ := ContextModule.afterFetch_entry (afterFetch_entry_of_runModule h)
    rfl

/-- A call that has been served or has written an entry is served the next time. -/
lemma runService_again {x : svc.Result} (hkey : c.cacheKey rt svc ≠ none)
    (hx : (c.runService rt cfg svc answers).result = .ok x)
    (hremembered : (c.runService rt cfg svc answers).Remembered) :
    ∃ v, v.truthy = true ∧ (c.runService rt cfg svc answers).Leaves answers.cached v ∧
      ∀ next : Answers, next.cached = .ok v →
        c.runService rt cfg svc next = ⟨.notContacted, none, .ok (again svc x)⟩ := by
  cases svc with
  | geocoder =>
    obtain ⟨v, hv, hleaves, hnext⟩ := runModule_again (fun entry hentry => by
      obtain ⟨location, hresult, rfl⟩ := Geocoder.afterFetch_entry hentry
      exact ⟨by simp [Location.modelDump], by rw [hresult, Location.ofFields_modelDump]⟩)
      hx hremembered
    exact ⟨v, hv, hleaves, fun next hcached => hnext _ _ _ hcached⟩
  | landcover =>
    obtain ⟨v, hv, hleaves, hnext⟩ := runModule_again (fun entry hentry => by
      obtain ⟨landCover, hresult, rfl⟩ := Landcover.afterFetch_entry hentry
      exact ⟨by simp [LandCover.modelDump], by rw [hresult, LandCover.ofFields_modelDump]⟩)
      hx hremembered
    exact ⟨v, hv, hleaves, fun next hcached => hnext _ _ _ hcached⟩
  | mission =>
    have hid : nonEmpty c.request.stacId = true := by
      by_contra hid
      simp [cacheKey, hid] at hkey
    rw [runService_mission hid] at hx hremembered ⊢
    obtain ⟨v, hv, hleaves, hnext⟩ := runModule_again (fun entry hentry => by
      obtain ⟨_, item, -, hparse, hresult, rfl⟩ := MissionModule.afterFetch_entry hentry
      obtain ⟨_, _, _, _, _, -, -, -, -, rfl⟩ := MissionModule.parseMission_ok hparse
      exact ⟨by simp, hresult.symm⟩) hx hremembered
    refine ⟨v, hv, hleaves, fun next hcached => ?_⟩
    rw [runService_mission hid]
    exact hnext _ _ _ hcached
  | describer =>
    have hid : nonEmpty c.request.cogImageId = true := by
      by_contra hid
      simp [cacheKey, hid] at hkey
    obtain ⟨v, hv, hleaves, hnext⟩ := Describer.describeImage_again hid hx
    exact ⟨v, hv, hleaves, fun next hcached => hnext _ _ _ _ hcached⟩
  | context =>
    obtain ⟨v, hv, hleaves, hnext⟩ := runModule_again (fun entry hentry => by
      obtain ⟨context, hresult, rfl⟩ := ContextModule.afterFetch_entry hentry
      exact ⟨by simp [Context.modelDump], by rw [hresult, Context.ofFields_modelDump]⟩)
      hx hremembered
    exact ⟨v, hv, hleaves, fun next hcached => hnext _ _ _ hcached⟩

/-- Without a STAC id there is nothing to ask for. -/
lemma runService_unasked {next : Answers} {x : Service.mission.Result}
    (hid : nonEmpty c.request.stacId = false)
    (hx : (c.runService rt cfg .mission answers).result = .ok x) :
    c.runService rt cfg .mission next = ⟨.notContacted, none, .ok (again .mission x)⟩ := by
  have hnone : ∀ answers, c.runService rt cfg .mission answers =
      (⟨.notContacted, none, .ok none⟩ : ModuleRun (Option Mission)) := by
    intro answers
    show MissionModule.getMissionMetadata _ _ _ _ _ = _
    simp [MissionModule.getMissionMetadata, hid]
  rw [hnone] at hx ⊢
  cases hx
  rfl

/-- What a call reads of its composition is its key and its arguments. -/
lemma runService_congr (h : SameInputs c c' svc.inPhase1) :
    c'.runService rt cfg svc answers = c.runService rt cfg svc answers := by
  obtain ⟨hrequest, hresults⟩ := h
  cases svc with
  | geocoder | landcover | mission =>
    simp only [runService, hrequest]
    rfl
  | describer | context =>
    obtain ⟨hlocation, hlandCover⟩ := hresults rfl
    simp only [runService, prompt, placeName, hrequest, hlocation, hlandCover]
    rfl

lemma cacheKey_congr (h : SameInputs c c' svc.inPhase1) :
    c'.cacheKey rt svc = c.cacheKey rt svc := by
  obtain ⟨hrequest, hresults⟩ := h
  cases svc with
  | geocoder | landcover | mission | describer => simp only [cacheKey, hrequest]
  | context =>
    obtain ⟨hlocation, -⟩ := hresults rfl
    simp only [cacheKey, placeName, hrequest, hlocation]

/-- A response with the same parts, but for a description that comes from the cache. -/
lemma respond_again {d : Json} {cached : Bool} (hd : c.result .describer = some (d, cached))
    (hd' : c'.result .describer = some (d, true))
    (hothers : ∀ svc, svc ≠ .describer → c'.result svc = c.result svc)
    (hwarnings : c'.warnings = c.warnings) :
    c'.respond = c.respond.map fun r => { r with cached := true } := by
  have hlocation : c'.location = c.location := hothers .geocoder (by decide)
  have hlandCover : c'.landCover = c.landCover := hothers .landcover (by decide)
  have hcontext := hothers .context (by decide)
  have hmission := hothers .mission (by decide)
  unfold respond
  rw [hd, hd', hlocation, hlandCover, hcontext, hmission, hwarnings]
  cases d <;> rfl

end Composition

/-! ### Two compositions on the cache -/

section OnStore

variable (rt : Runtime) (cfg : Settings) (request : DescribeRequest)

/-- A composition whose calls read the cache: the stores that they find, and when they read and
write. -/
structure OnStore where
  calls : Calls
  store : Service → CacheStore
  readAt : Service → ℚ
  writtenAt : Service → ℚ
  reads : ∀ svc, (entering rt cfg calls request svc).ReadFrom rt (store svc) (readAt svc) svc
    (calls.answers svc).cached

namespace OnStore

variable {rt cfg request} (first second : OnStore rt cfg request)

/-- The composition with which the phase of a service begins. -/
def entering (svc : Service) : Composition := Composer.entering rt cfg first.calls request svc

/-- The key under which the call of a service reads. -/
def key (svc : Service) : Option String := (first.entering svc).cacheKey rt svc

/-- The call of a service. -/
def run (svc : Service) : ModuleRun svc.Result := serviceRun rt cfg first.calls request svc

/-- The store after the call of a service. -/
def after (svc : Service) : CacheStore :=
  (first.entering svc).storeAfter rt cfg (first.store svc) (first.readAt svc) (first.writtenAt svc)
    svc (first.calls.answers svc)

/-- Every call that reads the cache has been served from it or has written an entry. -/
def Remembered : Prop := ∀ svc, first.key svc ≠ none → (first.run svc).Remembered

/-- The rows that the calls of the first composition have left are there, and live, when the
calls of the second one read. -/
def KeptUntil : Prop :=
  ∀ svc key, first.key svc = some key → ∀ row, (first.after svc).table.lookup key = some row →
    (second.store svc).table.lookup key = some row ∧ CacheStore.Live (second.readAt svc) row

variable {first second} {svc : Service}

/-- The results of the first phase, when the second one begins. -/
lemma entering_result {svc' : Service} (hphase : svc.inPhase1 = false)
    (hphase' : svc'.inPhase1 = true) :
    (first.entering svc).result svc' = (settled rt cfg first.calls request []).result svc' := by
  have hslot : (afterPhase1 rt cfg first.calls request).tasks svc' =
      (outcome rt cfg first.calls (.start request 0 false) svc').1 := by
    have hslots := congrArg (fun b => b.slots svc') (@afterPhase1_board rt cfg first.calls request).2
    cases svc' with
    | geocoder | landcover | mission => exact hslots
    | describer | context => cases hphase'
  rw [entering, Composer.entering, if_neg (by simp [hphase]), result_settled, leaves,
    Composer.entering, if_pos hphase']
  exact congrArg (fun task => (Task.value task).join) hslot

lemma entering_request (svc : Service) : (first.entering svc).request = request := by
  unfold entering Composer.entering
  split
  · rfl
  · exact afterPhase1_board.1

/-- The call of a service in the second composition returns what it has returned in the first
one, without asking anybody. -/
lemma run_again {x : svc.Result} (hsame : SameInputs (first.entering svc) (second.entering svc)
    svc.inPhase1) (hid : nonEmpty request.cogImageId = true)
    (hremembered : first.Remembered) (hkept : first.KeptUntil second)
    (hx : (first.run svc).result = .ok x) :
    second.run svc = ⟨.notContacted, none, .ok (again svc x)⟩ := by
  have hrun : second.run svc =
      (first.entering svc).runService rt cfg svc (second.calls.answers svc) :=
    Composition.runService_congr hsame
  rcases hkey : first.key svc with _ | key
  · -- a mission call without a STAC id
    have hmission : svc = .mission ∧ nonEmpty (first.entering svc).request.stacId = false := by
      cases svc with
      | geocoder | landcover | context => cases hkey
      | describer =>
        simp [OnStore.key, Composition.cacheKey, entering_request, hid] at hkey
      | mission =>
        refine ⟨rfl, ?_⟩
        by_contra hstac
        simp [OnStore.key, Composition.cacheKey, hstac] at hkey
    obtain ⟨rfl, hstac⟩ := hmission
    rw [hrun]
    exact Composition.runService_unasked hstac hx
  · have hkey₁ : (first.entering svc).cacheKey rt svc = some key := hkey
    have hkey₂ : (second.entering svc).cacheKey rt svc = some key :=
      (Composition.cacheKey_congr hsame).trans hkey₁
    have hsome : first.key svc ≠ none := by simp [hkey]
    obtain ⟨v, hv, hleaves, hnext⟩ :=
      Composition.runService_again hsome hx (hremembered svc hsome)
    rw [first.reads svc key hkey₁] at hleaves
    have hentry : ∀ entry, (first.run svc).entry = some entry → entry.key = key := by
      intro entry hentry
      have hentry' : (first.entering svc).cacheKey rt svc = some entry.key :=
        Composition.entry_key hentry
      exact Option.some.inj (hentry'.symm.trans hkey₁)
    have hrows : ∀ row, (((first.store svc).get (first.readAt svc) key {}).1.afterWrite
        (first.writtenAt svc) (first.run svc).entry).table.lookup key = some row →
        (second.store svc).table.lookup key = some row ∧
          CacheStore.Live (second.readAt svc) row := by
      intro row hrow
      refine hkept svc key hkey row ?_
      rw [after, Composition.storeAfter, hkey₁]
      exact hrow
    have hcached : (second.calls.answers svc).cached = .ok v := by
      rw [second.reads svc key hkey₂]
      exact CacheStore.get_of_leaves hleaves hv hentry hrows
    rw [hrun]
    exact hnext _ hcached

/-- All calls of a composition without warnings have returned. -/
lemma returned_of_complete {r : DescribeResponse}
    (hr : composeDescription rt cfg first.calls request = .ok r) (hcomplete : r.warnings = [])
    (svc : Service) : ∃ x, (first.run svc).result = .ok x ∧
      leaves rt cfg first.calls request svc = (.ended (some x), []) := by
  have hnone : (leaves rt cfg first.calls request svc).2 = [] := by
    have hall := warnings_of_composed hr
    rw [hcomplete, orderedWarnings, eq_comm, List.flatMap_eq_nil_iff] at hall
    refine hall svc ?_
    rw [List.mem_append, mem_order₁_iff, mem_order₂_iff]
    cases svc.inPhase1 <;> simp
  rcases @leaves_cases rt cfg first.calls request svc with
    ⟨-, h⟩ | ⟨e, -, -, h⟩ | ⟨x, -, hx, h⟩
  · rw [h] at hnone
    cases hnone
  · rw [h] at hnone
    cases hnone
  · exact ⟨x, hx, h⟩

lemma leaves_of_run {x : svc.Result} (hpasses : first.calls.refused svc = false)
    (hx : (first.run svc).result = .ok x) :
    leaves rt cfg first.calls request svc = (.ended (some x), []) := by
  rcases @leaves_cases rt cfg first.calls request svc with
    ⟨hrefused, -⟩ | ⟨e, -, he, -⟩ | ⟨x', -, hx', h⟩
  · rw [hpasses] at hrefused
    cases hrefused
  · cases he.symm.trans hx
  · obtain rfl : x' = x := Except.ok.inj (hx'.symm.trans hx)
    exact h

/-- **A complete description is composed again from the cache.**  No service is asked, nothing
is written, and the response is the same but for `cached`. -/
theorem composed_again {r : DescribeResponse}
    (hr : composeDescription rt cfg first.calls request = .ok r) (hcomplete : r.warnings = [])
    (hid : nonEmpty request.cogImageId = true) (hremembered : first.Remembered)
    (hkept : first.KeptUntil second) (hpasses : ∀ svc, second.calls.refused svc = false) :
    (∀ svc, (second.run svc).upstream = .notContacted ∧ (second.run svc).entry = none) ∧
      composeDescription rt cfg second.calls request = .ok { r with cached := true } := by
  choose x hx hleaves using returned_of_complete hr hcomplete
  have hphase1 : ∀ svc, svc.inPhase1 = true →
      second.run svc = ⟨.notContacted, none, .ok (again svc (x svc))⟩ := by
    intro svc hphase
    refine run_again ⟨?_, by simp [hphase]⟩ hid hremembered hkept (hx svc)
    rw [entering_request, entering_request]
  have hresult : ∀ svc, svc.inPhase1 = true →
      (settled rt cfg second.calls request []).result svc =
        (settled rt cfg first.calls request []).result svc := by
    intro svc hphase
    have hrun : (second.run svc).result = .ok (again svc (x svc)) := by rw [hphase1 svc hphase]
    rw [result_settled, result_settled, leaves_of_run (hpasses svc) hrun, hleaves svc]
    cases svc with
    | geocoder | landcover | mission => rfl
    | describer | context => cases hphase
  have hrun : ∀ svc, second.run svc = ⟨.notContacted, none, .ok (again svc (x svc))⟩ := by
    intro svc
    cases hphase : svc.inPhase1 with
    | true => exact hphase1 svc hphase
    | false =>
      refine run_again ⟨?_, fun _ => ⟨?_, ?_⟩⟩ hid hremembered hkept (hx svc)
      · rw [entering_request, entering_request]
      · exact (entering_result hphase rfl).trans
          ((hresult .geocoder rfl).trans (entering_result hphase rfl).symm)
      · exact (entering_result hphase rfl).trans
          ((hresult .landcover rfl).trans (entering_result hphase rfl).symm)
  refine ⟨fun svc => by rw [hrun svc]; exact ⟨rfl, rfl⟩, ?_⟩
  have hagain : ∀ svc, leaves rt cfg second.calls request svc =
      (.ended (some (again svc (x svc))), []) :=
    fun svc => leaves_of_run (hpasses svc) (by rw [hrun svc])
  have hnone : orderedWarnings rt cfg second.calls request = [] := by
    simp [orderedWarnings, hagain]
  have hnone₁ : orderedWarnings rt cfg first.calls request = [] :=
    (warnings_of_composed hr).symm.trans hcomplete
  have hdescriber : (settled rt cfg first.calls request []).result .describer =
      some ((x .describer).1, (x .describer).2) := by
    rw [result_settled, hleaves]
    rfl
  have hdescriber' : (settled rt cfg second.calls request []).result .describer =
      some ((x .describer).1, true) := by
    rw [result_settled, hagain]
    rfl
  have hothers : ∀ svc, svc ≠ .describer → (settled rt cfg second.calls request []).result svc =
      (settled rt cfg first.calls request []).result svc := by
    intro svc hsvc
    rw [result_settled, result_settled, hleaves, hagain]
    cases svc with
    | describer => exact absurd rfl hsvc
    | geocoder | landcover | mission | context => rfl
  rw [composeDescription_eq, hnone₁] at hr
  rw [composeDescription_eq, hnone,
    Composition.respond_again hdescriber hdescriber' hothers rfl, hr]
  rfl

end OnStore

end OnStore

end Composer

/-! ### The route -/

open Composer Db

section Route

variable {Client : Type} {rt : Runtime} {cfg : Settings} {request : DescribeRequest}

/-- What is saved of a response, and what becomes of it, does not depend on anything else of the
database. -/
lemma describeAndSave_congr {w w' : World Client}
    (hsave : ∀ row, saveDescription cfg row w' = saveDescription cfg row w)
    (result : DescribeResponse) :
    describeAndSave cfg request result w' = describeAndSave cfg request result w := by
  simp only [describeAndSave, hsave]

/-- The save changes neither the parts nor the mark of a response. -/
lemma describeAndSave_value {w : World Client} {result result' : DescribeResponse}
    (h : describeAndSave cfg request result w = .value result') :
    ∃ warnings saved, result' = { result with warnings, saved } := by
  unfold describeAndSave at h
  split at h
  · obtain ⟨saved, -, rfl⟩ := Ending.map_eq_value h
    split
    · exact ⟨_, _, rfl⟩
    · exact ⟨_, _, rfl⟩
  · cases h
    exact ⟨_, _, rfl⟩

lemma describeAnswer_content {enc : Encoding} {ifNoneMatch : Option String}
    {result result' : DescribeResponse} {etag cacheControl : String}
    (h : describeAnswer enc ifNoneMatch result' = .content result etag cacheControl) :
    result' = result ∧ etag = (enc.tagged result).2 ∧
      cacheControl = if result.cached then "private, max-age=3600" else "no-cache" := by
  unfold describeAnswer at h
  dsimp only at h
  split at h
  · cases h
  · cases h
    exact ⟨rfl, rfl, rfl⟩

/-- **The second response is the last one.**  After a complete composition for an image with an
id, as long as its rows live, the same request asks no service again and writes nothing to the
cache; all of its repetitions are answered with the same content and the same tag, which is the first
content with `cached` set, when their saves end alike; and a client that sends the tag back
gets no body. -/
theorem describedAgain (enc : Encoding) {first second third : OnStore rt cfg request}
    {r : DescribeResponse} (hr : composeDescription rt cfg first.calls request = .ok r)
    (hcomplete : r.warnings = []) (hid : nonEmpty request.cogImageId = true)
    (hremembered : first.Remembered) (hkept₂ : first.KeptUntil second)
    (hkept₃ : first.KeptUntil third) (hpasses₂ : ∀ svc, second.calls.refused svc = false)
    (hpasses₃ : ∀ svc, third.calls.refused svc = false) {db₂ db₃ : World Client}
    (hsave : ∀ row, saveDescription cfg row db₃ = saveDescription cfg row db₂)
    {ifNoneMatch : Option String} {result : DescribeResponse} {etag cacheControl : String}
    (hanswer : describeRoute rt cfg enc second.calls db₂ request ifNoneMatch =
      .value (.content result etag cacheControl)) :
    (∀ svc, (third.run svc).upstream = .notContacted ∧ (third.run svc).entry = none) ∧
      (∃ warnings saved, result = { r with cached := true, warnings, saved }) ∧
      cacheControl = "private, max-age=3600" ∧
      describeRoute rt cfg enc third.calls db₃ request none =
        .value (.content result etag cacheControl) ∧
      describeRoute rt cfg enc third.calls db₃ request (some etag) =
        .value (.notModified etag) := by
  obtain ⟨-, hsecond⟩ := OnStore.composed_again hr hcomplete hid hremembered hkept₂ hpasses₂
  obtain ⟨hnobody, hthird⟩ := OnStore.composed_again hr hcomplete hid hremembered hkept₃ hpasses₃
  have hdescribed : described rt cfg third.calls db₃ request =
      described rt cfg second.calls db₂ request := by
    simp only [described, hsecond, hthird]
    exact describeAndSave_congr hsave _
  obtain ⟨result', hresult', hcontent⟩ := Ending.map_eq_value hanswer
  obtain ⟨rfl, rfl, rfl⟩ := describeAnswer_content hcontent
  have hsaved : describeAndSave cfg request { r with cached := true } db₂ = .value result' := by
    rw [← hresult', described, hsecond]
  obtain ⟨warnings, saved, hparts⟩ := describeAndSave_value hsaved
  have hcached : result'.cached = true := by rw [hparts]
  refine ⟨hnobody, ⟨warnings, saved, hparts⟩, by rw [hcached]; rfl, ?_, ?_⟩
  · rw [describeRoute, hdescribed, hresult']
    rfl
  · rw [describeRoute, hdescribed, hresult']
    have htag : nonEmpty (some (enc.tagged result').2) = true := by
      simp [nonEmpty, Encoding.tagged, Encoding.generateEtag]
    simp [Ending.map, describeAnswer, htag]

end Route

/-! ### A city that is described twice -/

/-- A request for an image. -/
def cityRequest : DescribeRequest :=
  { Process.sceneRequest none with cogImageId := some "seoul-1" }

/-- Every service answers. -/
def cityFound : Answers where
  cached := .ok .null
  fetched := .ok (.ok (.obj [("display_name", .str "Seoul")]))
  describer := ⟨.ok (), .ok [], fun b => .ok b, fun _ _ _ => .ok (some "a city at a river")⟩
  written := .ok ()

/-- The first composition, on an empty cache. -/
def cityComposed : OnStore Process.plainRuntime .default cityRequest where
  calls := inOrder (fun _ => false) fun _ => cityFound
  store := fun _ => CacheStore.init
  readAt := fun _ => 0
  writtenAt := fun _ => 1
  reads := fun _ _ _ => rfl

/-- What the calls of the next composition read. -/
def cityRemembered (svc : Service) : Except Exc Json :=
  match cityComposed.key svc with
  | some key => ((cityComposed.after svc).get 10 key {}).2
  | none => .ok .null

/-- The next one, ten seconds later, when no service would answer. -/
def cityAgain : OnStore Process.plainRuntime .default cityRequest where
  calls := inOrder (fun _ => false) fun svc =>
    { Process.serverError with cached := cityRemembered svc }
  store := cityComposed.after
  readAt := fun _ => 10
  writtenAt := fun _ => 11
  reads := by
    intro svc key hkey
    have hsame : (entering Process.plainRuntime .default
        (inOrder (fun _ => false) fun svc =>
          { Process.serverError with cached := cityRemembered svc }) cityRequest svc).cacheKey
        Process.plainRuntime svc = cityComposed.key svc := by
      cases svc <;> decide +kernel
    rw [hkey] at hsame
    show cityRemembered svc = _
    rw [cityRemembered, ← hsame]

lemma cityComposed_kept : cityComposed.KeptUntil cityAgain := by
  intro svc key hkey row hrow
  refine ⟨hrow, fun t ht => ?_⟩
  have hlives : ((cityComposed.key svc).all fun key =>
      ((cityComposed.after svc).table.lookup key).all fun row =>
        row.expiresAt.all fun t => decide (10 ≤ t)) = true := by
    cases svc <;> decide +kernel
  have hle : (10 : ℚ) ≤ t := by simpa [hkey, hrow, ht] using hlives
  exact hle

lemma cityComposed_remembered : cityComposed.Remembered := by
  intro svc hkey
  have hentry : (cityComposed.run svc).entry.isSome = (cityComposed.key svc).isSome := by
    cases svc <;> decide +kernel
  right
  rw [← Option.isSome_iff_ne_none, hentry, Option.isSome_iff_ne_none]
  exact hkey

def citySaved : World ℕ := { rejectedWorld with execute := .ok ⟨[], none⟩ }

def hasContent : Ending DescribeAnswer → Bool
  | .value (.content ..) => true
  | _ => false

lemma exists_content {a : Ending DescribeAnswer} (h : hasContent a = true) :
    ∃ result etag cacheControl, a = .value (.content result etag cacheControl) := by
  rcases a with (_ | ⟨result, etag, cacheControl⟩) | _ | _
  case value.content => exact ⟨result, etag, cacheControl, rfl⟩
  all_goals cases h

def plainEncoding : Encoding := ⟨fun _ => [], fun _ => "d41d8cd98f00b204e9800998ecf8427e"⟩

theorem describedAgain_of_city : ∃ r result etag cacheControl,
    composeDescription Process.plainRuntime .default cityComposed.calls cityRequest = .ok r ∧
      describeRoute Process.plainRuntime .default plainEncoding cityAgain.calls citySaved
        cityRequest none = .value (.content result etag cacheControl) ∧
      (∀ svc, (cityAgain.run svc).upstream = .notContacted ∧ (cityAgain.run svc).entry = none) ∧
      (∃ warnings saved, result = { r with cached := true, warnings, saved }) ∧
      cacheControl = "private, max-age=3600" ∧
      describeRoute Process.plainRuntime .default plainEncoding cityAgain.calls citySaved
        cityRequest none = .value (.content result etag cacheControl) ∧
      describeRoute Process.plainRuntime .default plainEncoding cityAgain.calls citySaved
        cityRequest (some etag) = .value (.notModified etag) := by
  have hcomplete : (composeDescription Process.plainRuntime .default cityComposed.calls
      cityRequest).toOption.any (fun r => r.warnings.isEmpty) = true := by
    decide +kernel
  obtain ⟨r, hr, hnone⟩ := (Option.any_eq_true _ _).mp hcomplete
  obtain ⟨result, etag, cacheControl, hanswer⟩ := exists_content (a := describeRoute
    Process.plainRuntime .default plainEncoding cityAgain.calls citySaved cityRequest none)
    (by decide +kernel)
  have hcomposed : composeDescription Process.plainRuntime .default cityComposed.calls
      cityRequest = .ok r := by
    rcases h : composeDescription Process.plainRuntime .default cityComposed.calls cityRequest with
      e | r'
    · rw [h] at hr
      cases hr
    · rw [h] at hr
      rw [Option.some.inj hr]
  exact ⟨r, result, etag, cacheControl, hcomposed, hanswer,
    describedAgain plainEncoding hcomposed (List.isEmpty_iff.mp hnone) (by decide)
      cityComposed_remembered cityComposed_kept cityComposed_kept (fun _ => rfl) (fun _ => rfl)
      (fun _ => rfl) hanswer⟩

end ImageDescriptor
