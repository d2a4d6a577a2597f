/-
# Missing parts and their warnings

When a module fails, the response has a part less and a warning more.  A part is also
missing, without a warning, when the module itself has returned nothing: the mission module
does so for a request without a STAC id and for an answer that is no JSON, and the describer
returns whatever description it finds in the cache.  And a breaker refuses the mission call
of a request that has not asked for a mission.
-/
import Mathlib.Algebra.BigOperators.Group.List.Basic
import ImageDescriptor.Services.BreakerAccounting
import ImageDescriptor.Services.CompletionOrder

namespace ImageDescriptor.Composer

variable {rt : Runtime} {cfg : Settings} {w : Calls} {request : DescribeRequest}

/-- The number of warnings about a module. -/
def warningsFor (r : DescribeResponse) (svc : Service) : ℕ :=
  r.warnings.countP fun x => x.module = svc.name

/-- The stored entry of the image holds a description. -/
def FindsDescription (request : DescribeRequest) (answers : Answers) (d : Json) : Prop :=
  nonEmpty request.cogImageId = true ∧
    ∃ fields, answers.cached = .ok (.obj fields) ∧ fields.lookup "description" = some d

/-- The stored entry of the image holds a description that is null. -/
def FindsNull (request : DescribeRequest) (answers : Answers) : Prop :=
  FindsDescription request answers .null

/-- The stored entry of the image holds a description that is neither a text nor null. -/
def FindsNoText (request : DescribeRequest) (answers : Answers) : Prop :=
  ∃ d, d ≠ .null ∧ (∀ text, d ≠ .str text) ∧ FindsDescription request answers d

/-- The item is not cached, and the answer of the STAC server is no JSON. -/
def FetchesNoJson (answers : Answers) : Prop :=
  ∃ v e, answers.cached = .ok v ∧ v.truthy = false ∧ answers.fetched = .ok (.error e) ∧
    e.isinstance .jsonDecodeError = true

/-- What the parts of a response and its warnings say about each other. -/
structure AccountsForParts (w : Calls) (request : DescribeRequest) (r : DescribeResponse) :
    Prop where
  location : r.location = none ↔ warningsFor r .geocoder = 1
  landCover : r.landCover = none ↔ warningsFor r .landcover = 1
  context : r.context = none ↔ warningsFor r .context = 1
  description : r.description = none ↔ warningsFor r .describer = 1 ∨
    (w.refused .describer = false ∧ FindsNull request (w.answers .describer))
  mission : nonEmpty request.stacId = true → (r.mission = none ↔ warningsFor r .mission = 1 ∨
    (w.refused .mission = false ∧ FetchesNoJson (w.answers .mission)))
  unasked : nonEmpty request.stacId = false → r.mission = none ∧
    (warningsFor r .mission = 1 ↔ w.refused .mission = true)
  nothingElse : ∀ x ∈ r.warnings, ∃ svc : Service, x.module = svc.name ∧ warningsFor r svc = 1

/-! ### What one call leaves -/

/-- The run of the coroutine of a service. -/
def serviceRun (rt : Runtime) (cfg : Settings) (w : Calls) (request : DescribeRequest)
    (svc : Service) : ModuleRun svc.Result :=
  (entering rt cfg w request svc).runService rt cfg svc (w.answers svc)

/-- A call is refused, raises, or returns; only the last leaves no warning. -/
lemma leaves_cases (svc : Service) :
    (w.refused svc = true ∧ leaves rt cfg w request svc =
        (.shortCircuited, [⟨svc.name, "Circuit breaker open"⟩])) ∨
      (∃ e, w.refused svc = false ∧ (serviceRun rt cfg w request svc).result = .error e ∧
        leaves rt cfg w request svc = (.ended none, [⟨svc.name, e.message⟩])) ∨
      (∃ r, w.refused svc = false ∧ (serviceRun rt cfg w request svc).result = .ok r ∧
        leaves rt cfg w request svc = (.ended (some r), [])) := by
  simp only [leaves, outcome]
  split
  · rename_i hrefused
    exact .inl ⟨hrefused, rfl⟩
  · rename_i hrefused
    have hpasses : w.refused svc = false := by simpa using hrefused
    split
    · rename_i r hr
      exact .inr (.inr ⟨r, hpasses, hr, rfl⟩)
    · rename_i e he
      exact .inr (.inl ⟨e, hpasses, he, rfl⟩)

/-- What the composition has got from a service, at its end. -/
lemma result_settled (ws : List Warning) (svc : Service) :
    (settled rt cfg w request ws).result svc = ((leaves rt cfg w request svc).1.value).join := rfl

/-- A result is missing exactly when there is a warning. -/
lemma result_eq_none_iff (ws : List Warning) (svc : Service) :
    (settled rt cfg w request ws).result svc = none ↔
      (leaves rt cfg w request svc).2.length = 1 := by
  rw [result_settled]
  rcases @leaves_cases rt cfg w request svc with ⟨-, h⟩ | ⟨e, -, -, h⟩ | ⟨r, -, -, h⟩ <;>
    simp [h, Task.value]

/-- Otherwise it is what the coroutine has returned. -/
lemma result_eq_some_iff (ws : List Warning) (svc : Service) (r : svc.Result) :
    (settled rt cfg w request ws).result svc = some r ↔
      w.refused svc = false ∧ (serviceRun rt cfg w request svc).result = .ok r := by
  rw [result_settled]
  rcases @leaves_cases rt cfg w request svc with
    ⟨hrefused, h⟩ | ⟨e, hpasses, he, h⟩ | ⟨r', hpasses, hr, h⟩
  · simp [h, hrefused, Task.value]
  · simp [h, he, Task.value]
  · simp [h, hpasses, hr, Task.value]

/-! ### The warnings of all calls -/

/-- The warnings of a call are about its service. -/
lemma countP_leaves (svc svc' : Service) :
    (leaves rt cfg w request svc').2.countP (fun x => x.module = svc.name) =
      if svc' = svc then (leaves rt cfg w request svc).2.length else 0 := by
  by_cases hsvc : svc' = svc
  · subst hsvc
    rcases @leaves_warning rt cfg w request svc' with h | ⟨x, h⟩ <;> simp [h]
  · have hname : svc'.name ≠ svc.name := fun h => hsvc (name_injective h)
    rcases @leaves_warning rt cfg w request svc' with h | ⟨x, h⟩ <;> simp [h, hsvc, hname]

/-- The completed calls are those of the five services. -/
lemma order_perm : (w.order₁ ++ w.order₂).Perm
    [.geocoder, .landcover, .mission, .describer, .context] :=
  w.order₁_perm.append w.order₂_perm

/-- A service has as many warnings as its call has left. -/
lemma warningsFor_eq {r : DescribeResponse} (h : composeDescription rt cfg w request = .ok r)
    (svc : Service) : warningsFor r svc = (leaves rt cfg w request svc).2.length := by
  have hsum : (((w.order₁ ++ w.order₂).map fun svc' =>
      (leaves rt cfg w request svc').2.countP fun x => x.module = svc.name).sum) =
        (leaves rt cfg w request svc).2.length := by
    rw [(order_perm.map _).sum_eq]
    simp only [countP_leaves]
    cases svc <;> simp
  rw [warningsFor, warnings_of_composed h, orderedWarnings, List.countP_flatMap]
  exact hsum

/-! ### Modules that return nothing -/

/-- A description that was generated is a string. -/
lemma afterCache_ne {thumbnail : String} {prompt : Describer.Prompt} {id : Option String}
    {answers : Describer.Answers} {written : Except Exc Unit} {d : Json} {cached : Bool}
    (hd : ∀ text, d ≠ .str text) :
    (Describer.afterCache thumbnail prompt id answers written).result ≠ .ok (d, cached) := by
  unfold Describer.afterCache
  split
  · simp
  · split
    · simp
    · split
      · simp
      · rename_i description _
        have hne : (Json.str description, false) ≠ (d, cached) :=
          fun h => hd description (congrArg Prod.fst h).symm
        dsimp only [Rest.after]
        split
        · simp
        · simpa using hne

/-- A cached description is what the entry says. -/
lemma cachedDescription_eq_iff {v d : Json} :
    Describer.cachedDescription v = .ok d ↔
      ∃ fields, v = .obj fields ∧ fields.lookup "description" = some d := by
  constructor
  · intro h
    cases v with
    | obj fields =>
      rcases hlookup : fields.lookup "description" with _ | d'
      · simp [Describer.cachedDescription, hlookup] at h
      · obtain rfl : d' = d := by simpa [Describer.cachedDescription, hlookup] using h
        exact ⟨fields, rfl, hlookup⟩
    | _ => simp [Describer.cachedDescription] at h
  · rintro ⟨fields, rfl, hlookup⟩
    simp [Describer.cachedDescription, hlookup]

lemma truthy_of_lookup {fields : Fields} {name : String} {v : Json}
    (h : fields.lookup name = some v) : (Json.obj fields).truthy = true := by
  cases fields with
  | nil => cases h
  | cons field fields => rfl

/-- The describer returns something else than a text when it finds it. -/
lemma describeImage_eq_iff {thumbnail : String} {prompt : Describer.Prompt} {answers : Answers}
    {d : Json} (hd : ∀ text, d ≠ .str text) :
    (∃ cached, (Describer.describeImage thumbnail prompt request.cogImageId answers.cached
        answers.describer answers.written).result = .ok (d, cached)) ↔
      FindsDescription request answers d := by
  unfold Describer.describeImage FindsDescription
  by_cases hid : nonEmpty request.cogImageId = true
  · rw [if_pos hid]
    rcases answers.cached with e | v
    · simp
    · by_cases htruthy : v.truthy = true
      · simp only [htruthy, if_true, hid, true_and]
        constructor
        · rintro ⟨cached, h⟩
          rcases hfound : Describer.cachedDescription v with e | d'
          · simp [hfound, Except.map] at h
          · obtain ⟨rfl, -⟩ : d' = d ∧ true = cached := by simpa [hfound, Except.map] using h
            obtain ⟨fields, rfl, hlookup⟩ := cachedDescription_eq_iff.mp hfound
            exact ⟨fields, rfl, hlookup⟩
        · rintro ⟨fields, hv, hlookup⟩
          obtain rfl : v = .obj fields := by simpa using hv
          exact ⟨true, by rw [cachedDescription_eq_iff.mpr ⟨fields, rfl, hlookup⟩]; rfl⟩
      · simp only [htruthy]
        constructor
        · rintro ⟨cached, h⟩
          exact absurd h (afterCache_ne hd)
        · rintro ⟨-, fields, hv, hlookup⟩
          obtain rfl : v = .obj fields := by simpa using hv
          exact absurd (truthy_of_lookup hlookup) htruthy
  · rw [if_neg hid]
    constructor
    · rintro ⟨cached, h⟩
      exact absurd h (afterCache_ne hd)
    · rintro ⟨hid', -⟩
      exact absurd hid' hid

lemma map_some_ne_none {α : Type} (x : Except Exc α) : x.map some ≠ .ok none := by
  rcases x with e | a <;> simp [Except.map]

/-- A fetch after which no mission is returned. -/
lemma afterFetch_none_iff {lax : LaxMode} {id : String} {fetched : Fetched}
    {written : Except Exc Unit} :
    (MissionModule.afterFetch lax id fetched).after written = .ok none ↔
      ∃ e, fetched = .ok (.error e) ∧ e.isinstance .jsonDecodeError = true := by
  rcases fetched with e | e | data
  · simp [MissionModule.afterFetch, Rest.after]
  · by_cases hjson : e.isinstance .jsonDecodeError = true
    · simp [MissionModule.afterFetch, Rest.after, hjson]
    · simp [MissionModule.afterFetch, Rest.after, hjson]
  · rcases hparse : MissionModule.parseMission data with e | item
    · simp [MissionModule.afterFetch, Rest.after, hparse]
    · rcases written with e | _
      · simp [MissionModule.afterFetch, Rest.after, hparse]
      · simp [MissionModule.afterFetch, Rest.after, hparse, map_some_ne_none]

/-- The module returns no mission for an answer that is no JSON. -/
lemma getMissionMetadata_none_iff {lax : LaxMode} {answers : Answers}
    (hid : nonEmpty request.stacId = true) :
    (MissionModule.getMissionMetadata lax request.stacId answers.cached answers.fetched
        answers.written).result = .ok none ↔ FetchesNoJson answers := by
  rw [MissionModule.getMissionMetadata, if_pos hid]
  unfold FetchesNoJson
  rcases answers.cached with e | v
  · simp [runModule]
  · by_cases htruthy : v.truthy = true
    · have hbuilt : buildFrom (fun fields => (Mission.ofFields lax fields).map some) v ≠
          .ok none := by
        cases v with
        | obj fields => exact map_some_ne_none _
        | _ => simp [buildFrom]
      simp [runModule, fromCache, htruthy, hbuilt]
    · simp [runModule, fromCache, htruthy, afterFetch_none_iff]

/-! ### The response -/

/-- The parts of a response that has been built. -/
lemma respond_ok {c : Composition} {r : DescribeResponse} (h : c.respond = .ok r) :
    Composition.describedBy (c.result .describer) = .ok (r.description, r.cached) ∧
      r.location = c.location ∧ r.landCover = c.landCover ∧ r.context = c.result .context ∧
      r.mission = (show Option (Option Mission) from c.result .mission).join := by
  unfold Composition.respond at h
  split at h
  · cases h
  · rename_i hdescribed
    cases h
    exact ⟨hdescribed, rfl, rfl, rfl, rfl⟩

/-- A description is missing when there is no result, or one that is null. -/
lemma description_none_iff {result : Option (Json × Bool)} {description : Option String}
    {cached : Bool} (h : Composition.describedBy result = .ok (description, cached)) :
    description = none ↔ result = none ∨ ∃ cached, result = some (.null, cached) := by
  unfold Composition.describedBy at h
  split at h
  · cases h
    simp
  · cases h
    simp
  · cases h
    simp
  · cases h

lemma join_eq_none_iff {α : Type} {x : Option (Option α)} :
    x.join = none ↔ x = none ∨ x = some none := by
  rcases x with _ | _ | a <;> simp

lemma entering_request (svc : Service) : (entering rt cfg w request svc).request = request := by
  unfold entering
  split
  · rfl
  · exact afterPhase1_board.1

/-- The composition gets something else than a text from the describer when it finds it. -/
lemma describer_eq_iff {ws : List Warning} {d : Json} (hd : ∀ text, d ≠ .str text) :
    (∃ cached, (settled rt cfg w request ws).result .describer = some (d, cached)) ↔
      w.refused .describer = false ∧ FindsDescription request (w.answers .describer) d := by
  have hrun : ∀ cached, (settled rt cfg w request ws).result .describer = some (d, cached) ↔
      w.refused .describer = false ∧
        (serviceRun rt cfg w request .describer).result = .ok (d, cached) :=
    fun cached => result_eq_some_iff ws .describer (d, cached)
  simp only [hrun, exists_and_left]
  refine and_congr Iff.rfl ?_
  rw [serviceRun, Composition.runService]
  simp only [entering_request]
  exact describeImage_eq_iff hd

/-- A result of the describer is refused when it is neither a text nor null. -/
lemma describedBy_error_iff {result : Option (Json × Bool)} :
    (∃ e, Composition.describedBy result = .error e) ↔
      ∃ d, d ≠ .null ∧ (∀ text, d ≠ .str text) ∧ ∃ cached, result = some (d, cached) := by
  constructor
  · rintro ⟨e, h⟩
    unfold Composition.describedBy at h
    split at h
    · cases h
    · cases h
    · cases h
    · rename_i r hnull htext
      exact ⟨r.1, fun h => hnull r.2 (by rw [← h]), fun text h => htext text r.2 (by rw [← h]),
        r.2, rfl⟩
  · rintro ⟨d, hnull, htext, cached, rfl⟩
    cases d with
    | null => exact absurd rfl hnull
    | str text => exact absurd rfl (htext text)
    | _ => exact ⟨_, rfl⟩

/-- A composition raises when a stored description is neither a text nor null. -/
theorem composeDescription_raises_iff :
    (∃ e, composeDescription rt cfg w request = .error e) ↔
      w.refused .describer = false ∧ FindsNoText request (w.answers .describer) := by
  have hrespond : (∃ e, composeDescription rt cfg w request = .error e) ↔
      ∃ e, Composition.describedBy
        ((settled rt cfg w request (orderedWarnings rt cfg w request)).result .describer) =
          .error e := by
    rw [composeDescription_eq]
    unfold Composition.respond
    split
    · rename_i e he
      simp [he]
    · rename_i hok
      simp [hok]
  refine (hrespond.trans describedBy_error_iff).trans ?_
  constructor
  · rintro ⟨d, hnull, htext, hfound⟩
    obtain ⟨hpasses, hfinds⟩ := (describer_eq_iff htext).mp hfound
    exact ⟨hpasses, d, hnull, htext, hfinds⟩
  · rintro ⟨hpasses, d, hnull, htext, hfinds⟩
    exact ⟨d, hnull, htext, (describer_eq_iff htext).mpr ⟨hpasses, hfinds⟩⟩

/-- The mission module returns nothing for an answer that is no JSON. -/
lemma mission_none_iff {ws : List Warning} (hid : nonEmpty request.stacId = true) :
    (settled rt cfg w request ws).result .mission = some none ↔
      w.refused .mission = false ∧ FetchesNoJson (w.answers .mission) := by
  refine (result_eq_some_iff ws .mission none).trans (and_congr Iff.rfl ?_)
  rw [serviceRun, Composition.runService]
  simp only [entering_request]
  exact getMissionMetadata_none_iff hid

/-- Without a STAC id the mission call returns nothing, unless it is refused. -/
lemma unasked_result (ws : List Warning) (hid : nonEmpty request.stacId = false) :
    (w.refused .mission = true → (settled rt cfg w request ws).result .mission = none) ∧
      (w.refused .mission = false →
        (settled rt cfg w request ws).result .mission = some none) := by
  constructor
  · intro hrefused
    refine Option.eq_none_iff_forall_ne_some.mpr fun m hm => ?_
    have hpasses := ((result_eq_some_iff ws .mission m).mp hm).1
    rw [hrefused] at hpasses
    cases hpasses
  · intro hpasses
    refine (result_eq_some_iff ws .mission none).mpr ⟨hpasses, ?_⟩
    rw [serviceRun, Composition.runService]
    simp only [entering_request, MissionModule.getMissionMetadata, hid]
    rfl

/-- **Every missing part of a response has its warning, but for what a module returns
itself.**  Whatever the request, the breakers, the cache and the upstreams are: the location,
the land cover and the context are missing exactly with one warning of their module; so is
the description, unless the stored one is null, and the mission that was asked for, unless
the STAC answer is no JSON; and nothing else is warned of, except a breaker that refuses the
mission call of a request that asked for none. -/
theorem accountsForParts_of_composed {r : DescribeResponse}
    (h : composeDescription rt cfg w request = .ok r) : AccountsForParts w request r := by
  have hcount := warningsFor_eq h
  have hwarnings := warnings_of_composed h
  rw [composeDescription_eq] at h
  obtain ⟨hdescription, hlocation, hlandCover, hcontext, hmission⟩ := respond_ok h
  have hmissing : ∀ svc, (settled rt cfg w request (orderedWarnings rt cfg w request)).result svc =
      none ↔ warningsFor r svc = 1 := by
    intro svc
    rw [hcount, result_eq_none_iff]
  refine ⟨?_, ?_, ?_, ?_, ?_, ?_, ?_⟩
  · rw [hlocation]
    exact hmissing .geocoder
  · rw [hlandCover]
    exact hmissing .landcover
  · rw [hcontext]
    exact hmissing .context
  · rw [description_none_iff hdescription]
    exact or_congr (hmissing .describer) (describer_eq_iff (by simp))
  · intro hid
    rw [hmission, join_eq_none_iff]
    exact or_congr (hmissing .mission) (mission_none_iff hid)
  · intro hid
    have hresult := @unasked_result rt cfg w request (orderedWarnings rt cfg w request) hid
    rw [hmission, ← hmissing .mission]
    cases hrefused : w.refused .mission with
    | true =>
      rw [hresult.1 hrefused]
      exact ⟨rfl, iff_of_true rfl rfl⟩
    | false =>
      rw [hresult.2 hrefused]
      exact ⟨rfl, iff_of_false (by simp) (by simp)⟩
  · intro x hx
    rw [hwarnings, orderedWarnings, List.mem_flatMap] at hx
    obtain ⟨svc, -, hx⟩ := hx
    refine ⟨svc, ?_⟩
    rw [hcount]
    rcases @leaves_warning rt cfg w request svc with hw | ⟨error, hw⟩
    · rw [hw] at hx
      cases hx
    · rw [hw] at hx ⊢
      obtain rfl : x = ⟨svc.name, error⟩ := by simpa using hx
      exact ⟨rfl, rfl⟩

/-! ### An item that is no JSON -/

/-- A STAC server that answers with an error page; the other services fail. -/
def errorPage : Answers :=
  { Process.serverError with
    fetched := .ok (.error ⟨.jsonDecodeError, "Expecting value: line 1 column 1 (char 0)"⟩) }

def errorPageCalls : Calls :=
  inOrder (fun svc => decide (svc = .context)) fun svc =>
    if svc = .mission then errorPage else Process.serverError

/-- Whether a composition returns a response without a mission, with warnings of these
modules. -/
def missesMission (modules : List String) : Except Exc DescribeResponse → Bool
  | .ok r => decide (r.mission = none) && decide (r.warnings.map Warning.module = modules)
  | .error _ => false

theorem accountsForParts_of_errorPage :
    ∃ r, composeDescription Process.plainRuntime .default errorPageCalls
        (Process.sceneRequest (some "S2A_31UFU")) = .ok r ∧
      AccountsForParts errorPageCalls (Process.sceneRequest (some "S2A_31UFU")) r := by
  have hreturns : (composeDescription Process.plainRuntime .default errorPageCalls
      (Process.sceneRequest (some "S2A_31UFU"))).isOk = true := by
    decide +kernel
  rcases h : composeDescription Process.plainRuntime .default errorPageCalls
      (Process.sceneRequest (some "S2A_31UFU")) with e | r
  · rw [h] at hreturns
    cases hreturns
  · exact ⟨r, rfl, accountsForParts_of_composed h⟩

theorem mission_missing_without_warning :
    ∃ r, composeDescription Process.plainRuntime .default errorPageCalls
        (Process.sceneRequest (some "S2A_31UFU")) = .ok r ∧ r.mission = none ∧
      warningsFor r .mission = 0 := by
  have hmisses : missesMission ["geocoder", "landcover", "describer", "context"]
      (composeDescription Process.plainRuntime .default errorPageCalls
        (Process.sceneRequest (some "S2A_31UFU"))) = true := by
    decide +kernel
  rcases h : composeDescription Process.plainRuntime .default errorPageCalls
      (Process.sceneRequest (some "S2A_31UFU")) with e | r
  · rw [h] at hmisses
    cases hmisses
  · rw [h] at hmisses
    simp only [missesMission, Bool.and_eq_true, decide_eq_true_eq] at hmisses
    obtain ⟨hmission, hmodules⟩ := hmisses
    refine ⟨r, rfl, hmission, ?_⟩
    have hnone : ∀ x ∈ r.warnings, x.module ≠ Service.mission.name := by
      intro x hx
      have hmem : x.module ∈ r.warnings.map Warning.module := List.mem_map_of_mem hx
      rw [hmodules] at hmem
      rintro heq
      rw [heq] at hmem
      revert hmem
      decide
    simpa [warningsFor, List.countP_eq_zero] using hnone

end ImageDescriptor.Composer
