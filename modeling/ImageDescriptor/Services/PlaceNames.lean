/-
# The name of the place in the second phase

The describer and the context are asked about the place by its name.  When there is no
location, the name is made of the coordinates; when there is one, its name is taken as it
is, also when the geocoder has left it empty.
-/
import ImageDescriptor.Services.MissingParts

namespace ImageDescriptor.Composer

variable {rt : Runtime} {cfg : Settings} {w : Calls} {request : DescribeRequest}

/-- `f"{lat}, {lon}"`. -/
def coordinateName (rt : Runtime) (request : DescribeRequest) : String :=
  rt.reprFloat request.coordinates.2 ++ ", " ++ rt.reprFloat request.coordinates.1

/-- The name of a location that has one, or else the coordinates. -/
def namedOr (rt : Runtime) (request : DescribeRequest) : Option Location → String
  | some l => if l.placeName = "" then coordinateName rt request else l.placeName
  | none => coordinateName rt request

/-- The place has a name where it is passed to `describe_image` and to `research_context`. -/
structure NamesPlace (rt : Runtime) (cfg : Settings) (w : Calls) (request : DescribeRequest) :
    Prop where
  describer : ((entering rt cfg w request .describer).prompt rt).placeName ≠ "" ∧
    ((entering rt cfg w request .describer).prompt rt).placeName =
      namedOr rt request (entering rt cfg w request .describer).location
  context : (entering rt cfg w request .context).placeName rt ≠ "" ∧
    (entering rt cfg w request .context).placeName rt =
      namedOr rt request (entering rt cfg w request .context).location

/-- The geocoder returns a location without a name: the one that it finds in the cache has
none, or what it fetches is no JSON, or is an answer for a location whose `display_name` is
missing or holds nothing but postcodes and separators. -/
inductive Nameless (lax : LaxMode) (lon lat : ℚ) (answers : Answers) : Prop
  | stored {fields : Fields} (hcached : answers.cached = .ok (.obj fields))
      (hname : fields.lookup "place_name" = some (.str ""))
      (hvalid : (Location.ofFields lax fields).isOk = true)
  | noJson {v : Json} {e : Exc} (hcached : answers.cached = .ok v) (hmiss : v.truthy = false)
      (hfetched : answers.fetched = .ok (.error e)) (hjson : e.isinstance .jsonDecodeError = true)
  | emptied {v data displayName : Json} (hcached : answers.cached = .ok v)
      (hmiss : v.truthy = false) (hfetched : answers.fetched = .ok (.ok data))
      (hdisplay : data.get "display_name" (.str "") = .ok displayName)
      (hname : Geocoder.placeName displayName = .ok "")
      (hvalid : (Geocoder.parse lax lon lat data).isOk = true)
      (hwritten : answers.written = .ok ())

/-! ### The name that the geocoder returns -/

lemma placeName_of_ofFields {lax : LaxMode} {fields : Fields} {l : Location}
    (h : Location.ofFields lax fields = .ok l) :
    fields.lookup "place_name" = some (.str l.placeName) := by
  simp only [Location.ofFields, bind_eq_ok] at h
  obtain ⟨_, -, _, -, _, -, _, -, name, hname, _, -, _, -, hl⟩ := h
  cases hl
  unfold strField at hname
  split at hname
  · rename_i s hs
    cases hname
    exact hs
  · cases hname

lemma placeName_of_parse {lax : LaxMode} {lon lat : ℚ} {data displayName : Json} {l : Location}
    (h : Geocoder.parse lax lon lat data = .ok l)
    (hdisplay : data.get "display_name" (.str "") = .ok displayName) :
    Geocoder.placeName displayName = .ok l.placeName := by
  obtain ⟨_, _, _, _, _, name, hdisplay', hname, hl⟩ := Geocoder.parse_ok h
  rw [hdisplay, Except.ok.injEq] at hdisplay'
  have hlookup := placeName_of_ofFields hl
  obtain rfl : name = l.placeName := by simpa [List.lookup_cons] using hlookup
  rw [hdisplay', hname]

lemma fallback_placeName (lon lat : ℚ) : (Geocoder.fallback lon lat).placeName = "" := rfl

lemma exists_of_isOk {α : Type} {x : Except Exc α} (h : x.isOk = true) : ∃ a, x = .ok a := by
  rcases x with e | a
  · cases h
  · exact ⟨a, rfl⟩

/-- An entry of the cache is returned as it is. -/
lemma stored_nameless_iff {lax : LaxMode} {v : Json} :
    (∃ l, buildFrom (Location.ofFields lax) v = .ok l ∧ l.placeName = "") ↔
      ∃ fields, v = .obj fields ∧ fields.lookup "place_name" = some (.str "") ∧
        (Location.ofFields lax fields).isOk = true := by
  constructor
  · rintro ⟨l, hl, hname⟩
    cases v with
    | obj fields =>
      refine ⟨fields, rfl, ?_, ?_⟩
      · rw [placeName_of_ofFields hl, hname]
      · have hbuilt : Location.ofFields lax fields = .ok l := hl
        rw [hbuilt]
        rfl
    | _ => cases hl
  · rintro ⟨fields, rfl, hname, hvalid⟩
    obtain ⟨l, hl⟩ := exists_of_isOk hvalid
    have hlookup := placeName_of_ofFields hl
    rw [hname] at hlookup
    exact ⟨l, hl, by simpa using hlookup.symm⟩

/-- What is left of a call after its fetch. -/
lemma fetched_nameless_iff {lax : LaxMode} {lon lat : ℚ} {fetched : Fetched}
    {written : Except Exc Unit} :
    (∃ l, (Geocoder.afterFetch lax cfg lon lat fetched).after written = .ok l ∧
        l.placeName = "") ↔
      (∃ e, fetched = .ok (.error e) ∧ e.isinstance .jsonDecodeError = true) ∨
        ∃ data displayName, fetched = .ok (.ok data) ∧
          data.get "display_name" (.str "") = .ok displayName ∧
          Geocoder.placeName displayName = .ok "" ∧
          (Geocoder.parse lax lon lat data).isOk = true ∧ written = .ok () := by
  rcases fetched with e | e | data
  · simp [Geocoder.afterFetch, Rest.after]
  · by_cases hjson : e.isinstance .jsonDecodeError = true
    · simp [Geocoder.afterFetch, Rest.after, hjson, fallback_placeName]
    · simp [Geocoder.afterFetch, Rest.after, hjson]
  · rcases hparse : Geocoder.parse lax lon lat data with e | l
    · simp [Geocoder.afterFetch, Rest.after, hparse, Except.isOk, Except.toBool]
    · obtain ⟨_, _, _, _, displayName, _, hdisplay, -, -⟩ := Geocoder.parse_ok hparse
      have hname := placeName_of_parse hparse hdisplay
      rcases written with e | ⟨⟩
      · simp [Geocoder.afterFetch, Rest.after, hparse]
      · simp [Geocoder.afterFetch, Rest.after, hparse, hdisplay, hname, Except.isOk, Except.toBool]

/-- The geocoder returns a location without a name exactly in the three cases. -/
lemma geocode_nameless_iff {lax : LaxMode} {lon lat : ℚ} {answers : Answers} :
    (∃ l, (Geocoder.geocode lax cfg lon lat answers.cached answers.fetched answers.written).result =
        .ok l ∧ l.placeName = "") ↔ Nameless lax lon lat answers := by
  unfold Geocoder.geocode runModule
  rcases hcached : answers.cached with e | v
  · constructor
    · rintro ⟨l, hl, -⟩
      cases hl
    · -- the lookup in the cache has raised
      rintro (⟨hentry, -, -⟩ | ⟨hentry, -, -, -⟩ | ⟨hentry, -, -, -, -, -, -⟩)
      · cases hcached.symm.trans hentry
      · cases hcached.symm.trans hentry
      · cases hcached.symm.trans hentry
  · by_cases htruthy : v.truthy = true
    · simp only [fromCache, htruthy, if_true]
      rw [stored_nameless_iff]
      constructor
      · rintro ⟨fields, rfl, hname, hvalid⟩
        exact .stored hcached hname hvalid
      · rintro (⟨hentry, hname, hvalid⟩ | ⟨hentry, hmiss, -, -⟩ | ⟨hentry, hmiss, -, -, -, -, -⟩)
        · rw [hcached, Except.ok.injEq] at hentry
          exact ⟨_, hentry, hname, hvalid⟩
        · rw [hcached, Except.ok.injEq] at hentry
          rw [← hentry, htruthy] at hmiss
          cases hmiss
        · rw [hcached, Except.ok.injEq] at hentry
          rw [← hentry, htruthy] at hmiss
          cases hmiss
    · have hmiss : v.truthy = false := by simpa using htruthy
      simp only [fromCache, hmiss, Bool.false_eq_true, if_false]
      rw [fetched_nameless_iff]
      constructor
      · rintro (⟨e, hfetched, hjson⟩ | ⟨data, displayName, hfetched, hdisplay, hname, hvalid, hw⟩)
        · exact .noJson hcached hmiss hfetched hjson
        · exact .emptied hcached hmiss hfetched hdisplay hname hvalid hw
      · rintro (⟨hentry, hname, -⟩ | ⟨-, -, hfetched, hjson⟩ |
          ⟨-, -, hfetched, hdisplay, hname, hvalid, hw⟩)
        · rw [hcached, Except.ok.injEq] at hentry
          rw [hentry, truthy_of_lookup hname] at hmiss
          cases hmiss
        · exact .inl ⟨_, hfetched, hjson⟩
        · exact .inr ⟨_, _, hfetched, hdisplay, hname, hvalid, hw⟩

/-! ### The name that is passed on -/

lemma coordinateName_ne (rt : Runtime) (request : DescribeRequest) :
    coordinateName rt request ≠ "" := by
  simp [coordinateName]

/-- The second phase begins with what the geocoder has returned. -/
lemma entering_location {svc : Service} (hphase : svc.inPhase1 = false) :
    (entering rt cfg w request svc).location =
      (settled rt cfg w request []).result .geocoder := by
  have hslot : (afterPhase1 rt cfg w request).tasks .geocoder =
      (outcome rt cfg w (.start request 0 false) .geocoder).1 :=
    congrArg (fun b => b.slots .geocoder) afterPhase1_board.2
  rw [entering, if_neg (by simp [hphase]), result_settled, leaves, entering]
  exact congrArg (fun task => (Task.value task).join) hslot

lemma entering_location_eq_some_iff {svc : Service} (hphase : svc.inPhase1 = false) (l : Location) :
    (entering rt cfg w request svc).location = some l ↔
      w.refused .geocoder = false ∧
        (Geocoder.geocode rt.lax cfg request.coordinates.1 request.coordinates.2
          (w.answers .geocoder).cached (w.answers .geocoder).fetched
          (w.answers .geocoder).written).result = .ok l := by
  rw [entering_location hphase]
  exact result_eq_some_iff [] .geocoder l

/-- The place has a name in the second phase when no location without a name is returned. -/
lemma named_iff {svc : Service} (hphase : svc.inPhase1 = false) :
    ((entering rt cfg w request svc).placeName rt ≠ "" ∧
      (entering rt cfg w request svc).placeName rt =
        namedOr rt request (entering rt cfg w request svc).location) ↔
      w.refused .geocoder = true ∨
        ¬ Nameless rt.lax request.coordinates.1 request.coordinates.2 (w.answers .geocoder) := by
  have hreturned : ∀ l, (entering rt cfg w request svc).location = some l ↔ _ :=
    entering_location_eq_some_iff hphase
  have hnameless : Nameless rt.lax request.coordinates.1 request.coordinates.2
      (w.answers .geocoder) ↔ _ := (@geocode_nameless_iff cfg _ _ _ _).symm
  rw [Composition.placeName, entering_request, hnameless]
  rcases hl : (entering rt cfg w request svc).location with _ | l
  · -- the coordinates are the name
    refine iff_of_true ⟨coordinateName_ne rt request, rfl⟩ ?_
    by_cases hrefused : w.refused .geocoder = true
    · exact .inl hrefused
    · refine .inr ?_
      rintro ⟨l, hresult, -⟩
      have hsome := (hreturned l).mpr ⟨by simpa using hrefused, hresult⟩
      rw [hl] at hsome
      cases hsome
  · obtain ⟨hpasses, hresult⟩ := (hreturned l).mp hl
    by_cases hname : l.placeName = ""
    · refine iff_of_false (fun h => h.1 hname) ?_
      rintro (hrefused | hnot)
      · rw [hpasses] at hrefused
        cases hrefused
      · exact hnot ⟨l, hresult, hname⟩
    · refine iff_of_true ⟨hname, by simp [namedOr, hname]⟩ (.inr ?_)
      rintro ⟨l', hresult', hname'⟩
      rw [hresult, Except.ok.injEq] at hresult'
      exact hname (hresult' ▸ hname')

/-- **The place has a name in the second phase exactly when the geocoder is refused or does
not return a location without a name.**  This holds for every request, whatever the
breakers, the cache and the upstreams do. -/
theorem namesPlace_iff : NamesPlace rt cfg w request ↔
    w.refused .geocoder = true ∨
      ¬ Nameless rt.lax request.coordinates.1 request.coordinates.2 (w.answers .geocoder) := by
  have hdescriber : Service.inPhase1 .describer = false := rfl
  have hcontext : Service.inPhase1 .context = false := rfl
  constructor
  · intro h
    exact (named_iff hcontext).mp h.context
  · intro h
    exact ⟨(named_iff hdescriber).mpr h, (named_iff hcontext).mpr h⟩

/-! ### The open sea -/

/-- Nominatim finds no place at the point; the other services fail. -/
def openSea : Answers :=
  { Process.serverError with
    fetched := .ok (.ok (.obj [("error", .str "Unable to geocode")])) }

def openSeaCalls : Calls :=
  inOrder (fun _ => false) fun svc => if svc = .geocoder then openSea else Process.serverError

/-- The location that is built from the answer has no name, and neither has the place. -/
theorem open_sea_has_no_name :
    ((entering Process.plainRuntime .default openSeaCalls (Process.sceneRequest none)
        .context).placeName Process.plainRuntime = "") ∧
      ¬ NamesPlace Process.plainRuntime .default openSeaCalls (Process.sceneRequest none) := by
  have hempty : (entering Process.plainRuntime .default openSeaCalls (Process.sceneRequest none)
      .context).placeName Process.plainRuntime = "" := by
    decide +kernel
  exact ⟨hempty, fun h => h.context.1 hempty⟩

end ImageDescriptor.Composer
