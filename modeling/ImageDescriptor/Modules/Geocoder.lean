/-
# The geocoder

`geocode` asks Nominatim for the place at a point.  The lock and the spacing of its
requests are the subject of `Modules/NominatimRate.lean`; here a call is what it makes of
the cache and of the answer.
-/
import ImageDescriptor.Config
import ImageDescriptor.Modules.Lookup
import ImageDescriptor.Python.Text

namespace ImageDescriptor.Geocoder

variable (lax : LaxMode) (cfg : Settings)

/-- The key of the cell of a point, from `_round_coords` with its three decimals. -/
def cacheKey (lon lat : ℚ) : String :=
  "geocode:" ++ reprRounded lon 3 ++ ":" ++ reprRounded lat 3

/-- The location of an answer that is no JSON. -/
def fallback (lon lat : ℚ) : Location where
  country := "Unknown"
  countryCode := ""
  region := ""
  city := none
  placeName := ""
  lat := lat
  lon := lon

/-- `re.sub(r",?\s*\d{5}\s*", "", name).strip(", ")`, where `name` has to be a string. -/
def placeName : Json → Except Exc String
  | .str s => .ok (String.ofList (strip [',', ' '] (removePostcodes 0 s.toList)))
  | _ => .error ⟨.typeError, "expected string or bytes-like object"⟩

/-- The location that is built from an answer. -/
def parse (lon lat : ℚ) (data : Json) : Except Exc Location := do
  let address ← data.get "address" (.obj [])
  let displayName ← data.get "display_name" (.str "Unknown")
  let country ← address.get "country" displayName
  let countryCode ← address.get "country_code" (.str "")
  let state ← address.get "state" (← address.get "province" (.str ""))
  -- `... or address.get("city", "")`: also an empty state gives way to the city
  let region ← if state.truthy then pure state else address.get "city" (.str "")
  let city ← address.get "city" (← address.get "town" (← address.get "village" .null))
  let name ← placeName (← data.get "display_name" (.str ""))
  Location.ofFields lax
    [("country", country), ("country_code", countryCode), ("region", region), ("city", city),
      ("place_name", .str name), ("lat", .num lat), ("lon", .num lon)]

/-- The call after its fetch. -/
def afterFetch (lon lat : ℚ) : Fetched → Rest Location
  | .error e => ⟨none, .error e⟩
  | .ok (.error e) =>
    ⟨none, if e.isinstance .jsonDecodeError then .ok (fallback lon lat) else .error e⟩
  | .ok (.ok data) =>
    match parse lax lon lat data with
    | .error e => ⟨none, .error e⟩
    | .ok location =>
      ⟨some ⟨cacheKey lon lat, location.modelDump, { seconds := some cfg.cacheTtlSeconds }⟩,
        .ok location⟩

/-- `geocode`. -/
def geocode (lon lat : ℚ) (cached : Except Exc Json) (fetched : Fetched)
    (written : Except Exc Unit) : ModuleRun Location :=
  runModule (fromCache (Location.ofFields lax)) (afterFetch lax cfg lon lat) cached fetched written

/-- The location of an answer is built from the name without its postcodes and from the
point, among other fields. -/
lemma parse_ok {lax : LaxMode} {lon lat : ℚ} {data : Json} {l : Location}
    (h : parse lax lon lat data = .ok l) :
    ∃ country code region city displayName name,
      data.get "display_name" (.str "") = .ok displayName ∧ placeName displayName = .ok name ∧
      Location.ofFields lax
        [("country", country), ("country_code", code), ("region", region), ("city", city),
          ("place_name", .str name), ("lat", .num lat), ("lon", .num lon)] = .ok l := by
  simp only [parse, bind_eq_ok] at h
  obtain ⟨_, -, _, -, country, -, code, -, _, -, _, -, h⟩ := h
  split at h
  · simp only [bind_eq_ok] at h
    obtain ⟨region, -, _, -, _, -, city, -, _, hdisplay, name, hname, hl⟩ := h
    exact ⟨_, _, _, _, _, _, hdisplay, hname, hl⟩
  · simp only [bind_eq_ok] at h
    obtain ⟨region, -, _, -, _, -, city, -, _, hdisplay, name, hname, hl⟩ := h
    exact ⟨_, _, _, _, _, _, hdisplay, hname, hl⟩

/-- A call that writes an entry writes the location that it returns. -/
lemma afterFetch_entry {lax : LaxMode} {cfg : Settings} {lon lat : ℚ} {fetched : Fetched}
    {entry : CacheEntry} (h : (afterFetch lax cfg lon lat fetched).entry = some entry) :
    ∃ location, (afterFetch lax cfg lon lat fetched).result = .ok location ∧
      entry = ⟨cacheKey lon lat, location.modelDump, { seconds := some cfg.cacheTtlSeconds }⟩ := by
  rcases fetched with e | e | data
  · simp [afterFetch] at h
  · simp [afterFetch] at h
  · rcases hparse : parse lax lon lat data with e | location
    · simp [afterFetch, hparse] at h
    · simp only [afterFetch, hparse, Option.some.injEq] at h ⊢
      exact ⟨location, rfl, h.symm⟩

end ImageDescriptor.Geocoder
