/-
# Request and response models

The pydantic models of `app/api/schemas.py`.  A model that is also read back from the cache
has a constructor from the items of a `dict`, with the checks of its fields, and
`modelDump`.  A string field accepts strings only; what a numeric field makes of a value
that is not a number (a numeral in a string, a boolean) is decided by pydantic and is a
parameter.  The text of a `ValidationError` is represented by the path of the field.
-/
import ImageDescriptor.Python.Json

namespace ImageDescriptor

/-- The conversions of pydantic for numeric fields, applied to values that are not numbers;
`none` when the value is rejected. -/
structure LaxMode where
  float : Json → Option ℚ
  int : Json → Option ℤ

/-- The error of the check of one field. -/
def validationError (field : String) : Exc := ⟨.validationError, field⟩

/-- A required field of type `str`. -/
def strField (fields : Fields) (name : String) : Except Exc String :=
  match fields.lookup name with
  | some (.str s) => .ok s
  | _ => .error (validationError name)

/-- A field of type `str | None` with default `None`. -/
def optStrField (fields : Fields) (name : String) : Except Exc (Option String) :=
  match fields.lookup name with
  | none => .ok none
  | some .null => .ok none
  | some (.str s) => .ok (some s)
  | some _ => .error (validationError name)

variable (lax : LaxMode)

/-- A value for a field of type `float`. -/
def floatValue (name : String) : Json → Except Exc ℚ
  | .num q => .ok q
  | v => ((lax.float v).map Except.ok).getD (.error (validationError name))

/-- A value for a field of type `int`: a number must be integral. -/
def intValue (name : String) : Json → Except Exc ℤ
  | .num q => if q.den = 1 then .ok q.num else .error (validationError name)
  | v => ((lax.int v).map Except.ok).getD (.error (validationError name))

/-- A required field of type `float`. -/
def floatField (fields : Fields) (name : String) : Except Exc ℚ :=
  match fields.lookup name with
  | some v => floatValue lax name v
  | none => .error (validationError name)

/-- A field of type `float | None` with default `None`. -/
def optFloatField (fields : Fields) (name : String) : Except Exc (Option ℚ) :=
  match fields.lookup name with
  | none => .ok none
  | some .null => .ok none
  | some v => (floatValue lax name v).map some

/-- A field of type `int | None` with default `None`. -/
def optIntField (fields : Fields) (name : String) : Except Exc (Option ℤ) :=
  match fields.lookup name with
  | none => .ok none
  | some .null => .ok none
  | some v => (intValue lax name v).map some

/-! ### Location -/

structure Location where
  country : String
  countryCode : String
  region : String
  city : Option String
  placeName : String
  lat : ℚ
  lon : ℚ
deriving DecidableEq

namespace Location

/-- `Location(**fields)`. -/
def ofFields (fields : Fields) : Except Exc Location := do
  let country ← strField fields "country"
  let countryCode ← strField fields "country_code"
  let region ← strField fields "region"
  let city ← optStrField fields "city"
  let placeName ← strField fields "place_name"
  let lat ← floatField lax fields "lat"
  let lon ← floatField lax fields "lon"
  return { country, countryCode, region, city, placeName, lat, lon }

/-- `location.model_dump()`. -/
def modelDump (l : Location) : Fields :=
  [("country", .str l.country), ("country_code", .str l.countryCode), ("region", .str l.region),
    ("city", .ofOptStr l.city), ("place_name", .str l.placeName), ("lat", .num l.lat),
    ("lon", .num l.lon)]

@[simp] lemma ofFields_modelDump (l : Location) : ofFields lax l.modelDump = .ok l := by
  rcases l with ⟨country, code, region, _ | city, place, lat, lon⟩ <;> rfl

end Location

/-! ### Land cover -/

structure LandCoverClass where
  type : String
  label : String
  percentage : Option ℚ
deriving DecidableEq

structure LandCover where
  classes : List LandCoverClass
  summary : String
deriving DecidableEq

namespace LandCoverClass

/-- `LandCoverClass` on one element of `classes`. -/
def ofJson : Json → Except Exc LandCoverClass
  | .obj fields => do
    let type ← strField fields "type"
    let label ← strField fields "label"
    let percentage ← optFloatField lax fields "percentage"
    return { type, label, percentage }
  | _ => .error (validationError "classes")

def modelDump (c : LandCoverClass) : Json :=
  .obj [("type", .str c.type), ("label", .str c.label), ("percentage", .ofOptNum c.percentage)]

lemma ofJson_modelDump (c : LandCoverClass) : ofJson lax c.modelDump = .ok c := by
  rcases c with ⟨type, label, _ | percentage⟩ <;> rfl

end LandCoverClass

namespace LandCover

/-- `LandCover(**fields)`. -/
def ofFields (fields : Fields) : Except Exc LandCover := do
  let classes ← match fields.lookup "classes" with
    | some (.arr xs) => xs.mapM (LandCoverClass.ofJson lax)
    | _ => .error (validationError "classes")
  let summary ← strField fields "summary"
  return { classes, summary }

/-- `land_cover.model_dump()`. -/
def modelDump (l : LandCover) : Fields :=
  [("classes", .arr (l.classes.map LandCoverClass.modelDump)), ("summary", .str l.summary)]

@[simp] lemma ofFields_modelDump (l : LandCover) : ofFields lax l.modelDump = .ok l := by
  have h := mapM_map_ok (LandCoverClass.ofJson_modelDump lax) l.classes
  simp [ofFields, modelDump, List.lookup_cons, strField, h, bind, Except.bind, pure, Except.pure]

end LandCover

/-! ### Context -/

structure Event where
  title : String
  date : String
  sourceUrl : String
  relevance : String
deriving DecidableEq

structure Context where
  events : List Event
  summary : String
deriving DecidableEq

namespace Event

/-- `Event` on the items of a `dict`; `relevance` has a default. -/
def ofJson : Json → Except Exc Event
  | .obj fields => do
    let title ← strField fields "title"
    let date ← strField fields "date"
    let sourceUrl ← strField fields "source_url"
    let relevance ← match fields.lookup "relevance" with
      | none => .ok "medium"
      | some _ => strField fields "relevance"
    return { title, date, sourceUrl, relevance }
  | _ => .error (validationError "events")

def modelDump (e : Event) : Json :=
  .obj [("title", .str e.title), ("date", .str e.date), ("source_url", .str e.sourceUrl),
    ("relevance", .str e.relevance)]

lemma ofJson_modelDump (e : Event) : ofJson e.modelDump = .ok e := rfl

end Event

namespace Context

/-- `Context(**fields)`. -/
def ofFields (fields : Fields) : Except Exc Context := do
  let events ← match fields.lookup "events" with
    | some (.arr xs) => xs.mapM Event.ofJson
    | _ => .error (validationError "events")
  let summary ← strField fields "summary"
  return { events, summary }

/-- `context.model_dump()`. -/
def modelDump (c : Context) : Fields :=
  [("events", .arr (c.events.map Event.modelDump)), ("summary", .str c.summary)]

@[simp] lemma ofFields_modelDump (c : Context) : ofFields c.modelDump = .ok c := by
  have h := mapM_map_ok Event.ofJson_modelDump c.events
  simp [ofFields, modelDump, List.lookup_cons, strField, h, bind, Except.bind, pure, Except.pure]

end Context

/-! ### Mission -/

structure Mission where
  platform : String
  instrument : String
  constellation : Option String
  processingLevel : Option String
  cloudCover : Option ℚ
  gsd : Option ℚ
  spectralBands : Option ℤ
deriving DecidableEq

/-- `Mission(**fields)`. -/
def Mission.ofFields (fields : Fields) : Except Exc Mission := do
  let platform ← strField fields "platform"
  let instrument ← strField fields "instrument"
  let constellation ← optStrField fields "constellation"
  let processingLevel ← optStrField fields "processing_level"
  let cloudCover ← optFloatField lax fields "cloud_cover"
  let gsd ← optFloatField lax fields "gsd"
  let spectralBands ← optIntField lax fields "spectral_bands"
  return { platform, instrument, constellation, processingLevel, cloudCover, gsd, spectralBands }

/-! ### The describe request and its response -/

structure Warning where
  module : String
  error : String
deriving DecidableEq

/-- A request that has passed the validation of its fields. -/
structure DescribeRequest where
  thumbnail : String
  /-- `[longitude, latitude]` -/
  coordinates : ℚ × ℚ
  /-- `[west, south, east, north]` -/
  bbox : Option (ℚ × ℚ × ℚ × ℚ)
  capturedAt : Option String
  cogImageId : Option String
  stacId : Option String
deriving DecidableEq

structure DescribeResponse where
  description : Option String := none
  location : Option Location := none
  landCover : Option LandCover := none
  context : Option Context := none
  mission : Option Mission := none
  warnings : List Warning := []
  cached : Bool := false
  saved : Option Bool := none
deriving DecidableEq

end ImageDescriptor
