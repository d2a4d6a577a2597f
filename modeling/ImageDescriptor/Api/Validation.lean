/-
# The two request models

`DescribeRequest` is validated once by `POST /describe`.  An item of a batch is validated
twice: as `BatchDescribeItem` with the body of the request, and its `model_dump` again as
`DescribeRequest` by `_process_one`.  The two models have validators of their own for the same
fields; only the size of the thumbnail is checked by the first alone.

An item is accepted in the one way exactly when it is accepted in the other, with the same
request; the second validation finds nothing but the size of the thumbnail; and a request that
has been accepted carries numbers, within their ranges.
-/
import ImageDescriptor.Lib.Checked
import ImageDescriptor.Python.Floats
import ImageDescriptor.Python.Text
import ImageDescriptor.Api.Schemas

namespace ImageDescriptor

open Lib

/-- What is decided outside the models: the float that pydantic makes of a value that is not
one, `none` when it rejects the value, and whether `datetime.fromisoformat` returns. -/
structure Conversions where
  float : RawValue → Option PyFloat
  fromisoformat : String → Bool

/-- The kinds of errors, with the message of a `ValueError`. -/
inductive FieldFault
  | modelType
  | missing
  | stringType
  | stringTooLong
  | listType
  | tooShort
  | tooLong
  | floatType
  | valueError (message : String)
deriving DecidableEq

/-- One of `e.errors()`, with its path. -/
structure FieldError where
  loc : List String
  fault : FieldFault
deriving DecidableEq

/-- The error of a value inside a field, seen from outside. -/
def FieldError.within (name : String) (e : FieldError) : FieldError := ⟨name :: e.loc, e.fault⟩

/-- The check of a value rejects it. -/
def reject {α : Type} (fault : FieldFault) : Checked FieldError α := .failed ⟨[], fault⟩ []

/-! ### Types of fields -/

/-- A field of type `str`. -/
def strValue : RawValue → Checked FieldError String
  | .str s => .ok s
  | _ => reject .stringType

/-- A field of type `str` with `max_length`. -/
def shortStr (maxLength : ℕ) (v : RawValue) : Checked FieldError String :=
  (strValue v).andThen fun s => if maxLength < s.length then reject .stringTooLong else .ok s

/-- A field of a type with `| None`. -/
def nullable {α : Type} (check : RawValue → Checked FieldError α) :
    RawValue → Checked FieldError (Option α)
  | .null => .ok none
  | v => (check v).map some

variable (conv : Conversions)

/-- A value for a `float`. -/
def rawFloat : RawValue → Checked FieldError PyFloat
  | .float x => .ok x
  | v => match conv.float v with
    | some x => .ok x
    | none => reject .floatType

/-- The elements of a list, from an index on. -/
def floatItems : ℕ → List RawValue → Checked FieldError (List PyFloat)
  | _, [] => .ok []
  | i, v :: vs =>
    (((rawFloat conv v).mapErrors (FieldError.within (toString i))).map List.cons).seq
      (floatItems (i + 1) vs)

/-- A field of type `list[float]` with `min_length` and `max_length`. -/
def floatList (minLength maxLength : ℕ) : RawValue → Checked FieldError (List PyFloat)
  | .list vs =>
    if maxLength < vs.length then reject .tooLong
    else (floatItems conv 0 vs).andThen fun xs =>
      if xs.length < minLength then reject .tooShort else .ok xs
  | _ => reject .listType

/-- A `@field_validator`, which raises a `ValueError` or returns a value. -/
def fieldValidator {α : Type} (validator : α → Except String α) (v : α) : Checked FieldError α :=
  match validator v with
  | .ok w => .ok w
  | .error message => reject (.valueError message)

/-- A field without a default. -/
def requiredField {α : Type} (name : String) (check : RawValue → Checked FieldError α)
    (items : List (String × RawValue)) : Checked FieldError α :=
  ((items.lookup name).elim (reject .missing) check).mapErrors (FieldError.within name)

/-- A field with the default `None`. -/
def optionalField {α : Type} (name : String) (check : RawValue → Checked FieldError (Option α))
    (items : List (String × RawValue)) : Checked FieldError (Option α) :=
  ((items.lookup name).elim (.ok none) check).mapErrors (FieldError.within name)

/-! ### Validators -/

/-- The text of the `ValueError` of an assignment to several names. -/
def unpackError (names length : ℕ) : String :=
  if length < names then
    "not enough values to unpack (expected " ++ toString names ++ ", got " ++ toString length ++ ")"
  else "too many values to unpack (expected " ++ toString names ++ ")"

/-- The body of `validate_coordinates`. -/
def checkCoordinates : List PyFloat → Except String (List PyFloat)
  | [lon, lat] =>
    if !PyFloat.between (-180) lon 180 || !PyFloat.between (-90) lat 90 then
      .error "Invalid coordinates range"
    else .ok [lon, lat]
  | v => .error (unpackError 2 v.length)

/-- The body of `validate_bbox`, for a list. -/
def checkBounds : List PyFloat → Except String (List PyFloat)
  | [west, south, east, north] =>
    if !PyFloat.between (-180) west 180 || !PyFloat.between (-180) east 180 then
      .error "Longitude must be between -180 and 180"
    else if !PyFloat.between (-90) south 90 || !PyFloat.between (-90) north 90 then
      .error "Latitude must be between -90 and 90"
    else if east.le west then .error "west must be less than east"
    else if north.le south then .error "south must be less than north"
    else .ok [west, south, east, north]
  | v => .error (unpackError 4 v.length)

/-- A validator that lets `None` pass. -/
def unlessNone {α : Type} (check : α → Except String α) : Option α → Except String (Option α)
  | none => .ok none
  | some v => (check v).map some

/-- A text after `n` decimal digits. -/
def afterDigits (n : ℕ) (s : List Char) : Option (List Char) :=
  if (s.take n).length = n ∧ (s.take n).all isDecimalDigit then some (s.drop n) else none

/-- A text after one character. -/
def afterChar (c : Char) : List Char → Option (List Char)
  | x :: rest => if x = c then some rest else none
  | [] => none

/-- A text after a group with a question mark, which takes what it can. -/
def afterOptional (group : List Char → Option (List Char)) (s : List Char) : List Char :=
  (group s).getD s

/-- `\.\d+`. -/
def afterFraction (s : List Char) : Option (List Char) := do
  let s ← afterChar '.' s
  let s ← afterDigits 1 s
  return s.dropWhile isDecimalDigit

/-- `:\d{2}(\.\d+)?`. -/
def afterSeconds (s : List Char) : Option (List Char) := do
  let s ← afterChar ':' s
  let s ← afterDigits 2 s
  return afterOptional afterFraction s

/-- `Z|[+-]\d{2}:\d{2}`. -/
def afterZone : List Char → Option (List Char)
  | 'Z' :: s => some s
  | c :: s =>
    if c = '+' ∨ c = '-' then do
      let s ← afterDigits 2 s
      let s ← afterChar ':' s
      afterDigits 2 s
    else none
  | [] => none

/-- `T\d{2}:\d{2}(:\d{2}(\.\d+)?)?(Z|[+-]\d{2}:\d{2})?`. -/
def afterTime (s : List Char) : Option (List Char) := do
  let s ← afterChar 'T' s
  let s ← afterDigits 2 s
  let s ← afterChar ':' s
  let s ← afterDigits 2 s
  return afterOptional afterZone (afterOptional afterSeconds s)

/-- `\d{4}-\d{2}-\d{2}`. -/
def afterDate (s : List Char) : Option (List Char) := do
  let s ← afterDigits 4 s
  let s ← afterChar '-' s
  let s ← afterDigits 2 s
  let s ← afterChar '-' s
  afterDigits 2 s

/-- `_ISO8601_PATTERN.match(v)`.  What follows a group never begins with what the group could
give back, so no match needs another choice; `$` also matches before a line feed at the end. -/
def matchesIso8601 (v : String) : Bool :=
  match (afterDate v.toList).map (afterOptional afterTime) with
  | some rest => decide (rest = [] ∨ rest = ['\n'])
  | none => false

/-- `v.replace("Z", "+00:00")`. -/
def replaceZone (v : String) : String :=
  String.ofList (v.toList.flatMap fun c => if c = 'Z' then "+00:00".toList else [c])

/-- The body of `validate_captured_at`, for a string. -/
def checkCapturedAt (v : String) : Except String String :=
  if !matchesIso8601 v then
    .error "captured_at must be ISO 8601 format (e.g. 2025-01-15 or 2025-01-15T10:30:00Z)"
  else if !conv.fromisoformat (replaceZone v) then
    .error ("captured_at is not a valid date: " ++ v)
  else .ok v

/-! ### The models -/

/-- The fields of an instance of either model. -/
structure ItemData where
  thumbnail : String
  coordinates : List PyFloat
  bbox : Option (List PyFloat)
  capturedAt : Option String
  cogImageId : Option String
  stacId : Option String
deriving DecidableEq

/-- The checks of the fields of a model. -/
structure ItemModel where
  thumbnail : RawValue → Checked FieldError String
  coordinates : RawValue → Checked FieldError (List PyFloat)
  bbox : RawValue → Checked FieldError (Option (List PyFloat))
  capturedAt : RawValue → Checked FieldError (Option String)
  cogImageId : RawValue → Checked FieldError (Option String)
  stacId : RawValue → Checked FieldError (Option String)

/-- The names of the fields. -/
def itemFields : List String :=
  ["thumbnail", "coordinates", "bbox", "captured_at", "cog_image_id", "stac_id"]

/-- `model_validate`.  The errors of all fields are collected, in the order of the fields. -/
def ItemModel.validate (m : ItemModel) : RawValue → Checked FieldError ItemData
  | .dict items =>
    ((((((requiredField "thumbnail" m.thumbnail items).map ItemData.mk).seq
      (requiredField "coordinates" m.coordinates items)).seq
      (optionalField "bbox" m.bbox items)).seq
      (optionalField "captured_at" m.capturedAt items)).seq
      (optionalField "cog_image_id" m.cogImageId items)).seq
      (optionalField "stac_id" m.stacId items)
  | _ => reject .modelType

/-- `model_dump()`. -/
def ItemData.modelDump (d : ItemData) : RawValue :=
  .dict [("thumbnail", .str d.thumbnail), ("coordinates", .ofFloats d.coordinates),
    ("bbox", .ofOption .ofFloats d.bbox), ("captured_at", .ofOption .str d.capturedAt),
    ("cog_image_id", .ofOption .str d.cogImageId), ("stac_id", .ofOption .str d.stacId)]

def cogImageIdMaxLength : ℕ := 128

namespace DescribeRequest

def maxSize : ℕ := 5 * 1024 * 1024

/-- The thumbnail is no URL, and longer than 5 MB. -/
def TooLarge (thumbnail : String) : Prop :=
  ¬ "http".toList <+: thumbnail.toList ∧ maxSize < thumbnail.length

instance (thumbnail : String) : Decidable (TooLarge thumbnail) :=
  inferInstanceAs (Decidable (_ ∧ _))

def tooLargeMessage (thumbnail : String) : String :=
  "Thumbnail too large (max 5MB, got " ++ toString thumbnail.length ++ " bytes)"

def validateThumbnailSize (v : String) : Except String String :=
  if TooLarge v then .error (tooLargeMessage v) else .ok v

def validateCoordinates : List PyFloat → Except String (List PyFloat) := checkCoordinates

def validateBbox : Option (List PyFloat) → Except String (Option (List PyFloat)) :=
  unlessNone checkBounds

def validateCapturedAt : Option String → Except String (Option String) :=
  unlessNone (checkCapturedAt conv)

def model : ItemModel where
  thumbnail v := (strValue v).andThen (fieldValidator validateThumbnailSize)
  coordinates v := (floatList conv 2 2 v).andThen (fieldValidator validateCoordinates)
  bbox v := (nullable (floatList conv 4 4) v).andThen (fieldValidator validateBbox)
  capturedAt v := (nullable strValue v).andThen (fieldValidator (validateCapturedAt conv))
  cogImageId := nullable (shortStr cogImageIdMaxLength)
  stacId := nullable strValue

/-- `DescribeRequest.model_validate`. -/
def modelValidate : RawValue → Checked FieldError ItemData := (model conv).validate

end DescribeRequest

namespace BatchDescribeItem

def validateCoordinates : List PyFloat → Except String (List PyFloat) := checkCoordinates

def validateBbox : Option (List PyFloat) → Except String (Option (List PyFloat)) :=
  unlessNone checkBounds

def validateCapturedAt : Option String → Except String (Option String) :=
  unlessNone (checkCapturedAt conv)

def model : ItemModel where
  thumbnail := strValue
  coordinates v := (floatList conv 2 2 v).andThen (fieldValidator validateCoordinates)
  bbox v := (nullable (floatList conv 4 4) v).andThen (fieldValidator validateBbox)
  capturedAt v := (nullable strValue v).andThen (fieldValidator (validateCapturedAt conv))
  cogImageId := nullable (shortStr cogImageIdMaxLength)
  stacId := nullable strValue

/-- The validation of an item of `BatchDescribeRequest`. -/
def modelValidate : RawValue → Checked FieldError ItemData := (model conv).validate

end BatchDescribeItem

/-! ### What an accepted value dumps to -/

section Stable

variable {α : Type} {check : RawValue → Checked FieldError α} {dump : α → RawValue}

/-- A check accepts what its results dump to, and gives the same results. -/
def Stable (check : RawValue → Checked FieldError α) (dump : α → RawValue) : Prop :=
  ∀ v a, check v = .ok a → check (dump a) = .ok a

/-- A validator returns the value that it was given. -/
def Keeps (validator : α → Except String α) : Prop := ∀ v w, validator v = .ok w → w = v

lemma stable_strValue : Stable strValue .str := fun _ _ _ => rfl

lemma stable_shortStr (maxLength : ℕ) : Stable (shortStr maxLength) .str := by
  intro v s h
  obtain ⟨s', -, hs'⟩ := Checked.andThen_eq_ok.mp h
  split at hs'
  · cases hs'
  · rename_i hshort
    cases hs'
    rw [shortStr, strValue, Checked.ok_andThen, if_neg hshort]

lemma floatItems_float (i : ℕ) (xs : List PyFloat) :
    floatItems conv i (xs.map .float) = .ok xs := by
  induction xs generalizing i with
  | nil => rfl
  | cons x xs ih => simp [floatItems, rawFloat, ih]

lemma length_floatItems {i : ℕ} {vs : List RawValue} {xs : List PyFloat}
    (h : floatItems conv i vs = .ok xs) : xs.length = vs.length := by
  induction vs generalizing i xs with
  | nil =>
    cases h
    rfl
  | cons v vs ih =>
    obtain ⟨g, ys, hg, hys, rfl⟩ := Checked.seq_eq_ok.mp h
    obtain ⟨y, -, rfl⟩ := Checked.map_eq_ok.mp hg
    rw [List.length_cons, List.length_cons, ih hys]

lemma stable_floatList (minLength maxLength : ℕ) :
    Stable (floatList conv minLength maxLength) .ofFloats := by
  intro v xs h
  unfold floatList at h
  split at h
  · split at h
    · cases h
    · rename_i vs hmax
      obtain ⟨ys, hys, h⟩ := Checked.andThen_eq_ok.mp h
      split at h
      · cases h
      · rename_i hmin
        cases h
        rw [← length_floatItems conv hys] at hmax
        simp only [RawValue.ofFloats, floatList, List.length_map, if_neg hmax,
          floatItems_float, Checked.ok_andThen, if_neg hmin]
  · cases h

lemma nullable_of_ne {v : RawValue} (hv : v ≠ .null) :
    nullable check v = (check v).map some := by
  cases v <;> first | rfl | exact absurd rfl hv

/-- So does a check of a type with `None`. -/
lemma Stable.nullable (h : Stable check dump) (hdump : ∀ a, dump a ≠ .null) :
    Stable (nullable check) (.ofOption dump) := by
  intro v a hv
  cases a with
  | none => rfl
  | some a =>
    have hne : v ≠ .null := by
      rintro rfl
      cases hv
    rw [nullable_of_ne hne] at hv
    obtain ⟨a', ha', hsome⟩ := Checked.map_eq_ok.mp hv
    cases hsome
    rw [RawValue.ofOption, nullable_of_ne (hdump a), h v a ha']
    rfl

lemma fieldValidator_eq_ok {validator : α → Except String α} {v w : α} :
    fieldValidator validator v = .ok w ↔ validator v = .ok w := by
  unfold fieldValidator
  rcases validator v with message | w' <;> simp [reject]

/-- And a check that a validator follows. -/
lemma Stable.andThen (h : Stable check dump) {validator : α → Except String α}
    (hkeeps : Keeps validator) :
    Stable (fun v => (check v).andThen (fieldValidator validator)) dump := by
  intro v a hv
  obtain ⟨a', ha', hvalid⟩ := Checked.andThen_eq_ok.mp hv
  obtain rfl := hkeeps a' a (fieldValidator_eq_ok.mp hvalid)
  simp only [h v a ha', Checked.ok_andThen, hvalid]

/-! ### What the validators accept -/

/-- The coordinates that are accepted are numbers within their ranges. -/
lemma of_checkCoordinates {v w : List PyFloat} (h : checkCoordinates v = .ok w) : w = v ∧
    ∃ lon lat : ℚ, v = [.finite lon, .finite lat] ∧
      (-180 ≤ lon ∧ lon ≤ 180) ∧ -90 ≤ lat ∧ lat ≤ 90 := by
  unfold checkCoordinates at h
  split at h
  · split at h
    · cases h
    · rename_i hrange
      cases h
      simp only [Bool.or_eq_true, Bool.not_eq_true', not_or, Bool.not_eq_false,
        PyFloat.between_eq_true] at hrange
      obtain ⟨⟨lon, rfl, hlon⟩, lat, rfl, hlat⟩ := hrange
      exact ⟨rfl, lon, lat, rfl, hlon, hlat⟩
  · cases h

/-- So are the bounds, and they stand in order. -/
lemma of_checkBounds {v w : List PyFloat} (h : checkBounds v = .ok w) : w = v ∧
    ∃ west south east north : ℚ,
      v = [.finite west, .finite south, .finite east, .finite north] ∧
      -180 ≤ west ∧ west < east ∧ east ≤ 180 ∧ -90 ≤ south ∧ south < north ∧ north ≤ 90 := by
  unfold checkBounds at h
  split at h
  · split at h
    · cases h
    · rename_i hlon
      split at h
      · cases h
      · rename_i hlat
        simp only [Bool.or_eq_true, Bool.not_eq_true', not_or, Bool.not_eq_false,
          PyFloat.between_eq_true] at hlon hlat
        obtain ⟨⟨west, rfl, hwest⟩, east, rfl, heast⟩ := hlon
        obtain ⟨⟨south, rfl, hsouth⟩, north, rfl, hnorth⟩ := hlat
        simp only [PyFloat.le_finite, decide_eq_true_eq] at h
        split at h
        · cases h
        · rename_i horder
          split at h
          · cases h
          · rename_i horder'
            cases h
            exact ⟨rfl, west, south, east, north, rfl, hwest.1, lt_of_not_ge horder, heast.2,
              hsouth.1, lt_of_not_ge horder', hnorth.2⟩
  · cases h

lemma keeps_checkCoordinates : Keeps checkCoordinates := fun _ _ h => (of_checkCoordinates h).1

lemma keeps_checkBounds : Keeps checkBounds := fun _ _ h => (of_checkBounds h).1

lemma keeps_checkCapturedAt : Keeps (checkCapturedAt conv) := by
  intro v w h
  unfold checkCapturedAt at h
  split at h
  · cases h
  · split at h <;> cases h
    rfl

lemma unlessNone_some_eq_ok {validator : α → Except String α} {v : α} {w : Option α}
    (h : unlessNone validator (some v) = .ok w) : ∃ w', validator v = .ok w' ∧ w = some w' := by
  rcases hv : validator v with message | w' <;> simp only [unlessNone, hv] at h <;> cases h
  exact ⟨w', rfl, rfl⟩

lemma Keeps.unlessNone {validator : α → Except String α} (h : Keeps validator) :
    Keeps (unlessNone validator) := by
  intro v w hw
  cases v with
  | none =>
    cases hw
    rfl
  | some v =>
    obtain ⟨w', hw', rfl⟩ := unlessNone_some_eq_ok hw
    rw [h v w' hw']

end Stable

/-! ### The two validations -/

section Models

variable {m : ItemModel} {raw : RawValue} {items : List (String × RawValue)} {d : ItemData}

/-- Every field of a model is accepted. -/
structure ItemModel.Accepts (m : ItemModel) (items : List (String × RawValue)) (d : ItemData) :
    Prop where
  thumbnail : requiredField "thumbnail" m.thumbnail items = .ok d.thumbnail
  coordinates : requiredField "coordinates" m.coordinates items = .ok d.coordinates
  bbox : optionalField "bbox" m.bbox items = .ok d.bbox
  capturedAt : optionalField "captured_at" m.capturedAt items = .ok d.capturedAt
  cogImageId : optionalField "cog_image_id" m.cogImageId items = .ok d.cogImageId
  stacId : optionalField "stac_id" m.stacId items = .ok d.stacId

lemma ItemModel.validate_eq_ok :
    m.validate raw = .ok d ↔ ∃ items, raw = .dict items ∧ m.Accepts items d := by
  constructor
  · intro h
    unfold ItemModel.validate at h
    split at h
    · rename_i items
      obtain ⟨_, stacId, h₁, hstac, rfl⟩ := Checked.seq_eq_ok.mp h
      obtain ⟨_, cogImageId, h₂, hcog, rfl⟩ := Checked.seq_eq_ok.mp h₁
      obtain ⟨_, capturedAt, h₃, hcaptured, rfl⟩ := Checked.seq_eq_ok.mp h₂
      obtain ⟨_, bbox, h₄, hbbox, rfl⟩ := Checked.seq_eq_ok.mp h₃
      obtain ⟨_, coordinates, h₅, hcoordinates, rfl⟩ := Checked.seq_eq_ok.mp h₄
      obtain ⟨thumbnail, hthumbnail, rfl⟩ := Checked.map_eq_ok.mp h₅
      exact ⟨items, rfl, hthumbnail, hcoordinates, hbbox, hcaptured, hcog, hstac⟩
    · cases h
  · rintro ⟨items, rfl, h⟩
    simp only [ItemModel.validate, h.thumbnail, h.coordinates, h.bbox, h.capturedAt,
      h.cogImageId, h.stacId, Checked.map_ok, Checked.ok_seq]

/-- The validation where all fields but the thumbnail are accepted. -/
lemma ItemModel.validate_dict
    (hcoordinates : requiredField "coordinates" m.coordinates items = .ok d.coordinates)
    (hbbox : optionalField "bbox" m.bbox items = .ok d.bbox)
    (hcaptured : optionalField "captured_at" m.capturedAt items = .ok d.capturedAt)
    (hcog : optionalField "cog_image_id" m.cogImageId items = .ok d.cogImageId)
    (hstac : optionalField "stac_id" m.stacId items = .ok d.stacId) :
    m.validate (.dict items) = (requiredField "thumbnail" m.thumbnail items).map
      fun thumbnail => { d with thumbnail := thumbnail } := by
  simp only [ItemModel.validate, hcoordinates, hbbox, hcaptured, hcog, hstac, Checked.seq_ok,
    Checked.map_map]

variable {α : Type} {name : String} {e : FieldError}

lemma named_of_requiredField {check : RawValue → Checked FieldError α}
    (h : e ∈ (requiredField name check items).errors) : ∃ rest, e.loc = name :: rest := by
  rw [requiredField, Checked.errors_mapErrors] at h
  obtain ⟨e', -, rfl⟩ := List.mem_map.mp h
  exact ⟨e'.loc, rfl⟩

lemma named_of_optionalField {check : RawValue → Checked FieldError (Option α)}
    (h : e ∈ (optionalField name check items).errors) : ∃ rest, e.loc = name :: rest := by
  rw [optionalField, Checked.errors_mapErrors] at h
  obtain ⟨e', -, rfl⟩ := List.mem_map.mp h
  exact ⟨e'.loc, rfl⟩

/-- **Every error names the field that it is about.** -/
theorem ItemModel.error_names_field (h : e ∈ (m.validate (.dict items)).errors) :
    ∃ name ∈ itemFields, ∃ rest, e.loc = name :: rest := by
  simp only [ItemModel.validate, Checked.errors_seq, Checked.errors_map, List.mem_append] at h
  rcases h with ((((h | h) | h) | h) | h) | h
  · exact ⟨"thumbnail", by simp [itemFields], named_of_requiredField h⟩
  · exact ⟨"coordinates", by simp [itemFields], named_of_requiredField h⟩
  · exact ⟨"bbox", by simp [itemFields], named_of_optionalField h⟩
  · exact ⟨"captured_at", by simp [itemFields], named_of_optionalField h⟩
  · exact ⟨"cog_image_id", by simp [itemFields], named_of_optionalField h⟩
  · exact ⟨"stac_id", by simp [itemFields], named_of_optionalField h⟩

lemma requiredField_eq_ok {check : RawValue → Checked FieldError α} {a : α} :
    requiredField name check items = .ok a ↔
      ∃ v, items.lookup name = some v ∧ check v = .ok a := by
  rw [requiredField, Checked.mapErrors_eq_ok]
  rcases items.lookup name with _ | v <;> simp [reject]

lemma optionalField_eq_ok {check : RawValue → Checked FieldError (Option α)} {a : Option α} :
    optionalField name check items = .ok a ↔
      (items.lookup name = none ∧ a = none) ∨
        ∃ v, items.lookup name = some v ∧ check v = .ok a := by
  rw [optionalField, Checked.mapErrors_eq_ok]
  rcases items.lookup name with _ | v
  · simp [eq_comm]
  · simp

/-- What a field with a default has accepted is accepted again. -/
lemma Stable.optionalField {check : RawValue → Checked FieldError (Option α)}
    {dump : α → RawValue} {a : Option α} {items' : List (String × RawValue)}
    (h : Stable check (.ofOption dump)) (hnone : check .null = .ok none)
    (ha : optionalField name check items = .ok a)
    (hdump : items'.lookup name = some (.ofOption dump a)) :
    optionalField name check items' = .ok a := by
  rw [optionalField_eq_ok]
  right
  rcases optionalField_eq_ok.mp ha with ⟨-, rfl⟩ | ⟨v, -, hv⟩
  · exact ⟨_, hdump, hnone⟩
  · exact ⟨_, hdump, h v a hv⟩

variable {conv : Conversions}

/-- An item of a batch is validated again: only the size of the thumbnail is new. -/
lemma modelValidate_modelDump (h : BatchDescribeItem.modelValidate conv raw = .ok d) :
    DescribeRequest.modelValidate conv d.modelDump =
      if DescribeRequest.TooLarge d.thumbnail then
        .failed ⟨["thumbnail"], .valueError (DescribeRequest.tooLargeMessage d.thumbnail)⟩ []
      else .ok d := by
  obtain ⟨items, -, haccepts⟩ := ItemModel.validate_eq_ok.mp h
  rw [DescribeRequest.modelValidate, ItemData.modelDump, ItemModel.validate_dict (d := d)]
  · simp only [requiredField, List.lookup_cons_self, Option.elim, DescribeRequest.model,
      strValue, Checked.ok_andThen, fieldValidator, DescribeRequest.validateThumbnailSize]
    by_cases hsize : DescribeRequest.TooLarge d.thumbnail
    · rw [if_pos hsize, if_pos hsize]
      rfl
    · rw [if_neg hsize, if_neg hsize]
      rfl
  · obtain ⟨v, -, hv⟩ := requiredField_eq_ok.mp haccepts.coordinates
    exact requiredField_eq_ok.mpr ⟨.ofFloats d.coordinates, rfl,
      ((stable_floatList conv 2 2).andThen keeps_checkCoordinates) v _ hv⟩
  · exact Stable.optionalField (((stable_floatList conv 4 4).nullable fun _ => by
      simp [RawValue.ofFloats]).andThen keeps_checkBounds.unlessNone) rfl haccepts.bbox rfl
  · exact Stable.optionalField ((stable_strValue.nullable fun _ => by simp).andThen
      (keeps_checkCapturedAt conv).unlessNone) rfl haccepts.capturedAt rfl
  · exact Stable.optionalField ((stable_shortStr _).nullable fun _ => by simp) rfl
      haccepts.cogImageId rfl
  · exact Stable.optionalField (stable_strValue.nullable fun _ => by simp) rfl
      haccepts.stacId rfl

/-- The request model accepts what the model of the items does, but for the size of the
thumbnail. -/
lemma modelValidate_eq_ok : DescribeRequest.modelValidate conv raw = .ok d ↔
    BatchDescribeItem.modelValidate conv raw = .ok d ∧ ¬ DescribeRequest.TooLarge d.thumbnail := by
  rw [DescribeRequest.modelValidate, BatchDescribeItem.modelValidate, ItemModel.validate_eq_ok,
    ItemModel.validate_eq_ok]
  constructor
  · rintro ⟨items, rfl, h⟩
    obtain ⟨v, hv, hthumbnail⟩ := requiredField_eq_ok.mp h.thumbnail
    obtain ⟨t, ht, hsize⟩ := Checked.andThen_eq_ok.mp hthumbnail
    rw [fieldValidator_eq_ok, DescribeRequest.validateThumbnailSize] at hsize
    split at hsize <;> cases hsize
    rename_i hsmall
    exact ⟨⟨items, rfl, requiredField_eq_ok.mpr ⟨v, hv, ht⟩, h.coordinates, h.bbox, h.capturedAt,
      h.cogImageId, h.stacId⟩, hsmall⟩
  · rintro ⟨⟨items, rfl, h⟩, hsmall⟩
    obtain ⟨v, hv, ht⟩ := requiredField_eq_ok.mp h.thumbnail
    refine ⟨items, rfl, requiredField_eq_ok.mpr ⟨v, hv, ?_⟩, h.coordinates, h.bbox, h.capturedAt,
      h.cogImageId, h.stacId⟩
    refine Checked.andThen_eq_ok.mpr ⟨d.thumbnail, ht, ?_⟩
    rw [fieldValidator_eq_ok, DescribeRequest.validateThumbnailSize, if_neg hsmall]

end Models

/-! ### Any raw item -/

/-- The instance of a request whose coordinates and bounds are numbers. -/
def ItemData.ofRequest (r : DescribeRequest) : ItemData where
  thumbnail := r.thumbnail
  coordinates := [.finite r.coordinates.1, .finite r.coordinates.2]
  bbox := r.bbox.map fun (west, south, east, north) =>
    [.finite west, .finite south, .finite east, .finite north]
  capturedAt := r.capturedAt
  cogImageId := r.cogImageId
  stacId := r.stacId

/-- The coordinates and the bounds of a request are within their ranges, and the bounds stand
in order. -/
structure DescribeRequest.InRange (r : DescribeRequest) : Prop where
  lon : -180 ≤ r.coordinates.1 ∧ r.coordinates.1 ≤ 180
  lat : -90 ≤ r.coordinates.2 ∧ r.coordinates.2 ≤ 90
  bbox : ∀ west south east north, r.bbox = some (west, south, east, north) →
    -180 ≤ west ∧ west < east ∧ east ≤ 180 ∧ -90 ≤ south ∧ south < north ∧ north ≤ 90

variable {raw : RawValue} {d : ItemData}

lemma coordinates_of_accepted (h : BatchDescribeItem.modelValidate conv raw = .ok d) :
    ∃ lon lat : ℚ, d.coordinates = [.finite lon, .finite lat] ∧
      (-180 ≤ lon ∧ lon ≤ 180) ∧ -90 ≤ lat ∧ lat ≤ 90 := by
  obtain ⟨items, -, haccepts⟩ := ItemModel.validate_eq_ok.mp h
  obtain ⟨v, -, hv⟩ := requiredField_eq_ok.mp haccepts.coordinates
  obtain ⟨xs, -, hxs⟩ := Checked.andThen_eq_ok.mp hv
  obtain ⟨hkept, hrange⟩ := of_checkCoordinates (fieldValidator_eq_ok.mp hxs)
  rwa [hkept]

lemma bbox_of_accepted (h : BatchDescribeItem.modelValidate conv raw = .ok d) {xs : List PyFloat}
    (hxs : d.bbox = some xs) : ∃ west south east north : ℚ,
      xs = [.finite west, .finite south, .finite east, .finite north] ∧
      -180 ≤ west ∧ west < east ∧ east ≤ 180 ∧ -90 ≤ south ∧ south < north ∧ north ≤ 90 := by
  obtain ⟨items, -, haccepts⟩ := ItemModel.validate_eq_ok.mp h
  have hbbox := haccepts.bbox
  rw [hxs] at hbbox
  rcases optionalField_eq_ok.mp hbbox with ⟨-, hnone⟩ | ⟨v, -, hv⟩
  · cases hnone
  · obtain ⟨given, -, hgiven⟩ := Checked.andThen_eq_ok.mp hv
    rw [fieldValidator_eq_ok] at hgiven
    cases given with
    | none => cases hgiven
    | some ys =>
      obtain ⟨zs, hzs, hsome⟩ := unlessNone_some_eq_ok hgiven
      cases hsome
      obtain ⟨rfl, hbounds⟩ := of_checkBounds hzs
      exact hbounds

/-- An accepted item carries numbers, within their ranges. -/
lemma exists_request_of_accepted (h : BatchDescribeItem.modelValidate conv raw = .ok d) :
    ∃ request, d = .ofRequest request ∧ request.InRange := by
  obtain ⟨lon, lat, hcoordinates, hlon, hlat⟩ := coordinates_of_accepted conv h
  rcases d with ⟨thumbnail, coordinates, bbox, capturedAt, cogImageId, stacId⟩
  obtain rfl : coordinates = _ := hcoordinates
  cases bbox with
  | none =>
    exact ⟨⟨thumbnail, (lon, lat), none, capturedAt, cogImageId, stacId⟩, rfl, hlon, hlat,
      fun _ _ _ _ hbbox => by cases hbbox⟩
  | some xs =>
    obtain ⟨west, south, east, north, rfl, hbounds⟩ := bbox_of_accepted conv h rfl
    refine ⟨⟨thumbnail, (lon, lat), some (west, south, east, north), capturedAt, cogImageId,
      stacId⟩, rfl, hlon, hlat, fun _ _ _ _ hbbox => ?_⟩
    cases hbbox
    exact hbounds

/-- What is asked of the two ways in which a raw item is validated. -/
structure ValidatesAlike (conv : Conversions) (raw : RawValue) : Prop where
  /-- the routes accept the same items, and hand over the same request -/
  alike : ∀ r, DescribeRequest.modelValidate conv raw = .ok r ↔
    ∃ item, BatchDescribeItem.modelValidate conv raw = .ok item ∧
      DescribeRequest.modelValidate conv item.modelDump = .ok r
  /-- the second validation of an item finds nothing but the size of its thumbnail -/
  onlySize : ∀ item, BatchDescribeItem.modelValidate conv raw = .ok item →
    ∀ e ∈ (DescribeRequest.modelValidate conv item.modelDump).errors,
      DescribeRequest.TooLarge item.thumbnail ∧
        e = ⟨["thumbnail"], .valueError (DescribeRequest.tooLargeMessage item.thumbnail)⟩
  /-- a request that has been accepted carries numbers, within their ranges -/
  inRange : ∀ r, DescribeRequest.modelValidate conv raw = .ok r →
    ∃ request, r = .ofRequest request ∧ request.InRange

/-- **The two request models agree on every raw item.** -/
theorem validatesAlike (conv : Conversions) (raw : RawValue) : ValidatesAlike conv raw where
  alike r := by
    rw [modelValidate_eq_ok]
    constructor
    · rintro ⟨hitem, hsmall⟩
      exact ⟨r, hitem, by rw [modelValidate_modelDump hitem, if_neg hsmall]⟩
    · rintro ⟨item, hitem, hagain⟩
      rw [modelValidate_modelDump hitem] at hagain
      split at hagain <;> cases hagain
      rename_i hsmall
      exact ⟨hitem, hsmall⟩
  onlySize item hitem e he := by
    rw [modelValidate_modelDump hitem] at he
    split at he
    · rename_i hlarge
      exact ⟨hlarge, List.mem_singleton.mp he⟩
    · cases he
  inRange r h := exists_request_of_accepted conv (modelValidate_eq_ok.mp h).1

/-- Coordinates on the border of their ranges, beside a field that neither model has. -/
example : DescribeRequest.modelValidate ⟨fun _ => none, fun _ => true⟩ (.dict
    [("thumbnail", .str "dGVzdA=="), ("coordinates", .ofFloats [.finite (-180), .finite 90]),
      ("captured_at", .str "2025-01-15T10:30:00Z"), ("note", .null)]) =
    .ok (.ofRequest ⟨"dGVzdA==", (-180, 90), none, "2025-01-15T10:30:00Z", none, none⟩) := by
  decide +kernel

end ImageDescriptor
