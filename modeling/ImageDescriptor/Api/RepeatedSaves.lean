/-
# Repeated saves of one image

`save_description` sends the columns of the location, the land cover and the context only when
the value is there, and the upsert replaces only the columns that are sent.  So a row is
that of its last save alone exactly when the parts that the last save lacks were not there
before; otherwise it shows the place of an earlier request beside the coordinates and the
description of the last one.
-/
import ImageDescriptor.Api.StoredDescriptions

namespace ImageDescriptor

open Lib Db

/-- The arguments of a call of `save_description`, besides the image. -/
structure Save where
  coordinates : ℚ × ℚ
  capturedAt : Option String
  location : Option Fields
  landCover : Option Fields
  description : Option String
  context : Option Fields

/-- The parts that a call may lack. -/
inductive Part
  | location
  | landCover
  | context
deriving DecidableEq, Repr

/-- The columns of a part, each with the key of its value. -/
def Part.columns : Part → List (String × String)
  | location =>
    [("country", "country"), ("country_code", "country_code"), ("region", "region"),
      ("city", "city"), ("place_name", "place_name")]
  | landCover => [("land_cover_json", "classes"), ("land_cover_summary", "summary")]
  | context => [("context_json", "events"), ("context_summary", "summary")]

namespace Save

/-- The columns that are sent. -/
def row (id : String) (sv : Save) : Row :=
  saveRow id sv.coordinates sv.capturedAt sv.location sv.landCover sv.description sv.context

/-- The part as it is tested by `if location:`: an empty `dict` counts as none. -/
def given (sv : Save) (part : Part) : Option Fields :=
  (match part with
    | .location => sv.location
    | .landCover => sv.landCover
    | .context => sv.context).filter fun fields => !fields.isEmpty

end Save

/-- The value of a column, null when there is none. -/
def Db.Row.column (row : Row) (name : String) : Json := (row.lookup name).getD .null

/-- The value that is stored for an image in a column. -/
def storedColumn (rows : Table String Row) (id name : String) : Json :=
  ((rows.lookup id).map fun row => Row.column row name).getD .null

/-- A call of `save_description` whose upsert has been carried out. -/
def saveOne (id : String) (rows : Table String Row) (sv : Save) : Table String Row :=
  rows.insert id (Row.upsert (sv.row id) (rows.lookup id))

/-- The table after calls of `save_description` for one image. -/
def saveAll (rows : Table String Row) (id : String) (saves : List Save) : Table String Row :=
  saves.foldl (saveOne id) rows

/-- The answer to the query of `get_description`. -/
def selectOne (rows : Table String Row) (id : String) : Answer := ⟨(rows.lookup id).toList, none⟩

/-- Every column holds the value of the call, or null where the call has none. -/
structure OfSaveAlone (id : String) (sv : Save) (row : Row) : Prop where
  cogImageId : Row.column row "cog_image_id" = .str id
  coordinates : Row.column row "coordinates" =
    .arr [.num sv.coordinates.1, .num sv.coordinates.2]
  capturedAt : Row.column row "captured_at" = .ofOptStr sv.capturedAt
  description : Row.column row "description" = .ofOptStr sv.description
  parts : ∀ part : Part, ∀ c ∈ part.columns,
    Row.column row c.1 = ((sv.given part).bind fun fields => fields.lookup c.2).getD .null

/-- What the latest of some calls that has a part has stored in one of its columns. -/
def latestValue (rows : Table String Row) (id : String) (saves : List Save) (part : Part)
    (c : String × String) : Json :=
  ((saves.filterMap fun sv => sv.given part).getLast?.map fun fields =>
    (fields.lookup c.2).getD .null).getD (storedColumn rows id c.1)

/-- The parts that the last call lacks have left nothing: the latest earlier call that has
one has stored nulls in its columns, or there was no such call and they were null before. -/
def LeavesNothing (rows : Table String Row) (id : String) (earlier : List Save) (last : Save) :
    Prop :=
  ∀ part : Part, last.given part = none → ∀ c ∈ part.columns,
    latestValue rows id earlier part c = .null

/-! ### One save -/

/-- The last value that is there wins. -/
lemma foldl_getD {α β : Type} (f : α → Option β) (xs : List α) (v : β) :
    xs.foldl (fun v x => (f x).getD v) v = (xs.filterMap f).getLast?.getD v := by
  induction xs generalizing v with
  | nil => rfl
  | cons x xs ih =>
    rw [List.foldl_cons, ih]
    rcases hx : f x with _ | w
    · simp [hx]
    · simp [hx, List.getLast?_cons]

/-- The columns that are sent for a part. -/
def Save.partRow (sv : Save) (part : Part) : Row :=
  match sv.given part with
  | some fields => part.columns.map fun c => (c.1, (fields.lookup c.2).getD .null)
  | none => []

lemma row_eq (id : String) (sv : Save) :
    sv.row id =
      [("cog_image_id", .str id),
        ("coordinates", .arr [.num sv.coordinates.1, .num sv.coordinates.2]),
        ("captured_at", .ofOptStr sv.capturedAt), ("description", .ofOptStr sv.description)] ++
      sv.partRow .location ++ sv.partRow .landCover ++ sv.partRow .context := by
  obtain ⟨coordinates, capturedAt, location, landCover, description, context⟩ := sv
  rcases location with _ | _ | ⟨f, fs⟩ <;> rcases landCover with _ | _ | ⟨g, gs⟩ <;>
    rcases context with _ | _ | ⟨h, hs⟩ <;> rfl

lemma lookup_columns {cols : List (String × String)} (hnodup : (cols.map Prod.fst).Nodup)
    (g : String × String → Json) {c : String × String} (hc : c ∈ cols) :
    (cols.map fun c => (c.1, g c)).lookup c.1 = some (g c) := by
  induction cols with
  | nil => cases hc
  | cons d cols ih =>
    rw [List.map_cons, List.nodup_cons] at hnodup
    rcases List.mem_cons.mp hc with rfl | hc
    · simp
    · have hne : c.1 ≠ d.1 := fun heq => hnodup.1 (heq ▸ List.mem_map_of_mem hc)
      rw [List.map_cons, List.lookup_cons, beq_false_of_ne hne]
      exact ih hnodup.2 hc

lemma lookup_columns_of_not_mem {cols : List (String × String)} {name : String}
    (hname : name ∉ cols.map Prod.fst) (g : String × String → Json) :
    (cols.map fun c => (c.1, g c)).lookup name = none := by
  rw [List.lookup_eq_none_iff]
  intro p hp
  obtain ⟨c, hc, rfl⟩ := List.mem_map.mp hp
  have hne : name ≠ c.1 := fun heq => hname (heq ▸ List.mem_map_of_mem hc)
  simpa using hne

lemma lookup_partRow_of_not_mem (sv : Save) {part : Part} {name : String}
    (hname : name ∉ part.columns.map Prod.fst) : (sv.partRow part).lookup name = none := by
  unfold Save.partRow
  split
  · exact lookup_columns_of_not_mem hname _
  · rfl

lemma lookup_partRow (sv : Save) {part : Part} {c : String × String} (hc : c ∈ part.columns) :
    (sv.partRow part).lookup c.1 =
      (sv.given part).map fun fields => (fields.lookup c.2).getD .null := by
  have hnodup : (part.columns.map Prod.fst).Nodup := by cases part <;> decide
  unfold Save.partRow
  rcases hgiven : sv.given part with _ | fields
  · rfl
  · exact lookup_columns hnodup _ hc

/-- The parts have no column in common, and the other four columns belong to none. -/
lemma column_of_part {part : Part} {c : String × String} (hc : c ∈ part.columns) :
    (∀ part', part' ≠ part → c.1 ∉ part'.columns.map Prod.fst) ∧
      c.1 ∉ ["cog_image_id", "coordinates", "captured_at", "description"] := by
  constructor
  · intro part' hne
    have hdisjoint : ∀ c ∈ part.columns, c.1 ∉ part'.columns.map Prod.fst := by
      cases part <;> cases part' <;> first | exact absurd rfl hne | decide
    exact hdisjoint c hc
  · have hdisjoint : ∀ c ∈ part.columns,
        c.1 ∉ ["cog_image_id", "coordinates", "captured_at", "description"] := by
      cases part <;> decide
    exact hdisjoint c hc

/-- What is sent in the columns of a part. -/
lemma lookup_row (id : String) (sv : Save) {part : Part} {c : String × String}
    (hc : c ∈ part.columns) : (sv.row id).lookup c.1 =
      (sv.given part).map fun fields => (fields.lookup c.2).getD .null := by
  obtain ⟨hothers, hown⟩ := column_of_part hc
  simp only [List.mem_cons, List.not_mem_nil, or_false, not_or] at hown
  have hbase : List.lookup c.1 [("cog_image_id", Json.str id),
      ("coordinates", .arr [.num sv.coordinates.1, .num sv.coordinates.2]),
      ("captured_at", .ofOptStr sv.capturedAt), ("description", .ofOptStr sv.description)] =
      none := by
    rw [List.lookup_eq_none_iff]
    simp [hown]
  have hpart : ∀ part', (sv.partRow part').lookup c.1 = if part' = part then
      (sv.given part).map fun fields => (fields.lookup c.2).getD .null else none := by
    intro part'
    by_cases heq : part' = part
    · subst heq
      rw [if_pos rfl, lookup_partRow sv hc]
    · rw [if_neg heq, lookup_partRow_of_not_mem sv (hothers part' heq)]
  rw [row_eq]
  simp only [List.lookup_append, hbase, hpart]
  cases part <;> simp

/-! ### The row after several saves -/

lemma storedColumn_saveOne (rows : Table String Row) (id name : String) (sv : Save) :
    storedColumn (saveOne id rows sv) id name =
      ((sv.row id).lookup name).getD (storedColumn rows id name) := by
  simp only [storedColumn, saveOne, AList.lookup_insert, Option.map_some, Option.getD_some]
  rcases rows.lookup id with _ | row
  · rfl
  · simp only [Row.upsert, Row.column, List.lookup_append, Option.map_some, Option.getD_some]
    rcases (sv.row id).lookup name with _ | v <;> rfl

/-- A column holds what the last call that sends it has sent. -/
lemma storedColumn_saveAll (rows : Table String Row) (id name : String) (saves : List Save) :
    storedColumn (saveAll rows id saves) id name =
      (saves.filterMap fun sv => (sv.row id).lookup name).getLast?.getD
        (storedColumn rows id name) := by
  rw [← foldl_getD]
  induction saves generalizing rows with
  | nil => rfl
  | cons sv saves ih =>
    rw [saveAll, List.foldl_cons, List.foldl_cons, ← storedColumn_saveOne]
    exact ih (saveOne id rows sv)

lemma storedColumn_part (rows : Table String Row) (id : String) (saves : List Save) {part : Part}
    {c : String × String} (hc : c ∈ part.columns) :
    storedColumn (saveAll rows id saves) id c.1 = latestValue rows id saves part c := by
  rw [storedColumn_saveAll, latestValue]
  congr 1
  simp only [lookup_row id _ hc]
  rw [← List.map_filterMap, List.getLast?_map]

lemma latestValue_append (rows : Table String Row) (id : String) (earlier : List Save)
    (last : Save) (part : Part) (c : String × String) :
    latestValue rows id (earlier ++ [last]) part c =
      match last.given part with
      | some fields => (fields.lookup c.2).getD .null
      | none => latestValue rows id earlier part c := by
  unfold latestValue
  rw [List.filterMap_append]
  rcases hgiven : last.given part with _ | fields
  · simp [hgiven]
  · simp [hgiven]

/-- The columns that every call sends. -/
lemma column_own (id : String) (sv : Save) (before : Option Row) :
    Row.column (Row.upsert (sv.row id) before) "cog_image_id" = .str id ∧
      Row.column (Row.upsert (sv.row id) before) "coordinates" =
        .arr [.num sv.coordinates.1, .num sv.coordinates.2] ∧
      Row.column (Row.upsert (sv.row id) before) "captured_at" = .ofOptStr sv.capturedAt ∧
      Row.column (Row.upsert (sv.row id) before) "description" = .ofOptStr sv.description := by
  rw [row_eq]
  rcases before with _ | row <;> simp [Row.upsert, Row.column, List.lookup_cons]

/-- **A row is that of its last save alone exactly when the parts that the last save lacks
have left nothing.**  This holds for every sequence of saves of an image, whatever was
stored before it. -/
theorem ofLastSave_iff {Client : Type} {cfg : Settings} (rows : Table String Row) (id : String)
    (earlier : List Save) (last : Save) {w : World Client} (hanswered : w.failure cfg = none)
    (hrows : w.execute = .ok (selectOne (saveAll rows id (earlier ++ [last])) id)) :
    (∃ row, getDescription cfg id w = .value (some row) ∧ OfSaveAlone id last row) ↔
      LeavesNothing rows id earlier last := by
  obtain ⟨before, hbefore⟩ : ∃ before, before = (saveAll rows id earlier).lookup id := ⟨_, rfl⟩
  have hsaved : (saveAll rows id (earlier ++ [last])).lookup id =
      some (Row.upsert (last.row id) before) := by
    rw [saveAll, List.foldl_append, List.foldl_cons, List.foldl_nil, hbefore]
    exact AList.lookup_insert _
  have hreturned : getDescription cfg id w = .value (some (Row.upsert (last.row id) before)) := by
    rw [getDescription_of_success id hanswered hrows, selectOne, hsaved]
    rfl
  have hpart : ∀ part : Part, ∀ c ∈ part.columns,
      Row.column (Row.upsert (last.row id) before) c.1 = match last.given part with
        | some fields => (fields.lookup c.2).getD .null
        | none => latestValue rows id earlier part c := by
    intro part c hc
    rw [← latestValue_append, ← storedColumn_part rows id _ hc, storedColumn, hsaved]
    rfl
  constructor
  · rintro ⟨row, hrow, halone⟩ part hlacks c hc
    rw [hreturned] at hrow
    obtain rfl : Row.upsert (last.row id) before = row := by simpa using hrow
    have hcolumn := hpart part c hc
    rw [halone.parts part c hc, hlacks] at hcolumn
    exact hcolumn.symm
  · intro hnothing
    obtain ⟨hid, hcoordinates, hcaptured, hdescription⟩ := column_own id last before
    refine ⟨_, hreturned, hid, hcoordinates, hcaptured, hdescription, fun part c hc => ?_⟩
    rw [hpart part c hc]
    rcases hgiven : last.given part with _ | fields
    · exact hnothing part hgiven c hc
    · rfl

/-- A save with a location, and one of the same image elsewhere for which the geocoder has
failed. -/
def savedInSeoul : Save where
  coordinates := (127, 37)
  capturedAt := some "2025-01-15"
  location := some [("country", .str "South Korea"), ("country_code", .str "kr"),
    ("region", .str "Seoul"), ("city", .null), ("place_name", .str "Seoul, South Korea")]
  landCover := none
  description := some "A river."
  context := none

def savedInParis (location : Option Fields) : Save where
  coordinates := (2, 49)
  capturedAt := some "2025-02-15"
  location := location
  landCover := none
  description := some "A tower."
  context := none

/-- The location of the second save, when the geocoder has answered. -/
def parisLocation : Fields :=
  [("country", .str "France"), ("country_code", .str "fr"), ("region", .str "Paris"),
    ("city", .null), ("place_name", .str "Paris, France")]

theorem ofLastSave_in_paris :
    ∃ row, getDescription Settings.default "img-1" (World.answering 0 (selectOne
        (saveAll ∅ "img-1" ([savedInSeoul] ++ [savedInParis (some parisLocation)])) "img-1")) =
      .value (some row) ∧ OfSaveAlone "img-1" (savedInParis (some parisLocation)) row := by
  refine (ofLastSave_iff ∅ "img-1" [savedInSeoul] (savedInParis (some parisLocation))
    rfl rfl).mpr ?_
  intro part hlacks c hc
  cases part with
  | location => cases hlacks
  | landCover | context => rfl

/-- The row shows the country of the first save at the coordinates of the second. -/
theorem old_place_stays_in_row :
    ¬ ∃ row, getDescription Settings.default "img-1" (World.answering 0 (selectOne
        (saveAll ∅ "img-1" ([savedInSeoul] ++ [savedInParis none])) "img-1")) =
      .value (some row) ∧ OfSaveAlone "img-1" (savedInParis none) row := by
  rintro ⟨row, hrow, halone⟩
  have hsaved : (saveAll ∅ "img-1" ([savedInSeoul] ++ [savedInParis none])).lookup "img-1" =
      some (Row.upsert ((savedInParis none).row "img-1")
        (some (Row.upsert (savedInSeoul.row "img-1") none))) := rfl
  have hreturned : getDescription Settings.default "img-1" (World.answering 0 (selectOne
      (saveAll ∅ "img-1" ([savedInSeoul] ++ [savedInParis none])) "img-1")) =
        .value ((saveAll ∅ "img-1" ([savedInSeoul] ++ [savedInParis none])).lookup "img-1") := rfl
  rw [hreturned, hsaved] at hrow
  obtain rfl : _ = row := by simpa using hrow
  have hcountry := halone.parts .location ("country", "country") (by decide)
  cases hcountry

end ImageDescriptor
