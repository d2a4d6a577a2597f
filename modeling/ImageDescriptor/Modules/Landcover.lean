/-
# The land cover

`get_land_cover` asks Overpass for the ways and relations around a point and counts their
tags.
-/
import ImageDescriptor.Config
import ImageDescriptor.Modules.Lookup
import ImageDescriptor.Python.Text

namespace ImageDescriptor.Landcover

variable (lax : LaxMode) (cfg : Settings)

/-- `TAG_LABELS`. -/
def tagLabels : List (String × String) :=
  [("residential", "주거지역"), ("commercial", "상업지역"), ("industrial", "산업지역"),
    ("retail", "상업지역"), ("farmland", "농경지"), ("farm", "농경지"), ("orchard", "과수원"),
    ("vineyard", "포도밭"), ("forest", "산림"), ("wood", "산림"), ("grass", "초지"),
    ("meadow", "초지"), ("scrub", "관목지"), ("heath", "황무지"), ("water", "수역"),
    ("wetland", "습지"), ("bare_rock", "나지"), ("sand", "모래"), ("beach", "해변"),
    ("quarry", "채석장"), ("landfill", "매립지"), ("cemetery", "묘지"), ("park", "공원"),
    ("recreation_ground", "운동장"), ("garden", "정원"), ("military", "군사지역"),
    ("construction", "건설현장"), ("railway", "철도"), ("allotments", "텃밭")]

/-- The key of the cell of a point, from `_round_coords` with its two decimals. -/
def cacheKey (lon lat : ℚ) : String :=
  "landcover:" ++ reprRounded lon 2 ++ ":" ++ reprRounded lat 2

/-- The summary of an answer without a class. -/
def noInformation : String := "정보 없음"

/-- A value of a tag as a key of `tag_counts`: `True` is the key `1`, and a list or a
`dict` is no key. -/
inductive Tag
  | text (s : String)
  | number (q : ℚ)
deriving DecidableEq

def Tag.ofJson : Json → Except Exc Tag
  | .str s => .ok (.text s)
  | .num q => .ok (.number q)
  | .bool b => .ok (.number (if b then 1 else 0))
  | .null => .ok (.number 0)
  | .arr _ => .error ⟨.typeError, "unhashable type: 'list'"⟩
  | .obj _ => .error ⟨.typeError, "unhashable type: 'dict'"⟩

/-- `tag_counts[val] = tag_counts.get(val, 0) + 1`; a new key comes last. -/
def countTag (tag : Tag) : List (Tag × ℕ) → List (Tag × ℕ)
  | [] => [(tag, 1)]
  | (t, n) :: rest => if t = tag then (t, n + 1) :: rest else (t, n) :: countTag tag rest

/-- The tags of one element that are counted. -/
def countElement (counts : List (Tag × ℕ)) (el : Json) : Except Exc (List (Tag × ℕ)) := do
  let tags ← el.get "tags" (.obj [])
  ["landuse", "natural", "leisure"].foldlM
    (fun counts key => do
      let val ← tags.get key .null
      if val.truthy then
        let tag ← Tag.ofJson val
        pure (countTag tag counts)
      else pure counts)
    counts

/-- The items over which `for el in elements` runs. -/
def iterate : Json → Except Exc (List Json)
  | .arr xs => .ok xs
  | .str s => .ok (s.toList.map fun c => .str (String.ofList [c]))
  | .obj fields => .ok (fields.map fun item => .str item.1)
  | _ => .error ⟨.typeError, "object is not iterable"⟩

/-- `LandCoverClass(type=tag, label=TAG_LABELS.get(tag, tag), percentage=pct)`. -/
def landCoverClass (total : ℕ) : Tag × ℕ → Except Exc LandCoverClass
  | (.text tag, count) => .ok
    { type := tag, label := (tagLabels.lookup tag).getD tag,
      percentage := some (roundHalfEven ((count : ℚ) / total * 100)) }
  | (.number _, _) => .error (validationError "type")

/-- One part of the summary. -/
def summaryPart (c : LandCoverClass) : String :=
  c.label ++ " " ++ (match c.percentage with
    | some p => reprIntegral p.num
    | none => "None") ++ "%"

/-- The land cover that is built from an answer. -/
def parse (data : Json) : Except Exc LandCover := do
  let elements ← iterate (← data.get "elements" (.arr []))
  let counts ← elements.foldlM countElement []
  -- `sum(...) or 1`, and a stable sort by falling counts
  let total := (counts.map Prod.snd).sum
  let sorted := counts.mergeSort fun x y => decide (y.2 ≤ x.2)
  let classes ← sorted.mapM (landCoverClass (if total = 0 then 1 else total))
  let parts := (classes.take 5).map summaryPart
  return { classes, summary := if parts = [] then noInformation else ", ".intercalate parts }

/-- The call after its fetch. -/
def afterFetch (lon lat : ℚ) : Fetched → Rest LandCover
  | .error e => ⟨none, .error e⟩
  | .ok (.error e) =>
    ⟨none, if e.isinstance .jsonDecodeError then .ok ⟨[], noInformation⟩ else .error e⟩
  | .ok (.ok data) =>
    match parse data with
    | .error e => ⟨none, .error e⟩
    | .ok landCover =>
      ⟨some ⟨cacheKey lon lat, landCover.modelDump, { seconds := some cfg.cacheTtlSeconds }⟩,
        .ok landCover⟩

/-- `get_land_cover`. -/
def getLandCover (lon lat : ℚ) (cached : Except Exc Json) (fetched : Fetched)
    (written : Except Exc Unit) : ModuleRun LandCover :=
  runModule (fromCache (LandCover.ofFields lax)) (afterFetch cfg lon lat) cached fetched written

/-- A call that writes an entry writes the land cover that it returns. -/
lemma afterFetch_entry {cfg : Settings} {lon lat : ℚ} {fetched : Fetched} {entry : CacheEntry}
    (h : (afterFetch cfg lon lat fetched).entry = some entry) :
    ∃ landCover, (afterFetch cfg lon lat fetched).result = .ok landCover ∧
      entry = ⟨cacheKey lon lat, landCover.modelDump, { seconds := some cfg.cacheTtlSeconds }⟩ := by
  rcases fetched with e | e | data
  · simp [afterFetch] at h
  · simp [afterFetch] at h
  · rcases hparse : parse data with e | landCover
    · simp [afterFetch, hparse] at h
    · simp only [afterFetch, hparse, Option.some.injEq] at h ⊢
      exact ⟨landCover, rfl, h.symm⟩

end ImageDescriptor.Landcover
