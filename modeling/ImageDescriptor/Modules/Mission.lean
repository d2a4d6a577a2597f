/-
# The mission

`get_mission_metadata` asks a STAC server for the item of an image.  Unlike the other
modules it writes the parsed item into the cache before it builds its model from it.
-/
import ImageDescriptor.Modules.Lookup

namespace ImageDescriptor.MissionModule

variable (lax : LaxMode)

def cacheKey (stacId : String) : String := "mission:" ++ stacId

/-- `_COLLECTION_PROCESSING_LEVEL`. -/
def collectionProcessingLevel : List (String × String) :=
  [("sentinel-2-l1c", "L1C"), ("sentinel-2-l2a", "L2A"), ("sentinel-2-c1-l2a", "L2A")]

/-- `", ".join(v)`. -/
def joinNames : Json → Except Exc String
  | .arr xs => do
    let names ← xs.mapM fun
      | .str s => .ok s
      | _ => .error ⟨.typeError, "sequence item: expected str instance"⟩
    return ", ".intercalate names
  | .str s => .ok (", ".intercalate (s.toList.map fun c => String.ofList [c]))
  | .obj fields => .ok (", ".intercalate (fields.map Prod.fst))
  | _ => .error ⟨.typeError, "can only join an iterable"⟩

/-- `len(v)`. -/
def length : Json → Except Exc ℕ
  | .arr xs => .ok xs.length
  | .str s => .ok s.toList.length
  | .obj fields => .ok fields.length
  | _ => .error ⟨.typeError, "object has no len()"⟩

/-- `_COLLECTION_PROCESSING_LEVEL.get(collection_id, default_level)`. -/
def processingLevel (collectionId defaultLevel : Json) : Except Exc Json :=
  match collectionId with
  | .str s => .ok (((collectionProcessingLevel.lookup s).map Json.str).getD defaultLevel)
  | .arr _ => .error ⟨.typeError, "unhashable type: 'list'"⟩
  | .obj _ => .error ⟨.typeError, "unhashable type: 'dict'"⟩
  | _ => .ok defaultLevel

/-- `_parse_mission`. -/
def parseMission (data : Json) : Except Exc Fields := do
  let props ← data.get "properties" (.obj [])
  let instruments ← props.get "instruments" .null
  let instrument ← joinNames (if instruments.truthy then instruments else .arr [.str "unknown"])
  let collectionId ← data.get "collection" (.str "")
  let defaultLevel ← props.get "s2:processing_level" .null
  let level ← processingLevel collectionId defaultLevel
  let eoBands ← props.get "eo:bands" .null
  let spectralBands ← if eoBands.truthy then (length eoBands).map fun n : ℕ => Json.num n
    else pure .null
  return [("platform", ← props.get "platform" (.str "unknown")), ("instrument", .str instrument),
    ("constellation", ← props.get "constellation" .null), ("processing_level", level),
    ("cloud_cover", ← props.get "eo:cloud_cover" .null), ("gsd", ← props.get "gsd" .null),
    ("spectral_bands", spectralBands)]

/-- What a parsed item consists of. -/
lemma parseMission_ok {data : Json} {item : Fields} (h : parseMission data = .ok item) :
    ∃ top props instrument level bands, data = .obj top ∧
      (top.lookup "properties").getD (.obj []) = .obj props ∧
      processingLevel ((top.lookup "collection").getD (.str ""))
        ((props.lookup "s2:processing_level").getD .null) = .ok level ∧
      (bands = .null ∨ ∃ n : ℕ, bands = .num n) ∧
      item = [("platform", (props.lookup "platform").getD (.str "unknown")),
        ("instrument", .str instrument),
        ("constellation", (props.lookup "constellation").getD .null), ("processing_level", level),
        ("cloud_cover", (props.lookup "eo:cloud_cover").getD .null),
        ("gsd", (props.lookup "gsd").getD .null), ("spectral_bands", bands)] := by
  rcases data with _ | _ | _ | _ | _ | top
  case obj =>
    rcases hprops : (top.lookup "properties").getD (.obj []) with _ | _ | _ | _ | _ | props
    case obj =>
      simp only [parseMission, Json.get_obj, hprops, bind, Except.bind, pure, Except.pure] at h
      split at h
      · cases h
      · rename_i instrument _
        split at h
        · cases h
        · rename_i level hlevel
          split at h
          · rcases hbands : length ((props.lookup "eo:bands").getD .null) with e | n
            · simp [hbands, Except.map] at h
            · rw [hbands] at h
              cases h
              exact ⟨top, props, instrument, level, .num n, rfl, hprops, hlevel, .inr ⟨n, rfl⟩, rfl⟩
          · cases h
            exact ⟨top, props, instrument, level, .null, rfl, hprops, hlevel, .inl rfl, rfl⟩
    -- the properties are no mapping
    all_goals
      simp [parseMission, hprops, Json.get, bind, Except.bind] at h
  all_goals
    simp [parseMission, Json.get, bind, Except.bind] at h

/-- The call after its fetch. -/
def afterFetch (stacId : String) : Fetched → Rest (Option Mission)
  | .error e => ⟨none, .error e⟩
  | .ok (.error e) => ⟨none, if e.isinstance .jsonDecodeError then .ok none else .error e⟩
  | .ok (.ok data) =>
    match parseMission data with
    | .error e => ⟨none, .error e⟩
    | .ok missionDict =>
      -- the entry is there whether or not the model accepts the item
      ⟨some ⟨cacheKey stacId, missionDict, { days := some 365 }⟩,
        (Mission.ofFields lax missionDict).map some⟩

/-- `get_mission_metadata`. -/
def getMissionMetadata (stacId : Option String) (cached : Except Exc Json) (fetched : Fetched)
    (written : Except Exc Unit) : ModuleRun (Option Mission) :=
  if nonEmpty stacId then
    runModule (fromCache fun fields => (Mission.ofFields lax fields).map some)
      (afterFetch lax (stacId.getD "")) cached fetched written
  else ⟨.notContacted, none, .ok none⟩

/-- A call that writes an entry writes the parsed item, whether the model accepts it or
not. -/
lemma afterFetch_entry {lax : LaxMode} {stacId : String} {fetched : Fetched} {entry : CacheEntry}
    (h : (afterFetch lax stacId fetched).entry = some entry) :
    ∃ data item, fetched = .ok (.ok data) ∧ parseMission data = .ok item ∧
      (afterFetch lax stacId fetched).result = (Mission.ofFields lax item).map some ∧
      entry = ⟨cacheKey stacId, item, { days := some 365 }⟩ := by
  rcases fetched with e | e | data
  · simp [afterFetch] at h
  · simp [afterFetch] at h
  · rcases hparse : parseMission data with e | item
    · simp [afterFetch, hparse] at h
    · simp only [afterFetch, hparse, Option.some.injEq] at h ⊢
      exact ⟨data, item, rfl, hparse, rfl, h.symm⟩

end ImageDescriptor.MissionModule
