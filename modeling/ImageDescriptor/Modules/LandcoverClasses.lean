/-
# The classes of the land cover

`get_land_cover` counts the values of three tags over the elements that Overpass returns,
sorts them by falling counts, and rounds the share of each to a percentage.  The classes are
the values in the order of their counts, and of their first occurrences among equal counts;
what is lost by rounding is at most half a percent a class.
-/
import ImageDescriptor.Lib.Tally
import ImageDescriptor.Modules.Landcover

namespace ImageDescriptor.Landcover

open Lib

variable (lax : LaxMode) (cfg : Settings)

/-! ### What Overpass returns -/

/-- The tags that are counted. -/
def countedKeys : List String := ["landuse", "natural", "leisure"]

/-- An element, which may have no tags; the values of tags are texts. -/
structure OverpassElement where
  fields : Fields
  tags : Fields
  tags_eq : (fields.lookup "tags").getD (.obj []) = .obj tags
  texts : ∀ key ∈ countedKeys, ∀ v, tags.lookup key = some v → ∃ s, v = .str s

/-- The value of a tag that is counted: there is one, and it is not empty. -/
def countedValue (tags : Fields) (key : String) : Option String :=
  match tags.lookup key with
  | some (.str s) => if s = "" then none else some s
  | _ => none

/-- The values that an element adds. -/
def OverpassElement.values (el : OverpassElement) : List String :=
  countedKeys.filterMap (countedValue el.tags)

/-- An answer with its list of elements. -/
structure OverpassAnswer where
  fields : Fields
  elements : List OverpassElement
  elements_eq : (fields.lookup "elements").getD (.arr []) =
    .arr (elements.map fun el => .obj el.fields)

/-- The values of all elements, one for each occurrence. -/
def OverpassAnswer.values (answer : OverpassAnswer) : List String :=
  answer.elements.flatMap OverpassElement.values

/-- What a count is divided by. -/
def divisor (values : List String) : ℕ := if values.length = 0 then 1 else values.length

/-- The land cover is the one of the values. -/
structure Ranks (values : List String) (landCover : LandCover) : Prop where
  /-- There is one class for each value. -/
  nodup : (landCover.classes.map LandCoverClass.type).Nodup
  mem_iff : ∀ s, s ∈ landCover.classes.map LandCoverClass.type ↔ s ∈ values
  /-- The counts fall; among equal counts the value that occurs first comes first. -/
  order : landCover.classes.Pairwise fun c d =>
    values.count d.type < values.count c.type ∨
      values.count d.type = values.count c.type ∧ values.idxOf c.type < values.idxOf d.type
  divisor_ne_zero : divisor values ≠ 0
  percentage : ∀ c ∈ landCover.classes, c.percentage =
    some (roundHalfEven ((values.count c.type : ℚ) / divisor values * 100) : ℚ)
  range : ∀ c ∈ landCover.classes, ∀ p, c.percentage = some p → 0 ≤ p ∧ p ≤ 100
  falling : landCover.classes.Pairwise fun c d =>
    ∀ p q, c.percentage = some p → d.percentage = some q → q ≤ p
  /-- Rounding loses half a percent a class at most. -/
  total : landCover.classes ≠ [] →
    |(landCover.classes.map fun c => c.percentage.getD 0).sum - 100| ≤
      (landCover.classes.length : ℚ) / 2
  summary : landCover.summary =
    if landCover.classes = [] then noInformation
    else ", ".intercalate ((landCover.classes.take 5).map summaryPart)

/-! ### Counting -/

/-- A table of tags that are texts. -/
def asTags (counts : List (String × ℕ)) : List (Tag × ℕ) := counts.map fun x => (.text x.1, x.2)

lemma countTag_eq_bump (tag : Tag) (counts : List (Tag × ℕ)) :
    countTag tag counts = bump tag counts := by
  induction counts with
  | nil => rfl
  | cons x counts ih => simp only [countTag, bump, ih]

lemma countTag_asTags (s : String) (counts : List (String × ℕ)) :
    countTag (.text s) (asTags counts) = asTags (bump s counts) := by
  rw [countTag_eq_bump]
  exact bump_map (fun _ _ h => Tag.text.inj h) s counts

/-- The loop over the keys of one element. -/
lemma foldlM_keys {tags : Fields} (keys : List String)
    (htexts : ∀ key ∈ keys, ∀ v, tags.lookup key = some v → ∃ s, v = .str s)
    (counts : List (String × ℕ)) :
    keys.foldlM (fun counts key => do
      let val ← (Json.obj tags).get key .null
      if val.truthy then
        let tag ← Tag.ofJson val
        pure (countTag tag counts)
      else pure counts) (asTags counts) =
    (.ok (asTags ((keys.filterMap (countedValue tags)).foldl (fun c s => bump s c) counts)) :
      Except Exc _) := by
  induction keys generalizing counts with
  | nil => rfl
  | cons key keys ih =>
    obtain ⟨hkey, hrest⟩ := List.forall_mem_cons.mp htexts
    rcases hlookup : tags.lookup key with _ | v
    · have hnone : countedValue tags key = none := by rw [countedValue, hlookup]
      rw [List.filterMap_cons_none hnone, ← ih hrest counts, List.foldlM_cons, Json.get_obj, hlookup]
      rfl
    · obtain ⟨s, rfl⟩ := hkey v hlookup
      by_cases hs : s = ""
      · have hnone : countedValue tags key = none := by simp [countedValue, hlookup, hs]
        rw [List.filterMap_cons_none hnone, ← ih hrest counts, List.foldlM_cons, Json.get_obj,
          hlookup, hs]
        rfl
      · have hsome : countedValue tags key = some s := by simp [countedValue, hlookup, hs]
        have htruthy : (Json.str s).truthy = true := by simp [Json.truthy, hs]
        rw [List.filterMap_cons_some hsome, List.foldl_cons, ← ih hrest (bump s counts),
          List.foldlM_cons, Json.get_obj, hlookup, ← countTag_asTags]
        simp only [Option.getD_some, bind, Except.bind, htruthy, if_true, Tag.ofJson, pure,
          Except.pure]

lemma countElement_ok (el : OverpassElement) (counts : List (String × ℕ)) :
    countElement (asTags counts) (.obj el.fields) =
      .ok (asTags (el.values.foldl (fun c s => bump s c) counts)) := by
  rw [countElement, Json.get_obj, el.tags_eq]
  exact foldlM_keys countedKeys el.texts counts

/-- The loop over the elements. -/
lemma foldlM_elements (elements : List OverpassElement) (counts : List (String × ℕ)) :
    (elements.map fun el => Json.obj el.fields).foldlM countElement (asTags counts) =
      .ok (asTags ((elements.flatMap OverpassElement.values).foldl (fun c s => bump s c) counts)) := by
  induction elements generalizing counts with
  | nil => rfl
  | cons el elements ih =>
    rw [List.map_cons, List.foldlM_cons, countElement_ok, List.flatMap_cons, List.foldl_append]
    exact ih _

/-! ### The classes -/

/-- The class of a value with its count. -/
def classOf (total : ℕ) (x : String × ℕ) : LandCoverClass where
  type := x.1
  label := (tagLabels.lookup x.1).getD x.1
  percentage := some (roundHalfEven ((x.2 : ℚ) / total * 100))

/-- The land cover of the values, built from the ranking of their counts. -/
def ranked (values : List String) : LandCover :=
  let classes := (rank Prod.snd (tally values)).map (classOf (divisor values))
  let parts := (classes.take 5).map summaryPart
  { classes, summary := if parts = [] then noInformation else ", ".intercalate parts }

lemma mapM_landCoverClass (total : ℕ) (counts : List (String × ℕ)) :
    (asTags counts).mapM (landCoverClass total) = .ok (counts.map (classOf total)) := by
  induction counts with
  | nil => rfl
  | cons x counts ih =>
    rw [asTags, List.map_cons, List.mapM_cons, ← asTags, ih]
    rfl

/-- The table is sorted by the counts alone. -/
lemma mergeSort_asTags (counts : List (String × ℕ)) :
    (asTags counts).mergeSort (fun x y => decide (y.2 ≤ x.2)) =
      asTags (rank Prod.snd counts) := by
  have hmap := List.map_mergeSort (f := fun x : String × ℕ => (Tag.text x.1, x.2))
    (r := fun x y => decide (y.2 ≤ x.2)) (s := fun x y => decide (y.2 ≤ x.2)) (l := counts)
    fun _ _ _ _ => rfl
  exact hmap.symm

/-- **The call computes the ranking** of the values that it was sent. -/
lemma parse_answer (answer : OverpassAnswer) :
    parse (.obj answer.fields) = .ok (ranked answer.values) := by
  have hcounts := foldlM_elements answer.elements []
  have hsum : ((asTags (tally answer.values)).map Prod.snd).sum = answer.values.length := by
    rw [← sum_tally, asTags, List.map_map]
    rfl
  have htable : asTags ((answer.elements.flatMap OverpassElement.values).foldl
      (fun c s => bump s c) []) = asTags (tally answer.values) := rfl
  rw [htable] at hcounts
  have hnil : ([] : List (Tag × ℕ)) = asTags [] := rfl
  unfold parse
  rw [Json.get_obj, answer.elements_eq, hnil]
  simp only [bind, Except.bind, iterate, hcounts, hsum, mergeSort_asTags]
  rw [mapM_landCoverClass]
  rfl

/-! ### What is ranked -/

variable {values : List String}

/-- The entries of the ranking are the values with their counts. -/
lemma mem_rank_tally {x : String × ℕ} :
    x ∈ rank Prod.snd (tally values) ↔ x.1 ∈ values ∧ x.2 = values.count x.1 := by
  rw [rank_perm.mem_iff, tally_eq, List.mem_map]
  constructor
  · rintro ⟨s, hs, rfl⟩
    exact ⟨mem_firsts.mp hs, rfl⟩
  · rintro ⟨hs, hcount⟩
    exact ⟨x.1, mem_firsts.mpr hs, Prod.ext rfl hcount.symm⟩

/-- The counts fall, and first occurrences break the ties. -/
lemma rank_tally_pairwise (values : List String) :
    (rank Prod.snd (tally values)).Pairwise fun x y =>
      y.2 < x.2 ∨ y.2 = x.2 ∧ values.idxOf x.1 < values.idxOf y.1 := by
  have hfirsts : (tally values).Pairwise fun x y => values.idxOf x.1 < values.idxOf y.1 := by
    rw [tally_eq, List.pairwise_map]
    exact firsts_pairwise values
  exact rank_pairwise hfirsts

lemma classes_ranked (values : List String) :
    (ranked values).classes = (rank Prod.snd (tally values)).map (classOf (divisor values)) := rfl

lemma types_ranked (values : List String) :
    (ranked values).classes.map LandCoverClass.type =
      (rank Prod.snd (tally values)).map Prod.fst := by
  rw [classes_ranked, List.map_map]
  rfl

lemma divisor_ne_zero (values : List String) : divisor values ≠ 0 := by
  unfold divisor
  split
  · exact one_ne_zero
  · assumption

/-- With a class there is a value, and the divisor is their number. -/
lemma divisor_of_mem {s : String} (hs : s ∈ values) : divisor values = values.length :=
  if_neg (List.length_pos_of_mem hs).ne'

/-- The share of a count. -/
lemma share_le {n : ℕ} (hn : n ≤ divisor values) :
    (0 : ℚ) ≤ (n : ℚ) / divisor values * 100 ∧ (n : ℚ) / divisor values * 100 ≤ 100 := by
  have hpos : (0 : ℚ) < divisor values :=
    Nat.cast_pos.mpr (Nat.pos_of_ne_zero (divisor_ne_zero values))
  have hle : (n : ℚ) / divisor values ≤ 1 := (div_le_one hpos).mpr (Nat.cast_le.mpr hn)
  exact ⟨by positivity, by linarith⟩

lemma share_mono {m n : ℕ} (h : m ≤ n) :
    (m : ℚ) / divisor values * 100 ≤ (n : ℚ) / divisor values * 100 := by
  have hcast : (m : ℚ) ≤ n := Nat.cast_le.mpr h
  gcongr

/-- Every class is the one of a value with its count. -/
lemma exists_of_mem_classes {c : LandCoverClass} (hc : c ∈ (ranked values).classes) :
    c.type ∈ values ∧ c = classOf (divisor values) (c.type, values.count c.type) := by
  rw [classes_ranked] at hc
  obtain ⟨x, hx, rfl⟩ := List.mem_map.mp hc
  obtain ⟨hvalue, hcount⟩ := mem_rank_tally.mp hx
  refine ⟨hvalue, ?_⟩
  show classOf (divisor values) x = classOf (divisor values) (x.1, values.count x.1)
  rw [← hcount]

lemma percentage_of_mem_classes {c : LandCoverClass} (hc : c ∈ (ranked values).classes) :
    c.percentage = some (roundHalfEven ((values.count c.type : ℚ) / divisor values * 100) : ℚ) :=
  congrArg LandCoverClass.percentage (exists_of_mem_classes hc).2

lemma range_ranked {c : LandCoverClass} (hc : c ∈ (ranked values).classes) {p : ℚ}
    (hp : c.percentage = some p) : 0 ≤ p ∧ p ≤ 100 := by
  obtain ⟨hvalue, -⟩ := exists_of_mem_classes hc
  rw [percentage_of_mem_classes hc, Option.some.injEq] at hp
  have hcount : values.count c.type ≤ divisor values := by
    rw [divisor_of_mem hvalue]
    exact List.count_le_length
  obtain ⟨hlow, hhigh⟩ := share_le hcount
  have hzero : roundHalfEven 0 = 0 := by decide +kernel
  have hhundred : roundHalfEven 100 = 100 := by decide +kernel
  have hlow' := roundHalfEven_mono hlow
  have hhigh' := roundHalfEven_mono hhigh
  rw [hzero] at hlow'
  rw [hhundred] at hhigh'
  rw [← hp]
  exact ⟨by exact_mod_cast hlow', by exact_mod_cast hhigh'⟩

/-- The order of the classes, by their counts. -/
lemma order_ranked (values : List String) :
    (ranked values).classes.Pairwise fun c d =>
      values.count d.type < values.count c.type ∨
        values.count d.type = values.count c.type ∧ values.idxOf c.type < values.idxOf d.type := by
  rw [classes_ranked, List.pairwise_map]
  refine (rank_tally_pairwise values).imp_of_mem fun {x y} hx hy hxy => ?_
  have hcx := (mem_rank_tally.mp hx).2
  have hcy := (mem_rank_tally.mp hy).2
  rw [hcx, hcy] at hxy
  exact hxy

lemma nodup_ranked (values : List String) :
    ((ranked values).classes.map LandCoverClass.type).Nodup := by
  rw [types_ranked]
  have hkeys : ((tally values).map Prod.fst).Nodup := by
    have hid : (tally values).map Prod.fst = firsts values := by
      rw [tally_eq, List.map_map]
      exact List.map_id _
    rw [hid]
    exact nodup_firsts values
  exact (rank_perm.map Prod.fst).nodup_iff.mpr hkeys

lemma falling_ranked (values : List String) :
    (ranked values).classes.Pairwise fun c d =>
      ∀ p q, c.percentage = some p → d.percentage = some q → q ≤ p := by
  refine (order_ranked values).imp_of_mem fun {c d} hc hd hcd p q hp hq => ?_
  rw [percentage_of_mem_classes hc, Option.some.injEq] at hp
  rw [percentage_of_mem_classes hd, Option.some.injEq] at hq
  have hcount : values.count d.type ≤ values.count c.type := by omega
  have hshare : (values.count d.type : ℚ) / divisor values * 100 ≤
      (values.count c.type : ℚ) / divisor values * 100 := share_mono hcount
  have hround := roundHalfEven_mono hshare
  rw [← hp, ← hq]
  exact_mod_cast hround

/-- The sum of the percentages. -/
lemma total_ranked (hne : (ranked values).classes ≠ []) :
    |((ranked values).classes.map fun c => c.percentage.getD 0).sum - 100| ≤
      ((ranked values).classes.length : ℚ) / 2 := by
  have hentries : rank Prod.snd (tally values) ≠ [] := by
    intro h
    rw [classes_ranked, h] at hne
    exact hne rfl
  obtain ⟨x, hx⟩ := List.exists_mem_of_ne_nil _ hentries
  have hdivisor := divisor_of_mem (mem_rank_tally.mp hx).1
  have hcounts : ((rank Prod.snd (tally values)).map Prod.snd).sum = divisor values := by
    rw [(rank_perm.map Prod.snd).sum_eq, sum_tally, hdivisor]
  have hshares := sum_shares 100 (divisor_ne_zero values) hcounts
  have hrounded : (ranked values).classes.map (fun c => c.percentage.getD 0) =
      (rank Prod.snd (tally values)).map fun x =>
        (roundHalfEven ((x.2 : ℚ) / divisor values * 100) : ℚ) := by
    rw [classes_ranked, List.map_map]
    exact List.map_congr_left fun x _ => rfl
  have hbound : |((rank Prod.snd (tally values)).map fun x =>
      (roundHalfEven ((x.2 : ℚ) / divisor values * 100) : ℚ)).sum -
        ((rank Prod.snd (tally values)).map fun x => (x.2 : ℚ) / divisor values * 100).sum| ≤
      (rank Prod.snd (tally values)).length * (1 / 2) :=
    abs_sum_sub_sum_le fun x _ => abs_roundHalfEven_sub_le _
  have hlength : (ranked values).classes.length = (rank Prod.snd (tally values)).length := by
    rw [classes_ranked, List.length_map]
  rw [hshares] at hbound
  rw [hrounded, hlength, div_eq_mul_one_div]
  exact hbound

lemma summary_ranked (values : List String) :
    (ranked values).summary =
      if (ranked values).classes = [] then noInformation
      else ", ".intercalate (((ranked values).classes.take 5).map summaryPart) := by
  have hsummary : (ranked values).summary =
      if ((ranked values).classes.take 5).map summaryPart = [] then noInformation
      else ", ".intercalate (((ranked values).classes.take 5).map summaryPart) := rfl
  rw [hsummary]
  rcases hclasses : (ranked values).classes with _ | ⟨c, cs⟩
  · rfl
  · rw [if_neg (by simp), if_neg (List.cons_ne_nil c cs)]

/-- **The classes of an answer.**  Whatever elements Overpass returns, the call returns the
ranking of the values of their tags. -/
theorem getLandCover_ranks (answer : OverpassAnswer) (lon lat : ℚ) :
    ∃ landCover, (getLandCover lax cfg lon lat (.ok .null) (.ok (.ok (.obj answer.fields)))
        (.ok ())).result = .ok landCover ∧ Ranks answer.values landCover := by
  refine ⟨ranked answer.values, ?_, ?_⟩
  · simp [getLandCover, runModule, afterFetch, parse_answer, Rest.after]
  · exact
      { nodup := nodup_ranked answer.values
        mem_iff := fun s => by
          rw [types_ranked, List.mem_map]
          constructor
          · rintro ⟨x, hx, rfl⟩
            exact (mem_rank_tally.mp hx).1
          · intro hs
            exact ⟨(s, answer.values.count s), mem_rank_tally.mpr ⟨hs, rfl⟩, rfl⟩
        order := order_ranked answer.values
        divisor_ne_zero := divisor_ne_zero answer.values
        percentage := fun c hc => percentage_of_mem_classes hc
        range := fun c hc p hp => range_ranked hc hp
        falling := falling_ranked answer.values
        total := total_ranked
        summary := summary_ranked answer.values }

/-- A way with tags. -/
def OverpassElement.ofTags (tags : List (String × String)) : OverpassElement where
  fields := [("type", .str "way"), ("tags", .obj (tags.map fun x => (x.1, .str x.2)))]
  tags := tags.map fun x => (x.1, .str x.2)
  tags_eq := rfl
  texts key _ v h := by
    obtain ⟨before, after, heq, -⟩ := List.lookup_eq_some_iff.mp h
    have hmem : (key, v) ∈ tags.map fun x => (x.1, Json.str x.2) := by
      rw [heq]
      exact List.mem_append_right _ List.mem_cons_self
    obtain ⟨x, -, hx⟩ := List.mem_map.mp hmem
    exact ⟨x.2, (congrArg Prod.snd hx).symm⟩

/-- An answer with ways. -/
def OverpassAnswer.ofTags (ways : List (List (String × String))) : OverpassAnswer where
  fields := [("elements", .arr ((ways.map OverpassElement.ofTags).map fun el => .obj el.fields))]
  elements := ways.map OverpassElement.ofTags
  elements_eq := rfl

/-- Two forests, and a park that is a meadow. -/
theorem getLandCover_ranks_of_forests :
    let answer := OverpassAnswer.ofTags [[("landuse", "forest"), ("name", "North")],
      [("landuse", "meadow"), ("leisure", "park")], [("landuse", "forest")], []]
    ∃ landCover, (getLandCover ⟨fun _ => none, fun _ => none⟩ .default 127 37 (.ok .null)
        (.ok (.ok (.obj answer.fields))) (.ok ())).result = .ok landCover ∧
      Ranks ["forest", "meadow", "park", "forest"] landCover :=
  getLandCover_ranks _ _ _ _ _

end ImageDescriptor.Landcover
