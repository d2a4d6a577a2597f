/-
# Tables with a primary key

A table is a finite map from its primary key to the rest of the row, so that no state of it
holds two rows of one key.  Looking up, replacing and deleting one row are the operations
`lookup`, `insert` and `erase` of `AList`; this file adds the deletion of all rows that
meet a condition and says what a lookup finds after it.
-/
import Mathlib.Data.List.AList

namespace ImageDescriptor.Lib

variable {K V : Type*} [DecidableEq K]

/-- A table with keys in `K` and rows in `V`. -/
abbrev Table (K V : Type*) := AList fun _ : K => V

namespace Table

omit [DecidableEq K] in
lemma nodupKeys_filter (t : Table K V) (p : V → Bool) :
    (t.entries.filter fun row => p row.2).NodupKeys := by
  have hsub : (t.entries.filter fun row => p row.2).Sublist t.entries := List.filter_sublist
  exact t.nodupKeys.sublist hsub

/-- The table without the rows that meet a condition. -/
def deleteWhere (t : Table K V) (p : V → Bool) : Table K V :=
  ⟨t.entries.filter fun row => !p row.2, nodupKeys_filter t fun row => !p row⟩

/-- A row that is found after the deletion of a row was there before. -/
lemma lookup_of_lookup_erase {t : Table K V} {k k' : K} {row : V}
    (h : (t.erase k').lookup k = some row) : t.lookup k = some row := by
  by_cases hk : k = k'
  · subst hk
    rw [AList.lookup_erase] at h
    cases h
  · rwa [AList.lookup_erase_ne hk] at h

/-- A row is found after the deletion when it was there and does not meet the condition. -/
lemma lookup_deleteWhere_eq_some_iff {t : Table K V} {p : V → Bool} {k : K} {row : V} :
    (t.deleteWhere p).lookup k = some row ↔ t.lookup k = some row ∧ p row = false := by
  have hnew : row ∈ (t.deleteWhere p).lookup k ↔ Sigma.mk k row ∈ (t.deleteWhere p).entries :=
    List.mem_dlookup_iff (t.deleteWhere p).nodupKeys
  have hold : row ∈ t.lookup k ↔ Sigma.mk k row ∈ t.entries :=
    List.mem_dlookup_iff t.nodupKeys
  rw [Option.mem_def] at hnew hold
  rw [hnew, hold]
  simp [deleteWhere, List.mem_filter]

/-- What a lookup finds after a deletion depends on what it has found before. -/
lemma lookup_deleteWhere_congr {t t' : Table K V} {p : V → Bool} {k : K}
    (h : t.lookup k = t'.lookup k) : (t.deleteWhere p).lookup k = (t'.deleteWhere p).lookup k := by
  ext row
  rw [lookup_deleteWhere_eq_some_iff, lookup_deleteWhere_eq_some_iff, h]

lemma lookup_erase_congr {t t' : Table K V} {k k' : K} (h : t.lookup k = t'.lookup k) :
    (t.erase k').lookup k = (t'.erase k').lookup k := by
  by_cases hk : k = k'
  · subst hk
    rw [AList.lookup_erase, AList.lookup_erase]
  · rw [AList.lookup_erase_ne hk, AList.lookup_erase_ne hk, h]

lemma lookup_insert_congr {t t' : Table K V} {k k' : K} {row : V} (h : t.lookup k = t'.lookup k) :
    (t.insert k' row).lookup k = (t'.insert k' row).lookup k := by
  by_cases hk : k = k'
  · subst hk
    rw [AList.lookup_insert, AList.lookup_insert]
  · rw [AList.lookup_insert_ne hk, AList.lookup_insert_ne hk, h]

/-! ### Tables of other rows -/

variable {W : Type*}

/-- The table with each row replaced. -/
def mapRows (f : V → W) (t : Table K V) : Table K W :=
  ⟨t.entries.map (Sigma.map id fun _ => f), t.nodupKeys.map₂ (fun _ => f) t.entries⟩

lemma lookup_mapRows (f : V → W) (t : Table K V) (k : K) :
    (t.mapRows f).lookup k = (t.lookup k).map f :=
  List.dlookup_map₂ k

lemma mapRows_erase (f : V → W) (t : Table K V) (k : K) :
    mapRows f (t.erase k) = (mapRows f t).erase k := by
  refine AList.ext ?_
  show (List.kerase k t.entries).map _ = List.kerase k (t.entries.map _)
  rw [List.kerase, List.kerase, List.eraseP_map]
  rfl

lemma mapRows_insert (f : V → W) (t : Table K V) (k : K) (row : V) :
    mapRows f (t.insert k row) = (mapRows f t).insert k (f row) := by
  have herase := congrArg AList.entries (mapRows_erase f t k)
  refine AList.ext ?_
  rw [AList.entries_insert]
  exact congrArg (Sigma.mk k (f row) :: ·) herase

omit [DecidableEq K] in
lemma mapRows_deleteWhere (f : V → W) (t : Table K V) (p : W → Bool) :
    (t.deleteWhere fun row => p (f row)).mapRows f = (t.mapRows f).deleteWhere p := by
  refine AList.ext ?_
  show (t.entries.filter _).map _ = (t.entries.map _).filter _
  rw [List.filter_map]
  rfl

end Table

end ImageDescriptor.Lib
