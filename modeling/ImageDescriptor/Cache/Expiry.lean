/-
# The cache as a map whose entries expire

Seen from outside, the store is a map: a `get` returns what the last `set` of its key has
written until the time to live of that `set` has passed, and nothing afterwards.  Expired
rows are deleted by the `get` that finds them and by the cleanup, which compare the clock
with the expiry in different ways; neither deletes a row that a later `get` could still
return, so that the cleanup cannot be observed.
-/
import Mathlib.Data.List.Induction
import Mathlib.Tactic.NormNum
import ImageDescriptor.Cache.Store
import ImageDescriptor.Lib.Expiring

namespace ImageDescriptor

open Lib

/-- A call of the store. -/
inductive CacheCall
  | set (key : String) (value : Fields) (ttl : CacheStore.Ttl)
  | get (key : String)
  | cleanupExpired

/-- A call with its clock reading. -/
structure TimedCall where
  time : ℚ
  call : CacheCall

/-- The calls are made one after the other at positive clock readings that do not go
back. -/
def Chronological (calls : List TimedCall) : Prop :=
  (∀ c ∈ calls, 0 < c.time) ∧ calls.Pairwise fun c d => c.time ≤ d.time

/-! ### What is expected -/

/-- A `set` of the past. -/
structure PastSet where
  time : ℚ
  value : Fields
  ttl : CacheStore.Ttl

/-- The last `set` of a key. -/
def lastSet (key : String) (calls : List TimedCall) : Option PastSet :=
  calls.foldl (fun last c =>
    match c.call with
    | .set k value ttl => if k = key then some ⟨c.time, value, ttl⟩ else last
    | _ => last) none

/-- The seconds for which an entry lives; those of `ttl_seconds` if they are given. -/
def CacheStore.Ttl.lifetime (ttl : CacheStore.Ttl) : Option ℕ :=
  ttl.seconds.or (ttl.days.map (· * 86400))

/-- What a `get` at the reading `now` should return after the given calls. -/
def expectedAnswer (calls : List TimedCall) (now : ℚ) (key : String) : Json :=
  match lastSet key calls with
  | none => .null
  | some last =>
    match last.ttl.lifetime with
    | none => .obj last.value
    | some n => if now ≤ last.time + n then .obj last.value else .null

/-- The calls without the cleanups. -/
def withoutCleanups (calls : List TimedCall) : List TimedCall :=
  calls.filter fun c =>
    match c.call with
    | .cleanupExpired => false
    | _ => true

namespace CacheStore

/-- The store after a call whose statements are carried out. -/
def perform (s : CacheStore) (c : TimedCall) : CacheStore :=
  match c.call with
  | .set key value ttl => (s.set c.time key value ttl none).1
  | .get key => (s.get c.time key {}).1
  | .cleanupExpired => (s.cleanupExpired c.time none).1

/-! ### The map behind the table -/

/-- The row that a `set` writes. -/
def rowOf (last : PastSet) : CacheRow :=
  ⟨.dumps (.obj last.value), expiresAt last.time last.ttl⟩

/-- The map that a store should be after the given calls: the row of the last `set` of
every key, expired or not. -/
def mapAfter (calls : List TimedCall) (key : String) : Option CacheRow :=
  (lastSet key calls).map rowOf

variable {s : CacheStore} {now : ℚ} {key : String} {calls : List TimedCall}

lemma live_antitone (row : CacheRow) : Antitone fun now => Live now row :=
  fun _ _ hle hlive t ht => hle.trans (hlive t ht)

/-- The store after some calls stands for the map of these calls. -/
abbrev StandsAt (now : ℚ) (s : CacheStore) (calls : List TimedCall) : Prop :=
  StandsFor Live now (fun k => s.table.lookup k) (mapAfter calls)

lemma lastSet_snoc (key : String) (calls : List TimedCall) (c : TimedCall) :
    lastSet key (calls ++ [c]) =
      match c.call with
      | .set k value ttl => if k = key then some ⟨c.time, value, ttl⟩ else lastSet key calls
      | _ => lastSet key calls := by
  simp [lastSet, List.foldl_append]

/-- Only a `set` changes the map. -/
lemma mapAfter_snoc_of_not_set {c : TimedCall} (h : ∀ k value ttl, c.call ≠ .set k value ttl) :
    mapAfter (calls ++ [c]) = mapAfter calls := by
  funext key
  rcases c with ⟨t, _ | _ | _⟩
  · exact absurd rfl (h _ _ _)
  · simp [mapAfter, lastSet_snoc]
  · simp [mapAfter, lastSet_snoc]

lemma mapAfter_snoc_set (t : ℚ) (k : String) (value : Fields) (ttl : Ttl) :
    mapAfter (calls ++ [⟨t, .set k value ttl⟩]) =
      Function.update (mapAfter calls) k (some ⟨.dumps (.obj value), expiresAt t ttl⟩) := by
  funext key
  by_cases hk : key = k
  · subst hk
    simp [mapAfter, lastSet_snoc, rowOf]
  · simp [mapAfter, lastSet_snoc, Ne.symm hk, Function.update_of_ne hk]

/-- **One call.**  The store after a call stands for the map of all the calls. -/
lemma standsAt_perform (h : StandsAt now s calls) (c : TimedCall) (hle : now ≤ c.time) :
    StandsAt c.time (s.perform c) (calls ++ [c]) := by
  have hnow : StandsAt c.time s calls := h.later live_antitone hle
  rcases c with ⟨t, key | key | _⟩
  case set value ttl =>
    rw [StandsAt, mapAfter_snoc_set]
    have htable : (fun k => (s.perform ⟨t, .set key value ttl⟩).table.lookup k) =
        Function.update (fun k => s.table.lookup k) key
          (some ⟨.dumps (.obj value), expiresAt t ttl⟩) := by
      funext k
      by_cases hk : k = key
      · subst hk
        rw [Function.update_self]
        exact lookup_set_self s t k value ttl
      · rw [Function.update_of_ne hk]
        exact lookup_set_of_ne hk
    rw [htable]
    exact hnow.write key _
  case get =>
    rw [StandsAt, mapAfter_snoc_of_not_set (by rintro _ _ _ ⟨⟩)]
    exact hnow.prune (fun _ _ hrow => lookup_get_subset hrow)
      fun _ _ hrow hlive => lookup_get s hrow hlive
  case cleanupExpired =>
    rw [StandsAt, mapAfter_snoc_of_not_set (by rintro _ _ _ ⟨⟩)]
    exact hnow.prune (fun _ _ hrow => lookup_cleanup_subset hrow)
      fun _ _ hrow hlive => lookup_cleanup hrow hlive

lemma standsAt_init : StandsAt now init [] := by
  have htable : (fun k => init.table.lookup k) = mapAfter [] := by
    funext k
    exact AList.lookup_empty k
  rw [StandsAt, htable]
  exact .refl Live now (mapAfter [])

/-- **A whole run.**  The store after any calls stands for their map. -/
lemma standsAt_run (calls : List TimedCall) (hpair : calls.Pairwise fun c d => c.time ≤ d.time)
    (hnow : ∀ c ∈ calls, c.time ≤ now) : StandsAt now (calls.foldl perform init) calls := by
  induction calls using List.reverseRecOn generalizing now with
  | nil => exact standsAt_init
  | append_singleton calls c ih =>
    obtain ⟨hcalls, -, hlast⟩ := List.pairwise_append.mp hpair
    have hbefore : StandsAt c.time (calls.foldl perform init) calls := by
      refine ih hcalls fun d hd => hlast d hd c (List.mem_singleton_self c)
    rw [List.foldl_append]
    exact (standsAt_perform hbefore c le_rfl).later live_antitone (hnow c (by simp))

/-! ### What a `get` returns -/

/-- The `set`s of the past were made at positive readings. -/
lemma lastSet_time_pos (hpos : ∀ c ∈ calls, 0 < c.time) {last : PastSet}
    (h : lastSet key calls = some last) : 0 < last.time := by
  induction calls using List.reverseRecOn with
  | nil => cases h
  | append_singleton calls c ih =>
    have hc : 0 < c.time := hpos c (by simp)
    have hold := ih fun d hd => hpos d (by simp [hd])
    rw [lastSet_snoc] at h
    split at h
    · split at h
      · cases h
        exact hc
      · exact hold h
    · exact hold h

/-- A row of the map expires when the time to live of its `set` has passed. -/
lemma live_rowOf_iff (last : PastSet) :
    Live now (rowOf last) ↔ ∀ n, last.ttl.lifetime = some n → now ≤ last.time + n := by
  rcases last with ⟨t, value, _ | d, _ | n⟩ <;>
    simp [Live, rowOf, expiresAt, Ttl.lifetime]

lemma expectedAnswer_of_live {last : PastSet} (h : lastSet key calls = some last)
    (hlive : Live now (rowOf last)) : expectedAnswer calls now key = .obj last.value := by
  have hlife := (live_rowOf_iff last).mp hlive
  rcases hn : last.ttl.lifetime with _ | n
  · simp [expectedAnswer, h, hn]
  · simp [expectedAnswer, h, hn, hlife n hn]

lemma expectedAnswer_of_not_live {last : PastSet} (h : lastSet key calls = some last)
    (hlive : ¬ Live now (rowOf last)) : expectedAnswer calls now key = .null := by
  rw [live_rowOf_iff] at hlive
  push Not at hlive
  obtain ⟨n, hn, hlt⟩ := hlive
  simp [expectedAnswer, h, hn, not_le.mpr hlt]

/-- A row that does not live any more has expired for `get`, unless it expires at the
reading 0, which `expires_at and ...` takes for no expiry at all. -/
lemma expired_of_not_live {row : CacheRow} (hpos : ∀ t, row.expiresAt = some t → 0 < t)
    (hlive : ¬ Live now row) : expired now row = true := by
  rw [Live] at hlive
  push Not at hlive
  obtain ⟨t, ht, hlt⟩ := hlive
  simp [expired, ht, hlt, (hpos t ht).ne']

lemma get_of_expired {row : CacheRow} (hrow : s.table.lookup key = some row)
    (hexp : expired now row = true) : (s.get now key {}).2 = .ok .null := by
  simp [get, hrow, hexp]

/-- A `set` at a positive reading writes a row that expires at a positive reading. -/
lemma rowOf_expiresAt_pos {last : PastSet} (htime : 0 < last.time) {t : ℚ}
    (ht : (rowOf last).expiresAt = some t) : 0 < t := by
  have hseconds : ∀ n : ℕ, 0 < last.time + n := fun n =>
    add_pos_of_pos_of_nonneg htime n.cast_nonneg
  rcases last with ⟨time, value, days, seconds⟩
  rcases seconds with _ | n
  · rcases days with _ | d
    · simp [rowOf, expiresAt] at ht
    · obtain rfl : time + d * 86400 = t := by simpa [rowOf, expiresAt] using ht
      exact_mod_cast hseconds (d * 86400)
  · obtain rfl : time + n = t := by simpa [rowOf, expiresAt] using ht
    exact hseconds n

/-- The cleanups are not among the calls that matter. -/
lemma lastSet_withoutCleanups (key : String) (calls : List TimedCall) :
    lastSet key (withoutCleanups calls) = lastSet key calls := by
  induction calls using List.reverseRecOn with
  | nil => rfl
  | append_singleton calls c ih =>
    rw [withoutCleanups, List.filter_append, ← withoutCleanups, lastSet_snoc]
    rcases c with ⟨t, _ | _ | _⟩ <;> simp [lastSet_snoc, ih]

lemma expectedAnswer_congr {calls' : List TimedCall}
    (h : withoutCleanups calls' = withoutCleanups calls) :
    expectedAnswer calls' now key = expectedAnswer calls now key := by
  have hlast : lastSet key calls' = lastSet key calls := by
    rw [← lastSet_withoutCleanups key calls', h, lastSet_withoutCleanups]
  simp [expectedAnswer, hlast]

/-- What a `get` returns after the given calls. -/
lemma get_after (h : Chronological (calls ++ [⟨now, .get key⟩])) :
    ((calls.foldl perform init).get now key {}).2 = .ok (expectedAnswer calls now key) := by
  obtain ⟨hpos, hpair⟩ := h
  obtain ⟨hcalls, -, hlast⟩ := List.pairwise_append.mp hpair
  have hstands : StandsAt now (calls.foldl perform init) calls :=
    standsAt_run calls hcalls fun c hc => hlast c hc _ (List.mem_singleton_self _)
  have hpast : ∀ c ∈ calls, 0 < c.time := fun c hc => hpos c (by simp [hc])
  rcases hset : lastSet key calls with _ | last
  · -- the key has never been set: the table has no row that the map has not
    have hnone : (calls.foldl perform init).table.lookup key = none := by
      by_contra hne
      obtain ⟨row, hrow⟩ := Option.ne_none_iff_exists'.mp hne
      have hmap : mapAfter calls key = some row := hstands.sub key row hrow
      simp [mapAfter, hset] at hmap
    simp [get, hnone, expectedAnswer, hset]
  · have hmap : mapAfter calls key = some (rowOf last) := by simp [mapAfter, hset]
    by_cases hlive : Live now (rowOf last)
    · rw [expectedAnswer_of_live hset hlive]
      exact get_of_live ((hstands.read hlive).mpr hmap) hlive rfl {} rfl
    · rw [expectedAnswer_of_not_live hset hlive]
      -- the row has been deleted, or the `get` finds that it has expired
      rcases hrow : (calls.foldl perform init).table.lookup key with _ | row
      · simp [get, hrow]
      · have hsub : mapAfter calls key = some row := hstands.sub key row hrow
        obtain rfl : rowOf last = row := by simpa [hmap] using hsub
        refine get_of_expired hrow (expired_of_not_live ?_ hlive)
        exact fun t ht => rowOf_expiresAt_pos (lastSet_time_pos hpast hset) ht

/-- **The store is a map whose entries expire.**  After any calls at positive readings that
do not go back, a `get` returns what is expected of it; and it returns the same after any
other calls that differ from these in cleanups alone. -/
theorem get_eq_expectedAnswer (calls : List TimedCall) (now : ℚ) (key : String)
    (h : Chronological (calls ++ [⟨now, .get key⟩])) :
    ((calls.foldl perform init).get now key {}).2 = .ok (expectedAnswer calls now key) ∧
      ∀ calls', Chronological (calls' ++ [⟨now, .get key⟩]) →
        withoutCleanups calls' = withoutCleanups calls →
        ((calls'.foldl perform init).get now key {}).2 =
          ((calls.foldl perform init).get now key {}).2 := by
  refine ⟨get_after h, fun calls' h' hsame => ?_⟩
  rw [get_after h', get_after h, expectedAnswer_congr hsame]

/-- An entry for ten seconds that a cleanup has met in time. -/
def keptEntry : List TimedCall :=
  [⟨1, .set "geocode:127.0:37.0" [("country", .str "대한민국")] { seconds := some 10 }⟩,
    ⟨5, .cleanupExpired⟩]

theorem get_of_keptEntry :
    ((keptEntry.foldl perform init).get 11 "geocode:127.0:37.0" {}).2 =
        .ok (.obj [("country", .str "대한민국")]) ∧
      Chronological (keptEntry ++ [⟨11, .get "geocode:127.0:37.0"⟩]) := by
  have h : Chronological (keptEntry ++ [⟨11, .get "geocode:127.0:37.0"⟩]) := by
    constructor
    · simp [keptEntry]
    · simp [keptEntry]
      norm_num
  refine ⟨?_, h⟩
  rw [(get_eq_expectedAnswer keptEntry 11 "geocode:127.0:37.0" h).1]
  simp [keptEntry, expectedAnswer, lastSet, Ttl.lifetime]
  norm_num

end CacheStore

end ImageDescriptor
