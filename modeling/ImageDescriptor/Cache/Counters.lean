/-
# The counters of hits and misses

The store counts a hit or a miss for every `get` whose SELECT was carried out, in the
branches of `get` and not at its end.  A row is counted as a hit before its text is read,
although the call then returns `None` for a text that is no JSON or is `null`, and raises when
reading the text ends with any other exception; a `get` that ends early between its SELECT and
its miss is not counted at all.

The machine is the one of the concurrent calls with a record of the calls of `get` that have
ended, and with statements that fail.
-/
import ImageDescriptor.Cache.Races
import ImageDescriptor.Python.Numbers

namespace ImageDescriptor

open Lib

/-! ### The statistics -/

/-- `round(x, 4)`. -/
def round4 (x : ℚ) : ℚ := (roundHalfEven (x * 10000) : ℚ) / 10000

/-- The share of `part` in `total`, rounded. -/
def share (part total : ℕ) : ℚ := if 0 < total then round4 ((part : ℚ) / total) else 0

structure ModuleStats where
  hits : ℕ
  misses : ℕ
  hitRate : ℚ

structure StoreStats where
  entryCount : ℕ
  totalBytes : ℕ
  modules : List (String × ModuleStats)

namespace CacheStore

/-- The modules that have been counted, sorted. -/
def countedModules (s : CacheStore) : List String :=
  ["context", "describe", "geocode", "landcover", "mission", "unknown"].filter fun m =>
    decide (0 < s.hits m) || decide (0 < s.misses m)

def hitRate (s : CacheStore) (module : String) : ℚ :=
  share (s.hits module) (s.hits module + s.misses module)

/-- `stats()`.  The length of a text is what SQLite makes of it; a failing statement is not
caught. -/
def stats (textLength : CellText → ℕ) (s : CacheStore) (fault : Option Exc) :
    Except Exc StoreStats :=
  match fault with
  | some e => .error e
  | none =>
    .ok { entryCount := s.table.entries.length
          totalBytes := (s.table.entries.map fun row =>
            row.1.length + textLength row.2.value).sum
          modules := s.countedModules.map fun m => (m, ⟨s.hits m, s.misses m, s.hitRate m⟩) }

end CacheStore

/-! ### The calls that have ended -/

def Json.isNull : Json → Bool
  | .null => true
  | _ => false

/-- A `get` that has ended: its key, whether its SELECT was carried out, and its ending. -/
structure EndedGet where
  key : String
  readSucceeded : Bool
  ending : Ending Json

namespace EndedGet

/-- A call for a key of the module whose read has succeeded. -/
def lookedUp (module : String) (g : EndedGet) : Bool :=
  decide (CacheStore.moduleFromKey g.key = module) && g.readSucceeded

/-- A call for a key of the module that has returned a value. -/
def served (module : String) (g : EndedGet) : Bool :=
  decide (CacheStore.moduleFromKey g.key = module) &&
    match g.ending with
    | .value v => !v.isNull
    | _ => false

/-- A call for a key of the module that has returned `None` without its read failing. -/
def missed (module : String) (g : EndedGet) : Bool :=
  g.lookedUp module &&
    match g.ending with
    | .value v => v.isNull
    | _ => false

end EndedGet

/-- The process, and the calls of `get` that have ended. -/
structure CountedStore where
  shared : SharedStore
  ended : List EndedGet

/-- What happens: an action of the process, the statement or the commit that a call awaits
raises, or one of the cleanup does. -/
inductive CountedEvent
  | acts (now : ℚ) (a : StoreAction)
  | fails (task : ℕ) (e : Exc)
  | cleanupFails (now : ℚ) (fault : CacheStore.WriteFault)

/-- The key of a `get` that is under way, and whether its read has succeeded.  The cursor of
the SELECT is closed inside the same `try`. -/
def StorePhase.lookup : StorePhase → Option (String × Bool)
  | .selecting key => some (key, false)
  | .selected key _ => some (key, false)
  | .deleting key => some (key, true)
  | .deleted key => some (key, true)
  | _ => none

namespace SharedStore

/-- The statement or the commit that a call awaits raises. -/
def fail (s : SharedStore) (task : ℕ) (e : Exc) : Option SharedStore :=
  match s.calls task with
  | some (.selecting _) | some (.selected _ _) => some (s.put task (.returned (CacheStore.getFailed e)))
  | some (.deleting key) | some (.deleted key) =>
    if CacheStore.catches e then
      some ({ s with store := s.store.countMiss (CacheStore.moduleFromKey key) }.put task
        (.returned (CacheStore.getFailed e)))
    else some (s.put task (.returned (CacheStore.getFailed e)))
  | some (.inserting _ _) | some .inserted =>
    some (s.put task (if CacheStore.catches e then .stored else .abandoned))
  | _ => none

/-- The `get` that ends with an event. -/
def endedBy (s : SharedStore) : CountedEvent → Option EndedGet
  | .acts now (.resume task) =>
    match s.calls task with
    | some (.selected key row) =>
      match (judge s.store now key row).2 with
      | .returned r => some ⟨key, true, .ofExcept r⟩
      | _ => none
    | _ => none
  | .acts _ (.commit task) =>
    match s.calls task with
    | some (.deleted key) => some ⟨key, true, .value .null⟩
    | _ => none
  | .acts _ (.abandon task) =>
    ((s.calls task).bind StorePhase.lookup).map fun l => ⟨l.1, l.2, .cancelled⟩
  | .fails task e =>
    ((s.calls task).bind StorePhase.lookup).map fun l => ⟨l.1, l.2, .ofExcept (CacheStore.getFailed e)⟩
  | _ => none

end SharedStore

namespace CountedStore

/-- The process on a database with any content. -/
def opened (table : Table String CacheRow) : CountedStore :=
  ⟨.initial ⟨table, fun _ => 0, fun _ => 0⟩, []⟩

/-- One event; `none` when it cannot happen. -/
def step (s : CountedStore) (e : CountedEvent) : Option CountedStore :=
  (match e with
    | .acts now a => s.shared.act now a
    | .fails task exc => s.shared.fail task exc
    | .cleanupFails now fault =>
      some { s.shared with store := (s.shared.store.cleanupExpired now (some fault)).1 }).map
    fun shared => ⟨shared, s.ended ++ (s.shared.endedBy e).toList⟩

def hits (s : CountedStore) (module : String) : ℕ := s.shared.store.hits module

def misses (s : CountedStore) (module : String) : ℕ := s.shared.store.misses module

/-- How many calls that have ended are of a kind. -/
def count (s : CountedStore) (p : EndedGet → Bool) : ℕ := s.ended.countP p

/-- The counters of a module are right. -/
structure CountsGets (s : CountedStore) (module : String) : Prop where
  hits : s.hits module = s.count (EndedGet.served module)
  misses : s.misses module = s.count (EndedGet.missed module)
  once : s.hits module + s.misses module = s.count (EndedGet.lookedUp module)
  rate : s.shared.store.hitRate module =
    share (s.count (EndedGet.served module)) (s.count (EndedGet.lookedUp module))

/-- The call is a `get` that has read its row, and that has to delete it. -/
def Deletes (s : CountedStore) (task : ℕ) : Prop :=
  ∃ key, s.shared.calls task = some (.deleting key) ∨ s.shared.calls task = some (.deleted key)

/-- No call goes on with an unexpired row whose text is not read as a value or is `null`, and
none that has to delete a row is cancelled or fails with an exception that is not caught. -/
def CountableStep (s : CountedStore) : CountedEvent → Prop
  | .acts now (.resume task) =>
    ∀ key row, s.shared.calls task = some (.selected key (some row)) →
      CacheStore.expired now row = false → ∃ v : Json, row.value = .dumps v ∧ v.isNull = false
  | .acts _ (.abandon task) => ¬ s.Deletes task
  | .fails task e => s.Deletes task → CacheStore.catches e = true
  | _ => True

/-! ### What an event does to the counters -/

/-- What an event does to the counters and to the record, and when it is counted as it
should. -/
inductive Tallies (s : CountedStore) (e : CountedEvent) (s' : CountedStore) : Prop
  | unread (g : Option EndedGet)
      (hunread : ∀ g' ∈ g, g'.readSucceeded = false ∧ ∀ v, g'.ending = .value v → v.isNull = true)
      (hhits : s'.hits = s.hits) (hmisses : s'.misses = s.misses)
      (hended : s'.ended = s.ended ++ g.toList) (hright : s.CountableStep e)
  | hit (key : String) (r : Except Exc Json)
      (hhits : s'.hits = Function.update s.hits (CacheStore.moduleFromKey key)
        (s.hits (CacheStore.moduleFromKey key) + 1))
      (hmisses : s'.misses = s.misses)
      (hended : s'.ended = s.ended ++ [⟨key, true, .ofExcept r⟩])
      (hright : s.CountableStep e ↔ ∃ v, r = .ok v ∧ v.isNull = false)
  | miss (key : String) (hhits : s'.hits = s.hits)
      (hmisses : s'.misses = Function.update s.misses (CacheStore.moduleFromKey key)
        (s.misses (CacheStore.moduleFromKey key) + 1))
      (hended : s'.ended = s.ended ++ [⟨key, true, .value .null⟩]) (hright : s.CountableStep e)
  | uncounted (key : String) (ending : Ending Json) (hending : ∀ v, ending ≠ .value v)
      (hhits : s'.hits = s.hits) (hmisses : s'.misses = s.misses)
      (hended : s'.ended = s.ended ++ [⟨key, true, ending⟩]) (hwrong : ¬ s.CountableStep e)

variable {s s' : CountedStore} {e : CountedEvent} {es : List CountedEvent} {now : ℚ}
  {module : String}

lemma hits_eq (h : s'.shared.store.hits = s.shared.store.hits) : s'.hits = s.hits := by
  ext m
  exact congrFun h m

lemma misses_eq (h : s'.shared.store.misses = s.shared.store.misses) : s'.misses = s.misses := by
  ext m
  exact congrFun h m

/-- An unexpired row is counted as a hit; what is returned of it is a value when its text is
read as one, and not `null`. -/
lemma judge_live (store : CacheStore) (key : String) {row : CacheRow}
    (hlive : CacheStore.expired now row = false) :
    ∃ r, SharedStore.judge store now key (some row) =
        (store.countHit (CacheStore.moduleFromKey key), .returned r) ∧
      ((∃ v, r = .ok v ∧ v.isNull = false) ↔
        ∃ v' : Json, row.value = .dumps v' ∧ v'.isNull = false) := by
  rcases hval : row.value with v | e
  · exact ⟨.ok v, by simp [SharedStore.judge, hlive, hval, CellText.loads], by simp⟩
  · -- the text is not read as a value
    refine ⟨if e.isinstance .jsonDecodeError then .ok .null else .error e, ?_, ?_⟩
    · simp [SharedStore.judge, hlive, hval, CellText.loads]
    · by_cases he : e.isinstance .jsonDecodeError = true <;> simp [he, Json.isNull]

/-- A `get` that goes on with what it has read. -/
lemma tallies_resume {task : ℕ} {key : String} {row : Option CacheRow}
    (hcall : s.shared.calls task = some (.selected key row))
    (hshared : s'.shared = { s.shared with
      store := (SharedStore.judge s.shared.store now key row).1 }.put task
        (SharedStore.judge s.shared.store now key row).2)
    (hended : s'.ended = s.ended ++ (s.shared.endedBy (.acts now (.resume task))).toList) :
    Tallies s (.acts now (.resume task)) s' := by
  have hstore : s'.shared.store = (SharedStore.judge s.shared.store now key row).1 := by
    rw [hshared]
    rfl
  simp only [SharedStore.endedBy, hcall] at hended
  rcases row with _ | row
  · have hright : s.CountableStep (.acts now (.resume task)) := by
      intro key' row' hcall'
      cases hcall.symm.trans hcall'
    refine .miss key (hits_eq ?_) ?_ hended hright
    · rw [hstore]
      rfl
    · ext m
      show s'.shared.store.misses m = _
      rw [hstore]
      rfl
  · by_cases hexp : CacheStore.expired now row = true
    · have hright : s.CountableStep (.acts now (.resume task)) := by
        intro key' row' hcall' hlive
        cases hcall.symm.trans hcall'
        rw [hexp] at hlive
        cases hlive
      have hjudge : SharedStore.judge s.shared.store now key (some row) =
          (s.shared.store, .deleting key) := by
        simp [SharedStore.judge, hexp]
      rw [hjudge] at hstore hended
      exact .unread none (by simp) (hits_eq (by rw [hstore])) (misses_eq (by rw [hstore])) hended
        hright
    · have hlive : CacheStore.expired now row = false := by simpa using hexp
      obtain ⟨r, hjudge, hvalue⟩ := judge_live s.shared.store key hlive
      have hright : s.CountableStep (.acts now (.resume task)) ↔
          ∃ v, r = .ok v ∧ v.isNull = false := by
        rw [hvalue]
        constructor
        · exact fun h => h key row hcall hlive
        · rintro h key' row' hcall' -
          cases hcall.symm.trans hcall'
          exact h
      rw [hjudge] at hstore hended
      refine .hit key r ?_ (misses_eq ?_) hended hright
      · ext m
        show s'.shared.store.hits m = _
        rw [hstore]
        rfl
      · rw [hstore]
        rfl

/-- An action after which the counters are what they were, and with which no `get` ends that
has been read. -/
lemma tallies_of_store (g : Option EndedGet)
    (hunread : ∀ g' ∈ g, g'.readSucceeded = false ∧ ∀ v, g'.ending = .value v → v.isNull = true)
    (hhits : s'.shared.store.hits = s.shared.store.hits)
    (hmisses : s'.shared.store.misses = s.shared.store.misses)
    (hended : s'.ended = s.ended ++ g.toList) (hright : s.CountableStep e) : Tallies s e s' :=
  .unread g hunread (hits_eq hhits) (misses_eq hmisses) hended hright

/-- A `get` that ends early, by an ending that it does not return with. -/
lemma tallies_of_lookup {task : ℕ} {p : StorePhase} {ending : Ending Json} {g : Option EndedGet}
    (hcall : s.shared.calls task = some p)
    (hg : g = p.lookup.map fun l => ⟨l.1, l.2, ending⟩)
    (hvalue : ∀ v, ending = .value v → v.isNull = true)
    (hdeletes : s.Deletes task → ∀ v, ending ≠ .value v)
    (hright : s.CountableStep e ↔ ¬ s.Deletes task)
    (hhits : s'.shared.store.hits = s.shared.store.hits)
    (hmisses : s'.shared.store.misses = s.shared.store.misses)
    (hended : s'.ended = s.ended ++ g.toList) : Tallies s e s' := by
  have hunread : ∀ hnot : ¬ s.Deletes task, (∀ l ∈ p.lookup, l.2 = false) →
      Tallies s e s' := by
    intro hnot hlookup
    refine tallies_of_store g ?_ hhits hmisses hended (hright.mpr hnot)
    intro g' hg'
    rw [hg] at hg'
    obtain ⟨l, hl, rfl⟩ := Option.map_eq_some_iff.mp hg'
    exact ⟨hlookup l hl, hvalue⟩
  have hread : ∀ key, (p = .deleting key ∨ p = .deleted key) → Tallies s e s' := by
    intro key hp
    have hdel : s.Deletes task := by
      rcases hp with rfl | rfl
      · exact ⟨key, .inl hcall⟩
      · exact ⟨key, .inr hcall⟩
    have hrecord : g.toList = [⟨key, true, ending⟩] := by
      rcases hp with rfl | rfl <;> rw [hg] <;> rfl
    rw [hrecord] at hended
    exact .uncounted key ending (hdeletes hdel) (hits_eq hhits) (misses_eq hmisses) hended
      fun h => hright.mp h hdel
  have hnot : (∀ key, p ≠ .deleting key ∧ p ≠ .deleted key) → ¬ s.Deletes task := by
    rintro hp ⟨key, hdel | hdel⟩
    · exact (hp key).1 (Option.some.inj (hcall.symm.trans hdel))
    · exact (hp key).2 (Option.some.inj (hcall.symm.trans hdel))
  cases p with
  | deleting key => exact hread key (.inl rfl)
  | deleted key => exact hread key (.inr rfl)
  | _ => exact hunread (hnot (by simp)) (by simp [StorePhase.lookup])

lemma getFailed_isNull {exc : Exc} {v : Json}
    (h : Ending.ofExcept (CacheStore.getFailed exc) = .value v) : v.isNull = true := by
  unfold CacheStore.getFailed at h
  split at h
  · cases h
    rfl
  · cases h

lemma endedBy_fails {task : ℕ} {p : StorePhase} (exc : Exc)
    (hcall : s.shared.calls task = some p) :
    s.shared.endedBy (.fails task exc) =
      p.lookup.map fun l => ⟨l.1, l.2, .ofExcept (CacheStore.getFailed exc)⟩ := by
  simp [SharedStore.endedBy, hcall]

/-- A call whose statement raises what it catches. -/
lemma tallies_fail_caught {task : ℕ} {exc : Exc} {p : StorePhase} {shared : SharedStore}
    (hcall : s.shared.calls task = some p) (hcaught : CacheStore.catches exc = true)
    (h : s.shared.fail task exc = some shared) :
    Tallies s (.fails task exc)
      ⟨shared, s.ended ++ (s.shared.endedBy (.fails task exc)).toList⟩ := by
  have hended := endedBy_fails exc hcall
  have hright : s.CountableStep (.fails task exc) := fun _ => hcaught
  -- the read has succeeded, and the miss is counted behind the deletion
  have hmiss : ∀ key, (p = .deleting key ∨ p = .deleted key) →
      Tallies s (.fails task exc)
        ⟨shared, s.ended ++ (s.shared.endedBy (.fails task exc)).toList⟩ := by
    intro key hp
    have hshared : shared = { s.shared with
        store := s.shared.store.countMiss (CacheStore.moduleFromKey key) }.put task
          (.returned (CacheStore.getFailed exc)) := by
      rcases hp with rfl | rfl <;> simpa [SharedStore.fail, hcall, hcaught] using h.symm
    have hrecord : s.shared.endedBy (.fails task exc) = some ⟨key, true, .value .null⟩ := by
      rcases hp with rfl | rfl <;>
        simp [hended, StorePhase.lookup, CacheStore.getFailed, hcaught, Ending.ofExcept]
    rw [hrecord, hshared]
    exact .miss key rfl rfl rfl hright
  have hsame : (∀ l ∈ p.lookup, l.2 = false) → shared.store = s.shared.store →
      Tallies s (.fails task exc)
        ⟨shared, s.ended ++ (s.shared.endedBy (.fails task exc)).toList⟩ := by
    intro hlookup hstore
    refine tallies_of_store _ ?_ (by rw [hstore]) (by rw [hstore]) rfl hright
    intro g' hg'
    rw [hended] at hg'
    obtain ⟨l, hl, rfl⟩ := Option.map_eq_some_iff.mp hg'
    exact ⟨hlookup l hl, fun v hv => getFailed_isNull hv⟩
  cases p with
  | deleting key => exact hmiss key (.inl rfl)
  | deleted key => exact hmiss key (.inr rfl)
  | selecting | selected | inserting | inserted =>
    refine hsame (by simp [StorePhase.lookup]) ?_
    simp only [SharedStore.fail, hcall, Option.some.injEq] at h
    rw [← h]
    rfl
  | returned | stored | abandoned => simp [SharedStore.fail, hcall] at h

/-- A call whose statement raises what it does not catch. -/
lemma tallies_fail_raised {task : ℕ} {exc : Exc} {p : StorePhase} {shared : SharedStore}
    (hcall : s.shared.calls task = some p) (hraised : ¬ CacheStore.catches exc = true)
    (h : s.shared.fail task exc = some shared) :
    Tallies s (.fails task exc)
      ⟨shared, s.ended ++ (s.shared.endedBy (.fails task exc)).toList⟩ := by
  have hending : Ending.ofExcept (CacheStore.getFailed exc) = .raised exc := by
    simp [CacheStore.getFailed, hraised, Ending.ofExcept]
  have hstore : shared.store = s.shared.store := by
    cases p with
    | returned | stored | abandoned => simp [SharedStore.fail, hcall] at h
    | _ =>
      simp only [SharedStore.fail, hcall, hraised, Bool.false_eq_true, if_false,
        Option.some.injEq] at h
      rw [← h]
      rfl
  refine tallies_of_lookup hcall (endedBy_fails exc hcall) (fun v hv => getFailed_isNull hv) ?_ ?_
    (by rw [hstore]) (by rw [hstore]) rfl
  · intro _ v hv
    rw [hending] at hv
    cases hv
  · exact ⟨fun hright hdel => hraised (hright hdel), fun hnot hdel => absurd hdel hnot⟩

lemma tallies_of_step (h : step s e = some s') : Tallies s e s' := by
  unfold step at h
  obtain ⟨shared, hshared, hs'⟩ := Option.map_eq_some_iff.mp h
  cases e with
  | fails task exc =>
    subst hs'
    rcases hcall : s.shared.calls task with _ | p
    · simp [SharedStore.fail, hcall] at hshared
    · by_cases hcaught : CacheStore.catches exc = true
      · exact tallies_fail_caught hcall hcaught hshared
      · exact tallies_fail_raised hcall hcaught hshared
  | cleanupFails now fault =>
    cases hshared
    subst hs'
    exact tallies_of_store none (by simp) rfl rfl rfl trivial
  | acts now a =>
    subst hs'
    cases SharedStore.acts_of_act hshared with
    | get | set | select | delete | insert | cleanup =>
      exact tallies_of_store none (by simp) rfl rfl rfl trivial
    | @stored task hcall =>
      have hnone : s.shared.endedBy (.acts now (.commit task)) = none := by
        simp [SharedStore.endedBy, hcall]
      rw [hnone]
      exact tallies_of_store none (by simp) rfl rfl rfl trivial
    | @resume task key row hcall => exact tallies_resume hcall rfl rfl
    | @missed task key hcall =>
      have hrecord : s.shared.endedBy (.acts now (.commit task)) =
          some ⟨key, true, .value .null⟩ := by
        simp [SharedStore.endedBy, hcall]
      rw [hrecord]
      exact .miss key rfl rfl rfl trivial
    | @abandon task hcall =>
      obtain ⟨p, hp⟩ := Option.ne_none_iff_exists'.mp hcall
      have hrecord : s.shared.endedBy (.acts now (.abandon task)) =
          p.lookup.map fun l => ⟨l.1, l.2, .cancelled⟩ := by
        simp [SharedStore.endedBy, hp]
      exact tallies_of_lookup hp hrecord (by simp) (by simp) Iff.rfl rfl rfl rfl

/-! ### The counters over a run -/

/-- Between two states the counters of a module have gone up with the calls. -/
structure GoesAlong (s s' : CountedStore) (module : String) : Prop where
  hits : s'.hits module + s.count (EndedGet.served module) =
    s.hits module + s'.count (EndedGet.served module)
  misses : s'.misses module + s.count (EndedGet.missed module) =
    s.misses module + s'.count (EndedGet.missed module)
  once : s'.hits module + s'.misses module + s.count (EndedGet.lookedUp module) =
    s.hits module + s.misses module + s'.count (EndedGet.lookedUp module)

/-- Between two states the counter of hits has gone up without a value, or a call has been left
out. -/
structure GoesAstray (s s' : CountedStore) (module : String) : Prop where
  hits_le : s.hits module + s'.count (EndedGet.served module) ≤
    s'.hits module + s.count (EndedGet.served module)
  once_le : s'.hits module + s'.misses module + s.count (EndedGet.lookedUp module) ≤
    s.hits module + s.misses module + s'.count (EndedGet.lookedUp module)
  lt : s.hits module + s'.count (EndedGet.served module) <
      s'.hits module + s.count (EndedGet.served module) ∨
    s'.hits module + s'.misses module + s.count (EndedGet.lookedUp module) <
      s.hits module + s.misses module + s'.count (EndedGet.lookedUp module)

/-- No call is served without a hit, and none is counted that was not looked up. -/
def Bounded (s : CountedStore) : Prop :=
  ∀ module, s.count (EndedGet.served module) ≤ s.hits module ∧
    s.hits module + s.misses module ≤ s.count (EndedGet.lookedUp module)

lemma count_of_ended {l : List EndedGet} (hended : s'.ended = s.ended ++ l)
    (p : EndedGet → Bool) : s'.count p = s.count p + l.countP p := by
  rw [count, count, hended, List.countP_append]

lemma countP_other {g : EndedGet} (hother : CacheStore.moduleFromKey g.key ≠ module) :
    [g].countP (EndedGet.served module) = 0 ∧ [g].countP (EndedGet.missed module) = 0 ∧
      [g].countP (EndedGet.lookedUp module) = 0 := by
  simp [EndedGet.served, EndedGet.missed, EndedGet.lookedUp, hother]

lemma countP_value (key : String) (v : Json) :
    [EndedGet.mk key true (.value v)].countP (EndedGet.served (CacheStore.moduleFromKey key)) =
        (if v.isNull then 0 else 1) ∧
      [EndedGet.mk key true (.value v)].countP (EndedGet.missed (CacheStore.moduleFromKey key)) =
        (if v.isNull then 1 else 0) ∧
      [EndedGet.mk key true (.value v)].countP
        (EndedGet.lookedUp (CacheStore.moduleFromKey key)) = 1 := by
  rcases hnull : v.isNull with _ | _ <;>
    simp [EndedGet.served, EndedGet.missed, EndedGet.lookedUp, hnull]

lemma countP_served_of_not {key : String} {r : Except Exc Json}
    (h : ¬ ∃ v, r = .ok v ∧ v.isNull = false) :
    [EndedGet.mk key true (.ofExcept r)].countP
      (EndedGet.served (CacheStore.moduleFromKey key)) = 0 := by
  rcases r with e | v
  · simp [EndedGet.served, Ending.ofExcept]
  · have hnull : v.isNull = true := by simpa using h
    simp [EndedGet.served, Ending.ofExcept, hnull]

lemma countP_unreturned (key : String) {ending : Ending Json} (hending : ∀ v, ending ≠ .value v) :
    [EndedGet.mk key true ending].countP (EndedGet.served (CacheStore.moduleFromKey key)) = 0 ∧
      [EndedGet.mk key true ending].countP (EndedGet.missed (CacheStore.moduleFromKey key)) = 0 ∧
      [EndedGet.mk key true ending].countP
        (EndedGet.lookedUp (CacheStore.moduleFromKey key)) = 1 := by
  cases ending with
  | value v => exact absurd rfl (hending v)
  | _ => simp [EndedGet.served, EndedGet.missed, EndedGet.lookedUp]

/-- What a call adds to the record of its module. -/
lemma count_snoc {g : EndedGet} {a b c : ℕ} (hended : s'.ended = s.ended ++ [g])
    (hg : [g].countP (EndedGet.served module) = a ∧ [g].countP (EndedGet.missed module) = b ∧
      [g].countP (EndedGet.lookedUp module) = c) :
    s'.count (EndedGet.served module) = s.count (EndedGet.served module) + a ∧
      s'.count (EndedGet.missed module) = s.count (EndedGet.missed module) + b ∧
      s'.count (EndedGet.lookedUp module) = s.count (EndedGet.lookedUp module) + c := by
  obtain ⟨rfl, rfl, rfl⟩ := hg
  exact ⟨count_of_ended hended _, count_of_ended hended _, count_of_ended hended _⟩

/-- Where the record gets no call of a module, and its counters stay. -/
lemma goesAlong_of_other {l : List EndedGet} (hended : s'.ended = s.ended ++ l)
    (hl : l.countP (EndedGet.served module) = 0 ∧ l.countP (EndedGet.missed module) = 0 ∧
      l.countP (EndedGet.lookedUp module) = 0)
    (hhits : s'.hits module = s.hits module) (hmisses : s'.misses module = s.misses module) :
    s.GoesAlong s' module := by
  obtain ⟨hserved, hmissed, hlooked⟩ := hl
  refine ⟨?_, ?_, ?_⟩
  · rw [count_of_ended hended, hserved, hhits, Nat.add_zero]
  · rw [count_of_ended hended, hmissed, hmisses, Nat.add_zero]
  · rw [count_of_ended hended, hlooked, hhits, hmisses, Nat.add_zero]

/-- **One event.**  The counters of the module of a call go along with the calls when the event
is counted as it should, and astray when it is not; those of the other modules go along. -/
lemma goesAlong_or_goesAstray (h : Tallies s e s') :
    (s.CountableStep e ∧ ∀ module, s.GoesAlong s' module) ∨
      ¬ s.CountableStep e ∧ ∃ m, s.GoesAstray s' m ∧
        ∀ module, module ≠ m → s.GoesAlong s' module := by
  cases h with
  | unread g hunread hhits hmisses hended hright =>
    refine .inl ⟨hright, fun module => ?_⟩
    refine goesAlong_of_other hended ?_ (by rw [hhits]) (by rw [hmisses])
    rcases g with _ | g
    · exact ⟨rfl, rfl, rfl⟩
    · obtain ⟨hread, hnull⟩ := hunread g rfl
      rcases hending : g.ending with v | _ | _ <;>
        simp [EndedGet.served, EndedGet.missed, EndedGet.lookedUp, hread, hending]
      exact fun _ => hnull v hending
  | hit key r hhits hmisses hended hright =>
    have hother : ∀ module, module ≠ CacheStore.moduleFromKey key → s.GoesAlong s' module :=
      fun module hne => goesAlong_of_other hended (countP_other hne.symm)
        (by rw [hhits, Function.update_of_ne hne]) (by rw [hmisses])
    have hcounter := congrFun hhits (CacheStore.moduleFromKey key)
    have hmisses := congrFun hmisses (CacheStore.moduleFromKey key)
    rw [Function.update_self] at hcounter
    by_cases hvalue : ∃ v, r = .ok v ∧ v.isNull = false
    · obtain ⟨v, rfl, hnull⟩ := hvalue
      obtain ⟨hserved, hmissed, hlooked⟩ := count_snoc hended (countP_value key v)
      rw [hnull, if_neg Bool.false_ne_true] at hserved hmissed
      refine .inl ⟨hright.mpr ⟨v, rfl, hnull⟩, fun module => ?_⟩
      by_cases hkey : module = CacheStore.moduleFromKey key
      · subst hkey
        exact ⟨by omega, by omega, by omega⟩
      · exact hother module hkey
    · -- a hit without a value
      have hserved : s'.count (EndedGet.served (CacheStore.moduleFromKey key)) =
          s.count (EndedGet.served (CacheStore.moduleFromKey key)) := by
        rw [count_of_ended hended, countP_served_of_not hvalue, Nat.add_zero]
      have hlooked : s'.count (EndedGet.lookedUp (CacheStore.moduleFromKey key)) =
          s.count (EndedGet.lookedUp (CacheStore.moduleFromKey key)) + 1 := by
        rw [count_of_ended hended]
        simp [EndedGet.lookedUp]
      exact .inr ⟨fun h => hvalue (hright.mp h), CacheStore.moduleFromKey key,
        ⟨by omega, by omega, .inl (by omega)⟩, hother⟩
  | miss key hhits hmisses hended hright =>
    obtain ⟨hserved, hmissed, hlooked⟩ := count_snoc hended (countP_value key .null)
    have hcounter := congrFun hmisses (CacheStore.moduleFromKey key)
    rw [Function.update_self] at hcounter
    refine .inl ⟨hright, fun module => ?_⟩
    by_cases hkey : module = CacheStore.moduleFromKey key
    · subst hkey
      have hhits := congrFun hhits (CacheStore.moduleFromKey key)
      simp only [Json.isNull, if_true] at hserved hmissed
      exact ⟨by omega, by omega, by omega⟩
    · exact goesAlong_of_other hended (countP_other (Ne.symm hkey)) (by rw [hhits])
        (by rw [hmisses, Function.update_of_ne hkey])
  | uncounted key ending hending hhits hmisses hended hwrong =>
    obtain ⟨hserved, hmissed, hlooked⟩ := count_snoc hended (countP_unreturned key hending)
    have hhits' := congrFun hhits (CacheStore.moduleFromKey key)
    have hmisses' := congrFun hmisses (CacheStore.moduleFromKey key)
    refine .inr ⟨hwrong, CacheStore.moduleFromKey key, ⟨by omega, by omega, .inr (by omega)⟩,
      fun module hne => ?_⟩
    exact goesAlong_of_other hended (countP_other hne.symm) (by rw [hhits]) (by rw [hmisses])

/-- The counters are right when they agree with the calls. -/
lemma countsGets_of_agree
    (hhits : s.hits module = s.count (EndedGet.served module))
    (hmisses : s.misses module = s.count (EndedGet.missed module))
    (honce : s.hits module + s.misses module = s.count (EndedGet.lookedUp module)) :
    s.CountsGets module := by
  refine ⟨hhits, hmisses, honce, ?_⟩
  have hrate : s.shared.store.hitRate module =
      share (s.hits module) (s.hits module + s.misses module) := rfl
  rw [hrate, honce, hhits]

lemma bounded_step (hs : Bounded s) (h : Tallies s e s') : Bounded s' := by
  intro module
  have hold := hs module
  rcases goesAlong_or_goesAstray h with ⟨-, halong⟩ | ⟨-, m, hastray, halong⟩
  · obtain ⟨hhits, -, honce⟩ := halong module
    omega
  · by_cases hm : module = m
    · subst hm
      obtain ⟨hhits, honce, -⟩ := hastray
      omega
    · obtain ⟨hhits, -, honce⟩ := halong module hm
      omega

/-- After an event the counters are right exactly when the event is counted as it should. -/
lemma countsGets_step_iff (hs : ∀ module, s.CountsGets module) (h : Tallies s e s') :
    (∀ module, s'.CountsGets module) ↔ s.CountableStep e := by
  rcases goesAlong_or_goesAstray h with ⟨hright, halong⟩ | ⟨hwrong, m, hastray, -⟩
  · refine iff_of_true (fun module => ?_) hright
    obtain ⟨hhits, hmisses, honce⟩ := halong module
    obtain ⟨hhits₀, hmisses₀, honce₀, -⟩ := hs module
    exact countsGets_of_agree (by omega) (by omega) (by omega)
  · refine iff_of_false (fun hs' => ?_) hwrong
    obtain ⟨hhits₀, -, honce₀, -⟩ := hs m
    obtain ⟨hhits, -, honce, -⟩ := hs' m
    rcases hastray.lt with hlt | hlt <;> omega

/-- A wrong counter is never right again. -/
lemma countsGets_of_step (hs : Bounded s) (h : Tallies s e s')
    (hs' : ∀ module, s'.CountsGets module) : ∀ module, s.CountsGets module := by
  intro module
  have hbound := hs module
  obtain ⟨hhits', hmisses', honce', -⟩ := hs' module
  rcases goesAlong_or_goesAstray h with ⟨-, halong⟩ | ⟨-, m, hastray, halong⟩
  · obtain ⟨hhits, hmisses, honce⟩ := halong module
    exact countsGets_of_agree (by omega) (by omega) (by omega)
  · -- what has gone astray stays above its bound
    obtain ⟨hhits, -, honce, -⟩ := hs' m
    have hm := hs m
    rcases hastray.lt with hlt | hlt <;> omega

lemma bounded_opened (table : Table String CacheRow) : Bounded (opened table) :=
  fun _ => ⟨le_refl 0, le_refl 0⟩

lemma countsGets_opened (table : Table String CacheRow) (module : String) :
    (opened table).CountsGets module :=
  countsGets_of_agree rfl rfl rfl

/-- **The counters over a run.**  On any content of the database and in every interleaving of
calls, failing statements and cleanups, the counters of every module are those of the calls
that have ended exactly when every event was counted as it should: no call has gone on with
an unexpired row that is not read as a value or is `null`, and none that had to delete an
expired row was cancelled or failed with an exception that is not caught. -/
theorem countsGets_iff_countableStep {table : Table String CacheRow}
    (hrun : Run step (fun _ _ => True) (opened table) es s) :
    (∀ module, s.CountsGets module) ↔ Run step CountableStep (opened table) es s := by
  have hbounded : ∀ s e s₁, Bounded s → True → step s e = some s₁ → Bounded s₁ :=
    fun _ _ _ hs _ h => bounded_step hs (tallies_of_step h)
  have hcarried := hrun.carry hbounded (bounded_opened table)
  refine hcarried.holds_iff (I := fun _ => True) (J := fun s => ∀ module, s.CountsGets module)
    ?_ ?_ ?_ trivial (countsGets_opened table)
  · exact fun _ _ _ _ _ _ => trivial
  · exact fun _ _ _ _ hs _ h => countsGets_step_iff hs (tallies_of_step h)
  · exact fun _ _ _ hC h => countsGets_of_step hC.1 (tallies_of_step h)

/-- What the statistics show of a module is what its counters are. -/
lemma stats_modules {textLength : CellText → ℕ} {st : StoreStats}
    (h : s.shared.store.stats textLength none = .ok st) {m : String} {ms : ModuleStats}
    (hm : (m, ms) ∈ st.modules) :
    ms.hits = s.hits m ∧ ms.misses = s.misses m ∧ ms.hitRate = s.shared.store.hitRate m := by
  cases h
  obtain ⟨m', -, hm'⟩ := List.mem_map.mp hm
  cases hm'
  exact ⟨rfl, rfl, rfl⟩

/-- A key that is there, one that is not, and one whose row has expired and cannot be
deleted. -/
def readableTable : Table String CacheRow :=
  ((∅ : Table String CacheRow).insert "geocode:127.0:37.0" ⟨.dumps (.obj [("x", .num 1)]), none⟩).insert
    "mission:S2A" ⟨.dumps (.obj []), some 5⟩

def readingRun : List CountedEvent :=
  [.acts 9 (.get 0 "geocode:127.0:37.0"), .acts 9 (.execute 0), .acts 9 (.get 1 "mission:S2A"),
    .acts 9 (.execute 1), .acts 9 (.resume 1), .acts 9 (.resume 0),
    .fails 1 ⟨.databaseError, "database is locked"⟩, .acts 9 (.get 2 "geocode:0.0:0.0"),
    .acts 9 (.execute 2), .acts 9 (.resume 2)]

theorem countsGets_of_readingRun :
    ∃ s, Run step (fun _ _ => True) (opened readableTable) readingRun s ∧
      s.hits "geocode" = 1 ∧ s.misses "geocode" = 1 ∧ s.misses "mission" = 1 ∧
      ((∀ module, s.CountsGets module) ↔
        Run step CountableStep (opened readableTable) readingRun s) := by
  obtain ⟨s, hrun, hs⟩ : ∃ s, Run step (fun _ _ => True) (opened readableTable) readingRun s ∧
      decide (s.hits "geocode" = 1 ∧ s.misses "geocode" = 1 ∧ s.misses "mission" = 1) = true :=
    Run.of_observed (by decide +kernel)
  obtain ⟨hhits, hmisses, hmission⟩ := of_decide_eq_true hs
  exact ⟨s, hrun, hhits, hmisses, hmission, countsGets_iff_countableStep hrun⟩

/-- A row whose text is no JSON. -/
def corruptTable : Table String CacheRow :=
  (∅ : Table String CacheRow).insert "geocode:corrupt"
    ⟨.invalid ⟨.jsonDecodeError, "Expecting value: line 1 column 1 (char 0)"⟩, none⟩

def corruptRun : List CountedEvent :=
  [.acts 1 (.get 0 "geocode:corrupt"), .acts 1 (.execute 0), .acts 1 (.resume 0)]

/-- The one call returns `None`, and is counted as a hit. -/
theorem not_countsGets_of_corruptRun :
    ¬ ∀ s, Run step (fun _ _ => True) (opened corruptTable) corruptRun s →
      ∀ module, s.CountsGets module := by
  intro hall
  obtain ⟨s, hrun, hs⟩ : ∃ s, Run step (fun _ _ => True) (opened corruptTable) corruptRun s ∧
      decide (s.hits "geocode" = 1 ∧ s.count (EndedGet.served "geocode") = 0) = true :=
    Run.of_observed (by decide +kernel)
  obtain ⟨hhits, hserved⟩ := of_decide_eq_true hs
  have hcounts := (hall s hrun "geocode").hits
  omega

end CountedStore

end ImageDescriptor
