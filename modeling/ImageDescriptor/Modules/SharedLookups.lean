/-
# Calls that share a lookup

The lock of the geocoder spaces its requests; it does not make one lookup serve the calls
that wait for it.  A call that has found nothing in the cache does not read the cache again
when it gets the lock, so it looks its point up although the entry of the cell may have been
written meanwhile.  What an entry does spare, while it lives, are the lookups of the calls
that have not read the cache yet.
-/
import ImageDescriptor.Modules.CacheCoherence
import ImageDescriptor.Modules.GeocodeCalls

namespace ImageDescriptor

open Lib

/-- The call to which an action belongs. -/
def GeocodeAction.task : GeocodeAction → Option ℕ
  | begin i _ | select i _ | resume i | delete i _ | acquire i | lookup i | fetched i _
  | stored i _ | cancel i _ => some i
  | cleanup _ => none

/-- No statement of the cache fails. -/
def GeocodeAction.cacheWorks : GeocodeAction → Bool
  | select _ fault => fault.isNone
  | delete _ fault | stored _ fault => fault.isNone
  | _ => true

namespace GeocodePhase

/-- A call that has found nothing in the cache and has not made its lookup. -/
def missed : GeocodePhase → Bool
  | selected none _ | waiting | sleeping => true
  | _ => false

/-- A call that reads the cache, or that has been served from it, if it was not cancelled. -/
def served : GeocodePhase → Bool
  | reading | selected (some _) _ | ended false (.ok _) | cancelled false => true
  | _ => false

/-- A call that has found nothing in the cache, up to its end. -/
def unserved : GeocodePhase → Bool
  | selected none _ | waiting | sleeping | fetching | storing .. | ended true _ | cancelled _ =>
    true
  | _ => false

/-- The row that a call has read has not expired. -/
def unexpired (t : ℚ) : GeocodePhase → Bool
  | selected (some row) _ => !CacheStore.pastExpiry t row
  | deleting => false
  | _ => true

end GeocodePhase

namespace GeocodeCalls

/-- The condition on a step while an entry of the cell lives: the cache works, and neither the
row of the cell nor one that the call of the step has read for the cell has expired. -/
def entryLives (s : GeocodeCalls) (key : String) (e : GeocodeEvent) : Bool :=
  e.action.cacheWorks &&
  (s.store.table.lookup key).all (fun row => !CacheStore.pastExpiry e.time row) &&
  (e.action.task.bind s.calls).all fun call =>
    cellKey call.1 != key || call.2.unexpired e.time

/-- Call `j` has not read the cache yet. -/
def ToRead (s : GeocodeCalls) (j : ℕ) : Prop :=
  ∀ point p, s.calls j = some (point, p) → p = .reading

/-- Call `j` has found nothing in the cache and has not made its lookup. -/
def Missed (s : GeocodeCalls) (j : ℕ) : Prop :=
  ∃ point p, s.calls j = some (point, p) ∧ p.missed = true

/-- What the entry of a cell does for the calls of the cell between two states. -/
structure ServesLater (key : String) (s₁ s₂ : GeocodeCalls) : Prop where
  /-- A call that reads the cache later is served from it. -/
  served : ∀ j point p, s₁.ToRead j → s₂.calls j = some (point, p) → cellKey point = key →
    p.served = true ∧ j ∉ s₂.lookups
  /-- A call that had found nothing before ends with a lookup of its own. -/
  own : ∀ j point asked r, s₁.Missed j → s₂.calls j = some (point, .ended asked r) →
    cellKey point = key → j ∈ s₂.lookups
  /-- These are the only calls that make a lookup. -/
  only : ∀ j point p, j ∈ s₂.lookups → s₂.calls j = some (point, p) → cellKey point = key →
    j ∈ s₁.lookups ∨ s₁.Missed j
  once : s₂.lookups.Nodup

/-- The cell has an entry. -/
def HasEntry (key : String) (s : GeocodeCalls) : Prop :=
  ∃ row, s.store.table.lookup key = some row

/-- How a call of the cell goes on while its entry lives. -/
structure GoesOn (p p' : GeocodePhase) : Prop where
  served : p.served = true → p'.served = true
  unserved : p.unserved = true → p'.unserved = true
  missed : p'.missed = true → p.missed = true

variable {lax : LaxMode} {cfg : Settings} {s s' s₁ s₂ : GeocodeCalls} {e : GeocodeEvent}
  {key : String}

/-! ### The entry stays -/

lemma live_of_not_pastExpiry {t : ℚ} {row : CacheRow} (h : CacheStore.pastExpiry t row = false) :
    CacheStore.Live t row := by
  intro t' ht'
  simpa [CacheStore.pastExpiry, ht'] using h

/-- What the condition says of a step. -/
lemma entryLives_spec (h : s.entryLives key e = true) : e.action.cacheWorks = true ∧
    (∀ row, s.store.table.lookup key = some row → CacheStore.Live e.time row) ∧
    ∀ i point p, e.action.task = some i → s.calls i = some (point, p) → cellKey point = key →
      p.unexpired e.time = true := by
  simp only [entryLives, Bool.and_eq_true] at h
  obtain ⟨⟨hworks, hrow⟩, hcall⟩ := h
  refine ⟨hworks, fun row hlookup => ?_, fun i point p htask hi hcell => ?_⟩
  · rw [hlookup] at hrow
    exact live_of_not_pastExpiry (by simpa using hrow)
  · rw [htask, Option.bind_some, hi] at hcall
    simpa [hcell] using hcall

lemma HasEntry.congr {store : CacheStore} (h : HasEntry key s) (hs' : s'.store = store)
    (hsame : store.table.lookup key = s.store.table.lookup key) : HasEntry key s' := by
  obtain ⟨row, hrow⟩ := h
  exact ⟨row, by rw [hs', hsame, hrow]⟩

lemma hasEntry_write (h : HasEntry key s) (since : ℚ) (point : Point) (entry : CacheEntry) :
    HasEntry key (s.write since point entry none) := by
  obtain ⟨row, hrow⟩ := h
  by_cases hk : key = entry.key
  · rw [hk]
    exact ⟨_, CacheStore.lookup_set_self s.store since entry.key entry.value entry.ttl⟩
  · exact ⟨row, (CacheStore.lookup_set_of_ne hk).trans hrow⟩

lemma lookup_deleteExpired_ne {store : CacheStore} {k : String}
    {fault : Option CacheStore.WriteFault} (hk : key ≠ k) :
    (store.deleteExpired k fault).1.table.lookup key = store.table.lookup key := by
  rw [table_deleteExpired]
  rcases CacheStore.WriteFault.table_cases fault store.table (store.table.erase k) with
    hsame | herased
  · rw [hsame]
  · rw [herased, AList.lookup_erase_ne hk]

lemma hasEntry_step (hentry : HasEntry key s) (hlives : s.entryLives key e = true)
    (h : step lax cfg s e = some s') : HasEntry key s' := by
  obtain ⟨t, action⟩ := e
  obtain ⟨hworks, hlive, hread⟩ := entryLives_spec hlives
  cases (moves_of_step h).2 with
  | begin => exact hentry
  | select => exact hentry
  | @resume task point row c hcall =>
    exact hentry.congr rfl (congrArg _ (SharedStore.judge_table s.store t (cellKey point) row))
  | @delete task point fault hcall =>
    -- a call of the cell that has read an expired row is not resumed
    have hne : key ≠ cellKey point := by
      intro hk
      cases hread task point _ rfl hcall hk.symm
    exact hentry.congr rfl (lookup_deleteExpired_ne hne)
  | acquire => exact hentry
  | lookup => exact hentry
  | fetched => exact hentry
  | @stored task point since entry result fault hcall =>
    obtain rfl : fault = none := by simpa [GeocodeAction.cacheWorks] using hworks
    exact hasEntry_write hentry since point entry
  | @cancelWrite task point since entry result hcall =>
    exact hasEntry_write hentry since point entry
  | @cancelDelete task point hcall =>
    have hne : key ≠ cellKey point := by
      intro hk
      cases hread task point _ rfl hcall hk.symm
    exact hentry.congr rfl (AList.lookup_erase_ne hne)
  | cancel => exact hentry
  | cleanup =>
    obtain ⟨row, hrow⟩ := hentry
    exact ⟨row, CacheStore.lookup_cleanup hrow (hlive row hrow)⟩

/-! ### How the calls of the cell go on -/

lemma GoesOn.refl (p : GeocodePhase) : GoesOn p p := ⟨id, id, id⟩

lemma goesOn_cancelled (p : GeocodePhase) (hp : p.final = false) :
    GoesOn p (.cancelled p.asked) := by
  refine ⟨fun hserved => ?_, fun _ => rfl, fun h => by cases h⟩
  cases p with
  | reading => rfl
  | selected => rfl
  | ended => cases hp
  | cancelled => cases hp
  | _ => cases hserved

lemma goesOn_afterLookup (t : ℚ) (point : Point) (fetched : Fetched) :
    GoesOn .fetching (afterLookup lax cfg t point fetched) := by
  unfold afterLookup
  dsimp only
  split
  · exact ⟨fun h => (by cases h), fun _ => rfl, fun h => (by cases h)⟩
  · exact ⟨fun h => (by cases h), fun _ => rfl, fun h => (by cases h)⟩

lemma expired_of_live {t : ℚ} {row : CacheRow} (h : CacheStore.pastExpiry t row = false) :
    CacheStore.expired t row = false :=
  (live_of_not_pastExpiry h).not_expired

/-- A call goes on with the row that it has read. -/
lemma goesOn_afterJudge {t : ℚ} {point : Point} {row : Option CacheRow} {c : Option Point}
    (hfits : Fits cfg point (.selected row c))
    (hfresh : (GeocodePhase.selected row c).unexpired t = true) :
    GoesOn (.selected row c)
      (afterJudge lax (SharedStore.judge s.store t (cellKey point) row).2) := by
  rcases row with _ | row
  · exact ⟨fun h => (by cases h), fun _ => rfl, fun _ => rfl⟩
  · obtain ⟨l, hvalue, -, -⟩ := hfits
    have hexpired : CacheStore.expired t row = false :=
      expired_of_live (by simpa [GeocodePhase.unexpired] using hfresh)
    have hserved : afterJudge lax (SharedStore.judge s.store t (cellKey point) (some row)).2 =
        .ended false (.ok l) := by
      simp [SharedStore.judge, hexpired, hvalue, CellText.loads, afterJudge, afterGet_modelDump]
    rw [hserved]
    exact ⟨fun _ => rfl, fun h => (by cases h), fun h => (by cases h)⟩

/-- A call that is as it was, has just begun, or has gone on. -/
def Continues (key : String) (s s' : GeocodeCalls) : Prop :=
  ∀ j point p', s'.calls j = some (point, p') → cellKey point = key →
    (s.calls j = none ∧ p' = .reading) ∨ ∃ p, s.calls j = some (point, p) ∧ GoesOn p p'

/-- What has to be shown of the call that a step changes. -/
lemma continues_of_update {i : ℕ} {point : Point} {p' : GeocodePhase}
    (hcalls : s'.calls = Function.update s.calls i (some (point, p')))
    (hi : cellKey point = key → (s.calls i = none ∧ p' = .reading) ∨
      ∃ p, s.calls i = some (point, p) ∧ GoesOn p p') : Continues key s s' := by
  intro j point' q hq
  rw [hcalls] at hq
  exact forall_calls_update (P := fun j point' q => cellKey point' = key →
      (s.calls j = none ∧ q = .reading) ∨ ∃ p, s.calls j = some (point', p) ∧ GoesOn p q)
    hi (fun _ _ q _ hq _ => .inr ⟨q, hq, .refl q⟩) j point' q hq

lemma continues_update {i : ℕ} {point : Point} {p p' : GeocodePhase}
    (hcall : s.calls i = some (point, p))
    (hcalls : s'.calls = Function.update s.calls i (some (point, p')))
    (hp : cellKey point = key → GoesOn p p') : Continues key s s' :=
  continues_of_update hcalls fun hcell => .inr ⟨p, hcall, hp hcell⟩

lemma continues_step (hs : Coherent cfg s) (hentry : HasEntry key s)
    (hlives : s.entryLives key e = true) (h : step lax cfg s e = some s') :
    Continues key s s' := by
  obtain ⟨t, action⟩ := e
  obtain ⟨hworks, -, hread⟩ := entryLives_spec hlives
  cases (moves_of_step h).2 with
  | begin hnew => exact continues_of_update rfl fun _ => .inl ⟨hnew, rfl⟩
  | @select task point fault hcall =>
    refine continues_update hcall rfl fun hcell => ?_
    obtain rfl : fault = none := by simpa [GeocodeAction.cacheWorks] using hworks
    -- the entry is there to be read
    obtain ⟨row, hrow⟩ := hentry
    rw [afterSelect, hcell, hrow]
    exact ⟨fun _ => rfl, fun h => (by cases h), fun h => (by cases h)⟩
  | @resume task point row c hcall =>
    exact continues_update hcall rfl fun hcell =>
      goesOn_afterJudge (hs.phases _ _ _ hcall) (hread task point _ rfl hcall hcell)
  | @delete task point fault hcall =>
    refine continues_update hcall rfl fun hcell => ?_
    cases hread task point _ rfl hcall hcell
  | acquire hcall =>
    exact continues_update hcall rfl fun _ => ⟨fun h => (by cases h), fun _ => rfl, fun _ => rfl⟩
  | lookup hcall =>
    exact continues_update hcall rfl fun _ => ⟨fun h => (by cases h), fun _ => rfl, fun _ => rfl⟩
  | fetched hcall => exact continues_update hcall rfl fun _ => goesOn_afterLookup _ _ _
  | stored hcall =>
    exact continues_update hcall rfl fun _ =>
      ⟨fun h => (by cases h), fun _ => rfl, fun h => (by cases h)⟩
  | cancelWrite hcall => exact continues_update hcall rfl fun _ => goesOn_cancelled _ rfl
  | cancelDelete hcall => exact continues_update hcall rfl fun _ => goesOn_cancelled _ rfl
  | cancel hcall hp => exact continues_update hcall rfl fun _ => goesOn_cancelled _ hp
  | cleanup => exact fun j point p' hp' _ => .inr ⟨p', hp', .refl p'⟩

/-! ### The whole run -/

lemma asked_of_served {p : GeocodePhase} (h : p.served = true) : p.asked = false := by
  cases p with
  | ended asked r =>
    cases asked with
    | false => rfl
    | true => cases h
  | cancelled asked =>
    cases asked with
    | false => rfl
    | true => cases h
  | fetching => cases h
  | storing => cases h
  | _ => rfl

/-- What holds in a run since a state in which the cell has an entry. -/
structure SharesSince (cfg : Settings) (key : String) (s₁ s : GeocodeCalls) : Prop where
  coherent : Coherent cfg s
  listed : LookupsListed s
  entry : HasEntry key s
  begun : ∀ j, s₁.calls j ≠ none → s.calls j ≠ none
  served : ∀ j point p, s₁.ToRead j → s.calls j = some (point, p) → cellKey point = key →
    p.served = true
  unserved : ∀ j point p, s₁.Missed j → s.calls j = some (point, p) → cellKey point = key →
    p.unserved = true
  missed : ∀ j point p, s.calls j = some (point, p) → cellKey point = key → p.missed = true →
    s₁.Missed j
  only : ∀ j point p, j ∈ s.lookups → s.calls j = some (point, p) → cellKey point = key →
    j ∈ s₁.lookups ∨ s₁.Missed j

lemma sharesSince_step (hs : SharesSince cfg key s₁ s) (hlives : s.entryLives key e = true)
    (h : step lax cfg s e = some s') : SharesSince cfg key s₁ s' := by
  have hgoes := continues_step hs.coherent hs.entry hlives h
  refine ⟨coherent_step hs.coherent h, lookupsListed_step hs.listed h,
    hasEntry_step hs.entry hlives h, fun j hbegun => calls_ne_none_step h (hs.begun j hbegun),
    ?_, ?_, ?_, ?_⟩
  · intro j point p' hread hp' hcell
    rcases hgoes j point p' hp' hcell with ⟨-, rfl⟩ | ⟨p, hp, hgoes⟩
    · rfl
    · exact hgoes.served (hs.served j point p hread hp hcell)
  · intro j point p' hmissed hp' hcell
    rcases hgoes j point p' hp' hcell with ⟨hnew, -⟩ | ⟨p, hp, hgoes⟩
    · -- a call that had begun does not begin
      obtain ⟨point₁, p₁, hp₁, -⟩ := hmissed
      exact absurd hnew (hs.begun j (by simp [hp₁]))
    · exact hgoes.unserved (hs.unserved j point p hmissed hp hcell)
  · intro j point p' hp' hcell hmissed
    rcases hgoes j point p' hp' hcell with ⟨-, rfl⟩ | ⟨p, hp, hgoes⟩
    · cases hmissed
    · exact hs.missed j point p hp hcell (hgoes.missed hmissed)
  · intro j point p' hj hp' hcell
    rcases step_lookups h with ⟨hsame, -⟩ | ⟨i, point', hsleeps, hlookups, hcalls⟩
    · rw [hsame] at hj
      rcases hgoes j point p' hp' hcell with ⟨hnew, -⟩ | ⟨p, hp, -⟩
      · rw [hs.listed.2] at hj
        simp [hasAsked, hnew] at hj
      · exact hs.only j point p hj hp hcell
    · rw [hlookups, List.mem_cons] at hj
      rcases hj with rfl | hj
      · rw [hcalls, Function.update_self, Option.some.injEq, Prod.mk.injEq] at hp'
        obtain ⟨rfl, -⟩ := hp'
        exact .inr (hs.missed _ _ _ hsleeps hcell rfl)
      · rcases hgoes j point p' hp' hcell with ⟨hnew, -⟩ | ⟨p, hp, -⟩
        · rw [hs.listed.2] at hj
          simp [hasAsked, hnew] at hj
        · exact hs.only j point p hj hp hcell

/-- The state in which the entry has just been written. -/
lemma sharesSince_stored {i : ℕ} {point : Point} {since t : ℚ} {entry : CacheEntry}
    {result : Except Exc Location} (hs : Coherent cfg s) (hlisted : LookupsListed s)
    (hcall : s.calls i = some (point, .storing since entry result))
    (h : step lax cfg s ⟨t, .stored i none⟩ = some s₁) :
    SharesSince cfg (cellKey point) s₁ s₁ := by
  have hentry : HasEntry (cellKey point) s₁ := by
    obtain ⟨l, -, rfl, rfl⟩ := hs.phases _ _ _ hcall
    cases (moves_of_step h).2 with
    | stored hcall' =>
      rw [hcall, Option.some.injEq, Prod.mk.injEq] at hcall'
      obtain ⟨rfl, hphase⟩ := hcall'
      cases hphase
      exact ⟨_, CacheStore.lookup_set_self s.store since _ _ _⟩
  refine ⟨coherent_step hs h, lookupsListed_step hlisted h, hentry, fun j hj => hj, ?_, ?_, ?_, ?_⟩
  · intro j point p hread hp _
    rw [hread point p hp]
    rfl
  · rintro j point p ⟨point', p₁, hp₁, hmissed⟩ hp -
    rw [hp, Option.some.injEq, Prod.mk.injEq] at hp₁
    obtain ⟨-, rfl⟩ := hp₁
    cases p with
    | selected row c =>
      rcases row with _ | row
      · rfl
      · cases hmissed
    | waiting => rfl
    | sleeping => rfl
    | _ => cases hmissed
  · intro j point p hp _ hmissed
    exact ⟨point, p, hp, hmissed⟩
  · exact fun j _ _ hj _ _ => .inl hj

/-- While the entry of a cell that has been written lives, it serves the calls that read the
cache later, and every other call of the cell that looks its point up does so on its own,
once. -/
theorem servesLater_of_run {es es' : List GeocodeEvent} {i : ℕ} {point : Point} {since t : ℚ}
    {entry : CacheEntry} {result : Except Exc Location}
    (h : Run (step lax cfg) (fun _ _ => True) initial es s)
    (hcall : s.calls i = some (point, .storing since entry result))
    (hstored : step lax cfg s ⟨t, .stored i none⟩ = some s₁)
    (hrun : Run (step lax cfg) (fun s e => s.entryLives (cellKey point) e = true) s₁ es' s₂) :
    ServesLater (cellKey point) s₁ s₂ := by
  have hbefore : Coherent cfg s ∧ LookupsListed s :=
    h.invariant (I := fun s => Coherent cfg s ∧ LookupsListed s)
      (fun _ _ _ hs _ h => ⟨coherent_step hs.1 h, lookupsListed_step hs.2 h⟩)
      ⟨coherent_initial, lookupsListed_initial⟩
  have hshares : SharesSince cfg (cellKey point) s₁ s₂ :=
    hrun.invariant (I := SharesSince cfg (cellKey point) s₁)
      (fun _ _ _ hs hlives h => sharesSince_step hs hlives h)
      (sharesSince_stored hbefore.1 hbefore.2 hcall hstored)
  refine ⟨fun j point' p hread hp hcell => ?_, fun j point' asked r hmissed hended hcell => ?_,
    hshares.only, hshares.listed.1⟩
  · have hserved : p.served = true := hshares.served j point' p hread hp hcell
    refine ⟨hserved, ?_⟩
    rw [hshares.listed.2]
    simp [hasAsked, hp, asked_of_served hserved]
  · have hunserved := hshares.unserved j point' _ hmissed hended hcell
    rw [hshares.listed.2]
    cases asked with
    | true => simp [hasAsked, hended, GeocodePhase.asked]
    | false => cases hunserved

/-! ### Two calls that miss, and a third one -/

def cityHall : Point := (126978 / 1000, 37566 / 1000)

/-- Two calls for the point read the cache, and the first one has made its lookup. -/
def twoMisses : List GeocodeEvent :=
  [⟨1, .begin 0 cityHall⟩, ⟨1, .begin 1 cityHall⟩, ⟨1, .select 0 none⟩, ⟨1, .select 1 none⟩,
    ⟨1, .resume 0⟩, ⟨1, .resume 1⟩, ⟨1, .acquire 0⟩, ⟨1, .lookup 0⟩,
    ⟨2, .fetched 0 (.ok (.ok (.obj [("display_name", .str "Seoul")])))⟩]

/-- Its entry is written. -/
def entryWritten : GeocodeEvent := ⟨2, .stored 0 none⟩

/-- The second call gets the lock, while a third one reads the cache. -/
def secondLookup : List GeocodeEvent :=
  [⟨2, .acquire 1⟩, ⟨2, .begin 2 cityHall⟩, ⟨2, .select 2 none⟩, ⟨2, .resume 2⟩, ⟨3, .lookup 1⟩]

def isStoring : Option (Point × GeocodePhase) → Bool
  | some (point, .storing _ _ (.ok _)) => decide (point = cityHall)
  | _ => false

/-- What can be seen of the events after the lookup of the first call. -/
def looksUpTwice (s : GeocodeCalls) : Bool :=
  isStoring (s.calls 0) &&
  (step CachedCalls.numbersOnly .default s entryWritten).any fun s₁ =>
    (exec (step CachedCalls.numbersOnly .default)
      (fun s e => s.entryLives (cellKey cityHall) e = true) s₁ secondLookup).any fun s₂ =>
        decide (s₁.lookups = [0]) && decide (s₂.lookups = [1, 0])

lemma run_looksUpTwice : ∃ s s₁ s₂ since entry l,
    Run (step CachedCalls.numbersOnly .default) (fun _ e => e.action.cacheWorks = true) initial
      twoMisses s ∧
    s.calls 0 = some (cityHall, .storing since entry (.ok l)) ∧
    step CachedCalls.numbersOnly .default s entryWritten = some s₁ ∧
    Run (step CachedCalls.numbersOnly .default)
      (fun s e => s.entryLives (cellKey cityHall) e = true) s₁ secondLookup s₂ ∧
    s₁.lookups = [0] ∧ s₂.lookups = [1, 0] := by
  obtain ⟨s, hrun, hs⟩ : ∃ s, Run (step CachedCalls.numbersOnly .default)
      (fun _ e => e.action.cacheWorks = true) initial twoMisses s ∧ looksUpTwice s = true :=
    Run.of_observed (by decide +kernel)
  simp only [looksUpTwice, Bool.and_eq_true, Option.any_eq_true, decide_eq_true_eq] at hs
  obtain ⟨hstoring, s₁, hstored, s₂, hexec, hlookups⟩ := hs
  simp only [isStoring] at hstoring
  split at hstoring
  · rename_i point since entry l hcall
    obtain rfl : point = cityHall := by simpa using hstoring
    exact ⟨s, s₁, s₂, since, entry, l, hrun, hcall, hstored, .of_exec hexec, hlookups⟩
  · cases hstoring

theorem servesLater_of_thirdCall :
    ∃ s₁ s₂, ServesLater (cellKey cityHall) s₁ s₂ ∧ s₂.lookups = [1, 0] := by
  obtain ⟨s, s₁, s₂, since, entry, l, hrun, hcall, hstored, hrun', -, hlookups⟩ := run_looksUpTwice
  exact ⟨s₁, s₂, servesLater_of_run (hrun.mono fun _ _ _ => trivial) hcall hstored hrun', hlookups⟩

/-- The second call had missed before the entry was written: it does not find the entry when it
gets the lock, and makes a lookup of its own. -/
theorem waiting_call_looks_up_again :
    ∃ s s₁ s₂ since entry l,
      Run (step CachedCalls.numbersOnly .default) (fun _ e => e.action.cacheWorks = true) initial
        twoMisses s ∧
      s.calls 0 = some (cityHall, .storing since entry (.ok l)) ∧
      step CachedCalls.numbersOnly .default s entryWritten = some s₁ ∧
      Run (step CachedCalls.numbersOnly .default)
        (fun s e => s.entryLives (cellKey cityHall) e = true) s₁ secondLookup s₂ ∧
      ¬ (∀ j ∈ s₂.lookups, j ∈ s₁.lookups) := by
  obtain ⟨s, s₁, s₂, since, entry, l, hrun, hcall, hstored, hrun', hfirst, hsecond⟩ :=
    run_looksUpTwice
  refine ⟨s, s₁, s₂, since, entry, l, hrun, hcall, hstored, hrun', fun h => ?_⟩
  have hj := h 1 (by simp [hsecond])
  simp [hfirst] at hj

end GeocodeCalls

end ImageDescriptor
