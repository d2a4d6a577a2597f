/-
# The point of a location

An entry of the cache is found under the key of a cell, and holds the location of the point
for which it was written.  A call that is served from the cache therefore returns the
coordinates of that point, while a call that asks Nominatim returns those that it was asked
for, with an answer that is no JSON as well.  So every location carries the point of its call
exactly in the runs in which no call is served with an entry of another point.
-/
import ImageDescriptor.Modules.CacheCoherence
import ImageDescriptor.Modules.GeocodeCalls

namespace ImageDescriptor

open Lib

namespace GeocodeCalls

/-- A call goes on with a row that has not expired and was written for another point. -/
def hitsOther (s : GeocodeCalls) (e : GeocodeEvent) : Bool :=
  match e.action with
  | .resume task =>
    match s.calls task with
    | some (point, .selected (some row) (some c)) =>
      !CacheStore.expired e.time row && decide (c ≠ point)
    | _ => false
  | _ => false

/-- The location that a call of a point may have returned carries the point. -/
def Carries (point : Point) (p : GeocodePhase) : Prop :=
  ∀ asked l, p = .ended asked (.ok l) → (l.lon, l.lat) = point

/-- Every location that has been returned carries the point of its call. -/
def CarriesPoints (s : GeocodeCalls) : Prop :=
  ∀ j point p, s.calls j = some (point, p) → Carries point p

variable {lax : LaxMode} {cfg : Settings} {s s' : GeocodeCalls} {e : GeocodeEvent}

/-! ### One step -/

lemma carriesPoints_update {i : ℕ} {point : Point} {p : GeocodePhase} (hs : CarriesPoints s)
    (hcalls : s'.calls = Function.update s.calls i (some (point, p))) :
    CarriesPoints s' ↔ Carries point p := by
  constructor
  · intro hs'
    exact hs' i point p (by rw [hcalls, Function.update_self])
  · intro hp j point' p' hj
    rw [hcalls] at hj
    exact forall_calls_update (P := fun _ => Carries) hp (fun j point' p' _ => hs j point' p') j
      point' p' hj

lemma carries_of_not_ended {point : Point} {p : GeocodePhase}
    (h : ∀ asked l, p ≠ .ended asked (.ok l)) : Carries point p :=
  fun asked l hp => absurd hp (h asked l)

/-- A read that finds nothing, or raises, returns no location. -/
lemma carries_afterGet {point : Point} {r : Except Exc Json} (h : ∀ v, r = .ok v → v = .null) :
    Carries point (afterGet lax r) := by
  refine carries_of_not_ended fun asked l => ?_
  rcases r with e | v
  · simp [afterGet]
  · obtain rfl := h v rfl
    simp [afterGet]

lemma getFailed_ok {x : Exc} {v : Json} (h : CacheStore.getFailed x = .ok v) : v = .null := by
  unfold CacheStore.getFailed at h
  split at h
  · cases h
    rfl
  · cases h

lemma deleteExpired_ok {store : CacheStore} {key : String} {fault : Option CacheStore.WriteFault}
    {v : Json} (h : (store.deleteExpired key fault).2 = .ok v) : v = .null := by
  unfold CacheStore.deleteExpired at h
  dsimp only at h
  split at h
  · cases h
    rfl
  · split at h
    · cases h
      rfl
    · cases h

/-- What a call returns that has made its lookup carries its point. -/
lemma carries_of_fits {point : Point} {p : GeocodePhase} (hfits : Fits cfg point p)
    (h : p.asked = true) : Carries point p := by
  rintro asked l rfl
  obtain rfl : asked = true := h
  exact hfits l rfl

/-- A call that goes on with a row returns a location of another point exactly when the row
was written for one. -/
lemma carries_afterJudge {t : ℚ} {task : ℕ} {point : Point} {row : Option CacheRow}
    {c : Option Point} (hcall : s.calls task = some (point, .selected row c))
    (hfits : Fits cfg point (.selected row c)) :
    Carries point (afterJudge lax (SharedStore.judge s.store t (cellKey point) row).2) ↔
      s.hitsOther ⟨t, .resume task⟩ = false := by
  rcases row with _ | row
  · simp [hitsOther, hcall, SharedStore.judge, afterJudge, afterGet, Carries]
  · obtain ⟨l, hvalue, rfl, -⟩ := hfits
    by_cases hexp : CacheStore.expired t row = true
    · simp [hitsOther, hcall, SharedStore.judge, hexp, afterJudge, Carries]
    · simp [hitsOther, hcall, SharedStore.judge, hexp, hvalue, CellText.loads, afterJudge,
        afterGet_modelDump, Carries]

/-- In one step every location that is returned carries the point of its call, unless a call
goes on with an entry of another point. -/
lemma carriesPoints_step (hcoherent : Coherent cfg s) (hs : CarriesPoints s)
    (h : step lax cfg s e = some s') : CarriesPoints s' ↔ s.hitsOther e = false := by
  obtain ⟨t, action⟩ := e
  cases (moves_of_step h).2 with
  | begin =>
    exact iff_of_true ((carriesPoints_update hs rfl).mpr (carries_of_not_ended (by simp))) rfl
  | @select task point fault hcall =>
    refine iff_of_true ((carriesPoints_update hs rfl).mpr ?_) rfl
    rcases fault with _ | x
    · exact carries_of_not_ended (by simp [afterSelect])
    · exact carries_afterGet fun v hv => getFailed_ok hv
  | @resume task point row c hcall =>
    rw [carriesPoints_update (s := s) hs rfl]
    exact carries_afterJudge hcall (hcoherent.phases _ _ _ hcall)
  | delete =>
    exact iff_of_true ((carriesPoints_update (s := s) hs rfl).mpr
      (carries_afterGet fun v hv => deleteExpired_ok hv)) rfl
  | acquire =>
    exact iff_of_true ((carriesPoints_update hs rfl).mpr (carries_of_not_ended (by simp))) rfl
  | lookup =>
    exact iff_of_true ((carriesPoints_update hs rfl).mpr (carries_of_not_ended (by simp))) rfl
  | fetched =>
    exact iff_of_true ((carriesPoints_update hs rfl).mpr
      (carries_of_fits (fits_afterLookup _ _ _) (asked_afterLookup _ _ _))) rfl
  | stored hcall =>
    exact iff_of_true ((carriesPoints_update (s := s) hs rfl).mpr
      (carries_of_fits (fits_stored (hcoherent.phases _ _ _ hcall) _) rfl)) rfl
  | cancelWrite =>
    exact iff_of_true ((carriesPoints_update (s := s) hs rfl).mpr
      (carries_of_not_ended (by simp))) rfl
  | cancelDelete =>
    exact iff_of_true ((carriesPoints_update (s := s) hs rfl).mpr
      (carries_of_not_ended (by simp))) rfl
  | cancel =>
    exact iff_of_true ((carriesPoints_update hs rfl).mpr (carries_of_not_ended (by simp))) rfl
  | cleanup => exact iff_of_true hs rfl

/-! ### The whole run -/

/-- A location that does not carry the point of its call is not taken back. -/
lemma carriesPoints_of_step (h : step lax cfg s e = some s') (hs' : CarriesPoints s') :
    CarriesPoints s := by
  intro j point p hp asked l hended
  subst hended
  exact hs' j point _ (final_step h hp rfl) asked l rfl

lemma carriesPoints_initial : CarriesPoints initial := by
  intro j point p hp
  cases hp

/-- **Every location carries the point of its call** exactly in the runs in which no call is
served with an entry that was written for another point. -/
theorem carriesPoints_iff {es : List GeocodeEvent}
    (h : Run (step lax cfg) (fun _ _ => True) initial es s) :
    CarriesPoints s ↔ Run (step lax cfg) (fun s e => s.hitsOther e = false) initial es s :=
  Run.holds_iff (I := Coherent cfg) (J := CarriesPoints)
    (fun _ _ _ hs _ h => coherent_step hs h)
    (fun _ _ _ hcoherent hs _ h => carriesPoints_step hcoherent hs h)
    (fun _ _ _ _ h hs' => carriesPoints_of_step h hs') h coherent_initial carriesPoints_initial

/-! ### Two calls in one cell -/

/-- A call for a point is answered by Nominatim, and a call for another one follows it. -/
def oneAfterTheOther (first second : Point) : List GeocodeEvent :=
  [⟨1, .begin 0 first⟩, ⟨1, .select 0 none⟩, ⟨1, .resume 0⟩, ⟨1, .acquire 0⟩, ⟨1, .lookup 0⟩,
    ⟨2, .fetched 0 (.ok (.ok (.obj [("display_name", .str "Seoul")])))⟩, ⟨2, .stored 0 none⟩,
    ⟨3, .begin 1 second⟩, ⟨3, .select 1 none⟩, ⟨3, .resume 1⟩]

/-- Whether a call has been served with a location that does not carry its point. -/
def returnsOther : Option (Point × GeocodePhase) → Bool
  | some (point, .ended false (.ok l)) => decide ((l.lon, l.lat) ≠ point)
  | _ => false

theorem carriesPoints_of_repeatedPoint :
    ∃ s, Run (step CachedCalls.numbersOnly .default) (fun _ _ => True) initial
      (oneAfterTheOther (126978 / 1000, 37566 / 1000) (126978 / 1000, 37566 / 1000)) s ∧
      CarriesPoints s := by
  obtain ⟨s, hrun, -⟩ : ∃ s, Run (step CachedCalls.numbersOnly .default)
      (fun s e => s.hitsOther e = false) initial
      (oneAfterTheOther (126978 / 1000, 37566 / 1000) (126978 / 1000, 37566 / 1000)) s ∧
      (s.calls 1).isSome = true :=
    Run.of_observed (by decide +kernel)
  have hany := hrun.mono (D := fun _ _ => True) fun _ _ _ => trivial
  exact ⟨s, hany, (carriesPoints_iff hany).mpr hrun⟩

/-- Two points that round to one cell: the second call returns the point of the first. -/
theorem neighbour_gets_cached_point :
    ∃ s, Run (step CachedCalls.numbersOnly .default) (fun _ _ => True) initial
      (oneAfterTheOther (126978 / 1000, 37566 / 1000) (1269782 / 10000, 37566 / 1000)) s ∧
      ¬ CarriesPoints s := by
  obtain ⟨s, hrun, hs⟩ : ∃ s, Run (step CachedCalls.numbersOnly .default) (fun _ _ => True) initial
      (oneAfterTheOther (126978 / 1000, 37566 / 1000) (1269782 / 10000, 37566 / 1000)) s ∧
      returnsOther (s.calls 1) = true :=
    Run.of_observed (by decide +kernel)
  refine ⟨s, hrun, fun hcarries => ?_⟩
  simp only [returnsOther] at hs
  split at hs
  · rename_i point l hcall
    have hother : (l.lon, l.lat) ≠ point := by simpa using hs
    exact hother (hcarries 1 point _ hcall false l rfl)
  · cases hs

end GeocodeCalls

end ImageDescriptor
