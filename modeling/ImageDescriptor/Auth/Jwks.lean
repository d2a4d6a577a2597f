/-
# The key set of the auth provider

`_get_jwks` keeps the last key set with the time of its fetch, and looks at both before and
after it waits for its lock.  Control returns to the event loop while a call waits for the
lock and while it fetches; the code between is a function of the module variables and the
clock.  `Auth/KeySets.lean` interleaves any number of calls.
-/
import ImageDescriptor.Config
import ImageDescriptor.Modules.Lookup
import ImageDescriptor.Utils.Errors

namespace ImageDescriptor.Auth

/-- The module variables `_jwks_cache` and `_jwks_cache_ts`. -/
structure JwksCache where
  jwks : Json
  ts : ℚ

/-- The module variables when the module has been loaded. -/
def JwksCache.initial : JwksCache := ⟨.null, 0⟩

variable (cfg : Settings)

/-- `_jwks_cache and (now - _jwks_cache_ts) < settings.jwks_ttl_seconds`. -/
def JwksCache.Fresh (now : ℚ) (g : JwksCache) : Prop :=
  g.jwks.truthy = true ∧ now - g.ts < cfg.jwksTtlSeconds

instance (now : ℚ) (g : JwksCache) : Decidable (g.Fresh cfg now) :=
  inferInstanceAs (Decidable (_ ∧ _))

/-- The look at the module variables, which a call makes before it has the lock and again
under it: the key set that it returns, or `none` when it goes on. -/
def cachedJwks (now : ℚ) (g : JwksCache) : Option Json :=
  if g.Fresh cfg now then some g.jwks else none

/-- What is raised when the body of the answer is no JSON. -/
def jwksParseError : Raised :=
  .descriptorError 502 "JWKS_PARSE_ERROR" "Failed to parse JWKS response from auth provider"

/-- The end of a call after its fetch; `now` was read under the lock, before the fetch. -/
def jwksFetched (now : ℚ) (g : JwksCache) : Fetched → JwksCache × Except Raised Json
  -- the request, or `raise_for_status`
  | .error e => (g, .error (.other e))
  | .ok (.error e) =>
    (g, .error (if e.isinstance .jsonDecodeError then jwksParseError else .other e))
  | .ok (.ok data) => (⟨data, now⟩, .ok data)

/-- What one call meets: the module variables and the clock when it begins and when it has
the lock, and the end of its fetch if it makes one. -/
structure JwksWorld where
  startTime : ℚ
  atStart : JwksCache
  lockTime : ℚ
  atLock : JwksCache
  fetched : Fetched

/-- `_get_jwks`. -/
def getJwks (w : JwksWorld) : Except Raised Json :=
  match cachedJwks cfg w.startTime w.atStart with
  | some jwks => .ok jwks
  | none =>
    match cachedJwks cfg w.lockTime w.atLock with
    | some jwks => .ok jwks
    | none => (jwksFetched w.lockTime w.atLock w.fetched).2

/-- The call makes a fetch. -/
def JwksWorld.Fetches (w : JwksWorld) : Prop :=
  ¬ w.atStart.Fresh cfg w.startTime ∧ ¬ w.atLock.Fresh cfg w.lockTime

/-- The key set that a call gets: a fresh one that is cached, or one that it fetches. -/
inductive JwksWorld.Provides (w : JwksWorld) : Json → Prop
  | cached (hfresh : w.atStart.Fresh cfg w.startTime) : Provides w w.atStart.jwks
  | cachedAtLock (hstart : ¬ w.atStart.Fresh cfg w.startTime)
      (hfresh : w.atLock.Fresh cfg w.lockTime) : Provides w w.atLock.jwks
  | fetched {data : Json} (hfetches : w.Fetches cfg) (hdata : w.fetched = .ok (.ok data)) :
      Provides w data

variable {cfg}

lemma cachedJwks_eq_some_iff {now : ℚ} {g : JwksCache} {jwks : Json} :
    cachedJwks cfg now g = some jwks ↔ g.Fresh cfg now ∧ g.jwks = jwks := by
  unfold cachedJwks
  split
  · rename_i h
    simp [h]
  · rename_i h
    simp [h]

lemma cachedJwks_eq_none_iff {now : ℚ} {g : JwksCache} :
    cachedJwks cfg now g = none ↔ ¬ g.Fresh cfg now := by
  unfold cachedJwks
  split
  · rename_i h
    simp [h]
  · rename_i h
    simp [h]

lemma getJwks_of_fetches {w : JwksWorld} (h : w.Fetches cfg) :
    getJwks cfg w = (jwksFetched w.lockTime w.atLock w.fetched).2 := by
  simp only [getJwks, cachedJwks_eq_none_iff.mpr h.1, cachedJwks_eq_none_iff.mpr h.2]

/-- A call returns the key set that it gets. -/
lemma getJwks_eq_ok_iff {w : JwksWorld} {jwks : Json} :
    getJwks cfg w = .ok jwks ↔ w.Provides cfg jwks := by
  by_cases hstart : w.atStart.Fresh cfg w.startTime
  · have hreturns : getJwks cfg w = .ok w.atStart.jwks := by simp [getJwks, cachedJwks, hstart]
    rw [hreturns, Except.ok.injEq]
    constructor
    · rintro rfl
      exact .cached hstart
    · rintro (_ | ⟨hnot, -⟩ | ⟨⟨hnot, -⟩, -⟩)
      · rfl
      · exact absurd hstart hnot
      · exact absurd hstart hnot
  · by_cases hlock : w.atLock.Fresh cfg w.lockTime
    · have hreturns : getJwks cfg w = .ok w.atLock.jwks := by
        simp [getJwks, cachedJwks, hstart, hlock]
      rw [hreturns, Except.ok.injEq]
      constructor
      · rintro rfl
        exact .cachedAtLock hstart hlock
      · rintro (hfresh | _ | ⟨⟨-, hnot⟩, -⟩)
        · exact absurd hfresh hstart
        · rfl
        · exact absurd hlock hnot
    · have hfetches : w.Fetches cfg := ⟨hstart, hlock⟩
      rw [getJwks_of_fetches hfetches]
      constructor
      · intro h
        rcases hend : w.fetched with e | e | data
        · simp [hend, jwksFetched] at h
        · simp [hend, jwksFetched] at h
        · obtain rfl : data = jwks := by simpa [hend, jwksFetched] using h
          exact .fetched hfetches hend
      · rintro (hfresh | ⟨-, hfresh⟩ | ⟨-, hdata⟩)
        · exact absurd hfresh hstart
        · exact absurd hfresh hlock
        · rw [hdata]
          rfl

/-- Without a key set the call has made a fetch, and it raises what the fetch has ended
with. -/
lemma getJwks_eq_error {w : JwksWorld} {r : Raised} (h : getJwks cfg w = .error r) :
    w.Fetches cfg ∧ ((∃ e, w.fetched = .error e ∧ r = .other e) ∨
      ∃ e, w.fetched = .ok (.error e) ∧
        r = if e.isinstance .jsonDecodeError then jwksParseError else .other e) := by
  have hfetches : w.Fetches cfg := by
    constructor
    · intro hstart
      rw [getJwks_eq_ok_iff.mpr (.cached hstart)] at h
      cases h
    · intro hlock
      by_cases hstart : w.atStart.Fresh cfg w.startTime
      · rw [getJwks_eq_ok_iff.mpr (.cached hstart)] at h
        cases h
      · rw [getJwks_eq_ok_iff.mpr (.cachedAtLock hstart hlock)] at h
        cases h
  rw [getJwks_of_fetches hfetches] at h
  refine ⟨hfetches, ?_⟩
  rcases hend : w.fetched with e | e | data
  · rw [hend] at h
    cases h
    exact .inl ⟨e, rfl, rfl⟩
  · rw [hend] at h
    cases h
    exact .inr ⟨e, rfl, rfl⟩
  · rw [hend] at h
    cases h

/-- Only a fetch that ends with a key set changes the module variables. -/
lemma jwksFetched_fst (now : ℚ) (g : JwksCache) (fetched : Fetched) :
    (∃ data, fetched = .ok (.ok data) ∧ jwksFetched now g fetched = (⟨data, now⟩, .ok data)) ∨
      (∃ r, jwksFetched now g fetched = (g, .error r)) := by
  rcases fetched with e | e | data
  · exact .inr ⟨_, rfl⟩
  · exact .inr ⟨_, rfl⟩
  · exact .inl ⟨data, rfl, rfl⟩

end ImageDescriptor.Auth
