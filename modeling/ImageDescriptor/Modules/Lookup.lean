/-
# A module's call

The four modules that ask an HTTP service work alike: read the cache, and return what is
built from the entry; otherwise fetch, build the result, write the entry and return.  A
call is cut where it awaits something, so that a module is two functions: one from the
answer of the cache, one from the end of the fetch.  The fetch has gone through its retries
and through `raise_for_status`; what is left of the response is what `resp.json()` does.
-/
import ImageDescriptor.Api.Schemas
import ImageDescriptor.Cache.Store

namespace ImageDescriptor

/-- The end of a fetch: an exception, or a response whose `json()` returns or raises. -/
abbrev Fetched := Except Exc (Except Exc Json)

/-- An entry that a module passes to `cache.set`. -/
structure CacheEntry where
  key : String
  value : Fields
  ttl : CacheStore.Ttl

/-- What is left of a call after its fetch: the entry that it writes, and what it returns
or raises once the write has returned. -/
structure Rest (α : Type) where
  entry : Option CacheEntry
  result : Except Exc α

/-- `Model(**cached)`, where `cached` has to be a mapping. -/
def buildFrom {α : Type} (build : Fields → Except Exc α) : Json → Except Exc α
  | .obj fields => build fields
  | _ => .error ⟨.typeError, "argument after ** must be a mapping"⟩

/-- `if cached: return Model(**cached)`. -/
def fromCache {α : Type} (build : Fields → Except Exc α) (cached : Json) :
    Option (Except Exc α) :=
  if cached.truthy then some (buildFrom build cached) else none

lemma fromCache_obj {α : Type} (build : Fields → Except Exc α) {fields : Fields}
    (h : fields ≠ []) : fromCache build (.obj fields) = some (build fields) := by
  have ht : (Json.obj fields).truthy = true := by
    cases fields with
    | nil => exact absurd rfl h
    | cons f fs => rfl
  simp [fromCache, ht, buildFrom]

@[simp] lemma fromCache_null {α : Type} (build : Fields → Except Exc α) :
    fromCache build .null = none := rfl

/-- How far a call has got with the service that it asks: it has not asked, the fetch has
raised after its retries, or the fetch has returned. -/
inductive Upstream
  | notContacted
  | failed
  | succeeded
deriving DecidableEq, Repr

/-- A call from its beginning to its end. -/
structure ModuleRun (α : Type) where
  upstream : Upstream
  entry : Option CacheEntry
  result : Except Exc α

/-- What a fetch has done upstream. -/
def upstreamOf {α : Type} : Except Exc α → Upstream
  | .ok _ => .succeeded
  | .error _ => .failed

/-- The result of a call whose write ended with `written`. -/
def Rest.after {α : Type} (rest : Rest α) (written : Except Exc Unit) : Except Exc α :=
  match rest.entry, written with
  | some _, .error e => .error e
  | _, _ => rest.result

/-- A call that was made of its two parts: `cached` is what `cache.get` returned or raised,
`fetched` how the fetch ended if it was made, `written` how `cache.set` ended if it was
called. -/
def runModule {α : Type} (fromCache : Json → Option (Except Exc α)) (afterFetch : Fetched → Rest α)
    (cached : Except Exc Json) (fetched : Fetched) (written : Except Exc Unit) : ModuleRun α :=
  match cached with
  | .error e => ⟨.notContacted, none, .error e⟩
  | .ok v =>
    match fromCache v with
    | some r => ⟨.notContacted, none, r⟩
    | none =>
      let rest := afterFetch fetched
      ⟨upstreamOf fetched, rest.entry, rest.after written⟩

end ImageDescriptor
