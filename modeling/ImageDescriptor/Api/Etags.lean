/-
# The entity tag of a description

`POST /describe` serializes the response and derives the `ETag` from the text, so that a
client with the same content can be answered without a body.  Whatever the order of the
warnings depends on, the tag depends on too.
-/
import ImageDescriptor.Api.Routes
import ImageDescriptor.Services.BreakerAccounting
import ImageDescriptor.Services.MissingParts

namespace ImageDescriptor

open Composer Db

variable {Client : Type}

/-- The serialization of pydantic, `model_dump_json().encode()`, and the hexadecimal digest
of `hashlib.md5`. -/
structure Encoding where
  modelDumpJson : DescribeResponse → Bytes
  md5Hexdigest : Bytes → String

namespace Encoding

variable (enc : Encoding)

/-- `_generate_etag`. -/
def generateEtag (body : Bytes) : String := "\"" ++ enc.md5Hexdigest body ++ "\""

/-- The serialized body and its tag. -/
def tagged (result : DescribeResponse) : Bytes × String :=
  (enc.modelDumpJson result, enc.generateEtag (enc.modelDumpJson result))

end Encoding

/-- The answer of the route: not modified, or the content with its headers. -/
inductive DescribeAnswer
  | notModified (etag : String)
  | content (result : DescribeResponse) (etag cacheControl : String)

variable (rt : Runtime) (cfg : Settings) (enc : Encoding)

/-- `_describe_and_save`, from its beginning. -/
def described (calls : Calls) (db : World Client) (item : DescribeRequest) :
    Ending DescribeResponse :=
  match composeDescription rt cfg calls item with
  | .error e => .raised e
  | .ok result => describeAndSave cfg item result db

/-- The route once `_describe_and_save` has returned `result`. -/
def describeAnswer (ifNoneMatch : Option String) (result : DescribeResponse) : DescribeAnswer :=
  let etag := (enc.tagged result).2
  if nonEmpty ifNoneMatch && decide (ifNoneMatch = some etag) then .notModified etag
  else .content result etag (if result.cached then "private, max-age=3600" else "no-cache")

/-- The route `POST /describe`, for a request that does not time out. -/
def describeRoute (calls : Calls) (db : World Client) (item : DescribeRequest)
    (ifNoneMatch : Option String) : Ending DescribeAnswer :=
  (described rt cfg calls db item).map (describeAnswer enc ifNoneMatch)

/-- The response, its serialized body and its tag, and the answer of the route are the same
in whatever order the calls of the composition complete. -/
structure SameInEveryOrder (calls : Calls) (db : World Client) (item : DescribeRequest)
    (ifNoneMatch : Option String) : Prop where
  response : ∀ calls', Reorders calls calls' →
    composeDescription rt cfg calls' item = composeDescription rt cfg calls item
  tagged : ∀ calls', Reorders calls calls' →
    (described rt cfg calls' db item).map enc.tagged = (described rt cfg calls db item).map enc.tagged
  answer : ∀ calls', Reorders calls calls' →
    describeRoute rt cfg enc calls' db item ifNoneMatch =
      describeRoute rt cfg enc calls db item ifNoneMatch

/-- **The response, its body and its `ETag` are the same for every order of completion
exactly when no phase has two calls that are refused or raise, or the stored description of
the image is neither a text nor null.**  The request, the outcomes of the calls, the encoding
and the world of the save are arbitrary. -/
theorem sameInEveryOrder_iff (calls : Calls) (db : World Client) (item : DescribeRequest)
    (ifNoneMatch : Option String) :
    SameInEveryOrder rt cfg enc calls db item ifNoneMatch ↔
      OneWarningAPhase rt cfg calls item ∨
        (calls.refused .describer = false ∧ FindsNoText item (calls.answers .describer)) := by
  rw [or_comm, ← @composeDescription_raises_iff rt cfg calls item]
  constructor
  · intro hsame
    exact orderIndependent_iff.mp hsame.response
  · intro hone
    have hresponse := orderIndependent_iff.mpr hone
    have hdescribed : ∀ calls', Reorders calls calls' →
        described rt cfg calls' db item = described rt cfg calls db item := by
      intro calls' h
      simp only [described, hresponse calls' h]
    refine ⟨hresponse, fun calls' h => ?_, fun calls' h => ?_⟩
    · rw [hdescribed calls' h]
    · rw [describeRoute, hdescribed calls' h]
      rfl

/-- Every fetch of a composition fails with a server error. -/
def failingCalls : Calls := inOrder (fun _ => false) fun _ => Process.serverError

/-- The same, but the land cover fails before the geocoder. -/
def landcoverFirst : Calls :=
  reorder₁ failingCalls [.landcover, .geocoder, .mission] (.swap _ _ _)

/-- The modules of the warnings of a response, in their order. -/
def warnedModules (calls : Calls) : Option (List String) :=
  match composeDescription Process.plainRuntime .default calls (Process.sceneRequest none) with
  | .ok r => some (r.warnings.map Warning.module)
  | .error _ => none

theorem two_failures_stand_in_order_of_completion : Reorders failingCalls landcoverFirst ∧
    warnedModules failingCalls = some ["geocoder", "landcover", "describer"] ∧
    warnedModules landcoverFirst = some ["landcover", "geocoder", "describer"] ∧
    composeDescription Process.plainRuntime .default landcoverFirst (Process.sceneRequest none) ≠
      composeDescription Process.plainRuntime .default failingCalls (Process.sceneRequest none) := by
  have hfirst : warnedModules failingCalls = some ["geocoder", "landcover", "describer"] := by
    decide +kernel
  have hsecond : warnedModules landcoverFirst = some ["landcover", "geocoder", "describer"] := by
    decide +kernel
  refine ⟨⟨rfl, rfl⟩, hfirst, hsecond, fun hsame => ?_⟩
  have hmodules : warnedModules landcoverFirst = warnedModules failingCalls := by
    simp only [warnedModules, hsame]
  rw [hfirst, hsecond] at hmodules
  revert hmodules
  decide

end ImageDescriptor
