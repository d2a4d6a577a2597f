/-
# The routes on top of the database

`_describe_and_save`, which stores a description that was computed, and the routes that
read and delete one stored description.  The database operations run in an arbitrary
world, so that the results hold whatever other requests do meanwhile.
-/
import ImageDescriptor.Api.Schemas
import ImageDescriptor.Db.Calls
import ImageDescriptor.Utils.Errors

namespace ImageDescriptor

open Db

variable {Client : Type}

/-! ### Describe and save -/

/-- The warning of a save that returned `False`. -/
def saveWarning : Warning := ⟨"supabase", "Failed to save description to database"⟩

/-- `_describe_and_save` once `compose_description` has returned `result`. -/
def describeAndSave (cfg : Settings) (item : DescribeRequest) (result : DescribeResponse)
    (w : World Client) : Ending DescribeResponse :=
  if nonEmpty item.cogImageId && nonEmpty result.description then
    let row := saveRow (item.cogImageId.getD "") item.coordinates item.capturedAt
      (result.location.map Location.modelDump) (result.landCover.map LandCover.modelDump)
      result.description (result.context.map Context.modelDump)
    (saveDescription cfg row w).map fun saved =>
      if saved then { result with saved := some saved }
      else { result with saved := some saved, warnings := result.warnings ++ [saveWarning] }
  else .value result

/-- A computed description survives the request: it is returned as it was computed, with
`saved` false and one more warning, which is about the database. -/
def DescriptionKept (result : DescribeResponse) (ending : Ending DescribeResponse) : Prop :=
  ∃ text, ending = .value { result with
    saved := some false, warnings := result.warnings ++ [⟨"supabase", text⟩] }

/-- **A computed description is lost exactly when the connection is.**  When the save
fails, `_describe_and_save` still returns the description if and only if the failure is not
a `ConnectionError`, which `save_description` raises again and nobody catches. -/
theorem descriptionKept_iff (cfg : Settings) (item : DescribeRequest) (result : DescribeResponse)
    (w : World Client) (hid : nonEmpty item.cogImageId = true)
    (hdesc : nonEmpty result.description = true) {e : Exc} (hfail : w.failure cfg = some e) :
    DescriptionKept result (describeAndSave cfg item result w) ↔ ¬ w.ConnectionLost cfg := by
  rw [World.connectionLost_iff hfail]
  simp only [describeAndSave, hid, hdesc, Bool.and_self, if_true,
    saveDescription_of_failure _ hfail]
  by_cases hc : e.isinstance .connectionError = true
  · -- the clause `except ConnectionError: raise`
    simp [hc, Ending.map, DescriptionKept]
  · simp [hc, Ending.map, DescriptionKept, saveWarning]

/-- A request half a second after the first failed connection attempt. -/
def refusedWorld : World ℕ where
  atStart := ⟨none, 0, 1⟩
  lockTime := 1 / 2
  atLock := ⟨none, 0, 1⟩
  acreateClient := .ok 0
  createdTime := 1
  atCreated := ⟨none, 0, 1⟩
  execute := .ok ⟨[], none⟩
  answerTime := 1
  atAnswer := ⟨some 0, 0, 0⟩

/-- A request whose query is answered with an error of the database. -/
def rejectedWorld : World ℕ where
  atStart := ⟨some 0, 0, 0⟩
  lockTime := 0
  atLock := ⟨some 0, 0, 0⟩
  acreateClient := .ok 0
  createdTime := 0
  atCreated := ⟨some 0, 0, 0⟩
  execute := .error ⟨.exception, "invalid input syntax"⟩
  answerTime := 1
  atAnswer := ⟨some 0, 0, 0⟩

/-- A request for an image that is to be stored. -/
def storedRequest : DescribeRequest where
  thumbnail := "https://example.com/image1.jpg"
  coordinates := (127, 37)
  bbox := none
  capturedAt := none
  cogImageId := some "img-1"
  stacId := none

theorem rejected_save_keeps_description :
    DescriptionKept { description := some "test desc" }
      (describeAndSave .default storedRequest { description := some "test desc" }
        rejectedWorld) := by
  have hfail : rejectedWorld.failure .default = some ⟨.exception, "invalid input syntax"⟩ := rfl
  refine (descriptionKept_iff .default storedRequest _ rejectedWorld rfl rfl hfail).mpr ?_
  rw [World.connectionLost_iff hfail]
  decide

theorem refused_save_loses_description :
    ¬ DescriptionKept { description := some "test desc" }
      (describeAndSave .default storedRequest { description := some "test desc" }
        refusedWorld) := by
  have hrun : BackoffRunning .default (1 / 2) refusedWorld.atLock :=
    ⟨by decide, 1, by decide +kernel, by decide +kernel⟩
  rcases lockedSection_none .default (1 / 2) (g := refusedWorld.atLock) rfl with
    ⟨-, r, hr⟩ | ⟨hover, -⟩ | ⟨hrun', -⟩
  · have hfail : refusedWorld.failure .default = some (backoffRefusal r) := by
      simp only [World.failure, refusedWorld] at hr ⊢
      rw [hr]
    rintro ⟨text, h⟩
    simp [describeAndSave, storedRequest, nonEmpty, saveDescription_of_failure _ hfail,
      Exc.isinstance, ExcClass.mro, Ending.map] at h
  · exact absurd hover hrun.not_overflows
  · exact absurd hrun hrun'

/-! ### Reading and deleting a stored description -/

/-- The response to a request: a row, no content, or a problem document. -/
inductive HttpResponse
  | row (r : Row)
  | noContent
  | problem (p : ProblemDetail)

/-- The status code of a response. -/
def HttpResponse.status : HttpResponse → ℕ
  | .row _ => 200
  | .noContent => 204
  | .problem p => p.status

/-- The error of a route for an id without a row. -/
def descriptionNotFound (cogImageId : String) : Raised :=
  .descriptorError 404 "NOT_FOUND" ("Description not found for cog_image_id: " ++ cogImageId)

/-- The error of the delete route when the database could not be asked. -/
def deleteFailed : Raised :=
  .descriptorError 500 "INTERNAL_ERROR" "Failed to delete description due to a database error"

/-- The route `GET /descriptions/{cog_image_id}`, from the ending of the database call. -/
def getDescriptionRoute (cogImageId : String) : Ending (Option Row) → Ending (Except Raised Row)
  | .value (some r) => .value (.ok r)
  | .value none => .value (.error (descriptionNotFound cogImageId))
  | .raised e => .value (.error (.other e))
  | .cancelled => .cancelled

/-- The route `DELETE /descriptions/{cog_image_id}`, from the ending of the database
call. -/
def deleteDescriptionRoute (cogImageId : String) : Ending Bool → Ending (Except Raised Unit)
  | .value true => .value (.ok ())
  | .value false => .value (.error (descriptionNotFound cogImageId))
  | .raised e =>
    if e.isinstance .connectionError || e.isinstance .timeoutError || e.isinstance .osError then
      .value (.error deleteFailed)
    else .value (.error (.other e))
  | .cancelled => .cancelled

/-- The two methods on one stored description. -/
inductive RowMethod
  | get
  | delete
deriving DecidableEq

/-- The response to `GET` or `DELETE /descriptions/{cog_image_id}`, past the authentication
and the rate limit.  A cancelled request has none. -/
def serveDescription (cfg : Settings) (correlationId : Option String) (method : RowMethod)
    (cogImageId : String) (w : World Client) : Ending HttpResponse :=
  match method with
  | .get => (getDescriptionRoute cogImageId (getDescription cfg cogImageId w)).map fun
    | .ok r => .row r
    | .error e => .problem (handleRaised correlationId e)
  | .delete => (deleteDescriptionRoute cogImageId (deleteDescription cfg cogImageId w)).map fun
    | .ok () => .noContent
    | .error e => .problem (handleRaised correlationId e)

/-- The status codes tell an absent row from a failure: 404 is answered only when the
database has answered that there is no row, 500 whenever it has answered nothing, and the
204 of a delete exactly when it has answered that it deleted a row. -/
def StatusTellsAbsence (cfg : Settings) (method : RowMethod) (w : World Client)
    (ending : Ending HttpResponse) : Prop :=
  ∃ response, ending = .value response ∧
    (response.status = 404 → ∃ a, w.dbAnswer cfg = some a ∧ a.data = []) ∧
    (w.dbAnswer cfg = none → response.status = 500) ∧
    (method = .delete →
      (response.status = 204 ↔ ∃ a, w.dbAnswer cfg = some a ∧ a.data ≠ []))

section Responses

variable {cfg : Settings} {w : World Client} (correlationId : Option String) (cogImageId : String)

/-- The response to either method for an id without a row. -/
def notFoundResponse : HttpResponse :=
  .problem (handleRaised correlationId (descriptionNotFound cogImageId))

lemma notFoundResponse_status : (notFoundResponse correlationId cogImageId).status = 404 := rfl

lemma serve_of_no_row (method : RowMethod) {a : Answer} (h : w.failure cfg = none)
    (ha : w.execute = .ok a) (hdata : a.data = []) :
    serveDescription cfg correlationId method cogImageId w =
      .value (notFoundResponse correlationId cogImageId) := by
  cases method <;>
    simp [serveDescription, getDescription_of_success _ h ha, deleteDescription_of_success _ h ha,
      hdata, getDescriptionRoute, deleteDescriptionRoute, Ending.map, notFoundResponse]

lemma serve_get_of_row {a : Answer} {r : Row} {rows : List Row} (h : w.failure cfg = none)
    (ha : w.execute = .ok a) (hdata : a.data = r :: rows) :
    serveDescription cfg correlationId .get cogImageId w = .value (.row r) := by
  simp [serveDescription, getDescription_of_success _ h ha, hdata, getDescriptionRoute,
    Ending.map]

lemma serve_delete_of_row {a : Answer} {r : Row} {rows : List Row} (h : w.failure cfg = none)
    (ha : w.execute = .ok a) (hdata : a.data = r :: rows) :
    serveDescription cfg correlationId .delete cogImageId w = .value .noContent := by
  simp [serveDescription, deleteDescription_of_success _ h ha, hdata, deleteDescriptionRoute,
    Ending.map]

/-- A failure that the database module swallows is answered like an absent row. -/
lemma serve_of_swallowed (method : RowMethod) {e : Exc} (h : w.failure cfg = some e)
    (hc : e.isinstance .connectionError = false) :
    serveDescription cfg correlationId method cogImageId w =
      .value (notFoundResponse correlationId cogImageId) := by
  cases method <;>
    simp [serveDescription, getDescription_of_failure _ h, deleteDescription_of_failure _ h, hc,
      getDescriptionRoute, deleteDescriptionRoute, Ending.map, notFoundResponse]

/-- A failure that the database module raises again is answered with 500. -/
lemma serve_of_connectionError (method : RowMethod) {e : Exc} (h : w.failure cfg = some e)
    (hc : e.isinstance .connectionError = true) :
    ∃ p, serveDescription cfg correlationId method cogImageId w = .value (.problem p) ∧
      p.status = 500 := by
  cases method with
  | get =>
    refine ⟨handleRaised correlationId (.other e), ?_,
      handleRaised_other_status correlationId (Exc.not_timeoutError_of_connectionError hc)⟩
    simp [serveDescription, getDescription_of_failure _ h, hc, getDescriptionRoute, Ending.map]
  | delete =>
    refine ⟨handleRaised correlationId deleteFailed, ?_, rfl⟩
    simp [serveDescription, deleteDescription_of_failure _ h, hc, deleteDescriptionRoute,
      Ending.map]

end Responses

lemma statusTellsAbsence_of_answer (cfg : Settings) (correlationId : Option String)
    (method : RowMethod) (cogImageId : String) (w : World Client) {a : Answer}
    (h : w.failure cfg = none) (ha : w.execute = .ok a) :
    StatusTellsAbsence cfg method w (serveDescription cfg correlationId method cogImageId w) := by
  have hans := World.dbAnswer_of_success h ha
  rcases hdata : a.data with _ | ⟨r, rows⟩
  · -- the database has answered that there is no such row
    refine ⟨_, serve_of_no_row correlationId cogImageId method h ha hdata,
      fun _ => ⟨a, hans, hdata⟩, by simp [hans], fun _ => ?_⟩
    simp [notFoundResponse_status, hans, hdata]
  · cases method with
    | get =>
      refine ⟨_, serve_get_of_row correlationId cogImageId h ha hdata, ?_, by simp [hans], ?_⟩
      · simp [HttpResponse.status]
      · rintro ⟨⟩
    | delete =>
      refine ⟨_, serve_delete_of_row correlationId cogImageId h ha hdata, ?_, by simp [hans], ?_⟩
      · simp [HttpResponse.status]
      · simp [HttpResponse.status, hans, hdata]

lemma statusTellsAbsence_of_failure (cfg : Settings) (correlationId : Option String)
    (method : RowMethod) (cogImageId : String) (w : World Client) {e : Exc}
    (h : w.failure cfg = some e) :
    StatusTellsAbsence cfg method w (serveDescription cfg correlationId method cogImageId w) ↔
      e.isinstance .connectionError = true := by
  have hans := World.dbAnswer_of_failure h
  by_cases hc : e.isinstance .connectionError = true
  · obtain ⟨p, hserve, hp⟩ := serve_of_connectionError correlationId cogImageId method h hc
    refine iff_of_true ⟨_, hserve, ?_, fun _ => hp, fun _ => ?_⟩ hc
    · simp [HttpResponse.status, hp]
    · simp [HttpResponse.status, hp, hans]
  · -- the clause `except Exception` has turned the failure into the value for an absent row
    refine iff_of_false ?_ hc
    rintro ⟨response, hresp, h404, -, -⟩
    rw [serve_of_swallowed correlationId cogImageId method h (by simpa using hc)] at hresp
    obtain rfl : notFoundResponse correlationId cogImageId = response := by simpa using hresp
    obtain ⟨a, ha, -⟩ := h404 (notFoundResponse_status correlationId cogImageId)
    rw [hans] at ha
    cases ha

/-- **The status code tells an absent row from a failure exactly when no failure is
swallowed**: the query was answered, or what failed is a `ConnectionError`. -/
theorem statusTellsAbsence_iff (cfg : Settings) (correlationId : Option String)
    (method : RowMethod) (cogImageId : String) (w : World Client) :
    StatusTellsAbsence cfg method w (serveDescription cfg correlationId method cogImageId w) ↔
      (w.dbAnswer cfg = none → w.ConnectionLost cfg) := by
  rcases hf : w.failure cfg with _ | e
  · obtain ⟨a, ha⟩ := World.execute_of_success hf
    refine iff_of_true (statusTellsAbsence_of_answer cfg correlationId method cogImageId w hf ha) ?_
    simp [World.dbAnswer_of_success hf ha]
  · rw [statusTellsAbsence_of_failure cfg correlationId method cogImageId w hf,
      World.connectionLost_iff hf]
    simp [World.dbAnswer_of_failure hf]

theorem rejected_delete_answers_absent :
    ¬ StatusTellsAbsence .default .delete rejectedWorld
      (serveDescription .default none .delete "img-1" rejectedWorld) := by
  have hfail : rejectedWorld.failure .default = some ⟨.exception, "invalid input syntax"⟩ := rfl
  rw [serve_of_swallowed none "img-1" .delete hfail (by decide)]
  rintro ⟨response, hresp, -, h500, -⟩
  obtain rfl : notFoundResponse none "img-1" = response := by simpa using hresp
  have := h500 (World.dbAnswer_of_failure hfail)
  rw [notFoundResponse_status] at this
  omega

end ImageDescriptor
