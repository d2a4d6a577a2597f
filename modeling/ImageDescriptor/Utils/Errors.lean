/-
# Error responses

The exception handlers of the application: every exception that leaves a route becomes a
problem document with a status code.
-/
import ImageDescriptor.Python.Exceptions

namespace ImageDescriptor

/-- What a route raises: a `DescriptorError` of its own, or an exception that it does not
catch. -/
inductive Raised
  | descriptorError (statusCode : ℕ) (code message : String)
  | other (e : Exc)
deriving DecidableEq

/-- The body of an error response. -/
structure ProblemDetail where
  type : String
  title : String
  status : ℕ
  detail : String
  instanceId : Option String
deriving DecidableEq

/-- `_STATUS_TITLES.get(status, "Error")`. -/
def statusTitle : ℕ → String
  | 400 => "Bad Request"
  | 401 => "Unauthorized"
  | 403 => "Forbidden"
  | 404 => "Not Found"
  | 409 => "Conflict"
  | 422 => "Unprocessable Entity"
  | 429 => "Too Many Requests"
  | 500 => "Internal Server Error"
  | 503 => "Service Unavailable"
  | 504 => "Gateway Timeout"
  | _ => "Error"

/-- `exc.code.lower().replace("_", "-")`. -/
def problemSlug (code : String) : String :=
  String.ofList (code.toList.map fun c => if c = '_' then '-' else c.toLower)

/-- `descriptor_error_handler`. -/
def descriptorErrorHandler (correlationId : Option String) (statusCode : ℕ)
    (code message : String) : ProblemDetail where
  type := "https://problems.cognito-descriptor.io/" ++ problemSlug code
  title := statusTitle statusCode
  status := statusCode
  detail := message
  instanceId := correlationId

/-- `_timeout_error_handler`. -/
def timeoutErrorHandler (correlationId : Option String) : ProblemDetail where
  type := "https://problems.cognito-descriptor.io/gateway-timeout"
  title := "Gateway Timeout"
  status := 504
  detail := "요청 처리 시간이 초과되었습니다"
  instanceId := correlationId

/-- `internal_error_handler`. -/
def internalErrorHandler (correlationId : Option String) : ProblemDetail where
  type := "https://problems.cognito-descriptor.io/internal-error"
  title := "Internal Server Error"
  status := 500
  detail := "서버 내부 오류가 발생했습니다"
  instanceId := correlationId

/-- The handler that the framework picks: the first class of the `__mro__` that has one. -/
def handleRaised (correlationId : Option String) : Raised → ProblemDetail
  | .descriptorError statusCode code message =>
    descriptorErrorHandler correlationId statusCode code message
  | .other e =>
    if e.isinstance .timeoutError then timeoutErrorHandler correlationId
    else internalErrorHandler correlationId

lemma handleRaised_other_status (correlationId : Option String) {e : Exc}
    (h : e.isinstance .timeoutError = false) :
    (handleRaised correlationId (.other e)).status = 500 := by
  simp only [handleRaised, h, Bool.false_eq_true, if_false]
  rfl

/-- Every handler puts the status of the response into its body. -/
lemma handleRaised_title (correlationId : Option String) (r : Raised) :
    (handleRaised correlationId r).title = statusTitle (handleRaised correlationId r).status := by
  rcases r with ⟨status, code, message⟩ | e
  · rfl
  · simp only [handleRaised]
    split <;> rfl

end ImageDescriptor
