/-
# The middlewares around the routes

A request goes through the middlewares of `app` from the one that was added last to the one
that was added first, then through the exception handlers to its route; the handler of
`Exception` stands outside of all.  Each middleware is a layer, and what a client may rely on
(the security headers, the ids in the headers, the form of a problem document and the id that
it names) is shown at the layer where it arises and carried through the layers outside.
-/
import ImageDescriptor.App.RateLimits
import ImageDescriptor.Lib.Layers
import ImageDescriptor.Utils.RequestLog

namespace ImageDescriptor.App

open Lib

variable {α : Type}

/-! ### Responses -/

/-- The headers of a response, with their names in lower case. -/
abbrev Headers := List (String × String)

/-- `response.headers[name] = value`. -/
def Headers.set (headers : Headers) (name value : String) : Headers :=
  match headers with
  | [] => [(name, value)]
  | h :: rest =>
    if h.1 = name then (name, value) :: rest.filter fun p => decide (p.1 ≠ name)
    else h :: Headers.set rest name value

/-- One of the errors that a problem document lists. -/
structure FieldError where
  field : String
  message : String
  type : String
deriving DecidableEq

/-- A problem document with its member `errors`, a plain text, or what a route answers. -/
inductive Body (α : Type)
  | problem (doc : ProblemDetail) (errors : List FieldError)
  | text (content : String)
  | other (a : α)

structure HttpResponse (β : Type) where
  statusCode : ℕ
  headers : Headers
  body : β

abbrev Answer (α : Type) := HttpResponse (Body α)

/-- The response with these headers set, one after another. -/
def HttpResponse.withHeaders {β : Type} (r : HttpResponse β) (values : Headers) : HttpResponse β :=
  { r with headers := values.foldl (fun headers h => headers.set h.1 h.2) r.headers }

/-- `headers.add_vary_header(name)`. -/
def HttpResponse.addVary {β : Type} (r : HttpResponse β) (name : String) : HttpResponse β :=
  r.withHeaders [("vary", (r.headers.lookup "vary").elim name fun old => old ++ ", " ++ name)]

/-! ### Exception handlers -/

/-- What `RequestValidationError.errors()` lists; a location is a path of names and indices. -/
structure ValidationFault where
  loc : List (String ⊕ ℕ)
  msg : String
  type : String

/-- What leaves a route. -/
inductive Failure
  | raised (r : Raised)
  | httpException (statusCode : ℕ) (detail : String)
  | validation (faults : List ValidationFault)
  | rateLimitExceeded (exc : RateLimitExceeded)

/-- `JSONResponse` with the media type of a problem document. -/
def problemResponse (statusCode : ℕ) (doc : ProblemDetail) (errors : List FieldError := []) :
    Answer α :=
  ⟨statusCode, [("content-type", "application/problem+json")], .problem doc errors⟩

/-- `http_exception_handler`. -/
def httpExceptionHandler (correlationId : Option String) (statusCode : ℕ) (detail : String) :
    Answer α :=
  problemResponse statusCode
    { type := "about:blank"
      title := statusTitle statusCode
      status := statusCode
      detail := detail
      instanceId := correlationId }

/-- An entry of `errors`. -/
def ValidationFault.fieldError (fault : ValidationFault) : FieldError where
  field := ".".intercalate (fault.loc.map fun loc => loc.elim id toString)
  message := fault.msg
  type := fault.type

/-- `validation_error_handler`. -/
def validationErrorHandler (correlationId : Option String) (faults : List ValidationFault) :
    Answer α :=
  let errors := faults.map ValidationFault.fieldError
  problemResponse 422
    { type := "https://problems.cognito-descriptor.io/validation-error"
      title := "Unprocessable Entity"
      status := 422
      detail := "요청 데이터 검증에 실패했습니다 (" ++ toString errors.length ++ "건의 오류)"
      instanceId := correlationId }
    errors

/-- The headers of a refusal, as they are written. -/
def LimitHeaders.render (headers : LimitHeaders) : Headers :=
  (headers.retryAfter.map fun n => ("retry-after", toString n)).toList ++
    (headers.limit.map fun n => ("x-ratelimit-limit", toString n)).toList ++
    (headers.remaining.map fun n => ("x-ratelimit-remaining", toString n)).toList ++
    (headers.reset.map fun n => ("x-ratelimit-reset", toString n)).toList

/-- The response of `_rate_limit_handler`. -/
def LimitedResponse.render (response : LimitedResponse) : Answer α :=
  ⟨response.statusCode, response.headers.render ++ [("content-type", "application/problem+json")],
    .problem response.body []⟩

/-- The handlers that are registered for anything but `Exception`. -/
def handleFailure (correlationId : Option String) (now : ℚ) : Failure → Except Exc (Answer α)
  | .raised (.descriptorError statusCode code message) =>
    .ok (problemResponse statusCode
      (descriptorErrorHandler correlationId statusCode code message))
  | .raised (.other e) =>
    if e.isinstance .timeoutError then .ok (problemResponse 504 (timeoutErrorHandler correlationId))
    else .error e
  | .httpException statusCode detail => .ok (httpExceptionHandler correlationId statusCode detail)
  | .validation faults => .ok (validationErrorHandler correlationId faults)
  | .rateLimitExceeded exc => .ok (rateLimitHandler correlationId now exc).render

/-! ### Layers -/

/-- A request with what has been written to `request.state`. -/
structure Scope where
  request : LoggedRequest
  requestId : Option String := none
  correlationId : Option String := none
  viewRateLimit : Option RateLimit := none

/-- What comes out of a layer: the state of the request, and a response or an exception. -/
abbrev Outcome (α : Type) := Scope × Except Exc (Answer α)

/-- What the middlewares read besides the request.  Each of the origins begins with `http`
(`_valid_cors_origins`), so none is the `*` that would allow every origin. -/
structure Surroundings where
  corsOrigins : List String
  gzipMinSize : ℕ
  shuttingDown : Bool
  u : UUID
  v : UUID
  processTime : String
  now : ℚ
  stats : Except Exc WindowStats

/-- A route: the limit that it has been checked against, and what it answers or raises. -/
abbrev Route (α : Type) := LoggedRequest → Option RateLimit × Except Failure (HttpResponse α)

/-- What the route answers, or a handler for what it raises. -/
def answered (correlationId : Option String) (now : ℚ) (route : Route α) (req : LoggedRequest) :
    Except Exc (Answer α) :=
  match (route req).2 with
  | .ok r => .ok ⟨r.statusCode, r.headers, .other r.body⟩
  | .error failure => handleFailure correlationId now failure

/-- The exception handlers around the route. -/
def exceptionMiddleware (now : ℚ) (route : Route α) (sc : Scope) : Outcome α :=
  ({ sc with viewRateLimit := (route sc.request).1 },
    answered sc.correlationId now route sc.request)

/-- `request.headers.get(name)`. -/
def requestHeader (req : LoggedRequest) (name : String) : Option String :=
  (req.headers.lookup name).map fun value => String.ofList value.chars

/-- The arguments of `CORSMiddleware`; the headers with those that need no permission. -/
def allowMethods : List String := ["GET", "POST", "DELETE"]

def allowHeaders : List String :=
  ["Accept", "Accept-Language", "Authorization", "Content-Language", "Content-Type", "X-API-Key",
    "X-Request-ID"]

def exposeHeaders : List String :=
  ["X-Request-ID", "X-Correlation-ID", "X-Process-Time", "X-RateLimit-Limit",
    "X-RateLimit-Remaining", "X-RateLimit-Reset", "Retry-After"]

/-- The origin and the method of a preflight request. -/
def preflightOf (req : LoggedRequest) : Option (String × String) :=
  if req.method = "OPTIONS" then
    (requestHeader req "origin").bind fun origin =>
      (requestHeader req "access-control-request-method").map fun method => (origin, method)
  else none

/-- `s.lower()`, where other letters than those of ASCII make no difference. -/
def lower (s : List Char) : List Char := s.map Char.toLower

/-- All headers of a list with commas are allowed. -/
def headersAllowed (requested : String) : Bool :=
  (requested.toList.splitOn ',').all fun header =>
    decide (stripSpaces (lower header) ∈ allowHeaders.map fun name => lower name.toList)

/-- What a preflight request asks for in vain. -/
def preflightFailures (env : Surroundings) (req : LoggedRequest) (origin method : String) :
    List String :=
  (if origin ∈ env.corsOrigins then [] else ["origin"]) ++
    (if method ∈ allowMethods then [] else ["method"]) ++
    if (requestHeader req "access-control-request-headers").all headersAllowed then [] else ["headers"]

/-- `CORSMiddleware.preflight_response`. -/
def preflightResponse (env : Surroundings) (req : LoggedRequest) (origin method : String) :
    Answer α :=
  let failures := preflightFailures env req origin method
  let headers : Headers :=
    [("vary", "Origin"), ("access-control-allow-methods", ", ".intercalate allowMethods),
      ("access-control-max-age", "600"),
      ("access-control-allow-headers", ", ".intercalate allowHeaders),
      ("access-control-allow-credentials", "true")] ++
    (if origin ∈ env.corsOrigins then [("access-control-allow-origin", origin)] else []) ++
    [("content-type", "text/plain; charset=utf-8")]
  if failures = [] then ⟨200, headers, .text "OK"⟩
  else ⟨400, headers, .text ("Disallowed CORS " ++ ", ".intercalate failures)⟩

/-- The headers that a response gets for an origin. -/
def allowOrigin (env : Surroundings) (origin : String) (r : Answer α) : Answer α :=
  let r := r.withHeaders [("access-control-allow-credentials", "true"),
    ("access-control-expose-headers", ", ".intercalate exposeHeaders)]
  if origin ∈ env.corsOrigins then
    (r.withHeaders [("access-control-allow-origin", origin)]).addVary "Origin"
  else r

/-- `CORSMiddleware`; it answers a preflight request itself. -/
def corsMiddleware (env : Surroundings) : Layer Scope (Outcome α) := fun next sc =>
  match preflightOf sc.request with
  | some (origin, method) => (sc, .ok (preflightResponse env sc.request origin method))
  | none =>
    let (sc', r) := next sc
    (sc', (requestHeader sc.request "origin").elim r fun origin => r.map (allowOrigin env origin))

/-- A response as it is compressed; its body is the content before that. -/
def compressed (env : Surroundings) (size : Body α → ℕ) (req : LoggedRequest) (r : Answer α) :
    Answer α :=
  if size r.body < env.gzipMinSize ∨ (r.headers.lookup "content-encoding").isSome then r
  else if "gzip".toList <:+: ((requestHeader req "accept-encoding").getD "").toList then
    (r.addVary "Accept-Encoding").withHeaders [("content-encoding", "gzip")]
  else r.addVary "Accept-Encoding"

/-- `GZipMiddleware`, given how many bytes a body has. -/
def gzipMiddleware (env : Surroundings) (size : Body α → ℕ) : Layer Scope (Outcome α) :=
  fun next sc =>
    let (sc', r) := next sc
    (sc', r.map (compressed env size sc.request))

/-- The request id that is bound to the log context. -/
def boundRequestId (env : Surroundings) (req : LoggedRequest) : String :=
  String.ofList (requestContext req env.u env.v).requestId

/-- The correlation id that is bound to the log context. -/
def boundCorrelationId (env : Surroundings) (req : LoggedRequest) : String :=
  String.ofList (requestContext req env.u env.v).correlationId

/-- The headers that `request_id_middleware` sets. -/
def idHeaders (env : Surroundings) (req : LoggedRequest) : Headers :=
  [("x-request-id", boundRequestId env req), ("x-correlation-id", boundCorrelationId env req),
    ("x-process-time", env.processTime)]

/-- What `request_id_middleware` writes to the state of the request. -/
def Scope.withIds (env : Surroundings) (sc : Scope) : Scope :=
  { sc with
    requestId := some (boundRequestId env sc.request)
    correlationId := some (boundCorrelationId env sc.request) }

/-- `logging_middleware`. -/
def loggingMiddleware (env : Surroundings) : Layer Scope (Outcome α) := fun next sc =>
  let out := next (sc.withIds env)
  (out.1, out.2.map fun r => r.withHeaders (idHeaders env sc.request))

/-- `shutdown_middleware`, up to its counter. -/
def shutdownMiddleware (env : Surroundings) : Layer Scope (Outcome α) := fun next sc =>
  if env.shuttingDown && decide (sc.request.path ∉ systemPaths) then
    (sc, .ok (problemResponse 503 serviceUnavailable))
  else next sc

/-- The response with the headers about its limit, when the statistics can be read. -/
def withLimitHeaders (env : Surroundings) (limit : RateLimit) (r : Answer α) :
    Except Exc (Answer α) :=
  match env.stats with
  | .ok st => .ok (r.withHeaders
      [("x-ratelimit-limit", toString limit.amount),
        ("x-ratelimit-remaining", toString st.remaining),
        ("x-ratelimit-reset", toString (resetIn env.now st))])
  | .error e => if swallows e then .ok r else .error e

/-- `rate_limit_headers_middleware` on any response. -/
def rateLimitLayer (env : Surroundings) : Layer Scope (Outcome α) := fun next sc =>
  let (sc, r) := next sc
  (sc, r.bind fun r => sc.viewRateLimit.elim (.ok r) fun limit => withLimitHeaders env limit r)

/-- The headers that `security_headers_middleware` sets. -/
def securityHeaders : Headers :=
  [("x-content-type-options", "nosniff"), ("x-frame-options", "DENY"),
    ("referrer-policy", "strict-origin-when-cross-origin"),
    ("strict-transport-security", "max-age=31536000; includeSubDomains")]

/-- `security_headers_middleware`. -/
def securityHeadersMiddleware : Layer Scope (Outcome α) := fun next sc =>
  let (sc, r) := next sc
  (sc, r.map fun r => r.withHeaders securityHeaders)

/-- The middlewares, the one that was added last first. -/
def middlewares (env : Surroundings) (size : Body α → ℕ) : List (Layer Scope (Outcome α)) :=
  [securityHeadersMiddleware, rateLimitLayer env, shutdownMiddleware env, loggingMiddleware env,
    gzipMiddleware env size, corsMiddleware env]

/-- `internal_error_handler`, outside of the middlewares. -/
def internalErrorResponse (correlationId : Option String) : Answer α :=
  problemResponse 500 (internalErrorHandler correlationId)

/-- What the client gets. -/
def serve (env : Surroundings) (size : Body α → ℕ) (route : Route α) (req : LoggedRequest) :
    Answer α :=
  match Layer.stack (middlewares env size) (exceptionMiddleware env.now route) { request := req } with
  | (_, .ok r) => r
  | (sc, .error _) => internalErrorResponse sc.correlationId

/-! ### Headers -/

lemma Headers.lookup_filter {headers : Headers} {name name' : String} (h : name' ≠ name) :
    List.lookup name' (headers.filter fun p => decide (p.1 ≠ name)) = headers.lookup name' := by
  induction headers with
  | nil => rfl
  | cons p rest ih =>
    by_cases hp : p.1 = name
    · have hne : (name' == p.1) = false := beq_eq_false_iff_ne.mpr (hp ▸ h)
      rw [List.filter_cons_of_neg (by simpa using hp), ih, List.lookup_cons, hne]
    · rw [List.filter_cons_of_pos (by simpa using hp), List.lookup_cons, List.lookup_cons, ih]

lemma Headers.lookup_set_self (headers : Headers) (name value : String) :
    (headers.set name value).lookup name = some value := by
  induction headers with
  | nil => simp [Headers.set]
  | cons p rest ih =>
    rw [Headers.set]
    by_cases hp : p.1 = name
    · rw [if_pos hp]
      simp
    · have hne : (name == p.1) = false := beq_eq_false_iff_ne.mpr (Ne.symm hp)
      rw [if_neg hp, List.lookup_cons, hne]
      exact ih

lemma Headers.lookup_set_of_ne {headers : Headers} {name name' value : String} (h : name' ≠ name) :
    (headers.set name value).lookup name' = headers.lookup name' := by
  have hne : (name' == name) = false := beq_eq_false_iff_ne.mpr h
  induction headers with
  | nil => simp [Headers.set, List.lookup_cons, hne]
  | cons p rest ih =>
    rw [Headers.set]
    by_cases hp : p.1 = name
    · rw [if_pos hp, List.lookup_cons, List.lookup_cons, Headers.lookup_filter h, hp, hne]
    · rw [if_neg hp, List.lookup_cons, List.lookup_cons, ih]

namespace HttpResponse

variable {β : Type} (r : HttpResponse β)

@[simp] lemma withHeaders_statusCode (values : Headers) :
    (r.withHeaders values).statusCode = r.statusCode := rfl

@[simp] lemma withHeaders_body (values : Headers) : (r.withHeaders values).body = r.body := rfl

lemma withHeaders_cons (h : String × String) (values : Headers) :
    r.withHeaders (h :: values) = ({ r with headers := r.headers.set h.1 h.2 }).withHeaders values :=
  rfl

/-- Setting headers leaves those of other names. -/
lemma lookup_withHeaders_of_notMem {values : Headers} {name : String}
    (h : name ∉ values.map Prod.fst) :
    (r.withHeaders values).headers.lookup name = r.headers.lookup name := by
  induction values generalizing r with
  | nil => rfl
  | cons p values ih =>
    rw [List.map_cons, List.mem_cons, not_or] at h
    rw [withHeaders_cons, ih _ h.2]
    exact Headers.lookup_set_of_ne h.1

/-- All headers that are set are there. -/
lemma lookup_withHeaders_of_mem {values : Headers} (hnodup : (values.map Prod.fst).Nodup)
    {h : String × String} (hmem : h ∈ values) :
    (r.withHeaders values).headers.lookup h.1 = some h.2 := by
  induction values generalizing r with
  | nil => cases hmem
  | cons p values ih =>
    rw [List.map_cons, List.nodup_cons] at hnodup
    rw [withHeaders_cons]
    rcases List.mem_cons.mp hmem with rfl | hmem
    · rw [lookup_withHeaders_of_notMem _ hnodup.1]
      exact Headers.lookup_set_self ..
    · exact ih _ hnodup.2 hmem

end HttpResponse

/-! ### What a client may rely on -/

/-- The request is turned away because of the shutdown. -/
def Refuses (env : Surroundings) (req : LoggedRequest) : Prop :=
  env.shuttingDown = true ∧ req.path ∉ systemPaths

/-- An exception gets past all handlers: the route is called and raises one that has none, or the
statistics of the limit cannot be read and the middleware does not expect why. -/
def Escapes (env : Surroundings) (route : Route α) (req : LoggedRequest) : Prop :=
  ¬ Refuses env req ∧ preflightOf req = none ∧
    ((∃ e, (route req).2 = .error (.raised (.other e)) ∧ e.isinstance .timeoutError = false) ∨
      ∃ limit e, (route req).1 = some limit ∧ env.stats = .error e ∧ swallows e = false)

/-- A problem document has the status of its response and its media type. -/
def Documented (r : Answer α) : Prop :=
  ∀ doc errors, r.body = .problem doc errors →
    doc.status = r.statusCode ∧ r.headers.lookup "content-type" = some "application/problem+json"

/-- The answer names the ids of the request, in its headers and in a problem document, and is
otherwise what the route or an exception handler has answered; that to a preflight request is
of `CORSMiddleware`. -/
structure Traced (env : Surroundings) (route : Route α) (req : LoggedRequest) (r : Answer α) :
    Prop where
  requestId : r.headers.lookup "x-request-id" = some (boundRequestId env req)
  correlationId : r.headers.lookup "x-correlation-id" = some (boundCorrelationId env req)
  instanceId : ∀ doc errors, r.body = .problem doc errors →
    doc.instanceId = r.headers.lookup "x-correlation-id"
  passed : preflightOf req = none →
    ∃ r₀, answered (some (boundCorrelationId env req)) env.now route req = .ok r₀ ∧
      r.statusCode = r₀.statusCode ∧ r.body = r₀.body
  preflight : ∀ origin method, preflightOf req = some (origin, method) →
    (preflightFailures env req origin method = [] → r.statusCode = 200 ∧ r.body = .text "OK") ∧
      (preflightFailures env req origin method ≠ [] → r.statusCode = 400 ∧
        r.body = .text ("Disallowed CORS " ++
          ", ".intercalate (preflightFailures env req origin method)))

/-- What a client may rely on. -/
structure Served (env : Surroundings) (route : Route α) (req : LoggedRequest) (r : Answer α) :
    Prop where
  documented : Documented r
  secured : ¬ Escapes env route req → ∀ h ∈ securityHeaders, r.headers.lookup h.1 = some h.2
  traced : ¬ Refuses env req → ¬ Escapes env route req → Traced env route req r
  refused : Refuses env req →
    r.statusCode = 503 ∧ r.body = .problem serviceUnavailable []
  escaped : Escapes env route req →
    r = internalErrorResponse (some (boundCorrelationId env req))

/-! ### The exception handlers -/

lemma documented_problemResponse (doc : ProblemDetail) (errors : List FieldError) :
    Documented (problemResponse doc.status doc errors : Answer α) := by
  intro doc' errors' h
  obtain ⟨rfl, rfl⟩ := Body.problem.inj h
  exact ⟨rfl, rfl⟩

/-- A handled exception becomes a problem document that names the id of the request. -/
lemma handleFailure_spec {id : Option String} {now : ℚ} {failure : Failure} {r : Answer α}
    (h : handleFailure id now failure = .ok r) :
    Documented r ∧ ∀ doc errors, r.body = .problem doc errors → doc.instanceId = id := by
  have hproblem : ∀ (status : ℕ) (doc : ProblemDetail) (errors : List FieldError),
      r = problemResponse status doc errors → doc.status = status → doc.instanceId = id →
      Documented r ∧ ∀ doc errors, r.body = .problem doc errors → doc.instanceId = id := by
    rintro status doc errors rfl rfl hid
    refine ⟨documented_problemResponse doc errors, fun doc' errors' hbody => ?_⟩
    obtain ⟨rfl, rfl⟩ := Body.problem.inj hbody
    exact hid
  match failure with
  | .raised (.descriptorError statusCode code message) =>
    exact hproblem _ _ _ (Except.ok.inj h).symm rfl rfl
  | .raised (.other e) =>
    rw [handleFailure] at h
    split at h
    · exact hproblem _ _ _ (Except.ok.inj h).symm rfl rfl
    · cases h
  | .httpException statusCode detail =>
    exact hproblem _ _ _ (Except.ok.inj h).symm rfl rfl
  | .validation faults => exact hproblem _ _ _ (Except.ok.inj h).symm rfl rfl
  | .rateLimitExceeded exc =>
    have hr : r = (rateLimitHandler id now exc).render := (Except.ok.inj h).symm
    have hheaders : ((rateLimitHandler id now exc).headers.render ++
        [("content-type", "application/problem+json")]).lookup "content-type" =
        some "application/problem+json" := by
      rcases exc with ⟨retryAfter, limit | _, detail⟩ <;> rfl
    subst hr
    refine ⟨fun doc errors hbody => ?_, fun doc errors hbody => ?_⟩
    · obtain ⟨rfl, rfl⟩ := Body.problem.inj hbody
      exact ⟨rfl, hheaders⟩
    · obtain ⟨rfl, rfl⟩ := Body.problem.inj hbody
      rfl

/-- An exception gets past the handlers when the route raises one that has none. -/
lemma answered_error_iff (id : Option String) (now : ℚ) (route : Route α) (req : LoggedRequest) :
    (∃ e, answered id now route req = .error e) ↔
      ∃ e, (route req).2 = .error (.raised (.other e)) ∧ e.isinstance .timeoutError = false := by
  unfold answered
  rcases (route req).2 with failure | r
  · match failure with
    | .raised (.descriptorError _ _ _) => simp [handleFailure]
    | .raised (.other e) =>
      cases htimeout : e.isinstance .timeoutError with
      | true => simp [handleFailure, htimeout]
      | false => simp [handleFailure, htimeout]
    | .httpException _ _ => simp [handleFailure]
    | .validation _ => simp [handleFailure]
    | .rateLimitExceeded _ => simp [handleFailure]
  · simp

lemma answered_spec {id : Option String} {now : ℚ} {route : Route α} {req : LoggedRequest}
    {r : Answer α} (h : answered id now route req = .ok r) :
    Documented r ∧ ∀ doc errors, r.body = .problem doc errors → doc.instanceId = id := by
  unfold answered at h
  split at h
  · obtain rfl := Except.ok.inj h
    exact ⟨fun doc errors hbody => (by cases hbody), fun doc errors hbody => (by cases hbody)⟩
  · exact handleFailure_spec h

/-! ### What the layers do -/

section
variable {env : Surroundings} {route : Route α} {next : Scope → Outcome α} {sc : Scope}

/-- The handler of `shutdown_middleware` and the layers inside. -/
abbrev inner (env : Surroundings) (size : Body α → ℕ) (route : Route α) : Scope → Outcome α :=
  loggingMiddleware env (gzipMiddleware env size (corsMiddleware env
    (exceptionMiddleware env.now route)))

/-- The same answer but for headers. -/
structure SameAnswer (r₀ r : Answer α) : Prop where
  statusCode : r.statusCode = r₀.statusCode
  body : r.body = r₀.body
  contentType : r.headers.lookup "content-type" = r₀.headers.lookup "content-type"

lemma SameAnswer.trans {r₀ r₁ r₂ : Answer α} (h : SameAnswer r₀ r₁) (h' : SameAnswer r₁ r₂) :
    SameAnswer r₀ r₂ :=
  ⟨h'.statusCode.trans h.statusCode, h'.body.trans h.body, h'.contentType.trans h.contentType⟩

lemma sameAnswer_withHeaders (r : Answer α) {values : Headers}
    (h : "content-type" ∉ values.map Prod.fst) : SameAnswer r (r.withHeaders values) :=
  ⟨rfl, rfl, r.lookup_withHeaders_of_notMem h⟩

lemma sameAnswer_allowOrigin (env : Surroundings) (origin : String) (r : Answer α) :
    SameAnswer r (allowOrigin env origin r) := by
  unfold allowOrigin
  have hsimple : SameAnswer r (r.withHeaders [("access-control-allow-credentials", "true"),
      ("access-control-expose-headers", ", ".intercalate exposeHeaders)]) :=
    sameAnswer_withHeaders r (by decide)
  dsimp only
  split
  · exact hsimple.trans ((sameAnswer_withHeaders _ (by simp)).trans
      (sameAnswer_withHeaders _ (by simp)))
  · exact hsimple

lemma sameAnswer_compressed (env : Surroundings) (size : Body α → ℕ) (req : LoggedRequest)
    (r : Answer α) : SameAnswer r (compressed env size req r) := by
  unfold compressed
  split
  · exact ⟨rfl, rfl, rfl⟩
  · split
    · exact (sameAnswer_withHeaders r (by simp)).trans (sameAnswer_withHeaders _ (by simp))
    · exact sameAnswer_withHeaders r (by simp)

/-- `CORSMiddleware` answers a preflight request and lets every other one through. -/
lemma corsMiddleware_ok {r : Answer α} (h : (corsMiddleware env next sc).2 = .ok r) :
    (∃ origin method, preflightOf sc.request = some (origin, method) ∧
        r = preflightResponse env sc.request origin method) ∨
      preflightOf sc.request = none ∧ ∃ r₀, (next sc).2 = .ok r₀ ∧ SameAnswer r₀ r := by
  unfold corsMiddleware at h
  rcases hpreflight : preflightOf sc.request with _ | ⟨origin, method⟩
  · refine .inr ⟨rfl, ?_⟩
    simp only [hpreflight] at h
    rcases horigin : requestHeader sc.request "origin" with _ | origin
    · rw [horigin] at h
      exact ⟨r, h, ⟨rfl, rfl, rfl⟩⟩
    · rw [horigin] at h
      obtain ⟨r₀, hr₀, rfl⟩ := map_eq_ok.mp h
      exact ⟨r₀, hr₀, sameAnswer_allowOrigin env origin r₀⟩
  · simp only [hpreflight] at h
    exact .inl ⟨origin, method, rfl, (Except.ok.inj h).symm⟩

lemma corsMiddleware_error_iff : (∃ e, (corsMiddleware env next sc).2 = .error e) ↔
    preflightOf sc.request = none ∧ ∃ e, (next sc).2 = .error e := by
  unfold corsMiddleware
  rcases hpreflight : preflightOf sc.request with _ | ⟨origin, method⟩
  · rcases requestHeader sc.request "origin" with _ | origin
    · simp
    · simp [map_eq_error]
  · simp

/-- The limit that the route was checked against, when it was called. -/
lemma inner_viewRateLimit {size : Body α → ℕ} (h : sc.viewRateLimit = none) :
    (inner env size route sc).1.viewRateLimit =
      if preflightOf sc.request = none then (route sc.request).1 else none := by
  show (corsMiddleware env (exceptionMiddleware env.now route) (sc.withIds env)).1.viewRateLimit = _
  unfold corsMiddleware
  have hrequest : (sc.withIds env).request = sc.request := rfl
  rw [hrequest]
  rcases hpreflight : preflightOf sc.request with _ | ⟨origin, method⟩
  · rfl
  · simp [Scope.withIds, h]

lemma refuses_iff : (env.shuttingDown && decide (sc.request.path ∉ systemPaths)) = true ↔
    Refuses env sc.request := by
  rw [Bool.and_eq_true, decide_eq_true_eq, Refuses]

lemma shutdownMiddleware_of_refuses (h : Refuses env sc.request) :
    shutdownMiddleware env next sc = (sc, .ok (problemResponse 503 serviceUnavailable)) := by
  rw [shutdownMiddleware, if_pos (refuses_iff.mpr h)]

lemma shutdownMiddleware_of_not_refuses (h : ¬ Refuses env sc.request) :
    shutdownMiddleware env next sc = next sc := by
  rw [shutdownMiddleware, if_neg (fun hdown => h (refuses_iff.mp hdown))]

lemma rateLimitLayer_of_none (h : (next sc).1.viewRateLimit = none) :
    rateLimitLayer env next sc = next sc := by
  unfold rateLimitLayer
  rcases hnext : next sc with ⟨sc', r⟩
  rw [hnext] at h
  simp only at h
  simp only [h, Option.elim_none]
  cases r <;> rfl

lemma withLimitHeaders_error_iff {limit : RateLimit} {r : Answer α} :
    (∃ e, withLimitHeaders env limit r = .error e) ↔
      ∃ e, env.stats = .error e ∧ swallows e = false := by
  unfold withLimitHeaders
  cases env.stats with
  | ok st => simp
  | error e => cases hswallows : swallows e <;> simp [hswallows]

/-- `rate_limit_headers_middleware` lets an exception out that came from inside, and one of the
statistics that it does not expect. -/
lemma rateLimitLayer_error_iff : (∃ e, (rateLimitLayer env next sc).2 = .error e) ↔
    (∃ e, (next sc).2 = .error e) ∨
      ∃ limit e, (next sc).1.viewRateLimit = some limit ∧ env.stats = .error e ∧
        swallows e = false := by
  unfold rateLimitLayer
  rcases next sc with ⟨sc', e | r⟩
  · simp [Except.bind]
  · cases hlimit : sc'.viewRateLimit with
    | none => simp [Except.bind, hlimit]
    | some limit =>
      simp [Except.bind, hlimit, withLimitHeaders_error_iff]

/-- What all responses have. -/
def OnResponse (p : Scope → Answer α → Prop) (sc : Scope) (out : Outcome α) : Prop :=
  ∀ r, out.2 = .ok r → p sc r

/-- The names of the headers that the layers outside of `logging_middleware` set. -/
def outerNames : List String :=
  securityHeaders.map Prod.fst ++ ["x-ratelimit-limit", "x-ratelimit-remaining", "x-ratelimit-reset"]

variable {p : Scope → Answer α → Prop}

lemma keeps_securityHeaders
    (hset : ∀ sc r values, values.map Prod.fst ⊆ outerNames → p sc r → p sc (r.withHeaders values)) :
    Layer.Keeps (OnResponse p) securityHeadersMiddleware := by
  intro next hnext sc r hr
  have hnext := hnext sc
  unfold securityHeadersMiddleware at hr
  rcases hout : next sc with ⟨sc', e | r'⟩
  · rw [hout] at hr
    cases hr
  · rw [hout] at hr hnext
    obtain rfl := Except.ok.inj hr
    exact hset sc r' securityHeaders (List.subset_append_left ..) (hnext r' rfl)

lemma keeps_rateLimit
    (hset : ∀ sc r values, values.map Prod.fst ⊆ outerNames → p sc r → p sc (r.withHeaders values)) :
    Layer.Keeps (OnResponse p) (rateLimitLayer env) := by
  intro next hnext sc r hr
  have hnext := hnext sc
  unfold rateLimitLayer at hr
  rcases hout : next sc with ⟨sc', e | r'⟩
  · rw [hout] at hr
    cases hr
  · rw [hout] at hr hnext
    have hr' := hnext r' rfl
    have hkept := hset sc r'
    cases hlimit : sc'.viewRateLimit with
    | none =>
      simp only [Except.bind, hlimit, Option.elim_none] at hr
      obtain rfl := Except.ok.inj hr
      exact hr'
    | some limit =>
      simp only [Except.bind, hlimit, Option.elim_some] at hr
      unfold withLimitHeaders at hr
      split at hr
      · obtain rfl := Except.ok.inj hr
        exact hkept _ (List.subset_append_right ..) hr'
      · split at hr
        · obtain rfl := Except.ok.inj hr
          exact hr'
        · cases hr

lemma keeps_shutdown
    (hrefused : ∀ sc, Refuses env sc.request → p sc (problemResponse 503 serviceUnavailable)) :
    Layer.Keeps (OnResponse p) (shutdownMiddleware env) := by
  intro next hnext sc r hr
  by_cases hrefuses : Refuses env sc.request
  · rw [shutdownMiddleware_of_refuses hrefuses] at hr
    obtain rfl := Except.ok.inj hr
    exact hrefused sc hrefuses
  · rw [shutdownMiddleware_of_not_refuses hrefuses] at hr
    exact hnext sc r hr

/-- What holds of the responses inside of `shutdown_middleware`, and of its own, holds of all. -/
lemma onResponse_stack {size : Body α → ℕ} {app : Scope → Outcome α}
    (hset : ∀ sc r values, values.map Prod.fst ⊆ outerNames → p sc r → p sc (r.withHeaders values))
    (hrefused : ∀ sc, Refuses env sc.request → p sc (problemResponse 503 serviceUnavailable))
    (hinner : ∀ sc, OnResponse p sc
      (loggingMiddleware env (gzipMiddleware env size (corsMiddleware env app)) sc)) (sc : Scope) :
    OnResponse p sc (Layer.stack (middlewares env size) app sc) := by
  have hkeeps : ∀ layer ∈ [securityHeadersMiddleware, rateLimitLayer env, shutdownMiddleware env],
      Layer.Keeps (OnResponse p) layer := by
    intro layer hlayer
    simp only [List.mem_cons, List.not_mem_nil, or_false] at hlayer
    rcases hlayer with rfl | rfl | rfl
    · exact keeps_securityHeaders hset
    · exact keeps_rateLimit hset
    · exact keeps_shutdown hrefused
  exact Layer.of_keeps hkeeps hinner sc

lemma idHeaders_names (req : LoggedRequest) : (idHeaders env req).map Prod.fst =
    ["x-request-id", "x-correlation-id", "x-process-time"] := rfl

/-- The layer refuses the requests that `InFlight` takes no further. -/
lemma refuses_iff_step {Response : Type} {s : InFlight Response} {i : ℕ} {req : LoggedRequest}
    (hnew : s.requests i = none) (hdown : env.shuttingDown = s.shuttingDown) :
    Refuses env req ↔ ∃ s', s.step (.request i req.path) = some s' ∧
      s'.requests i = some (req.path, .refused serviceUnavailable) := by
  have hcondition : Refuses env req ↔
      (s.shuttingDown && decide (req.path ∉ systemPaths)) = true := by
    rw [Refuses, hdown, Bool.and_eq_true, decide_eq_true_eq]
  rw [hcondition]
  simp only [InFlight.step, hnew]
  cases s.shuttingDown && decide (req.path ∉ systemPaths) with
  | true => simp [InFlight.put]
  | false => cases s.locked <;> simp [InFlight.put, InFlight.pass]

/-- On a refusal the layer does what `rateLimitHeadersMiddleware` does. -/
lemma withLimitHeaders_render {limit own : RateLimit} {id : Option String} {now : ℚ}
    {exc : RateLimitExceeded} (hexc : exc.limit = some own) :
    (withLimitHeaders env limit (rateLimitHandler id now exc).render : Except Exc (Answer α)) =
      (rateLimitHeadersMiddleware (rateLimitHandler id now exc) (some limit) env.stats env.now).map
        LimitedResponse.render := by
  unfold withLimitHeaders rateLimitHeadersMiddleware
  cases env.stats with
  | ok st =>
    simp [rateLimitHandler, hexc, LimitedResponse.render, LimitHeaders.render,
      HttpResponse.withHeaders, Headers.set, Except.map]
  | error e => cases hswallows : swallows e <;> simp [Except.map, hswallows]

/-- What is shown of the responses at `logging_middleware` and kept outside of it. -/
def Sound (env : Surroundings) (route : Route α) (sc : Scope) (r : Answer α) : Prop :=
  Documented r ∧ (¬ Refuses env sc.request → Traced env route sc.request r)

/-- What comes out of the layers inside of `logging_middleware`. -/
lemma gzip_cors_ok {size : Body α → ℕ} {r : Answer α}
    (h : (gzipMiddleware env size (corsMiddleware env next) sc).2 = .ok r) :
    (∃ origin method, preflightOf sc.request = some (origin, method) ∧
        SameAnswer (preflightResponse env sc.request origin method) r) ∨
      preflightOf sc.request = none ∧ ∃ r₀, (next sc).2 = .ok r₀ ∧ SameAnswer r₀ r := by
  obtain ⟨r₁, hr₁, rfl⟩ := map_eq_ok.mp h
  have hsame := sameAnswer_compressed env size sc.request r₁
  rcases corsMiddleware_ok hr₁ with ⟨origin, method, hpreflight, rfl⟩ | ⟨hnone, r₀, hr₀, hdressed⟩
  · exact .inl ⟨origin, method, hpreflight, hsame⟩
  · exact .inr ⟨hnone, r₀, hr₀, hdressed.trans hsame⟩

lemma preflightResponse_spec (env : Surroundings) (req : LoggedRequest) (origin method : String) :
    let r : Answer α := preflightResponse env req origin method
    (preflightFailures env req origin method = [] → r.statusCode = 200 ∧ r.body = .text "OK") ∧
      (preflightFailures env req origin method ≠ [] → r.statusCode = 400 ∧
        r.body = .text ("Disallowed CORS " ++
          ", ".intercalate (preflightFailures env req origin method))) := by
  refine ⟨fun hnone => ?_, fun hsome => ?_⟩
  · rw [preflightResponse, if_pos hnone]
    exact ⟨rfl, rfl⟩
  · rw [preflightResponse, if_neg hsome]
    exact ⟨rfl, rfl⟩

example : headersAllowed "x-api-key, Content-Type" = true := by decide +kernel

/-- The responses that come out of `logging_middleware`. -/
lemma sound_inner (size : Body α → ℕ) (sc : Scope) :
    OnResponse (Sound env route) sc (inner env size route sc) := by
  intro _ hout
  obtain ⟨r, hr, rfl⟩ := map_eq_ok.mp hout
  have hcases : (∃ origin method, preflightOf sc.request = some (origin, method) ∧
        SameAnswer (preflightResponse env sc.request origin method) r) ∨
      preflightOf sc.request = none ∧
        ∃ r₀, answered (some (boundCorrelationId env sc.request)) env.now route sc.request = .ok r₀ ∧
          SameAnswer r₀ r := gzip_cors_ok hr
  have hids : ∀ h ∈ idHeaders env sc.request,
      (r.withHeaders (idHeaders env sc.request)).headers.lookup h.1 = some h.2 :=
    fun h hh => r.lookup_withHeaders_of_mem (by rw [idHeaders_names]; decide) hh
  have hrequestId := hids ("x-request-id", boundRequestId env sc.request) (by simp [idHeaders])
  have hcorrelation := hids ("x-correlation-id", boundCorrelationId env sc.request)
    (by simp [idHeaders])
  rcases hcases with ⟨origin, method, hpreflight, hsame⟩ | ⟨hnone, r₀, hr₀, hsame⟩
  · -- the body is a plain text
    have hspec := preflightResponse_spec (α := α) env sc.request origin method
    have htext : ∀ doc errors, r.body ≠ .problem doc errors := by
      intro doc errors hdoc
      rw [hsame.body] at hdoc
      by_cases hfailures : preflightFailures env sc.request origin method = []
      · rw [(hspec.1 hfailures).2] at hdoc
        cases hdoc
      · rw [(hspec.2 hfailures).2] at hdoc
        cases hdoc
    refine ⟨fun doc errors hdoc => absurd hdoc (htext doc errors), fun _ => ?_⟩
    refine
      { requestId := hrequestId
        correlationId := hcorrelation
        instanceId := fun doc errors hdoc => absurd hdoc (htext doc errors)
        passed := fun hnone => by cases hnone.symm.trans hpreflight
        preflight := fun origin' method' hpreflight' => ?_ }
    obtain ⟨rfl, rfl⟩ : origin = origin' ∧ method = method' := by
      simpa [hpreflight] using hpreflight'
    simp only [HttpResponse.withHeaders_statusCode, HttpResponse.withHeaders_body,
      hsame.statusCode, hsame.body]
    exact hspec
  · obtain ⟨hdocumented, hid⟩ := answered_spec hr₀
    constructor
    · intro doc errors hdoc
      have hdoc₀ := hdocumented doc errors (hsame.body ▸ hdoc)
      have hkept : (r.withHeaders (idHeaders env sc.request)).headers.lookup "content-type" =
          r₀.headers.lookup "content-type" := by
        rw [r.lookup_withHeaders_of_notMem (by rw [idHeaders_names]; decide), hsame.contentType]
      exact ⟨hdoc₀.1.trans hsame.statusCode.symm, hkept.trans hdoc₀.2⟩
    · intro _
      exact
        { requestId := hrequestId
          correlationId := hcorrelation
          instanceId := fun doc errors hdoc =>
            (hid doc errors (hsame.body ▸ hdoc)).trans hcorrelation.symm
          passed := fun _ => ⟨r₀, hr₀, hsame.statusCode, hsame.body⟩
          preflight := fun origin method hpreflight => by cases hnone.symm.trans hpreflight }

lemma Sound.withHeaders {r : Answer α} {values : Headers} (h : Sound env route sc r)
    (hvalues : values.map Prod.fst ⊆ outerNames) : Sound env route sc (r.withHeaders values) := by
  have hkept : ∀ name, name ∉ outerNames →
      (r.withHeaders values).headers.lookup name = r.headers.lookup name :=
    fun name hname => r.lookup_withHeaders_of_notMem fun hmem => hname (hvalues hmem)
  refine ⟨fun doc errors hbody => ?_, fun hrefuses => ?_⟩
  · rw [hkept "content-type" (by decide)]
    exact h.1 doc errors hbody
  · have htraced := h.2 hrefuses
    have hid := hkept "x-correlation-id" (by decide)
    exact
      { requestId := (hkept "x-request-id" (by decide)).trans htraced.requestId
        correlationId := hid.trans htraced.correlationId
        instanceId := fun doc errors hbody => (htraced.instanceId doc errors hbody).trans hid.symm
        passed := htraced.passed
        preflight := htraced.preflight }

lemma sound_stack (size : Body α → ℕ) (sc : Scope) : OnResponse (Sound env route) sc
    (Layer.stack (middlewares env size) (exceptionMiddleware env.now route) sc) :=
  onResponse_stack (fun _ _ _ hvalues h => h.withHeaders hvalues)
    (fun _ hrefuses => ⟨documented_problemResponse serviceUnavailable [], fun h => absurd hrefuses h⟩)
    (sound_inner size) sc

/-- The security headers are set by the outermost layer. -/
lemma secured_stack (env : Surroundings) (route : Route α) (size : Body α → ℕ) (sc : Scope) :
    OnResponse (fun _ r => ∀ h ∈ securityHeaders, r.headers.lookup h.1 = some h.2) sc
      (Layer.stack (middlewares env size) (exceptionMiddleware env.now route) sc) := by
  have hgives : Layer.Gives
      (OnResponse fun _ (r : Answer α) => ∀ h ∈ securityHeaders, r.headers.lookup h.1 = some h.2)
      securityHeadersMiddleware := by
    intro next sc r hr h hh
    obtain ⟨r₀, -, rfl⟩ := map_eq_ok.mp hr
    exact r₀.lookup_withHeaders_of_mem (by decide) hh
  show OnResponse _ sc (Layer.stack ([] ++ securityHeadersMiddleware :: [rateLimitLayer env,
    shutdownMiddleware env, loggingMiddleware env, gzipMiddleware env size, corsMiddleware env]) _ sc)
  exact Layer.of_gives hgives (fun layer hlayer => absurd hlayer (List.not_mem_nil)) sc

/-! ### When an exception escapes -/

/-- What comes out of all layers: an exception when one escapes, with the ids of the request. -/
lemma error_stack_iff (env : Surroundings) (route : Route α) (size : Body α → ℕ)
    (req : LoggedRequest) :
    (∃ e, (Layer.stack (middlewares env size) (exceptionMiddleware env.now route)
        { request := req }).2 = .error e) ↔ Escapes env route req := by
  show (∃ e, (rateLimitLayer env (shutdownMiddleware env (inner env size route))
    { request := req }).2.map _ = .error e) ↔ _
  simp only [map_eq_error]
  rw [rateLimitLayer_error_iff]
  by_cases hrefuses : Refuses env req
  · rw [shutdownMiddleware_of_refuses hrefuses]
    simp [Escapes, hrefuses]
  · rw [shutdownMiddleware_of_not_refuses hrefuses]
    have hinner : (∃ e, (inner env size route { request := req }).2 = .error e) ↔
        preflightOf req = none ∧
          ∃ e, (route req).2 = .error (.raised (.other e)) ∧ e.isinstance .timeoutError = false := by
      rw [← answered_error_iff (some (boundCorrelationId env req)) env.now]
      show (∃ e, (Except.map _ (Except.map _ _)) = .error e) ↔ _
      simp only [map_eq_error]
      exact corsMiddleware_error_iff
    rw [hinner, inner_viewRateLimit rfl, Escapes]
    by_cases hpreflight : preflightOf req = none
    · simp [hpreflight, hrefuses]
    · simp [hpreflight]

lemma stack_correlationId (route : Route α) (size : Body α → ℕ) {req : LoggedRequest}
    (h : ¬ Refuses env req) :
    (Layer.stack (middlewares env size) (exceptionMiddleware env.now route)
      { request := req }).1.correlationId = some (boundCorrelationId env req) := by
  show (shutdownMiddleware env (inner env size route) { request := req }).1.correlationId = _
  rw [shutdownMiddleware_of_not_refuses h]
  show (corsMiddleware env (exceptionMiddleware env.now route) _).1.correlationId = _
  unfold corsMiddleware
  split <;> rfl

/-- What a request gets during the shutdown. -/
lemma stack_of_refuses (size : Body α → ℕ) {req : LoggedRequest} (h : Refuses env req) :
    Layer.stack (middlewares env size) (exceptionMiddleware env.now route) { request := req } =
      ({ request := req },
        .ok ((problemResponse 503 serviceUnavailable).withHeaders securityHeaders)) := by
  show securityHeadersMiddleware (rateLimitLayer env (shutdownMiddleware env (inner env size route)))
    { request := req } = _
  have hout : rateLimitLayer env (shutdownMiddleware env (inner env size route)) { request := req } =
      ({ request := req }, .ok (problemResponse 503 serviceUnavailable)) := by
    rw [rateLimitLayer_of_none]
    · exact shutdownMiddleware_of_refuses h
    · rw [shutdownMiddleware_of_refuses h]
  rw [securityHeadersMiddleware, hout]
  rfl

end

end ImageDescriptor.App
