/-
# The log lines of a request

`request_id_middleware` writes a line when a request comes in, with its query and its
headers, and one when its response is there.  The values of credentials, in headers and in
parameters, are replaced before.  This file puts the middleware together and shows that the
lines, and the ids that go with them, are the same for any two requests that differ in such
values only.
-/
import ImageDescriptor.App.InFlight
import ImageDescriptor.Utils.Logging
import ImageDescriptor.Utils.RequestIds

namespace ImageDescriptor

/-- What the middleware reads of a request.  The names of the headers come in lower case. -/
structure LoggedRequest where
  method : String
  path : String
  queryParams : List (String × String)
  headers : List (String × HeaderValue)
  clientHost : Option String

/-- What it reads of the response. -/
structure LoggedResponse where
  statusCode : ℕ
  contentLength : Option ℕ

/-- `_SENSITIVE_HEADERS`. -/
def sensitiveHeaders : List String := ["authorization", "x-api-key", "cookie", "set-cookie"]

/-- `dict(request.headers)`: each name once, with the first of its values. -/
def headerDict : List (String × HeaderValue) → List (String × List Char)
  | [] => []
  | h :: rest => (h.1, h.2.chars) :: (headerDict rest).filter fun p => decide (p.1 ≠ h.1)

/-- The name of a header whose value is not to be logged. -/
def isSensitiveHeader (name : String) : Bool := decide (name.toLower ∈ sensitiveHeaders)

/-- `_safe_headers`. -/
def safeHeaders (headers : List (String × List Char)) : List (String × List Char) :=
  headers.map fun p => (p.1, if isSensitiveHeader p.1 then "[REDACTED]".toList else p.2)

inductive LogLevel
  | info
  | warning
deriving DecidableEq

/-- The two lines. -/
inductive RequestLine
  | requestStarted (method path query : String) (headers : List (String × List Char))
  | requestFinished (level : LogLevel) (method path : String) (statusCode : ℕ) (latencyMs : ℚ)
      (responseSize : ℕ) (clientIp : Option String)

/-- The lines of a request, from what `call_next` gives and how long it takes. -/
def requestLines (req : LoggedRequest) (response : Except Exc LoggedResponse) (latencyMs : ℚ) :
    List RequestLine :=
  let skipLog := decide (req.path ∈ App.systemPaths)
  (if skipLog then []
    else [.requestStarted req.method req.path (safeQueryParams (urlencode req.queryParams))
      (safeHeaders (headerDict req.headers))]) ++
  match response with
  | .error _ => []
  | .ok response =>
    let finished (level : LogLevel) : RequestLine := .requestFinished level req.method req.path
      response.statusCode latencyMs (response.contentLength.getD 0) req.clientHost
    if !skipLog then [finished (if 400 ≤ response.statusCode then .warning else .info)]
    else if 400 ≤ response.statusCode then [finished .warning]
    else []

/-- The log context of a request. -/
def requestContext (req : LoggedRequest) (u v : UUID) : LogContext :=
  bindContext (req.headers.lookup "x-request-id") (req.headers.lookup "x-correlation-id")
    (req.headers.lookup "traceparent") u v

/-- Two requests that differ in the values of sensitive headers and parameters only. -/
structure SameButSecrets (req req' : LoggedRequest) : Prop where
  method : req.method = req'.method
  path : req.path = req'.path
  clientHost : req.clientHost = req'.clientHost
  queryParams : SameButSensitive req.queryParams req'.queryParams
  headers : List.Forall₂ (fun p q => p.1 = q.1 ∧ (isSensitiveHeader p.1 = false → p.2 = q.2))
    req.headers req'.headers

/-! ### The headers in the log -/

lemma mem_headerDict {headers : List (String × HeaderValue)} {name : String} {value : List Char} :
    (name, value) ∈ headerDict headers ↔
      (headers.lookup name).map HeaderValue.chars = some value := by
  induction headers with
  | nil => simp [headerDict]
  | cons h rest ih =>
    rw [headerDict, List.mem_cons, List.mem_filter, ih, List.lookup_cons]
    by_cases hname : name = h.1
    · subst hname
      simp [eq_comm]
    · have hne : (name == h.1) = false := beq_eq_false_iff_ne.mpr hname
      simp [hne, hname]

lemma nodup_headerDict (headers : List (String × HeaderValue)) :
    ((headerDict headers).map Prod.fst).Nodup := by
  induction headers with
  | nil => exact List.nodup_nil
  | cons h rest ih =>
    rw [headerDict, List.map_cons, List.nodup_cons]
    constructor
    · intro hmem
      obtain ⟨p, hp, hname⟩ := List.mem_map.mp hmem
      have hne : p.1 ≠ h.1 := by simpa using (List.mem_filter.mp hp).2
      exact hne hname
    · exact ih.sublist (List.filter_sublist.map Prod.fst)

/-- The headers that are logged do not show the values of the sensitive ones. -/
lemma safeHeaders_congr {headers headers' : List (String × HeaderValue)}
    (h : List.Forall₂ (fun p q => p.1 = q.1 ∧ (isSensitiveHeader p.1 = false → p.2 = q.2))
      headers headers') :
    safeHeaders (headerDict headers) = safeHeaders (headerDict headers') := by
  have hfilter : ∀ (name : String) (l : List (String × List Char)),
      safeHeaders (l.filter fun p => decide (p.1 ≠ name)) =
        (safeHeaders l).filter fun p => decide (p.1 ≠ name) := by
    intro name l
    rw [safeHeaders, safeHeaders, List.filter_map]
    rfl
  induction h with
  | nil => rfl
  | @cons p q _ _ hpq _ ih =>
    obtain ⟨hname, hvalue⟩ := hpq
    have hcons : ∀ (x : String × List Char) (l : List (String × List Char)),
        safeHeaders (x :: l) = (x.1, if isSensitiveHeader x.1 then "[REDACTED]".toList else x.2) ::
          safeHeaders l := fun _ _ => rfl
    rw [headerDict, headerDict, hcons, hcons, hfilter, hfilter, ih, hname]
    congr 2
    cases hsensitive : isSensitiveHeader q.1 with
    | true => rfl
    | false => rw [hvalue (hname ▸ hsensitive)]

lemma lookup_congr {headers headers' : List (String × HeaderValue)} {name : String}
    (hname : isSensitiveHeader name = false)
    (h : List.Forall₂ (fun p q => p.1 = q.1 ∧ (isSensitiveHeader p.1 = false → p.2 = q.2))
      headers headers') : headers.lookup name = headers'.lookup name := by
  induction h with
  | nil => rfl
  | @cons p q _ _ hpq _ ih =>
    obtain ⟨hsame, hvalue⟩ := hpq
    rw [List.lookup_cons, List.lookup_cons, ih, ← hsame]
    by_cases hp : name = p.1
    · subst hp
      rw [hvalue hname]
    · have hne : (name == p.1) = false := beq_eq_false_iff_ne.mpr hp
      rw [hne]

/-- What is owed to a request whose lines are logged. -/
structure LogsRequestSafely (req : LoggedRequest) : Prop where
  /-- every header is logged once -/
  names : ((safeHeaders (headerDict req.headers)).map Prod.fst).Nodup
  /-- with its first value, or as redacted -/
  values : ∀ name value, req.headers.lookup name = some value →
    (name, if isSensitiveHeader name then "[REDACTED]".toList else value.chars) ∈
      safeHeaders (headerDict req.headers)
  /-- nothing can be told of the values of credentials -/
  hidden : ∀ req', SameButSecrets req req' → ∀ response latencyMs u v,
    requestLines req response latencyMs = requestLines req' response latencyMs ∧
      requestContext req u v = requestContext req' u v

/-- **The log of a request shows no credentials, and all the rest.** -/
theorem logsRequestSafely (req : LoggedRequest) : LogsRequestSafely req where
  names := by
    have hnames : (safeHeaders (headerDict req.headers)).map Prod.fst =
        (headerDict req.headers).map Prod.fst := by
      rw [safeHeaders, List.map_map]
      rfl
    rw [hnames]
    exact nodup_headerDict req.headers
  values name value hvalue := by
    have hmem : (name, value.chars) ∈ headerDict req.headers := by
      rw [mem_headerDict, hvalue]
      rfl
    exact List.mem_map_of_mem hmem
  hidden req' h response latencyMs u v := by
    have hquery : safeQueryParams (urlencode req.queryParams) =
        safeQueryParams (urlencode req'.queryParams) := by
      rw [safeQueryParams_urlencode, safeQueryParams_urlencode, redacted_congr h.queryParams]
    constructor
    · unfold requestLines
      rw [h.method, h.path, h.clientHost, hquery, safeHeaders_congr h.headers]
    · rw [requestContext, requestContext, lookup_congr (by decide +kernel) h.headers,
        lookup_congr (by decide +kernel) h.headers, lookup_congr (by decide +kernel) h.headers]

end ImageDescriptor
