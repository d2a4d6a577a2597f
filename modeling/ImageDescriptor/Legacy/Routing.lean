/-
# Which requests are redirected (`app/main.py`)

The catch-all route of the legacy redirect stands behind the versioned router and matches
everything under `/api/`, the paths under `/api/v1/` included.  So it answers every request
that the router does not serve, also one for an unknown path under `/api/v1/` or with a
method that a known path does not take, and the location that it sends has one more `v1/`.

The framework answers a path that no route matches, here one with a newline in it, by a
redirect to the path with or without its last slashes when some route matches that one.

A location with dot segments may lead out of `/api/`, to the metrics, the documentation or
nothing at all.  What is answered there is no legacy redirect.
-/
import ImageDescriptor.Legacy.Redirect

namespace ImageDescriptor.Legacy

open Lib

/-- What a route of the application calls. -/
inductive Handler
  | v1 (endpoint : Endpoint)
  | legacyApiRedirect (path : List UInt8)
  deriving DecidableEq, Repr

/-- A route whose handler is renamed. -/
def Route.map {η θ : Type} (f : η → θ) (route : Route η) : Route θ where
  methods := route.methods
  handler path := (route.handler path).map f

/-- The routes of the application for paths under `/api/`, in their order. -/
def appRoutes : List (Route Handler) :=
  v1Routes.map (Route.map .v1) ++ [legacyRoute.map .legacyApiRedirect]

/-- What the application answers. -/
inductive Answer
  | endpoint (endpoint : Endpoint)
  | legacyRedirect (location : List UInt8)
  | methodNotAllowed
  | slashRedirect (path : List UInt8)
  | notFound
  | elsewhere
  deriving DecidableEq, Repr

/-- The path that the framework tries when no route matches: without the slashes at its end,
or with one more. -/
def slashVariant (path : List UInt8) : List UInt8 :=
  if path.getLast? = some slash then (path.reverse.dropWhile (· = slash)).reverse
  else path ++ [slash]

/-- The application's router. -/
def answer (request : Request) : Answer :=
  match dispatch appRoutes request.method request.path with
  | some (.v1 endpoint) => .endpoint endpoint
  | some (.legacyApiRedirect path) => .legacyRedirect (legacyApiRedirect request path)
  | none =>
    -- a route has the path but not the method
    if matched appRoutes request.path then .methodNotAllowed
    else if matched appRoutes (slashVariant request.path) then
      .slashRedirect (slashVariant request.path)
    else if ascii "/api/" <+: request.path then .notFound
    -- the other routes of the application, which are not under `/api/`
    else .elsewhere

/-- A route of the versioned router serves the method and the path. -/
def served (method : Method) (path : List UInt8) : Bool := (dispatch v1Routes method path).isSome

/-- A route of the versioned router has the path. -/
def known (path : List UInt8) : Bool := matched v1Routes path

/-- The catch-all route matches the path. -/
def caught (path : List UInt8) : Bool := (legacyRoute.handler path).isSome

/-- The path is one of the versioned API. -/
def underV1 (path : List UInt8) : Bool := decide (ascii "/api/v1/" <+: path)

/-! ### The answers -/

lemma api_of_underV1 {path : List UInt8} (h : underV1 path = true) : ascii "/api/" <+: path := by
  have hv1 : ascii "/api/" <+: ascii "/api/v1/" := by decide +kernel
  exact hv1.trans (by simpa [underV1] using h)

/-- What is served is known. -/
lemma known_of_served {method : Method} {path : List UInt8} (h : served method path = true) :
    known path = true := by
  rw [served, dispatch, List.findSome?_isSome_iff] at h
  obtain ⟨route, hmem, hroute⟩ := h
  rw [known, matched, List.any_eq_true]
  refine ⟨route, hmem, ?_⟩
  split at hroute
  · exact hroute
  · cases hroute

lemma dispatch_map {η θ : Type} (f : η → θ) (routes : List (Route η)) (method : Method)
    (path : List UInt8) :
    dispatch (routes.map (Route.map f)) method path = (dispatch routes method path).map f := by
  induction routes with
  | nil => rfl
  | cons route routes ih =>
    simp only [dispatch] at ih
    simp only [dispatch, List.map_cons, List.findSome?_cons, Route.map]
    split <;> cases h : route.handler path <;> simp_all

lemma matched_map {η θ : Type} (f : η → θ) (routes : List (Route η)) (path : List UInt8) :
    matched (routes.map (Route.map f)) path = matched routes path := by
  simp [matched, List.any_map, Function.comp_def, Route.map]

/-- The versioned router comes first. -/
lemma dispatch_appRoutes (method : Method) (path : List UInt8) :
    dispatch appRoutes method path =
      ((dispatch v1Routes method path).map .v1).or
        ((legacyRoute.handler path).map .legacyApiRedirect) := by
  have hmethod : method ∈ legacyRoute.methods := by cases method <;> decide
  have hlegacy : dispatch [legacyRoute.map Handler.legacyApiRedirect] method path =
      (legacyRoute.handler path).map .legacyApiRedirect := by
    simp only [dispatch, List.findSome?_singleton, Route.map, if_pos hmethod]
  rw [← dispatch_map, ← hlegacy]
  exact List.findSome?_append

lemma matched_appRoutes (path : List UInt8) :
    matched appRoutes path = (known path || caught path) := by
  rw [known, ← matched_map Handler.v1]
  simp [matched, appRoutes, caught, Route.map]

lemma answer_of_served {request : Request} (h : served request.method request.path = true) :
    ∃ endpoint, answer request = .endpoint endpoint := by
  obtain ⟨endpoint, hendpoint⟩ := Option.isSome_iff_exists.mp h
  refine ⟨endpoint, ?_⟩
  rw [answer, dispatch_appRoutes, hendpoint]
  rfl

lemma answer_of_caught {request : Request} {path : List UInt8}
    (h : served request.method request.path = false)
    (hpath : legacyRoute.handler request.path = some path) :
    answer request = .legacyRedirect (legacyApiRedirect request path) := by
  have hnone : dispatch v1Routes request.method request.path = none := by simpa [served] using h
  rw [answer, dispatch_appRoutes, hnone, hpath]
  rfl

lemma answer_of_not_caught {request : Request} (h : served request.method request.path = false)
    (hcaught : caught request.path = false) :
    answer request =
      if known request.path then .methodNotAllowed
      else if matched appRoutes (slashVariant request.path) then
        .slashRedirect (slashVariant request.path)
      else if ascii "/api/" <+: request.path then .notFound
      else .elsewhere := by
  have hnone : dispatch v1Routes request.method request.path = none := by simpa [served] using h
  have hpath : legacyRoute.handler request.path = none := by simpa [caught] using hcaught
  rw [answer, dispatch_appRoutes, hnone, hpath, matched_appRoutes, hcaught, Bool.or_false]
  rfl

/-- Only a request that the catch-all route matches, and that the versioned router does not
serve, is answered by a legacy redirect. -/
lemma answer_eq_legacyRedirect_iff {request : Request} :
    (∃ location, answer request = .legacyRedirect location) ↔
      served request.method request.path = false ∧ caught request.path = true := by
  constructor
  · rintro ⟨location, hlocation⟩
    cases hserved : served request.method request.path with
    | true =>
      obtain ⟨endpoint, hendpoint⟩ := answer_of_served hserved
      rw [hendpoint] at hlocation
      cases hlocation
    | false =>
      refine ⟨rfl, ?_⟩
      by_contra hcaught
      rw [answer_of_not_caught hserved (by simpa using hcaught)] at hlocation
      split at hlocation
      · cases hlocation
      · split at hlocation
        · cases hlocation
        · split at hlocation <;> cases hlocation
  · rintro ⟨hserved, hcaught⟩
    obtain ⟨path, hpath⟩ := Option.isSome_iff_exists.mp hcaught
    exact ⟨_, answer_of_caught hserved hpath⟩

/-! ### Following the answers -/

/-- What following the answers should give: at most one legacy redirect, none for a path under
`/api/v1/`, where an unknown path is not found and a known path refuses a wrong method. -/
structure Settles (request : Request) : Prop where
  once : ∀ location, answer request = .legacyRedirect location →
    ∀ location', answer (follow request.method location) ≠ .legacyRedirect location'
  v1_not_redirected : underV1 request.path = true →
    ∀ location, answer request ≠ .legacyRedirect location
  v1_unknown : underV1 request.path = true → known request.path = false →
    answer request = .notFound
  v1_wrong_method : underV1 request.path = true → known request.path = true →
    served request.method request.path = false → answer request = .methodNotAllowed

/-- The path to which the redirect of a path parameter leads. -/
def redirectTarget (path : List UInt8) : List UInt8 :=
  unquote (removeDotSegments (ascii "/api/v1/" ++ pathOf path))

example : redirectTarget (ascii "descriptions/..") = ascii "/api/v1/" := by decide +kernel

/-- The paths that settle.  Either the versioned router serves the request; or the catch-all
route matches the path, which is not under `/api/v1/`, and the path to which it redirects is
served or is one that it does not match; or the catch-all route does not match the path, and
under `/api/v1/` the path is known or the framework has no variant of it to offer. -/
def MeetsRouter (method : Method) (path : List UInt8) : Prop :=
  served method path = true ∨
  (∃ rest, legacyRoute.handler path = some rest ∧ underV1 path = false ∧
    (served method (redirectTarget rest) = true ∨ caught (redirectTarget rest) = false)) ∨
  (caught path = false ∧ (underV1 path = true →
    known path = true ∨ matched appRoutes (slashVariant path) = false))

lemma Settles.meetsRouter {request : Request} (h : Settles request) :
    MeetsRouter request.method request.path := by
  cases hserved : served request.method request.path with
  | true => exact .inl hserved
  | false =>
    cases hpath : legacyRoute.handler request.path with
    | some rest =>
      have hanswer := answer_of_caught hserved hpath
      refine .inr (.inl ⟨rest, hpath, ?_, ?_⟩)
      · by_contra hv1
        exact h.v1_not_redirected (by simpa using hv1) _ hanswer
      · -- the location is not redirected, so the router serves it or the catch-all misses it
        by_contra htarget
        rw [not_or, Bool.not_eq_true, Bool.not_eq_false] at htarget
        have hfollow := follow_path_legacyApiRedirect request.method request rest
        have hagain : ∃ location',
            answer (follow request.method (legacyApiRedirect request rest)) =
              .legacyRedirect location' := by
          rw [answer_eq_legacyRedirect_iff, hfollow]
          exact htarget
        obtain ⟨location', hlocation'⟩ := hagain
        exact h.once _ hanswer location' hlocation'
    | none =>
      have hcaught : caught request.path = false := by simp [caught, hpath]
      refine .inr (.inr ⟨hcaught, ?_⟩)
      intro hv1
      cases hknown : known request.path with
      | true => exact .inl rfl
      | false =>
        right
        have hanswer := h.v1_unknown hv1 hknown
        rw [answer_of_not_caught hserved hcaught, hknown] at hanswer
        by_contra hvariant
        rw [if_neg (by decide), if_pos (by simpa using hvariant)] at hanswer
        cases hanswer

lemma settles_of_served {request : Request} (h : served request.method request.path = true) :
    Settles request := by
  obtain ⟨endpoint, hendpoint⟩ := answer_of_served h
  have hnone : ∀ location, answer request ≠ .legacyRedirect location := by
    intro location hlocation
    rw [hendpoint] at hlocation
    cases hlocation
  refine ⟨?_, fun _ => hnone, ?_, ?_⟩
  · intro location hlocation
    exact absurd hlocation (hnone location)
  · intro _ hunknown
    rw [known_of_served h] at hunknown
    cases hunknown
  · intro _ _ hnot
    rw [h] at hnot
    cases hnot

lemma settles_of_target {request : Request} {rest : List UInt8}
    (hserved : served request.method request.path = false)
    (hpath : legacyRoute.handler request.path = some rest) (hv1 : underV1 request.path = false)
    (htarget : served request.method (redirectTarget rest) = true ∨
      caught (redirectTarget rest) = false) : Settles request := by
  have hanswer := answer_of_caught hserved hpath
  have hfollow := follow_path_legacyApiRedirect request.method request rest
  refine ⟨?_, ?_, ?_, ?_⟩
  · intro location hlocation location' hlocation'
    obtain rfl : legacyApiRedirect request rest = location := by
      rw [hanswer] at hlocation
      exact Answer.legacyRedirect.inj hlocation
    obtain ⟨hnot, hcaught⟩ := answer_eq_legacyRedirect_iff.mp ⟨location', hlocation'⟩
    rw [hfollow] at hnot hcaught
    rcases htarget with htarget | htarget
    · exact absurd (hnot.symm.trans htarget) (by decide)
    · exact absurd (htarget.symm.trans hcaught) (by decide)
  all_goals
    intro h
    rw [hv1] at h
    cases h

lemma settles_of_not_caught {request : Request}
    (hserved : served request.method request.path = false) (hcaught : caught request.path = false)
    (hv1 : underV1 request.path = true →
      known request.path = true ∨ matched appRoutes (slashVariant request.path) = false) :
    Settles request := by
  have hanswer := answer_of_not_caught hserved hcaught
  have hnone : ∀ location, answer request ≠ .legacyRedirect location := by
    intro location hlocation
    obtain ⟨_, hyes⟩ := answer_eq_legacyRedirect_iff.mp ⟨location, hlocation⟩
    rw [hcaught] at hyes
    cases hyes
  refine ⟨?_, fun _ => hnone, ?_, ?_⟩
  · intro location hlocation
    exact absurd hlocation (hnone location)
  · intro h hunknown
    have hvariant : matched appRoutes (slashVariant request.path) = false := by
      rcases hv1 h with hknown | hvariant
      · rw [hunknown] at hknown
        cases hknown
      · exact hvariant
    rw [hanswer, hunknown, hvariant, if_pos (api_of_underV1 h)]
    rfl
  · intro _ hknown _
    rw [hanswer, hknown]
    rfl

/-- A path that comes out of the redirect as it was, and has no dot segment, is requested as it
was, under `/api/v1/`. -/
lemma follow_path_of_noDotSegments (method : Method) (request : Request) {path : List UInt8}
    (hpath : RoundTrips path) (hdots : NoDotSegments (slash :: path)) :
    (follow method (legacyApiRedirect request path)).path = ascii "/api/v1/" ++ path := by
  have hsplit : ascii "/api/v1/" ++ path = ascii "/api/v1" ++ slash :: path := by
    have hv1 : ascii "/api/v1/" = ascii "/api/v1" ++ [slash] := by decide +kernel
    rw [hv1, List.append_assoc]
    rfl
  have hnone : NoDotSegments (ascii "/api/v1/" ++ path) := by
    rw [hsplit, noDotSegments_append (by decide +kernel)]
    exact ⟨by decide +kernel, hdots⟩
  rw [follow_path_legacyApiRedirect, (pathOf_eq_self_iff path).mpr hpath.1,
    removeDotSegments_eq_self hnone, unquote_append (by decide +kernel),
    (unquote_eq_self_iff path).mpr hpath.2]

/-- **A legacy URL is answered as the URL under `/api/v1`.**  When the decoded path comes out
of the redirect as it was and has no dot segment, following the location gives what the
application answers to the URL under `/api/v1` with the same encoding and the same query. -/
theorem answer_follow_legacyLocation (method : Method) {encoded : List UInt8} {query : Query}
    (hpath : RoundTrips (unquote encoded)) (hdots : NoDotSegments (slash :: unquote encoded))
    (hquery : ∀ c ∈ query.bytes, isUriQueryByte c = true) :
    answer (follow method (legacyLocation method encoded query)) =
      answer ⟨method, unquote (ascii "/api/v1/" ++ encoded), query.bytes⟩ := by
  have hsame : follow method (legacyLocation method encoded query) =
      ⟨method, unquote (ascii "/api/v1/" ++ encoded), query.bytes⟩ := by
    refine Request.ext rfl ?_ ?_
    · rw [legacyLocation, follow_path_of_noDotSegments method _ hpath hdots, unquote_v1Url]
    · calc (follow method (legacyLocation method encoded query)).query
          = (parse method (legacyLocation method encoded query)).query := rfl
        _ = quote redirectSafe query.bytes := parse_query_legacyLocation hpath method query
        _ = query.bytes := ?_
      exact quote_eq_self fun c hc => redirectSafe_of_isUriQueryByte c (hquery c hc)
  rw [hsame]

/-- The request that a client makes after the answer to another one, if it is redirected. -/
def next (request : Request) : Request :=
  match answer request with
  | .legacyRedirect location => follow request.method location
  | _ => request

/-- The requests of a client that follows the legacy redirects. -/
def chain (request : Request) : ℕ → Request
  | 0 => request
  | n + 1 => next (chain request n)

lemma prefix_of_textRoute {method : Method} {text : String} {endpoint : Endpoint}
    {path : List UInt8} (h : ((textRoute method text endpoint).handler path).isSome = true) :
    ascii (v1Prefix ++ text) <+: path := by
  simp only [textRoute] at h
  split at h
  · rename_i hmatches
    have hpath : path = ascii (v1Prefix ++ text) ∨ path = ascii (v1Prefix ++ text) ++ [newline] := by
      simpa [matchesText] using hmatches
    rcases hpath with rfl | rfl
    · exact List.prefix_refl _
    · exact List.prefix_append _ _
  · cases h

lemma prefix_of_identifierRoute {method : Method} {text : String}
    {endpoint : List UInt8 → Endpoint} {path : List UInt8}
    (h : ((identifierRoute method text endpoint).handler path).isSome = true) :
    ascii (v1Prefix ++ text) <+: path := by
  simp only [identifierRoute, plainParameter, afterPrefix, Option.isSome_map] at h
  by_contra hno
  simp [hno] at h

/-- No route has a path under `/api/v1/v1/`: behind the prefix, each goes on with another
letter. -/
lemma known_v1_v1 (rest : List UInt8) : known (ascii "/api/v1/v1/" ++ rest) = false := by
  have hroutes : ∀ route ∈ v1Routes, ∃ text : String,
      8 < (ascii (v1Prefix ++ text)).length ∧ (ascii (v1Prefix ++ text))[8]? ≠ some 0x76 ∧
        ∀ path, (route.handler path).isSome = true → ascii (v1Prefix ++ text) <+: path := by
    intro route hmem
    simp only [v1Routes, List.mem_cons, List.not_mem_nil, or_false] at hmem
    rcases hmem with rfl | rfl | rfl | rfl | rfl | rfl | rfl | rfl | rfl | rfl | rfl | rfl | rfl
    all_goals first
      | refine ⟨_, ?_, ?_, fun _ h => prefix_of_textRoute h⟩ <;> decide +kernel
      | refine ⟨_, ?_, ?_, fun _ h => prefix_of_identifierRoute h⟩ <;> decide +kernel
  rw [known, matched, List.any_eq_false]
  intro route hmem hmatches
  obtain ⟨text, hlength, hletter, hprefix⟩ := hroutes route hmem
  obtain ⟨tail, htail⟩ := hprefix _ hmatches
  have hsame : (ascii (v1Prefix ++ text))[8]? = some 0x76 :=
    calc (ascii (v1Prefix ++ text))[8]? = (ascii (v1Prefix ++ text) ++ tail)[8]? :=
          (List.getElem?_append_left hlength).symm
      _ = (ascii "/api/v1/v1/" ++ rest)[8]? := by rw [htail]
      _ = some 0x76 := rfl
  exact hletter hsame

/-- A path under `/api/v1/` whose rest the redirect hands on as it is. -/
structure Looping (request : Request) (rest : List UInt8) : Prop where
  path : request.path = ascii "/api/v1/" ++ rest
  roundTrips : RoundTrips rest
  noDots : NoDotSegments (slash :: rest)
  line : newline ∉ rest
  unserved : served request.method request.path = false

lemma roundTrips_v1 {rest : List UInt8} (h : RoundTrips rest) :
    RoundTrips (ascii "v1/" ++ rest) := by
  have hplain : percent ∉ ascii "v1/" := by decide +kernel
  constructor
  · have hv1 : noMark (ascii "v1/") = true := by decide +kernel
    rw [noMark, List.all_append, Bool.and_eq_true]
    exact ⟨hv1, h.1⟩
  · rw [← unquote_eq_self_iff, unquote_append hplain, (unquote_eq_self_iff rest).mpr h.2]

lemma noDotSegments_v1 {rest : List UInt8} (h : NoDotSegments (slash :: rest)) :
    NoDotSegments (slash :: (ascii "v1/" ++ rest)) := by
  have hv1 : slash :: ascii "v1/" = ascii "/v1" ++ [slash] := by decide +kernel
  have hsplit : slash :: (ascii "v1/" ++ rest) = ascii "/v1" ++ slash :: rest := by
    rw [← List.cons_append, hv1, List.append_assoc]
    rfl
  rw [hsplit, noDotSegments_append (by decide +kernel)]
  exact ⟨by decide +kernel, h⟩

/-- Such a request is redirected to another one of the kind, with `v1/` once more. -/
lemma Looping.redirected {request : Request} {rest : List UInt8} (h : Looping request rest) :
    (∃ location, answer request = .legacyRedirect location) ∧
      Looping (next request) (ascii "v1/" ++ rest) := by
  have hsplit : ascii "/api/v1/" = ascii "/api/" ++ ascii "v1/" := by decide +kernel
  have hline : newline ∉ ascii "v1/" ++ rest := by
    intro hmem
    rcases List.mem_append.mp hmem with hmem | hmem
    · exact absurd hmem (by decide +kernel)
    · exact h.line hmem
  have hpath : legacyRoute.handler request.path = some (ascii "v1/" ++ rest) := by
    rw [h.path, hsplit, List.append_assoc]
    exact pathParameter_append (ascii "/api/") hline
  have hanswer := answer_of_caught h.unserved hpath
  have hnext : next request =
      follow request.method (legacyApiRedirect request (ascii "v1/" ++ rest)) := by
    simp only [next, hanswer]
  have htarget : (next request).path = ascii "/api/v1/" ++ (ascii "v1/" ++ rest) := by
    rw [hnext, follow_path_of_noDotSegments _ _ (roundTrips_v1 h.roundTrips)
      (noDotSegments_v1 h.noDots)]
  refine ⟨⟨_, hanswer⟩, htarget, roundTrips_v1 h.roundTrips, noDotSegments_v1 h.noDots, hline, ?_⟩
  -- the new path begins with `/api/v1/v1/`, which no route has
  by_contra hserved
  have hv1 : ascii "/api/v1/" ++ ascii "v1/" = ascii "/api/v1/v1/" := by decide +kernel
  have hknown := known_of_served (by simpa using hserved)
  rw [htarget, ← List.append_assoc, hv1, known_v1_v1] at hknown
  cases hknown

/-- **An unknown path under `/api/v1/` is redirected without end.**  When a path under
`/api/v1/` that is not served for the method has no mark, no escape, no dot segment and no
newline, every request of a client that follows the redirects is redirected again. -/
theorem chain_redirected (method : Method) {rest : List UInt8} (query : List UInt8)
    (hrest : RoundTrips rest) (hdots : NoDotSegments (slash :: rest)) (hline : newline ∉ rest)
    (hserved : served method (ascii "/api/v1/" ++ rest) = false) (n : ℕ) :
    ∃ location, answer (chain ⟨method, ascii "/api/v1/" ++ rest, query⟩ n) =
      .legacyRedirect location := by
  have hloop : ∀ n, ∃ rest',
      Looping (chain ⟨method, ascii "/api/v1/" ++ rest, query⟩ n) rest' := by
    intro n
    induction n with
    | zero => exact ⟨rest, rfl, hrest, hdots, hline, hserved⟩
    | succ n ih =>
      obtain ⟨rest', h⟩ := ih
      exact ⟨_, h.redirected.2⟩
  obtain ⟨rest', h⟩ := hloop n
  exact h.redirected.1

end ImageDescriptor.Legacy
