/-
# The legacy redirect (`app/main.py`)

`legacy_api_redirect` answers a request for `/api/<path>` by a redirect to `/api/v1/<path>`.
The framework hands it the decoded path, and it writes that path into the location as it is.
`RedirectResponse` escapes what a URL cannot carry but keeps `%`, `?` and `#`, so a client
that parses and decodes the location cuts the path at its marks and decodes it once more.  A
client that follows it also removes the dot segments of the path, before it decodes.
-/
import ImageDescriptor.Legacy.Routes

namespace ImageDescriptor.Legacy

open Lib

/-- The bytes that `urlsplit` removes from a URL. -/
def isRemovedByUrlsplit (c : UInt8) : Bool := c = 0x09 || c = 0x0a || c = 0x0d

/-- `request.url.query`: the request's URL is put together from the decoded path and the
query, and split again. -/
def requestUrlQuery (path query : List UInt8) : List UInt8 :=
  queryOf ((path ++ withMark query).filter fun c => !isRemovedByUrlsplit c)

/-- The bytes that `RedirectResponse` does not escape: the letters, digits and `_.-~` of
`quote`, and its own set. -/
def redirectSafe (c : UInt8) : Bool :=
  (0x30 ≤ c && c ≤ 0x39) || (0x41 ≤ c && c ≤ 0x5a) || (0x61 ≤ c && c ≤ 0x7a) ||
    c ∈ ascii "_.-~" || c ∈ ascii ":/%#?=@[]!$&'()*+,;"

/-- The location that `RedirectResponse` sends for a URL. -/
def redirectResponse (url : List UInt8) : List UInt8 := quote redirectSafe url

/-- `legacy_api_redirect`, with the request whose URL it reads and the path parameter. -/
def legacyApiRedirect (request : Request) (path : List UInt8) : List UInt8 :=
  let queryString := requestUrlQuery request.path request.query
  -- the path has been decoded once and is not encoded again
  let newUrl := ascii "/api/v1/" ++ path
  redirectResponse (newUrl ++ withMark queryString)

/-- The route of the redirect, with the path that it hands over. -/
def legacyRoute : Route (List UInt8) where
  methods := [.get, .post, .put, .delete, .patch]
  handler := pathParameter (ascii "/api/")

/-- The request that a location denotes when it is parsed and decoded.  It says nothing of the
method. -/
def parse (method : Method) (location : List UInt8) : Request :=
  ⟨method, unquote (pathOf location), queryOf location⟩

/-- The request by which a client follows a location: the dot segments of the path are removed
before it is requested. -/
def follow (method : Method) (location : List UInt8) : Request :=
  ⟨method, unquote (removeDotSegments (pathOf location)), queryOf location⟩

/-! ### The parts of the location -/

lemma keepsEscapes_redirectSafe : KeepsEscapes redirectSafe where
  percent := by decide +kernel
  digit c := by
    have hall : ∀ i : Fin 256, (hexValue (UInt8.ofFin i)).isSome →
        redirectSafe (UInt8.ofFin i) = true := by decide +kernel
    exact hall c.toFin

lemma keepsMarks_redirectSafe : KeepsMarks redirectSafe where
  query := by decide +kernel
  fragment := by decide +kernel

lemma noMark_v1 : noMark (ascii "/api/v1/") = true := by decide +kernel

lemma keepsSegments_redirectSafe : KeepsSegments redirectSafe where
  slash := by decide +kernel
  dot := by decide +kernel

lemma v1_eq : ascii "/api/v1/" = slash :: ascii "api/v1/" := by decide +kernel

lemma pathOf_legacyApiRedirect (request : Request) (path : List UInt8) :
    pathOf (legacyApiRedirect request path) =
      quote redirectSafe (ascii "/api/v1/" ++ pathOf path) := by
  rw [legacyApiRedirect, redirectResponse, pathOf_quote keepsMarks_redirectSafe,
    pathOf_append_withMark, pathOf_append noMark_v1]

/-- **What the location denotes.**  The path is cut at its first mark and decoded again. -/
theorem parse_path_legacyApiRedirect (method : Method) (request : Request) (path : List UInt8) :
    (parse method (legacyApiRedirect request path)).path =
      ascii "/api/v1/" ++ unquote (pathOf path) := by
  calc unquote (pathOf (legacyApiRedirect request path))
      = unquote (ascii "/api/v1/" ++ pathOf path) := by
        rw [pathOf_legacyApiRedirect, unquote_quote keepsEscapes_redirectSafe]
    _ = ascii "/api/v1/" ++ unquote (pathOf path) := unquote_append (by decide +kernel) _

/-- **Where the location leads.**  The dot segments are removed before the path is decoded. -/
theorem follow_path_legacyApiRedirect (method : Method) (request : Request) (path : List UInt8) :
    (follow method (legacyApiRedirect request path)).path =
      unquote (removeDotSegments (ascii "/api/v1/" ++ pathOf path)) := by
  calc unquote (removeDotSegments (pathOf (legacyApiRedirect request path)))
      = unquote (removeDotSegments (quote redirectSafe (ascii "/api/v1/" ++ pathOf path))) := by
        rw [pathOf_legacyApiRedirect]
    _ = unquote (quote redirectSafe (removeDotSegments (ascii "/api/v1/" ++ pathOf path))) := by
        rw [v1_eq, List.cons_append, removeDotSegments_quote keepsSegments_redirectSafe]
    _ = unquote (removeDotSegments (ascii "/api/v1/" ++ pathOf path)) :=
        unquote_quote keepsEscapes_redirectSafe _

/-- A decoded path that comes out of the redirect as it was: it has neither `?` nor `#`, and
nothing in it looks like an escape. -/
def RoundTrips (path : List UInt8) : Prop := noMark path = true ∧ hasEscape path = false

instance (path : List UInt8) : Decidable (RoundTrips path) :=
  inferInstanceAs (Decidable (_ ∧ _))

lemma unquote_pathOf_eq_self_iff (path : List UInt8) :
    unquote (pathOf path) = path ↔ RoundTrips path := by
  rw [RoundTrips, ← pathOf_eq_self_iff, ← unquote_eq_self_iff]
  constructor
  · intro heq
    -- neither of the two steps lengthens the path, so neither shortens it
    have hlength : path.length ≤ (pathOf path).length :=
      calc path.length = (unquote (pathOf path)).length := by rw [heq]
        _ ≤ (pathOf path).length := length_unquote_le _
    have hwhole : pathOf path = path :=
      (List.takeWhile_sublist _).eq_of_length_le hlength
    exact ⟨hwhole, by rw [hwhole] at heq; exact heq⟩
  · rintro ⟨hmark, hescape⟩
    rw [hmark, hescape]

/-! ### The query -/

/-- A byte that a query has in a request: visible, and not the mark of a fragment. -/
def isQueryByte (c : UInt8) : Bool := 0x21 ≤ c && c ≤ 0x7e && c != fragmentMark

/-- A query as it stands in a request target, behind the mark. -/
structure Query where
  bytes : List UInt8
  legal : ∀ c ∈ bytes, isQueryByte c = true

/-- The bytes that the grammar of URIs has for queries: letters and digits, `-._~`, the
escapes, `!$&'()*+,;=` and `:@/?`. -/
def isUriQueryByte (c : UInt8) : Bool :=
  (0x30 ≤ c && c ≤ 0x39) || (0x41 ≤ c && c ≤ 0x5a) || (0x61 ≤ c && c ≤ 0x7a) ||
    c ∈ ascii "-._~%!$&'()*+,;=:@/?"

lemma redirectSafe_of_isUriQueryByte : ∀ c, isUriQueryByte c = true → redirectSafe c = true := by
  have hall : ∀ i : Fin 256, isUriQueryByte (UInt8.ofFin i) = true →
      redirectSafe (UInt8.ofFin i) = true := by decide +kernel
  exact fun c => hall c.toFin

lemma Query.fragmentMark_not_mem (query : Query) : fragmentMark ∉ query.bytes := by
  intro hmem
  exact absurd (query.legal _ hmem) (by decide)

/-- The bytes of a query are not removed when the URL is split. -/
lemma Query.not_removed (query : Query) :
    ∀ c ∈ query.bytes, isRemovedByUrlsplit c = false := by
  have hall : ∀ i : Fin 256, isQueryByte (UInt8.ofFin i) = true →
      isRemovedByUrlsplit (UInt8.ofFin i) = false := by decide +kernel
  exact fun c hc => hall c.toFin (query.legal c hc)

/-- For a path without marks the split of the request's URL finds the query. -/
lemma requestUrlQuery_of_noMark {path : List UInt8} (hpath : noMark path = true) (query : Query) :
    requestUrlQuery path query.bytes = query.bytes := by
  have hmark : (withMark query.bytes).filter (fun c => !isRemovedByUrlsplit c) =
      withMark query.bytes := by
    rw [List.filter_eq_self]
    intro c hc
    rw [withMark] at hc
    split at hc
    · cases hc
    · rcases List.mem_cons.mp hc with rfl | hc
      · decide
      · simp [query.not_removed c hc]
  have hfiltered : noMark (path.filter fun c => !isRemovedByUrlsplit c) = true := by
    rw [noMark, List.all_eq_true] at hpath ⊢
    exact fun c hc => hpath c (List.mem_filter.mp hc).1
  rw [requestUrlQuery, List.filter_append, hmark]
  exact queryOf_append_withMark hfiltered query.fragmentMark_not_mem

lemma queryOf_legacyApiRedirect {request : Request} {path : List UInt8} {query : Query}
    (hpath : noMark path = true) (hrequest : noMark request.path = true)
    (hquery : request.query = query.bytes) :
    queryOf (legacyApiRedirect request path) = quote redirectSafe query.bytes := by
  have hurl : noMark (ascii "/api/v1/" ++ path) = true := by
    rw [noMark, List.all_append, Bool.and_eq_true]
    exact ⟨noMark_v1, hpath⟩
  rw [legacyApiRedirect, redirectResponse, queryOf_quote keepsMarks_redirectSafe, hquery,
    requestUrlQuery_of_noMark hrequest query,
    queryOf_append_withMark hurl query.fragmentMark_not_mem]

/-! ### What the location denotes -/

/-- The request that reaches the application for a legacy URL with an encoded path. -/
def legacyRequest (method : Method) (encoded : List UInt8) (query : Query) : Request :=
  ⟨method, ascii "/api/" ++ unquote encoded, query.bytes⟩

/-- The location for a legacy URL. -/
def legacyLocation (method : Method) (encoded : List UInt8) (query : Query) : List UInt8 :=
  legacyApiRedirect (legacyRequest method encoded query) (unquote encoded)

/-- The location denotes the path `/api/v1/` followed by the decoded path of the legacy URL
and the query of that URL, which it also carries as it was sent when the query is one of the
grammar; and a legacy URL of a description leads to the identifier to which the URL under
`/api/v1` with that encoding leads. -/
structure Denotes (method : Method) (encoded : List UInt8) (query : Query) : Prop where
  path_eq : (parse method (legacyLocation method encoded query)).path =
    ascii "/api/v1/" ++ unquote encoded
  query_eq : unquote (parse method (legacyLocation method encoded query)).query =
    unquote query.bytes
  query_verbatim : (∀ c ∈ query.bytes, isUriQueryByte c = true) →
    (parse method (legacyLocation method encoded query)).query = query.bytes
  identifier_eq : ∀ id, encoded = ascii "descriptions/" ++ id →
    cogImageId (parse method (legacyLocation method encoded query)).path =
      cogImageId (unquote (ascii "/api/v1/descriptions/" ++ id))

lemma parse_path_legacyLocation (method : Method) (encoded : List UInt8) (query : Query) :
    (parse method (legacyLocation method encoded query)).path =
      ascii "/api/v1/" ++ unquote (pathOf (unquote encoded)) :=
  parse_path_legacyApiRedirect method _ _

lemma parse_query_legacyLocation {encoded : List UInt8} (h : RoundTrips (unquote encoded))
    (method : Method) (query : Query) :
    (parse method (legacyLocation method encoded query)).query =
      quote redirectSafe query.bytes := by
  have hnoMark : noMark (ascii "/api/" ++ unquote encoded) = true := by
    rw [noMark, List.all_append, Bool.and_eq_true]
    exact ⟨by decide +kernel, h.1⟩
  have hquery : (legacyRequest method encoded query).query = query.bytes := rfl
  exact queryOf_legacyApiRedirect h.1 hnoMark hquery

/-- Decoding the URL under `/api/v1` of an encoded path. -/
lemma unquote_v1Url (encoded : List UInt8) :
    unquote (ascii "/api/v1/" ++ encoded) = ascii "/api/v1/" ++ unquote encoded :=
  unquote_append (by decide +kernel) encoded

/-- **The location denotes what it should exactly when the decoded path has neither `?` nor
`#` nor anything that looks like an escape.** -/
theorem denotes_iff_roundTrips (method : Method) (encoded : List UInt8) (query : Query) :
    Denotes method encoded query ↔ RoundTrips (unquote encoded) := by
  have hpath := parse_path_legacyLocation method encoded query
  constructor
  · intro h
    have heq := h.path_eq
    rw [hpath] at heq
    exact (unquote_pathOf_eq_self_iff _).mp (List.append_cancel_left heq)
  · intro h
    have hquery := parse_query_legacyLocation h method query
    rw [(unquote_pathOf_eq_self_iff _).mpr h] at hpath
    refine ⟨hpath, ?_, ?_, ?_⟩
    · rw [hquery, unquote_quote keepsEscapes_redirectSafe]
    · intro huri
      rw [hquery]
      exact quote_eq_self fun c hc => redirectSafe_of_isUriQueryByte c (huri c hc)
    · intro id hid
      have hsplit : ascii "/api/v1/descriptions/" = ascii "/api/v1/" ++ ascii "descriptions/" := by
        decide +kernel
      rw [hpath, hid, hsplit, List.append_assoc, unquote_v1Url]

/-- The identifier `a%2Fb`, whose percent sign a client has to escape, loses its own escape:
the legacy URL deletes another description or none. -/
theorem escaped_identifier_is_decoded_twice :
    ¬ Denotes .delete (ascii "descriptions/a%252Fb") ⟨[], by simp⟩ := by
  intro h
  have hfalse : ¬ (parse .delete
      (legacyLocation .delete (ascii "descriptions/a%252Fb") ⟨[], by simp⟩)).path =
        ascii "/api/v1/" ++ unquote (ascii "descriptions/a%252Fb") := by decide +kernel
  exact hfalse h.path_eq

end ImageDescriptor.Legacy
