/-
# The routes of the application (`app/api/routes.py`, `app/main.py`)

A route has a set of methods and a pattern for the path.  Paths are the percent-decoded
paths of the requests, as UTF-8 bytes.  The framework turns a pattern into an anchored
regular expression, whose end also matches before a newline that ends the path; a path
parameter does not match a newline, a plain parameter does not match a slash.
-/
import Mathlib.Data.List.Basic
import Mathlib.Data.List.Infix
import ImageDescriptor.Lib.DotSegments

namespace ImageDescriptor.Legacy

open Lib

/-- The methods of the routes. -/
inductive Method
  | get
  | post
  | put
  | delete
  | patch
  deriving DecidableEq, Repr

/-- A request: the path percent-decoded, the query as it was sent. -/
@[ext]
structure Request where
  method : Method
  path : List UInt8
  query : List UInt8
  deriving DecidableEq, Repr

/-- The bytes of a text in ASCII. -/
def ascii (s : String) : List UInt8 := s.toList.map fun c => c.toNat.toUInt8

def newline : UInt8 := 0x0a

/-- A pattern without parameters. -/
def matchesText (text path : List UInt8) : Bool := path = text || path = text ++ [newline]

/-- The rest of a path behind a literal beginning. -/
def afterPrefix (text path : List UInt8) : Option (List UInt8) :=
  if text <+: path then some (path.drop text.length) else none

/-- The parameter of a pattern that ends in a plain parameter, `[^/]+`. -/
def plainParameter (text path : List UInt8) : Option (List UInt8) :=
  match afterPrefix text path with
  | some rest => if rest = [] ∨ slash ∈ rest then none else some rest
  | none => none

/-- A text without the newline that ends it. -/
def dropNewline (text : List UInt8) : List UInt8 :=
  if text.getLast? = some newline then text.dropLast else text

/-- The parameter of a pattern that ends in a path parameter, `.*`. -/
def pathParameter (text path : List UInt8) : Option (List UInt8) :=
  match afterPrefix text path with
  | some rest => if newline ∈ dropNewline rest then none else some (dropNewline rest)
  | none => none

/-- A route: the methods, and what it calls for the paths that its pattern matches. -/
structure Route (η : Type) where
  methods : List Method
  handler : List UInt8 → Option η

/-- The operations of the versioned router, with the identifier in the path. -/
inductive Endpoint
  | cacheStats
  | circuitBreakerStatus
  | health
  | readiness
  | liveness
  | describe
  | describeBatch
  | geocodeEndpoint
  | landcoverEndpoint
  | contextEndpoint
  | listDescriptions
  | getDescription (cogImageId : List UInt8)
  | deleteDescription (cogImageId : List UInt8)
  deriving DecidableEq, Repr

/-- The prefix under which the application includes the router. -/
def v1Prefix : String := "/api/v1"

/-- A route without parameters. -/
def textRoute (method : Method) (path : String) (endpoint : Endpoint) : Route Endpoint where
  methods := [method]
  handler p := if matchesText (ascii (v1Prefix ++ path)) p then some endpoint else none

/-- A route with an identifier at its end. -/
def identifierRoute (method : Method) (path : String) (endpoint : List UInt8 → Endpoint) :
    Route Endpoint where
  methods := [method]
  handler p := (plainParameter (ascii (v1Prefix ++ path)) p).map endpoint

/-- The versioned router, in the order in which its routes are declared. -/
def v1Routes : List (Route Endpoint) :=
  [textRoute .get "/cache/stats" .cacheStats,
    textRoute .get "/circuits" .circuitBreakerStatus,
    textRoute .get "/health" .health,
    textRoute .get "/health/ready" .readiness,
    textRoute .get "/health/live" .liveness,
    textRoute .post "/describe" .describe,
    textRoute .post "/describe/batch" .describeBatch,
    textRoute .post "/geocode" .geocodeEndpoint,
    textRoute .post "/landcover" .landcoverEndpoint,
    textRoute .post "/context" .contextEndpoint,
    textRoute .get "/descriptions" .listDescriptions,
    identifierRoute .get "/descriptions/" .getDescription,
    identifierRoute .delete "/descriptions/" .deleteDescription]

/-- The first route that takes the method and matches the path. -/
def dispatch {η : Type} (routes : List (Route η)) (method : Method) (path : List UInt8) :
    Option η :=
  routes.findSome? fun route => if method ∈ route.methods then route.handler path else none

example : dispatch v1Routes .get (ascii "/api/v1/health/ready") = some .readiness := by
  decide +kernel

/-- Some route matches the path, whatever its methods are. -/
def matched {η : Type} (routes : List (Route η)) (path : List UInt8) : Bool :=
  routes.any fun route => (route.handler path).isSome

/-- The identifier that a request for a description under `/api/v1` carries. -/
def cogImageId (path : List UInt8) : Option (List UInt8) :=
  plainParameter (ascii (v1Prefix ++ "/descriptions/")) path

lemma afterPrefix_append (text rest : List UInt8) :
    afterPrefix text (text ++ rest) = some rest := by
  rw [afterPrefix, if_pos (List.prefix_append text rest), List.drop_left]

/-- A path without a newline is matched whole. -/
lemma pathParameter_append (text : List UInt8) {rest : List UInt8} (h : newline ∉ rest) :
    pathParameter text (text ++ rest) = some rest := by
  have hlast : ¬ rest.getLast? = some newline := fun hl => h (List.mem_of_getLast? hl)
  have hdrop : dropNewline rest = rest := by rw [dropNewline, if_neg hlast]
  simp only [pathParameter, afterPrefix_append, hdrop, if_neg h]

end ImageDescriptor.Legacy
