/-
# The context

`research_context` asks DuckDuckGo for events in a region and a month.  It catches the
errors of the fetch and returns a context without events, which it also writes into the
cache.
-/
import ImageDescriptor.Modules.Lookup

namespace ImageDescriptor.ContextModule

/-- The month of the key and of the query. -/
def month (capturedAt : Option String) : String :=
  match capturedAt with
  | some s =>
    if s = "" then "unknown"
    else if 7 ≤ s.toList.length then String.ofList (s.toList.take 7)
    else s
  | none => "unknown"

/-- `" ".join(filter(None, [region, city])) or place_name`. -/
def searchName (placeName region : String) (city : Option String) : String :=
  let joined := " ".intercalate ([region, city.getD ""].filter fun s => decide (s ≠ ""))
  if joined = "" then placeName else joined

def cacheKey (searchName month : String) : String := "context:" ++ searchName ++ ":" ++ month

/-- `v[:5]` of the related topics, as the list over which the loop runs. -/
def firstTopics : Json → Except Exc (List Json)
  | .arr xs => .ok (xs.take 5)
  | .str s => .ok ((s.toList.take 5).map fun c => .str (String.ofList [c]))
  | _ => .error ⟨.typeError, "object is not subscriptable"⟩

/-- `Event(title=text[:200], date=month, source_url=url, relevance="low")`. -/
def buildEvent (month : String) (text url : Json) : Except Exc Event := do
  let title ← match text with
    | .str s => Except.ok (Json.str (String.ofList (s.toList.take 200)))
    | .arr xs => .ok (.arr (xs.take 200))
    | _ => .error ⟨.typeError, "object is not subscriptable"⟩
  Event.ofJson (.obj [("title", title), ("date", .str month), ("source_url", url),
    ("relevance", .str "low")])

/-- The event of one topic, if it has a text and a URL. -/
def topicEvent (month : String) (topic : Json) : Except Exc (Option Event) := do
  let text ← topic.get "Text" (.str "")
  let url ← topic.get "FirstURL" (.str "")
  if text.truthy && url.truthy then (buildEvent month text url).map some else pure none

/-- The body of the `try` statement after the fetch. -/
def parse (month : String) (data : Json) : Except Exc (List Event) := do
  let topics ← firstTopics (← data.get "RelatedTopics" (.arr []))
  let events ← topics.mapM (topicEvent month)
  return events.reduceOption

/-- `except (json.JSONDecodeError, httpx.HTTPError, TimeoutError)`. -/
def swallows (e : Exc) : Bool :=
  e.isinstance .jsonDecodeError || e.isinstance .httpError || e.isinstance .timeoutError

/-- The events that the `try` statement leaves behind.  The caught exceptions are raised by
the fetch and by `resp.json()`, before any event is appended. -/
def collect (month : String) (fetched : Fetched) : Except Exc (List Event) :=
  match fetched with
  | .error e => if swallows e then .ok [] else .error e
  | .ok (.error e) => if swallows e then .ok [] else .error e
  | .ok (.ok data) => parse month data

def summary (searchName month : String) (events : List Event) : String :=
  if events = [] then searchName ++ " " ++ month ++ "에 대한 관련 정보를 찾지 못했습니다."
  else searchName ++ " " ++ month ++ " 관련 정보 " ++ toString events.length ++ "건 발견."

/-- The call after its fetch. -/
def afterFetch (searchName month : String) (fetched : Fetched) : Rest Context :=
  match collect month fetched with
  | .error e => ⟨none, .error e⟩
  | .ok events =>
    let context : Context := ⟨events, summary searchName month events⟩
    ⟨some ⟨cacheKey searchName month, context.modelDump, { days := some 7 }⟩, .ok context⟩

/-- `research_context`. -/
def researchContext (placeName : String) (capturedAt : Option String) (region : String)
    (city : Option String) (cached : Except Exc Json) (fetched : Fetched)
    (written : Except Exc Unit) : ModuleRun Context :=
  runModule (fromCache Context.ofFields)
    (afterFetch (searchName placeName region city) (month capturedAt)) cached fetched written

/-- A call that writes an entry writes the context that it returns. -/
lemma afterFetch_entry {searchName month : String} {fetched : Fetched} {entry : CacheEntry}
    (h : (afterFetch searchName month fetched).entry = some entry) :
    ∃ context, (afterFetch searchName month fetched).result = .ok context ∧
      entry = ⟨cacheKey searchName month, context.modelDump, { days := some 7 }⟩ := by
  rcases hcollect : collect month fetched with e | events
  · simp [afterFetch, hcollect] at h
  · simp only [afterFetch, hcollect, Option.some.injEq] at h ⊢
    exact ⟨_, rfl, h.symm⟩

end ImageDescriptor.ContextModule
