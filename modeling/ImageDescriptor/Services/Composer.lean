/-
# The composition of a description

`compose_description` runs the five modules in two phases, each call behind the breaker of
its service.  Many compositions run at the same time and share the breakers.  A call is cut
at its two awaits: it is created, it asks its breaker, and it ends with what its coroutine
returns or raises; or its request times out, which cancels the calls that have not ended.
Beside the state of the program, the process records what the breakers are meant to follow:
how many upstream calls of a service have failed in a row, and which records a call made.
-/
import ImageDescriptor.Lib.Run
import ImageDescriptor.Modules.Context
import ImageDescriptor.Modules.Describer
import ImageDescriptor.Modules.Geocoder
import ImageDescriptor.Modules.Landcover
import ImageDescriptor.Modules.Mission
import ImageDescriptor.Utils.CircuitBreaker

namespace ImageDescriptor.Composer

open Lib

/-- The keys of `_breakers`. -/
inductive Service
  | geocoder
  | landcover
  | describer
  | context
  | mission
deriving DecidableEq, Repr

namespace Service

def name : Service → String
  | geocoder => "geocoder"
  | landcover => "landcover"
  | describer => "describer"
  | context => "context"
  | mission => "mission"

/-- What the coroutine of a service returns. -/
def Result : Service → Type
  | geocoder => Location
  | landcover => LandCover
  | describer => Json × Bool
  | context => Context
  | mission => Option Mission

/-- The services of the first phase. -/
def inPhase1 : Service → Bool
  | geocoder | landcover | mission => true
  | describer | context => false

end Service

/-- How the calls end that a module makes, when it makes them. -/
structure Answers where
  cached : Except Exc Json
  fetched : Fetched
  describer : Describer.Answers
  written : Except Exc Unit

/-- The conversions that are left to the libraries: those of pydantic, and `repr` of a
`float`. -/
structure Runtime where
  lax : LaxMode
  reprFloat : ℚ → String

/-- Where a call of `_safe_call` stands.  `ended none` is the end of a call whose coroutine
has raised. -/
inductive Task (α : Type)
  | notCreated
  | created
  | running
  | shortCircuited
  | ended (result : Option α)
  | cancelled (started : Bool)

namespace Task

variable {α : Type}

/-- The value of `_safe_call` when it has returned. -/
def value : Task α → Option (Option α)
  | shortCircuited => some none
  | ended result => some result
  | _ => none

/-- The task after the tasks of the second phase have been created. -/
def create : Task α → Task α
  | notCreated => created
  | t => t

/-- The task after its cancellation, which a task that has ended does not notice. -/
def cancel : Task α → Task α
  | created => cancelled false
  | running => cancelled true
  | t => t

end Task

/-- How far a composition has got. -/
inductive Stage
  | phase1
  | phase2
  | returned (r : Except Exc DescribeResponse)
  | cancelled

/-- A run of `compose_description`; `limited` tells whether it runs in `apply_timeout`. -/
structure Composition where
  request : DescribeRequest
  startedAt : ℚ
  limited : Bool
  stage : Stage
  warnings : List Warning
  tasks : (svc : Service) → Task svc.Result

namespace Composition

/-- A composition that has created the tasks of its first phase. -/
def start (request : DescribeRequest) (now : ℚ) (limited : Bool) : Composition where
  request := request
  startedAt := now
  limited := limited
  stage := .phase1
  warnings := []
  tasks := fun svc => if svc.inPhase1 then .created else .notCreated

variable (rt : Runtime) (cfg : Settings) (c : Composition)

/-- What a service has returned, `None` as `none`. -/
def result (svc : Service) : Option svc.Result := ((c.tasks svc).value).join

def location : Option Location := c.result .geocoder

def landCover : Option LandCover := c.result .landcover

/-- `location.place_name if location else f"{lat}, {lon}"`. -/
def placeName : String :=
  match c.location with
  | some l => l.placeName
  | none => rt.reprFloat c.request.coordinates.2 ++ ", " ++ rt.reprFloat c.request.coordinates.1

def prompt : Describer.Prompt where
  placeName := c.placeName rt
  capturedAt := c.request.capturedAt
  landCoverSummary := (c.landCover.map LandCover.summary).getD "정보 없음"
  bbox := c.request.bbox

/-- The coroutine of a service, from its beginning to its end. -/
def runService (svc : Service) (answers : Answers) : ModuleRun svc.Result :=
  let lon := c.request.coordinates.1
  let lat := c.request.coordinates.2
  match svc with
  | .geocoder => Geocoder.geocode rt.lax cfg lon lat answers.cached answers.fetched answers.written
  | .landcover =>
    Landcover.getLandCover rt.lax cfg lon lat answers.cached answers.fetched answers.written
  | .mission =>
    MissionModule.getMissionMetadata rt.lax c.request.stacId answers.cached answers.fetched
      answers.written
  | .describer =>
    Describer.describeImage c.request.thumbnail (c.prompt rt) c.request.cogImageId answers.cached
      answers.describer answers.written
  | .context =>
    ContextModule.researchContext (c.placeName rt) c.request.capturedAt
      ((c.location.map Location.region).getD "") (c.location.bind Location.city) answers.cached
      answers.fetched answers.written

/-- All calls of a phase have returned. -/
def PhaseDone (phase1 : Bool) : Prop :=
  ∀ svc : Service, svc.inPhase1 = phase1 → ((c.tasks svc).value).isSome = true

/-- A value for the field `description` of the response. -/
def describedBy : Option (Json × Bool) → Except Exc (Option String × Bool)
  | none => .ok (none, false)
  | some (.null, cached) => .ok (none, cached)
  | some (.str s, cached) => .ok (some s, cached)
  | some _ => .error (validationError "description")

/-- The response that is built at the end. -/
def respond : Except Exc DescribeResponse :=
  match describedBy (c.result .describer) with
  -- a cached description that is no string is refused by the response model
  | .error e => .error e
  | .ok (description, cached) => .ok
    { description := description
      location := c.location
      landCover := c.landCover
      context := c.result .context
      mission := (show Option (Option Mission) from c.result .mission).join
      warnings := c.warnings
      cached := cached }

def setTask (svc : Service) (t : Task svc.Result) : Composition :=
  { c with tasks := Function.update c.tasks svc t }

def warn (svc : Service) (error : String) : Composition :=
  { c with warnings := c.warnings ++ [⟨svc.name, error⟩] }

instance (phase1 : Bool) : Decidable (c.PhaseDone phase1) :=
  decidable_of_iff
    (∀ svc ∈ [Service.geocoder, .landcover, .describer, .context, .mission],
      svc.inPhase1 = phase1 → ((c.tasks svc).value).isSome = true)
    ⟨fun h svc => h svc (by cases svc <;> decide), fun h svc _ => h svc⟩

end Composition

/-- What a call records at its breaker. -/
inductive Verdict
  | success
  | failure
deriving DecidableEq, Repr

/-- What a breaker is meant to follow: the upstream calls of the service that have failed
since one succeeded, the time of the last failure that made them at least
`failure_threshold`, and whether the breaker has been reset by the end of its cooldown
since the first of them. -/
structure Tally where
  streak : ℕ := 0
  trippedAt : Option ℚ := none
  reset : Bool := false
deriving DecidableEq, Repr

/-- The state of the process. -/
structure Process where
  breakers : Service → CircuitBreaker
  compositions : ℕ → Option Composition
  now : ℚ
  tally : Service → Tally
  records : ℕ → Service → List Verdict

/-- `_breakers` when the module has been loaded. -/
def Process.initial : Process where
  breakers := fun _ => {}
  compositions := fun _ => none
  now := 0
  tally := fun _ => {}
  records := fun _ _ => []

/-- What happens: a composition starts, one of its calls asks its breaker, the coroutine of
a call ends, a phase ends, the request times out, or the status of the breakers is read. -/
inductive Action
  | request (id : ℕ) (request : DescribeRequest) (limited : Bool)
  | check (id : ℕ) (svc : Service)
  | ends (id : ℕ) (svc : Service) (answers : Answers)
  | gathered (id : ℕ)
  | timeout (id : ℕ)
  | status

/-- An action at a clock reading. -/
structure Event where
  time : ℚ
  action : Action

/-- The tally after `is_open`. -/
def Tally.checked (τ : Tally) (cb : CircuitBreaker) (now : ℚ) : Tally :=
  if cb.HalfOpens now then { τ with reset := τ.reset || decide (0 < τ.streak) } else τ

/-- The tally after the coroutine of a call has ended. -/
def Tally.ended (τ : Tally) (cb : CircuitBreaker) (now : ℚ) : Upstream → Tally
  | .notContacted => τ
  | .succeeded => { τ with streak := 0, reset := false }
  | .failed =>
    { τ with
      streak := τ.streak + 1
      trippedAt := if cb.failureThreshold ≤ τ.streak + 1 then some now else τ.trippedAt }

namespace Process

variable (rt : Runtime) (cfg : Settings) (s : Process)

def setBreaker (svc : Service) (cb : CircuitBreaker) (τ : Tally) : Process :=
  { s with breakers := Function.update s.breakers svc cb, tally := Function.update s.tally svc τ }

def setComposition (id : ℕ) (c : Composition) : Process :=
  { s with compositions := Function.update s.compositions id (some c) }

def record (id : ℕ) (svc : Service) (v : Verdict) : Process :=
  { s with
    records := Function.update s.records id
      (Function.update (s.records id) svc (s.records id svc ++ [v])) }

/-- `_safe_call` up to its first await: the breaker is asked. -/
def check (now : ℚ) (id : ℕ) (c : Composition) (svc : Service) : Process :=
  let asked := (s.breakers svc).isOpen now
  let s := s.setBreaker svc asked.1 ((s.tally svc).checked (s.breakers svc) now)
  if asked.2 then
    s.setComposition id ((c.setTask svc .shortCircuited).warn svc "Circuit breaker open")
  else s.setComposition id (c.setTask svc .running)

/-- `_safe_call` after its coroutine has ended. -/
def ends (now : ℚ) (id : ℕ) (c : Composition) (svc : Service) (run : ModuleRun svc.Result) :
    Process :=
  let τ := (s.tally svc).ended (s.breakers svc) now run.upstream
  match run.result with
  | .ok r =>
    ((s.setBreaker svc (s.breakers svc).recordSuccess τ).record id svc .success).setComposition id
      (c.setTask svc (.ended (some r)))
  | .error e =>
    -- whatever the coroutine raised, the warning has its text
    ((s.setBreaker svc ((s.breakers svc).recordFailure now) τ).record id svc
      .failure).setComposition id ((c.setTask svc (.ended none)).warn svc e.message)

/-- The end of a phase: the tasks of the second one are created, or the response is built. -/
def gathered (id : ℕ) (c : Composition) : Option Process :=
  match c.stage with
  | .phase1 =>
    if c.PhaseDone true then
      some (s.setComposition id
        { c with stage := .phase2, tasks := fun svc => (c.tasks svc).create })
    else none
  | .phase2 =>
    if c.PhaseDone false then some (s.setComposition id { c with stage := .returned c.respond })
    else none
  | _ => none

/-- `get_breaker_statuses`: every breaker is asked. -/
def readStatus (now : ℚ) : Process :=
  { s with
    breakers := fun svc => ((s.breakers svc).isOpen now).1
    tally := fun svc => (s.tally svc).checked (s.breakers svc) now }

/-- One action; `none` when it cannot happen. -/
def act (now : ℚ) : Action → Option Process
  | .request id request limited =>
    match s.compositions id with
    | none => some (s.setComposition id (.start request now limited))
    | some _ => none
  | .check id svc =>
    match s.compositions id with
    | some c =>
      match c.tasks svc with
      | .created => some (s.check now id c svc)
      | _ => none
    | none => none
  | .ends id svc answers =>
    match s.compositions id with
    | some c =>
      match c.tasks svc with
      | .running => some (s.ends now id c svc (c.runService rt cfg svc answers))
      | _ => none
    | none => none
  | .gathered id =>
    match s.compositions id with
    | some c => s.gathered id c
    | none => none
  | .timeout id =>
    match s.compositions id with
    | some c =>
      match c.limited, c.stage with
      | true, .phase1 | true, .phase2 =>
        if c.startedAt + cfg.requestTimeout ≤ now then
          -- the calls are cancelled in their awaits and tell their breakers nothing
          some (s.setComposition id
            { c with stage := .cancelled, tasks := fun svc => (c.tasks svc).cancel })
        else none
      | _, _ => none
    | none => none
  | .status => some (s.readStatus now)

/-- One event at its clock reading. -/
def step (e : Event) : Option Process :=
  if e.time < s.now then none
  else (s.act rt cfg e.time e.action).map fun s' => { s' with now := e.time }

/-! ### The actions as a relation -/

/-- What an action does, with what has to hold before it. -/
inductive Acts (now : ℚ) : Action → Process → Prop
  | request {id : ℕ} {request : DescribeRequest} {limited : Bool}
      (hnew : s.compositions id = none) :
      Acts now (.request id request limited) (s.setComposition id (.start request now limited))
  | check {id : ℕ} {svc : Service} {c : Composition} (hc : s.compositions id = some c)
      (htask : c.tasks svc = .created) : Acts now (.check id svc) (s.check now id c svc)
  | ends {id : ℕ} {svc : Service} {answers : Answers} {c : Composition}
      (hc : s.compositions id = some c) (htask : c.tasks svc = .running) :
      Acts now (.ends id svc answers) (s.ends now id c svc (c.runService rt cfg svc answers))
  | phase2 {id : ℕ} {c : Composition} (hc : s.compositions id = some c)
      (hstage : c.stage = .phase1) (hdone : c.PhaseDone true) :
      Acts now (.gathered id) (s.setComposition id
        { c with stage := .phase2, tasks := fun svc => (c.tasks svc).create })
  | returns {id : ℕ} {c : Composition} (hc : s.compositions id = some c)
      (hstage : c.stage = .phase2) (hdone : c.PhaseDone false) :
      Acts now (.gathered id) (s.setComposition id { c with stage := .returned c.respond })
  | timeout {id : ℕ} {c : Composition} (hc : s.compositions id = some c)
      (hlimited : c.limited = true) (hstage : c.stage = .phase1 ∨ c.stage = .phase2)
      (hlate : c.startedAt + cfg.requestTimeout ≤ now) :
      Acts now (.timeout id) (s.setComposition id
        { c with stage := .cancelled, tasks := fun svc => (c.tasks svc).cancel })
  | status : Acts now .status (s.readStatus now)

variable {rt cfg s} {s' : Process}

lemma acts_of_act {now : ℚ} {a : Action} (h : s.act rt cfg now a = some s') :
    s.Acts rt cfg now a s' := by
  cases a with
  | request id request limited =>
    simp only [act] at h
    split at h <;> cases h
    exact .request ‹_›
  | check id svc =>
    simp only [act] at h
    split at h
    · split at h <;> cases h
      exact .check ‹_› ‹_›
    · cases h
  | ends id svc answers =>
    simp only [act] at h
    split at h
    · split at h <;> cases h
      exact .ends ‹_› ‹_›
    · cases h
  | gathered id =>
    simp only [act] at h
    split at h
    · simp only [gathered] at h
      split at h
      · split at h <;> cases h
        exact .phase2 ‹_› ‹_› ‹_›
      · split at h <;> cases h
        exact .returns ‹_› ‹_› ‹_›
      · cases h
    · cases h
  | timeout id =>
    simp only [act] at h
    split at h
    · split at h
      · split at h <;> cases h
        exact .timeout ‹_› ‹_› (.inl ‹_›) ‹_›
      · split at h <;> cases h
        exact .timeout ‹_› ‹_› (.inr ‹_›) ‹_›
      · cases h
    · cases h
  | status =>
    cases h
    exact .status

/-- A step is an action of the process as its relation says, at a clock reading that does not
go back. -/
lemma step_acts {e : Event} (h : step rt cfg s e = some s') :
    s.now ≤ e.time ∧ ∃ s₁, s.Acts rt cfg e.time e.action s₁ ∧ s' = { s₁ with now := e.time } := by
  unfold step at h
  split at h
  · cases h
  · rename_i hlt
    obtain ⟨s₁, hact, hs'⟩ := Option.map_eq_some_iff.mp h
    exact ⟨not_lt.mp hlt, s₁, acts_of_act hact, hs'.symm⟩

end Process

end ImageDescriptor.Composer
