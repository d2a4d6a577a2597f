/-
# Health probes

`/health` and `/health/ready` ping the cache and the database one after the other, each for a
limited time, and read the shutdown flag after that.  Requests, signals and timers run between
the pings.  The middleware lets the probes through during the shutdown, so that a probe that
comes in after the signal is answered, in bounded time, and never says that the server is
ready.
-/
import Mathlib.Tactic.Linarith
import ImageDescriptor.App.Shutdown
import ImageDescriptor.Cache.Store

namespace ImageDescriptor.App

open Lib

variable {Response α : Type}

/-- The setting that the probes read; `_positive_int` admits no other values. -/
structure ProbeSettings where
  healthTimeout : ℚ := 3
  healthTimeout_pos : 0 < healthTimeout := by norm_num

/-- The settings of a service that sets none of them. -/
def ProbeSettings.defaults : ProbeSettings := {}

/-- The body of an answer; `supabase` and `cache` are its `checks`. -/
structure HealthResponse where
  status : String
  version : String
  supabase : String
  cache : String
deriving DecidableEq, Repr

/-- The answer to a probe. -/
structure HealthAnswer where
  statusCode : ℕ
  body : HealthResponse
deriving DecidableEq, Repr

/-- The answer of `liveness`, which has always the status 200. -/
def liveness (shuttingDown : Bool) : ℕ × String :=
  (200, if shuttingDown then "shutting_down" else "ok")

def checkText (ok : Bool) : String := if ok then "ok" else "fail"

/-- `health` after its pings. -/
def healthAnswer (version : String) (shuttingDown supabaseOk cacheOk : Bool) : HealthAnswer :=
  let allFail := !supabaseOk && !cacheOk
  let anyFail := !supabaseOk || !cacheOk
  let status := if allFail then "unhealthy" else if anyFail then "degraded" else "ok"
  let status := if shuttingDown then "shutting_down" else status
  { statusCode := if allFail || shuttingDown then 503 else 200
    body := ⟨status, version, checkText supabaseOk, checkText cacheOk⟩ }

/-- `CacheStore.ping`, by how its SELECT ends. -/
def cachePing : Ending Unit → Ending Bool
  | .value _ => .value true
  | .raised e => if CacheStore.catches e then .value false else .raised e
  | .cancelled => .cancelled

/-- `except TimeoutError` around a ping that ends before its timer. -/
def checked : Ending Bool → Ending Bool
  | .raised e => if e.isinstance .timeoutError then .value false else .raised e
  | r => r

/-- The paths of `health` and `readiness`, which is `health`. -/
def probePaths : List String := ["/api/v1/health", "/api/v1/health/ready"]

/-- Where `health` is suspended since it has begun: in a `wait_for` with a timer for `due`; or
it has ended at some time with an answer, or without one. -/
inductive ProbePhase
  | pingsCache (since due : ℚ)
  | pingsSupabase (cacheOk : Bool) (since due : ℚ)
  | answered (since time : ℚ) (a : HealthAnswer)
  | failed
deriving DecidableEq

def ProbePhase.pings : ProbePhase → Bool
  | .pingsCache .. | .pingsSupabase .. => true
  | _ => false

/-- The time of the timer. -/
def ProbePhase.due : ProbePhase → Option ℚ
  | .pingsCache _ due | .pingsSupabase _ _ due => some due
  | _ => none

/-- The time at which the probe began. -/
def ProbePhase.began : ProbePhase → Option ℚ
  | .pingsCache since _ | .pingsSupabase _ since _ | .answered since _ _ => some since
  | .failed => none

/-- The server with its probes; a probe has the number of its request. -/
structure ProbedServer (Response α : Type) where
  server : Server Response α
  probes : ℕ → Option ProbePhase

/-- What happens: an event of the server; `health` begins in a request; the SELECT of the
cache or the ping of the database ends; or the timer of a `wait_for` fires. -/
inductive ProbeEvent (Response α : Type)
  | server (e : ServerEvent Response α)
  | begins (id : ℕ)
  | cacheEnds (id : ℕ) (r : Ending Unit)
  | supabaseEnds (id : ℕ) (r : Ending Bool)
  | timesOut (id : ℕ)

namespace ProbedServer

/-- The state after the startup. -/
def started : ProbedServer Response α := ⟨.started, fun _ => none⟩

def put (s : ProbedServer Response α) (id : ℕ) (p : ProbePhase) : ProbedServer Response α :=
  { s with probes := Function.update s.probes id (some p) }

/-- The ping of the database begins after that of the cache. -/
def afterCache (cfg : ProbeSettings) (s : ProbedServer Response α) (since : ℚ) :
    Ending Bool → ProbePhase
  | .value cacheOk => .pingsSupabase cacheOk since (s.server.now + cfg.healthTimeout)
  | _ => .failed

/-- The flag is read and the answer is built. -/
def afterSupabase (version : String) (s : ProbedServer Response α) (cacheOk : Bool) (since : ℚ) :
    Ending Bool → ProbePhase
  | .value supabaseOk =>
    .answered since s.server.now (healthAnswer version s.server.app.shuttingDown supabaseOk cacheOk)
  | _ => .failed

section Step

variable (cfg : ProbeSettings) (version : String) (shutdown : ShutdownSettings)
  (errors : Exc → List (String × String))

/-- One event; `none` when it cannot happen.  A probe whose request is cancelled ends when the
ping that it awaits is cancelled. -/
def step (s : ProbedServer Response α) : ProbeEvent Response α → Option (ProbedServer Response α)
  | .server e => (s.server.step shutdown errors e).map fun server => { s with server }
  | .begins id =>
    match s.server.app.requests id, s.probes id with
    | some (path, .passed), none | some (path, .ended .cancelled), none =>
      if path ∈ probePaths then
        some (s.put id (.pingsCache s.server.now (s.server.now + cfg.healthTimeout)))
      else none
    | _, _ => none
  | .cacheEnds id r =>
    match s.probes id with
    | some (.pingsCache since _) => some (s.put id (s.afterCache cfg since (checked (cachePing r))))
    | _ => none
  | .supabaseEnds id r =>
    match s.probes id with
    | some (.pingsSupabase cacheOk since _) =>
      some (s.put id (s.afterSupabase version cacheOk since (checked r)))
    | _ => none
  | .timesOut id =>
    match s.probes id with
    | some (.pingsCache since due) =>
      if due ≤ s.server.now then some (s.put id (s.afterCache cfg since (.value false))) else none
    | some (.pingsSupabase cacheOk since due) =>
      if due ≤ s.server.now then
        some (s.put id (s.afterSupabase version cacheOk since (.value false)))
      else none
    | _ => none

/-- How the `wait_for` of a ping of the cache ends. -/
inductive CacheEnds (id : ℕ) : ProbeEvent Response α → Ending Bool → Prop
  | ends (r : Ending Unit) : CacheEnds id (.cacheEnds id r) (checked (cachePing r))
  | timesOut : CacheEnds id (.timesOut id) (.value false)

/-- How the `wait_for` of a ping of the database ends. -/
inductive SupabaseEnds (id : ℕ) : ProbeEvent Response α → Ending Bool → Prop
  | ends (r : Ending Bool) : SupabaseEnds id (.supabaseEnds id r) (checked r)
  | timesOut : SupabaseEnds id (.timesOut id) (.value false)

/-- What each event does, and when it can happen. -/
inductive Moves (s : ProbedServer Response α) :
    ProbeEvent Response α → ProbedServer Response α → Prop
  | server {e : ServerEvent Response α} {server : Server Response α}
      (hstep : s.server.step shutdown errors e = some server) :
      Moves s (.server e) { s with server }
  | begins {id : ℕ} (hnew : s.probes id = none) :
      Moves s (.begins id) (s.put id (.pingsCache s.server.now (s.server.now + cfg.healthTimeout)))
  | cache {e : ProbeEvent Response α} {id : ℕ} {since due : ℚ} {r : Ending Bool}
      (hprobe : s.probes id = some (.pingsCache since due)) (hends : CacheEnds id e r) :
      Moves s e (s.put id (s.afterCache cfg since r))
  | supabase {e : ProbeEvent Response α} {id : ℕ} {cacheOk : Bool} {since due : ℚ}
      {r : Ending Bool} (hprobe : s.probes id = some (.pingsSupabase cacheOk since due))
      (hends : SupabaseEnds id e r) :
      Moves s e (s.put id (s.afterSupabase version cacheOk since r))

end Step

variable {cfg : ProbeSettings} {version : String} {shutdown : ShutdownSettings}
  {errors : Exc → List (String × String)} {s s' : ProbedServer Response α}
  {e : ProbeEvent Response α} {id : ℕ}

lemma moves_of_step (h : step cfg version shutdown errors s e = some s') :
    Moves cfg version shutdown errors s e s' := by
  cases e with
  | server e =>
    obtain ⟨server, hstep, rfl⟩ := Option.map_eq_some_iff.mp h
    exact .server hstep
  | begins id =>
    simp only [step] at h
    split at h
    · rename_i hnew
      split at h
      · cases h
        exact .begins hnew
      · cases h
    · rename_i hnew
      split at h
      · cases h
        exact .begins hnew
      · cases h
    · cases h
  | cacheEnds id r =>
    simp only [step] at h
    split at h
    · rename_i hprobe
      cases h
      exact .cache hprobe (.ends r)
    · cases h
  | supabaseEnds id r =>
    simp only [step] at h
    split at h
    · rename_i hprobe
      cases h
      exact .supabase hprobe (.ends r)
    · cases h
  | timesOut id =>
    simp only [step] at h
    split at h
    · rename_i hprobe
      split at h
      · cases h
        exact .cache hprobe .timesOut
      · cases h
    · rename_i hprobe
      split at h
      · cases h
        exact .supabase hprobe .timesOut
      · cases h
    · cases h

/-! ### The server under its probes -/

/-- A request that is refused does not ask for a system path. -/
lemma refused_of_step {a a' : InFlight Response} {e : AppEvent Response} {path : String}
    {body : ProblemDetail} (h : a.step e = some a')
    (hrefused : a'.requests id = some (path, .refused body)) :
    a.requests id = some (path, .refused body) ∨ path ∉ systemPaths := by
  rcases InFlight.requests_of_step h with hsame | ⟨i, path', p, hrequests, -, hsystem⟩
  · rw [hsame] at hrefused
    exact .inl hrefused
  · rcases InFlight.requests_cases hrequests hrefused with ⟨-, rfl, hp⟩ | ⟨-, hold⟩
    · exact .inr (hsystem body hp.symm)
    · exact .inl hold

/-- The clock is moved by the passing of time alone. -/
lemma now_of_moves {m m' : Server Response α} {e : ServerEvent Response α}
    (h : Server.Moves shutdown errors m e m') :
    m'.now = m.now ∨ ∃ seconds, e = .elapse seconds ∧ m'.now = m.now + seconds := by
  cases h with
  | @app e' app happ =>
    exact .inl (Server.logSigterm_spec shutdown
      { m with app, phase := Server.wake app.drainEvent m.phase } e').2.2.2.2.1
  | @elapse seconds hseconds => exact .inr ⟨seconds, rfl, rfl⟩
  | drain | sleepEnds => exact .inl (Server.poll_spec shutdown m _).2.2.2.1
  | batch | itemEnds | close | waiterStarts | waiterReturns | drained | timedOut
  | cleanupEnds | cacheCloses | clientCloses => exact .inl rfl

lemma server_of_moves (h : Moves cfg version shutdown errors s e s') :
    s'.server = s.server ∨ ∃ e', s.server.step shutdown errors e' = some s'.server := by
  cases h with
  | server hstep => exact .inr ⟨_, hstep⟩
  | begins | cache | supabase => exact .inl rfl

/-! ### Answers in time -/

/-- The event loop resumes a probe at most `δ` seconds after its timer is due. -/
def Timely (δ : ℚ) (id : ℕ) (s : ProbedServer Response α) : ProbeEvent Response α → Prop
  | .server (.elapse seconds) =>
    ∀ due ∈ (s.probes id).bind ProbePhase.due, s.server.now + seconds ≤ due + δ
  | _ => True

instance (δ : ℚ) (id : ℕ) (s : ProbedServer Response α) :
    ∀ e : ProbeEvent Response α, Decidable (Timely δ id s e)
  | .server (.elapse seconds) =>
    inferInstanceAs (Decidable
      (∀ due ∈ (s.probes id).bind ProbePhase.due, s.server.now + seconds ≤ due + δ))
  | .server (.app _) | .server (.batch ..) | .server (.itemEnds ..) | .server .shutdown
  | .server .sleepEnds | .server .waiterRuns | .server .waitForEnds | .server .cleanupEnds
  | .server .cacheCloses | .server .clientCloses | .begins _ | .cacheEnds .. | .supabaseEnds ..
  | .timesOut _ => .isTrue trivial

/-- What holds of a probe that has begun after a state with the flag `down₀`. -/
def PhaseSound (cfg : ProbeSettings) (version : String) (δ : ℚ) (down₀ down : Bool) (now : ℚ) :
    ProbePhase → Prop
  | .pingsCache since due => due ≤ since + cfg.healthTimeout ∧ now ≤ due + δ
  | .pingsSupabase _ since due => due ≤ since + cfg.healthTimeout + δ + cfg.healthTimeout ∧
    now ≤ due + δ
  | .answered since time a => time ≤ since + 2 * (cfg.healthTimeout + δ) ∧
    ∃ read supabaseOk cacheOk, a = healthAnswer version read supabaseOk cacheOk ∧
      (down₀ = true → read = true) ∧ (read = true → down = true)
  | .failed => True

variable {δ now t : ℚ} {down₀ down down' : Bool} {p : ProbePhase}

/-- Time passes, and the flag may be set. -/
lemma PhaseSound.later (h : PhaseSound cfg version δ down₀ down now p)
    (hdue : ∀ due, p.due = some due → t ≤ due + δ) (hdown : down = true → down' = true) :
    PhaseSound cfg version δ down₀ down' t p := by
  cases p with
  | pingsCache since due => exact ⟨h.1, hdue due rfl⟩
  | pingsSupabase cacheOk since due => exact ⟨h.1, hdue due rfl⟩
  | answered since time a =>
    obtain ⟨htime, read, supabaseOk, cacheOk, ha, hread, hlater⟩ := h
    exact ⟨htime, read, supabaseOk, cacheOk, ha, hread, fun hset => hdown (hlater hset)⟩
  | failed => exact trivial

lemma PhaseSound.now_le (h : PhaseSound cfg version δ down₀ down now p) {due : ℚ}
    (hdue : p.due = some due) : now ≤ due + δ := by
  cases p with
  | pingsCache since due' =>
    cases hdue
    exact h.2
  | pingsSupabase cacheOk since due' =>
    cases hdue
    exact h.2
  | answered | failed => cases hdue

/-- The probe of a request, since a state in which it had not begun. -/
structure Probing (cfg : ProbeSettings) (version : String) (δ : ℚ) (down₀ : Bool) (id : ℕ)
    (s : ProbedServer Response α) : Prop where
  consistent : s.server.app.Consistent
  down : down₀ = true → s.server.app.shuttingDown = true
  phase : ∀ p, s.probes id = some p →
    PhaseSound cfg version δ down₀ s.server.app.shuttingDown s.server.now p

/-- The probe of a request that a step moves, or another one. -/
lemma probing_put {i : ℕ} {q : ProbePhase} (hs : Probing cfg version δ down₀ id s)
    (hq : i = id → PhaseSound cfg version δ down₀ s.server.app.shuttingDown s.server.now q) :
    Probing cfg version δ down₀ id (s.put i q) := by
  refine ⟨hs.consistent, hs.down, fun p hp => ?_⟩
  rcases update_some_cases hp with ⟨rfl, rfl⟩ | ⟨-, hold⟩
  · exact hq rfl
  · exact hs.phase p hold

lemma probing_server {e : ServerEvent Response α} {server : Server Response α}
    (hs : Probing cfg version δ down₀ id s) (htimely : Timely δ id s (.server e))
    (h : s.server.step shutdown errors e = some server) :
    Probing cfg version δ down₀ id { s with server } := by
  have hmoves := Server.moves_of_step h
  have hdown : s.server.app.shuttingDown = true → server.app.shuttingDown = true :=
    Server.shuttingDown_of_moves hmoves hs.consistent
  refine ⟨Server.consistent_of_moves hmoves hs.consistent, fun h₀ => hdown (hs.down h₀),
    fun p hp => ?_⟩
  refine (hs.phase p hp).later (fun due hdue => ?_) hdown
  show server.now ≤ due + δ
  rcases now_of_moves hmoves with hsame | ⟨seconds, rfl, hnow⟩
  · rw [hsame]
    exact (hs.phase p hp).now_le hdue
  · rw [hnow]
    exact htimely due (Option.mem_def.mpr (by rw [hp, Option.bind_some, hdue]))

lemma phaseSound_afterCache {since due : ℚ} (hδ : 0 ≤ δ) (r : Ending Bool)
    (h : PhaseSound cfg version δ down₀ s.server.app.shuttingDown s.server.now
      (.pingsCache since due)) :
    PhaseSound cfg version δ down₀ s.server.app.shuttingDown s.server.now
      (s.afterCache cfg since r) := by
  obtain ⟨hdue, hnow⟩ := h
  cases r with
  | value cacheOk => exact ⟨by linarith, by linarith [cfg.healthTimeout_pos]⟩
  | raised | cancelled => exact trivial

lemma phaseSound_afterSupabase {since due : ℚ} {cacheOk : Bool} (r : Ending Bool)
    (hdown : down₀ = true → s.server.app.shuttingDown = true)
    (h : PhaseSound cfg version δ down₀ s.server.app.shuttingDown s.server.now
      (.pingsSupabase cacheOk since due)) :
    PhaseSound cfg version δ down₀ s.server.app.shuttingDown s.server.now
      (s.afterSupabase version cacheOk since r) := by
  obtain ⟨hdue, hnow⟩ := h
  cases r with
  | value supabaseOk =>
    exact ⟨by linarith, s.server.app.shuttingDown, supabaseOk, cacheOk, rfl, hdown, id⟩
  | raised | cancelled => exact trivial

lemma probing_step (hδ : 0 ≤ δ) (hs : Probing cfg version δ down₀ id s)
    (htimely : Timely δ id s e) (h : Moves cfg version shutdown errors s e s') :
    Probing cfg version δ down₀ id s' := by
  cases h with
  | server hstep => exact probing_server hs htimely hstep
  | begins => exact probing_put hs fun _ => ⟨le_rfl, by linarith [cfg.healthTimeout_pos]⟩
  | @cache e i since due r hprobe hends =>
    refine probing_put hs fun hi => ?_
    subst hi
    exact phaseSound_afterCache hδ r (hs.phase _ hprobe)
  | @supabase e i cacheOk since due r hprobe hends =>
    refine probing_put hs fun hi => ?_
    subst hi
    exact phaseSound_afterSupabase r hs.down (hs.phase _ hprobe)

/-- The pings are limited, and so is the probe. -/
lemma PhaseSound.pings_le (h : PhaseSound cfg version δ down₀ down now p) (hδ : 0 ≤ δ) {since : ℚ}
    (hpings : p.pings = true) (hbegan : p.began = some since) :
    now ≤ since + 2 * (cfg.healthTimeout + δ) := by
  cases p with
  | pingsCache since' due =>
    cases hbegan
    linarith [h.1, h.2, cfg.healthTimeout_pos]
  | pingsSupabase cacheOk since' due =>
    cases hbegan
    linarith [h.1, h.2]
  | answered | failed => cases hpings

/-! ### What the pings gave -/

/-- Among the events, the SELECT of the ping of the cache ended without an exception. -/
def CacheUp (id : ℕ) (es : List (ProbeEvent Response α)) : Prop := .cacheEnds id (.value ()) ∈ es

/-- Among the events, the ping of the database returned `True`. -/
def SupabaseUp (id : ℕ) (es : List (ProbeEvent Response α)) : Prop :=
  .supabaseEnds id (.value true) ∈ es

/-- What a probe knows of its pings. -/
def PingsTold (id : ℕ) (past : List (ProbeEvent Response α)) : Option ProbePhase → Prop
  | none | some (.pingsCache ..) => ¬ CacheUp id past ∧ ¬ SupabaseUp id past
  | some (.pingsSupabase cacheOk ..) => (cacheOk = true ↔ CacheUp id past) ∧ ¬ SupabaseUp id past
  | some (.answered _ _ a) => (a.body.cache = "ok" ↔ CacheUp id past) ∧
    (a.body.supabase = "ok" ↔ SupabaseUp id past)
  | some .failed => True

/-- An event that is no ending of a ping of this probe. -/
lemma PingsTold.later {past : List (ProbeEvent Response α)} {q : Option ProbePhase}
    (h : PingsTold id past q) (hcache : ∀ r, e ≠ .cacheEnds id r)
    (hsupabase : ∀ r, e ≠ .supabaseEnds id r) : PingsTold id (past ++ [e]) q := by
  have hup : CacheUp id (past ++ [e]) ↔ CacheUp id past := by
    simp [CacheUp, (hcache _).symm]
  have hup' : SupabaseUp id (past ++ [e]) ↔ SupabaseUp id past := by
    simp [SupabaseUp, (hsupabase _).symm]
  unfold PingsTold at h ⊢
  simp only [hup, hup']
  exact h

lemma checked_value {r : Ending Bool} (ok : Bool) (h : checked r = .value ok) :
    ok = true ↔ r = .value true := by
  cases r with
  | value b =>
    obtain rfl : b = ok := Ending.value.inj h
    rw [Ending.value.injEq]
  | raised x =>
    simp only [checked] at h
    split at h <;> cases h
    simp
  | cancelled => cases h

lemma checked_cachePing {r : Ending Unit} {ok : Bool} (h : checked (cachePing r) = .value ok) :
    ok = true ↔ r = .value () := by
  rw [checked_value ok h]
  cases r with
  | value u => simp [cachePing]
  | raised x =>
    simp only [cachePing]
    split <;> simp
  | cancelled => simp [cachePing]

/-- The ping of the cache is over. -/
lemma pingsTold_afterCache {past : List (ProbeEvent Response α)} {since : ℚ} {r : Ending Bool}
    (hs : ¬ CacheUp id past ∧ ¬ SupabaseUp id past) (hends : CacheEnds id e r) :
    PingsTold id (past ++ [e]) (some (s.afterCache cfg since r)) := by
  cases hends with
  | ends r =>
    cases hr : checked (cachePing r) with
    | value ok =>
      have hok := checked_cachePing hr
      refine ⟨?_, ?_⟩
      · rw [hok, CacheUp, List.mem_append, List.mem_singleton]
        constructor
        · rintro rfl
          exact .inr rfl
        · rintro (hold | hnew)
          · exact absurd hold hs.1
          · exact (ProbeEvent.cacheEnds.inj hnew).2.symm
      · simp only [SupabaseUp, List.mem_append, List.mem_singleton, reduceCtorEq, or_false]
        exact hs.2
    | raised | cancelled => exact trivial
  | timesOut =>
    obtain ⟨hcache, hsupabase⟩ : PingsTold id (past ++ [.timesOut id]) none :=
      PingsTold.later (q := none) hs (by simp) (by simp)
    exact ⟨iff_of_false Bool.false_ne_true hcache, hsupabase⟩

/-- The ping of the database is over, and the answer is built. -/
lemma pingsTold_afterSupabase {past : List (ProbeEvent Response α)} {cacheOk : Bool} {since : ℚ}
    {r : Ending Bool} (hs : (cacheOk = true ↔ CacheUp id past) ∧ ¬ SupabaseUp id past)
    (hends : SupabaseEnds id e r) :
    PingsTold id (past ++ [e]) (some (s.afterSupabase version cacheOk since r)) := by
  have htext : ∀ ok, checkText ok = "ok" ↔ ok = true := by decide
  have hcache : CacheUp id (past ++ [e]) ↔ CacheUp id past := by
    cases hends <;> simp [CacheUp]
  cases hr : r with
  | value supabaseOk =>
    have hup : supabaseOk = true ↔ SupabaseUp id (past ++ [e]) := by
      cases hends with
      | ends r' =>
        rw [checked_value supabaseOk hr, SupabaseUp, List.mem_append, List.mem_singleton]
        constructor
        · rintro rfl
          exact .inr rfl
        · rintro (hold | hnew)
          · exact absurd hold hs.2
          · exact (ProbeEvent.supabaseEnds.inj hnew).2.symm
      | timesOut =>
        obtain rfl : false = supabaseOk := Ending.value.inj hr
        refine iff_of_false Bool.false_ne_true ?_
        simp only [SupabaseUp, List.mem_append, List.mem_singleton, reduceCtorEq, or_false]
        exact hs.2
    refine ⟨?_, ?_⟩
    · rw [hcache, ← hs.1]
      exact htext cacheOk
    · rw [← hup]
      exact htext supabaseOk
  | raised | cancelled => exact trivial

lemma pingsTold_step {past : List (ProbeEvent Response α)} (hs : PingsTold id past (s.probes id))
    (h : Moves cfg version shutdown errors s e s') :
    PingsTold id (past ++ [e]) (s'.probes id) := by
  have hother : ∀ {i : ℕ} {q : ProbePhase}, id ≠ i → (s.put i q).probes id = s.probes id :=
    fun hne => Function.update_of_ne hne _ _
  have hself : ∀ {q : ProbePhase}, (s.put id q).probes id = some q := Function.update_self _ _ _
  cases h with
  | server => exact hs.later (by simp) (by simp)
  | @begins i hnew =>
    by_cases hi : id = i
    · subst hi
      rw [hself]
      rw [hnew] at hs
      exact PingsTold.later hs (by simp) (by simp)
    · rw [hother hi]
      exact hs.later (by simp) (by simp)
  | @cache e i since due r hprobe hends =>
    by_cases hi : id = i
    · subst hi
      rw [hself]
      rw [hprobe] at hs
      exact pingsTold_afterCache hs hends
    · rw [hother hi]
      cases hends with
      | ends => exact hs.later (by simpa using fun h => absurd h.symm hi) (by simp)
      | timesOut => exact hs.later (by simp) (by simp)
  | @supabase e i cacheOk since due r hprobe hends =>
    by_cases hi : id = i
    · subst hi
      rw [hself]
      rw [hprobe] at hs
      exact pingsTold_afterSupabase hs hends
    · rw [hother hi]
      cases hends with
      | ends => exact hs.later (by simp) (by simpa using fun h => absurd h.symm hi)
      | timesOut => exact hs.later (by simp) (by simp)

/-! ### A probe comes to its end -/

/-- Time may pass until the timer of a probe is due. -/
lemma exists_run_until (cfg : ProbeSettings) (version : String) (shutdown : ShutdownSettings)
    (errors : Exc → List (String × String)) {due : ℚ} (hδ : 0 ≤ δ) (hprobe : s.probes id = some p)
    (hdue : p.due = some due) :
    ∃ es now, due ≤ now ∧ Run (step cfg version shutdown errors) (Timely δ id) s es
      { s with server := { s.server with now } } := by
  by_cases hlate : due ≤ s.server.now
  · exact ⟨[], s.server.now, hlate, .nil s⟩
  · have hwait : 0 ≤ due - s.server.now := by linarith
    have hstep : step cfg version shutdown errors s (.server (.elapse (due - s.server.now))) =
        some { s with server := { s.server with now := due } } := by
      simp [step, Server.step, hwait]
    refine ⟨[.server (.elapse (due - s.server.now))], due, le_rfl, .cons ?_ hstep (.nil _)⟩
    intro due' hdue'
    rw [hprobe, Option.bind_some, hdue, Option.mem_some_iff] at hdue'
    linarith

lemma exists_run_answered_of_pingsSupabase (cfg : ProbeSettings) (version : String)
    (shutdown : ShutdownSettings) (errors : Exc → List (String × String)) {cacheOk : Bool}
    {since due : ℚ} (hδ : 0 ≤ δ)
    (hprobe : s.probes id = some (.pingsSupabase cacheOk since due)) :
    ∃ es s' time a, Run (step cfg version shutdown errors) (Timely δ id) s es s' ∧
      s'.probes id = some (.answered since time a) := by
  obtain ⟨es, now, hdue, hrun⟩ := exists_run_until cfg version shutdown errors hδ hprobe rfl
  let s₁ : ProbedServer Response α := { s with server := { s.server with now } }
  have hstep : step cfg version shutdown errors s₁ (.timesOut id) =
      some (s₁.put id (s₁.afterSupabase version cacheOk since (.value false))) := by
    simp [step, s₁, hprobe, hdue]
  have hends : Run (step cfg version shutdown errors) (Timely δ id) s₁ [.timesOut id]
      (s₁.put id (s₁.afterSupabase version cacheOk since (.value false))) :=
    .cons trivial hstep (.nil _)
  exact ⟨_, _, _, _, hrun.append hends, Function.update_self _ _ _⟩

lemma exists_run_answered {since : ℚ} (hδ : 0 ≤ δ) (hprobe : s.probes id = some p)
    (hpings : p.pings = true) (hbegan : p.began = some since) :
    ∃ es s' time a, Run (step cfg version shutdown errors) (Timely δ id) s es s' ∧
      s'.probes id = some (.answered since time a) := by
  cases p with
  | pingsCache since' due =>
    cases hbegan
    obtain ⟨es, now, hdue, hrun⟩ := exists_run_until cfg version shutdown errors hδ hprobe rfl
    let s₁ : ProbedServer Response α := { s with server := { s.server with now } }
    have hstep : step cfg version shutdown errors s₁ (.timesOut id) =
        some (s₁.put id (s₁.afterCache cfg since (.value false))) := by
      simp [step, s₁, hprobe, hdue]
    obtain ⟨es', s', time, a, hrest, hanswered⟩ :=
      exists_run_answered_of_pingsSupabase cfg version shutdown errors (s := s₁.put id _) hδ
        (Function.update_self id _ s₁.probes)
    have hends : Run (step cfg version shutdown errors) (Timely δ id) s₁ (.timesOut id :: es') s' :=
      .cons trivial hstep hrest
    exact ⟨_, s', time, a, hrun.append hends, hanswered⟩
  | pingsSupabase cacheOk since' due =>
    cases hbegan
    exact exists_run_answered_of_pingsSupabase cfg version shutdown errors hδ hprobe
  | answered | failed => cases hpings

/-! ### Runs -/

/-- No probe is refused. -/
def LetsProbesIn (id : ℕ) (s : ProbedServer Response α) : Prop :=
  ∀ path ∈ probePaths, ∀ body, s.server.app.requests id ≠ some (path, .refused body)

lemma probePaths_system {path : String} (h : path ∈ probePaths) : path ∈ systemPaths := by
  revert path
  decide

lemma letsProbesIn_step (hs : LetsProbesIn id s) (h : Moves cfg version shutdown errors s e s') :
    LetsProbesIn id s' := by
  intro path hpath body hrefused
  rcases server_of_moves h with hsame | ⟨e', hstep⟩
  · exact hs path hpath body (hsame ▸ hrefused)
  · rcases Server.app_cases (Server.moves_of_step hstep) with happ | ⟨e'', happ⟩
    · exact hs path hpath body (happ ▸ hrefused)
    · rcases refused_of_step happ hrefused with hold | hother
      · exact hs path hpath body hold
      · exact hother (probePaths_system hpath)

lemma consistent_of_moves (hs : s.server.app.Consistent)
    (h : Moves cfg version shutdown errors s e s') : s'.server.app.Consistent := by
  rcases server_of_moves h with hsame | ⟨e', hstep⟩
  · rw [hsame]
    exact hs
  · exact Server.consistent_of_moves (Server.moves_of_step hstep) hs

/-- The status of an answer is what its checks say, unless the server shuts down. -/
lemma healthAnswer_spec (version : String) (read supabaseOk cacheOk : Bool) :
    let a := healthAnswer version read supabaseOk cacheOk
    (read = true → a.statusCode = 503 ∧ a.body.status = "shutting_down") ∧
      (read = false → (a.statusCode = 503 ↔ a.body.cache ≠ "ok" ∧ a.body.supabase ≠ "ok") ∧
        (a.body.status = "ok" ↔ a.body.cache = "ok" ∧ a.body.supabase = "ok")) := by
  cases read <;> cases supabaseOk <;> cases cacheOk <;>
    simp [healthAnswer, checkText]

/-- What an answer is, after the events since a state in which its probe had not begun. -/
structure Truthful (id : ℕ) (es : List (ProbeEvent Response α)) (before after : Bool)
    (a : HealthAnswer) : Prop where
  /-- the checks are what the pings gave -/
  cache : a.body.cache = "ok" ↔ CacheUp id es
  supabase : a.body.supabase = "ok" ↔ SupabaseUp id es
  /-- the flag was set before the probe began -/
  down : before = true → a.statusCode = 503 ∧ a.body.status = "shutting_down"
  /-- it is not set until now -/
  serving : after = false → (a.statusCode = 503 ↔ ¬ CacheUp id es ∧ ¬ SupabaseUp id es) ∧
    (a.body.status = "ok" ↔ CacheUp id es ∧ SupabaseUp id es)

/-- A readiness probe after the signal: the cache answers, the database does not. -/
def lateProbe : List (ProbeEvent ℕ ℕ) :=
  [.server (.app (.request 0 "/api/v1/health/ready")), .begins 0, .server (.elapse 1),
    .cacheEnds 0 (.value ()), .server (.elapse 3), .timesOut 0]

end ProbedServer

end ImageDescriptor.App
