/-
# Interleaved calls of `_get_jwks`

Any number of calls share the cached key set and the lock.  An event resumes one call at a
clock reading; clock readings do not decrease, and a call may be cancelled wherever it is
suspended.  Beside the state of the program the machine records the fetches that have ended
with a key set.
-/
import Mathlib.Logic.Function.Basic
import ImageDescriptor.Auth.Jwks
import ImageDescriptor.Lib.Run

namespace ImageDescriptor.Auth

open Lib

/-- Where a call stands.  A call that fetches has kept the clock reading that will be the
time of the key set. -/
inductive JwksPhase
  | waiting
  | fetching (stamp : ℚ)
  | done (r : Except Raised Json)
  | cancelled

/-- A call, with its last clock reading. -/
structure JwksCall where
  reading : ℚ
  phase : JwksPhase

/-- A fetch that has ended with a key set. -/
structure FetchedKeys where
  task : ℕ
  jwks : Json
  stamp : ℚ

/-- The state of the process. -/
structure KeySets where
  cache : JwksCache
  holder : Option ℕ
  calls : ℕ → Option JwksCall
  now : ℚ
  fetches : List FetchedKeys

/-- What resumes a call. -/
inductive JwksResume
  | start
  | acquire
  | fetched (r : Fetched)
  | cancel

/-- An event: call `task` is resumed at the clock reading `time`. -/
structure JwksEvent where
  time : ℚ
  task : ℕ
  resume : JwksResume

namespace KeySets

/-- The process when the module has been loaded; the clock may start anywhere. -/
def initial (now : ℚ) : KeySets := ⟨.initial, none, fun _ => none, now, []⟩

def put (s : KeySets) (time : ℚ) (task : ℕ) (call : JwksCall) : KeySets :=
  { s with calls := Function.update s.calls task (some call), now := time }

/-- The fetches after one that has ended in this way. -/
def noteFetch (s : KeySets) (task : ℕ) (stamp : ℚ) : Fetched → List FetchedKeys
  | .ok (.ok data) => ⟨task, data, stamp⟩ :: s.fetches
  | _ => s.fetches

variable (cfg : Settings)

/-- One event; `none` when the call cannot be resumed in this way. -/
def step (s : KeySets) (e : JwksEvent) : Option KeySets :=
  if e.time < s.now then none
  else
    match s.calls e.task, e.resume with
    | none, .start =>
      match cachedJwks cfg e.time s.cache with
      | some jwks => some (s.put e.time e.task ⟨e.time, .done (.ok jwks)⟩)
      | none => some (s.put e.time e.task ⟨e.time, .waiting⟩)
    | some ⟨_, .waiting⟩, .acquire =>
      if s.holder = none then
        -- a call that returns under the lock releases it at once
        match cachedJwks cfg e.time s.cache with
        | some jwks => some (s.put e.time e.task ⟨e.time, .done (.ok jwks)⟩)
        | none =>
          some { s.put e.time e.task ⟨e.time, .fetching e.time⟩ with holder := some e.task }
      else none
    | some ⟨reading, .fetching stamp⟩, .fetched r =>
      let next := jwksFetched stamp s.cache r
      some { s.put e.time e.task ⟨reading, .done next.2⟩ with
        cache := next.1, holder := none, fetches := s.noteFetch e.task stamp r }
    | some ⟨reading, .fetching _⟩, .cancel =>
      some { s.put e.time e.task ⟨reading, .cancelled⟩ with holder := none }
    | some ⟨reading, .waiting⟩, .cancel => some (s.put e.time e.task ⟨reading, .cancelled⟩)
    | _, _ => none

/-- The call is fetching. -/
def Fetching (s : KeySets) (task : ℕ) : Prop :=
  ∃ reading stamp, s.calls task = some ⟨reading, .fetching stamp⟩

/-- What the claim of single and fresh fetches says about a step. -/
structure FetchesSoundly (s : KeySets) (e : JwksEvent) (s' : KeySets) : Prop where
  oneFetch : ∀ i j, s'.Fetching i → s'.Fetching j → i = j
  startsStale : ∀ i, s'.Fetching i → ¬ s.Fetching i → ¬ s.cache.Fresh cfg e.time
  kept : (∀ data, e.resume ≠ .fetched (.ok (.ok data))) → s'.cache = s.cache
  returned : ∀ i reading jwks, s'.calls i = some ⟨reading, .done (.ok jwks)⟩ →
    (∃ stamp, ⟨i, jwks, stamp⟩ ∈ s'.fetches) ∨
      ∃ j stamp, ⟨j, jwks, stamp⟩ ∈ s'.fetches ∧ reading - stamp < cfg.jwksTtlSeconds

/-! ### The steps as a relation -/

/-- What an event does, with what has to hold before it. -/
inductive Moves (s : KeySets) (e : JwksEvent) : KeySets → Prop
  | served {jwks : Json} (hcall : s.calls e.task = none ∧ e.resume = .start ∨
        (∃ reading, s.calls e.task = some ⟨reading, .waiting⟩) ∧ e.resume = .acquire)
      (hfresh : cachedJwks cfg e.time s.cache = some jwks) :
      Moves s e (s.put e.time e.task ⟨e.time, .done (.ok jwks)⟩)
  | waits (hcall : s.calls e.task = none) (hresume : e.resume = .start) :
      Moves s e (s.put e.time e.task ⟨e.time, .waiting⟩)
  | fetches {reading : ℚ} (hcall : s.calls e.task = some ⟨reading, .waiting⟩)
      (hresume : e.resume = .acquire) (hfree : s.holder = none)
      (hstale : ¬ s.cache.Fresh cfg e.time) :
      Moves s e { s.put e.time e.task ⟨e.time, .fetching e.time⟩ with holder := some e.task }
  | fetched {reading stamp : ℚ} {r : Fetched}
      (hcall : s.calls e.task = some ⟨reading, .fetching stamp⟩) (hresume : e.resume = .fetched r) :
      Moves s e { s.put e.time e.task ⟨reading, .done (jwksFetched stamp s.cache r).2⟩ with
        cache := (jwksFetched stamp s.cache r).1, holder := none,
        fetches := s.noteFetch e.task stamp r }
  | cancelFetch {reading stamp : ℚ} (hcall : s.calls e.task = some ⟨reading, .fetching stamp⟩)
      (hresume : e.resume = .cancel) :
      Moves s e { s.put e.time e.task ⟨reading, .cancelled⟩ with holder := none }
  | cancelWait {reading : ℚ} (hcall : s.calls e.task = some ⟨reading, .waiting⟩)
      (hresume : e.resume = .cancel) :
      Moves s e (s.put e.time e.task ⟨reading, .cancelled⟩)

variable {cfg} {s s' : KeySets} {e : JwksEvent}

lemma moves_of_step (h : step cfg s e = some s') : Moves cfg s e s' := by
  obtain ⟨time, task, resume⟩ := e
  unfold step at h
  split at h
  · cases h
  · split at h
    · rename_i hcall hresume
      split at h
      · rename_i jwks hfresh
        cases h
        exact .served (.inl ⟨hcall, hresume⟩) hfresh
      · cases h
        exact .waits hcall hresume
    · rename_i reading hcall hresume
      split at h
      · rename_i hfree
        split at h
        · rename_i jwks hfresh
          cases h
          exact .served (.inr ⟨⟨reading, hcall⟩, hresume⟩) hfresh
        · rename_i hstale
          cases h
          exact .fetches hcall hresume hfree (cachedJwks_eq_none_iff.mp hstale)
      · cases h
    · rename_i hcall hresume
      cases h
      exact .fetched hcall hresume
    · rename_i hcall hresume
      cases h
      exact .cancelFetch hcall hresume
    · rename_i hcall hresume
      cases h
      exact .cancelWait hcall hresume
    · cases h

/-! ### The invariant -/

/-- The key set `jwks` was fetched by the call, or was fresh when the call last looked at the
clock. -/
def Sound (cfg : Settings) (fetches : List FetchedKeys) (task : ℕ) (reading : ℚ) (jwks : Json) :
    Prop :=
  (∃ stamp, ⟨task, jwks, stamp⟩ ∈ fetches) ∨
    ∃ j stamp, ⟨j, jwks, stamp⟩ ∈ fetches ∧ reading - stamp < cfg.jwksTtlSeconds

/-- The lock is held by the call that fetches, the cached key set is one that was fetched at
its time, and so is what every call has returned. -/
structure Consistent (cfg : Settings) (s : KeySets) : Prop where
  holder : ∀ i, s.Fetching i → s.holder = some i
  cached : s.cache.jwks.truthy = true → ∃ j, ⟨j, s.cache.jwks, s.cache.ts⟩ ∈ s.fetches
  returned : ∀ i reading jwks, s.calls i = some ⟨reading, .done (.ok jwks)⟩ →
    Sound cfg s.fetches i reading jwks

lemma consistent_initial (now : ℚ) : Consistent cfg (initial now) where
  holder i := by
    rintro ⟨reading, stamp, h⟩
    cases h
  cached h := by cases h
  returned i reading jwks h := by cases h

lemma Sound.mono {fetches fetches' : List FetchedKeys} {task : ℕ} {reading : ℚ} {jwks : Json}
    (h : Sound cfg fetches task reading jwks) (hsub : ∀ f ∈ fetches, f ∈ fetches') :
    Sound cfg fetches' task reading jwks := by
  rcases h with ⟨stamp, h⟩ | ⟨j, stamp, h, hlt⟩
  · exact .inl ⟨stamp, hsub _ h⟩
  · exact .inr ⟨j, stamp, hsub _ h, hlt⟩

lemma subset_noteFetch (task : ℕ) (stamp : ℚ) (r : Fetched) :
    ∀ f ∈ s.fetches, f ∈ s.noteFetch task stamp r := by
  intro f hf
  unfold noteFetch
  split
  · exact List.mem_cons_of_mem _ hf
  · exact hf

/-- The calls after a step are those before it, but for the one that was resumed. -/
lemma calls_cases {task i : ℕ} {call call' : JwksCall}
    (hcalls : s'.calls = Function.update s.calls task (some call)) (h : s'.calls i = some call') :
    (i = task ∧ call' = call) ∨ (i ≠ task ∧ s.calls i = some call') := by
  rw [hcalls] at h
  rcases update_some_cases h with ⟨hi, hsame⟩ | hother
  · exact .inl ⟨hi, hsame.symm⟩
  · exact .inr hother

/-- A call that is fetching after a step was so before it, or is the one that was resumed. -/
lemma fetching_cases {task i : ℕ} {call : JwksCall}
    (hcalls : s'.calls = Function.update s.calls task (some call)) (h : s'.Fetching i) :
    (i = task ∧ ∃ stamp, call.phase = .fetching stamp) ∨ (i ≠ task ∧ s.Fetching i) := by
  obtain ⟨reading, stamp, hcall⟩ := h
  rcases calls_cases hcalls hcall with ⟨hi, rfl⟩ | ⟨hi, hcall⟩
  · exact .inl ⟨hi, stamp, rfl⟩
  · exact .inr ⟨hi, reading, stamp, hcall⟩

/-- Only one call is fetching. -/
lemma Consistent.oneFetch (hs : Consistent cfg s) {i j : ℕ} (hi : s.Fetching i)
    (hj : s.Fetching j) : i = j := by
  have hholder := hs.holder i hi
  rw [hs.holder j hj, Option.some.injEq] at hholder
  exact hholder.symm

/-- When the call that fetches goes on, no other is fetching. -/
lemma Consistent.not_fetching (hs : Consistent cfg s) {task i : ℕ} {reading stamp : ℚ}
    (hcall : s.calls task = some ⟨reading, .fetching stamp⟩) {call : JwksCall}
    (hcalls : s'.calls = Function.update s.calls task (some call))
    (hphase : ∀ stamp, call.phase ≠ .fetching stamp) : ¬ s'.Fetching i := by
  intro hi
  rcases fetching_cases hcalls hi with ⟨-, stamp, hstamp⟩ | ⟨hne, hi⟩
  · exact hphase stamp hstamp
  · exact hne (hs.oneFetch hi ⟨reading, stamp, hcall⟩)

/-- When a call goes on that is not going to fetch, whoever fetches holds the lock still. -/
lemma Consistent.holder_put (hs : Consistent cfg s) {task i : ℕ} {call : JwksCall}
    (hcalls : s'.calls = Function.update s.calls task (some call))
    (hphase : ∀ stamp, call.phase ≠ .fetching stamp) (hi : s'.Fetching i) :
    s.holder = some i := by
  rcases fetching_cases hcalls hi with ⟨-, stamp, hstamp⟩ | ⟨-, hi⟩
  · exact absurd hstamp (hphase stamp)
  · exact hs.holder i hi

/-- A call that returns the cached key set returns one that was fetched and is fresh. -/
lemma Consistent.sound_of_fresh (hs : Consistent cfg s) {time : ℚ} {jwks : Json}
    (h : cachedJwks cfg time s.cache = some jwks) (task : ℕ) :
    Sound cfg s.fetches task time jwks := by
  obtain ⟨⟨htruthy, hlt⟩, rfl⟩ := cachedJwks_eq_some_iff.mp h
  obtain ⟨j, hj⟩ := hs.cached htruthy
  exact .inr ⟨j, s.cache.ts, hj, hlt⟩

lemma consistent_step (hs : Consistent cfg s) (h : Moves cfg s e s') : Consistent cfg s' := by
  -- what the other calls have returned stays as it was
  have hothers : ∀ {call : JwksCall} {fetches : List FetchedKeys},
      (∀ f ∈ s.fetches, f ∈ fetches) →
      (∀ jwks, call.phase = .done (.ok jwks) → Sound cfg fetches e.task call.reading jwks) →
      ∀ i reading jwks, (s.put e.time e.task call).calls i = some ⟨reading, .done (.ok jwks)⟩ →
        Sound cfg fetches i reading jwks := by
    intro call fetches hsub hown i reading jwks hcall
    rcases calls_cases rfl hcall with ⟨rfl, rfl⟩ | ⟨-, hcall⟩
    · exact hown jwks rfl
    · exact (hs.returned i reading jwks hcall).mono hsub
  cases h with
  | @served jwks hcall hfresh =>
    refine ⟨fun i hi => hs.holder_put rfl (by simp) hi, hs.cached, hothers (fun f hf => hf) ?_⟩
    intro jwks' hjwks'
    cases hjwks'
    exact hs.sound_of_fresh hfresh e.task
  | waits hcall =>
    exact ⟨fun i hi => hs.holder_put rfl (by simp) hi, hs.cached,
      hothers (fun f hf => hf) (by simp)⟩
  | fetches hcall hresume hfree hstale =>
    refine ⟨fun i hi => ?_, hs.cached, hothers (fun f hf => hf) (by simp)⟩
    rcases fetching_cases rfl hi with ⟨rfl, -⟩ | ⟨-, hi⟩
    · rfl
    · have hholder := hs.holder i hi
      rw [hfree] at hholder
      cases hholder
  | @fetched reading stamp r hcall hresume =>
    have hsub : ∀ f ∈ s.fetches, f ∈ s.noteFetch e.task stamp r := subset_noteFetch e.task stamp r
    refine ⟨fun i hi => absurd hi (hs.not_fetching hcall rfl (by simp)), ?_, hothers hsub ?_⟩
    · intro htruthy
      rcases jwksFetched_fst stamp s.cache r with ⟨data, rfl, hr⟩ | ⟨err, hr⟩
      · exact ⟨e.task, List.mem_cons_self⟩
      · simp only [hr] at htruthy ⊢
        obtain ⟨j, hj⟩ := hs.cached htruthy
        exact ⟨j, hsub _ hj⟩
    · intro jwks hjwks
      rcases jwksFetched_fst stamp s.cache r with ⟨data, rfl, hr⟩ | ⟨err, hr⟩
      · obtain rfl : data = jwks := by simpa [hr] using hjwks
        exact .inl ⟨stamp, List.mem_cons_self⟩
      · simp [hr] at hjwks
  | cancelFetch hcall =>
    exact ⟨fun i hi => absurd hi (hs.not_fetching hcall rfl (by simp)), hs.cached,
      hothers (fun f hf => hf) (by simp)⟩
  | cancelWait hcall =>
    exact ⟨fun i hi => hs.holder_put rfl (by simp) hi, hs.cached,
      hothers (fun f hf => hf) (by simp)⟩

/-- The invariant of every run. -/
lemma reached_consistent {now : ℚ} {events : List JwksEvent}
    (hrun : Run (step cfg) (fun _ _ => True) (initial now) events s) : Consistent cfg s :=
  hrun.invariant (fun _ _ _ hs _ h => consistent_step hs (moves_of_step h)) (consistent_initial now)

/-- What one step does to the cached key set and to the calls that fetch. -/
lemma fetchesSoundly_step (hs : Consistent cfg s) (h : Moves cfg s e s') :
    FetchesSoundly cfg s e s' := by
  have hs' := consistent_step hs h
  refine ⟨fun i j hi hj => hs'.oneFetch hi hj, ?_, ?_, hs'.returned⟩
  · intro i hi hnot
    cases h with
    | fetches hcall hresume hfree hstale => exact hstale
    | fetched hcall => exact absurd hi (hs.not_fetching hcall rfl (by simp))
    | cancelFetch hcall => exact absurd hi (hs.not_fetching hcall rfl (by simp))
    | served | waits | cancelWait =>
      rcases fetching_cases rfl hi with ⟨-, stamp, hstamp⟩ | ⟨-, hi⟩
      · cases hstamp
      · exact absurd hi hnot
  · intro hfetched
    cases h with
    | @fetched reading stamp r hcall hresume =>
      rcases jwksFetched_fst stamp s.cache r with ⟨data, rfl, -⟩ | ⟨err, hr⟩
      · exact absurd hresume (hfetched data)
      · simp [hr]
    | served | waits | fetches | cancelFetch | cancelWait => rfl

/-- **Fetches of the key set are single and sound.**  In every interleaving of calls, clock
readings, ends of fetches and cancellations: at most one call fetches, none begins to fetch
while a fresh key set is cached, a fetch that fails or is cancelled leaves the cached one
as it was, and every key set that is returned was fetched by the call or is fresh. -/
theorem fetchesSoundly_of_run {now : ℚ} {events : List JwksEvent}
    (hrun : Run (step cfg) (fun _ _ => True) (initial now) events s)
    (h : step cfg s e = some s') : FetchesSoundly cfg s e s' :=
  fetchesSoundly_step (reached_consistent hrun) (moves_of_step h)

/-- The second call waits for the lock while the first one fetches. -/
def waitingRun (jwks : Json) : List JwksEvent :=
  [⟨10, 0, .start⟩, ⟨10, 0, .acquire⟩, ⟨11, 1, .start⟩, ⟨12, 0, .fetched (.ok (.ok jwks))⟩]

/-- A key set. -/
def oneKey : Json := .obj [("keys", .arr [.obj [("kid", .str "test")]])]

theorem fetchesSoundly_of_waitingRun :
    ∃ s s', Run (step .default) (fun _ _ => True) (initial 10) (waitingRun oneKey) s ∧
      step .default s ⟨13, 1, .acquire⟩ = some s' ∧
      FetchesSoundly .default s ⟨13, 1, .acquire⟩ s' := by
  obtain ⟨s, s', hrun, hstep, -⟩ : ∃ s s', Run (step .default) (fun _ _ => True) (initial 10)
      (waitingRun oneKey) s ∧ step .default s ⟨13, 1, .acquire⟩ = some s' ∧ true = true :=
    Run.of_observed_step (p := fun _ _ => true) (by decide +kernel)
  exact ⟨s, s', hrun, hstep, fetchesSoundly_of_run hrun hstep⟩

end KeySets

end ImageDescriptor.Auth
