/-
# The rate of the requests to Nominatim

The usage policy of Nominatim allows one request per second.  `geocode` holds a lock around
its fetch, waits until a second has passed since `_last_request_time`, and sets that time
when the fetch has returned.  A fetch that raises or is cancelled leaves the time as it
was, although it has sent requests.  In the runs in which no call that has sent a request
ends in this way, any two requests start at least a second apart, over all calls and all
their attempts.
-/
import Mathlib.Tactic.Linarith
import ImageDescriptor.Lib.Run
import ImageDescriptor.Utils.Retry

namespace ImageDescriptor.NominatimRate

open Lib

/-- Where a call of `geocode` stands that has missed the cache: it waits for the lock; it
holds the lock and makes attempt `n` as soon as a time has come, with `sent` telling whether
an earlier attempt has sent a request; the request of attempt `n` is on its way; or the
call has left the lock. -/
inductive Phase
  | waiting
  | ready (n : ℕ) (due : ℚ) (sent : Bool)
  | inFlight (n : ℕ)
  | fetched
  | failed
  | cancelled
deriving DecidableEq, Repr

/-- The state of the process.  `requests` are the times at which requests were sent, the
last one first. -/
structure State where
  lastRequestTime : ℚ
  holder : Option ℕ
  calls : ℕ → Option Phase
  now : ℚ
  requests : List ℚ

/-- What happens to a call: it begins, gets the lock, sends a request, an attempt ends, or
the call is cancelled. -/
inductive Action
  | start
  | acquire
  | send
  | ends (r : Except Exc Unit)
  | cancel

/-- An action of a call at a clock reading. -/
structure Event where
  time : ℚ
  task : ℕ
  action : Action

namespace State

/-- The module when it has been loaded. -/
def initial : State := ⟨0, none, fun _ => none, 0, []⟩

variable (s : State)

def put (t : ℚ) (i : ℕ) (p : Phase) : State :=
  { s with calls := Function.update s.calls i (some p), now := t }

/-- `max(0, 1.0 - (now - _last_request_time))`. -/
def wait (t : ℚ) : ℚ := max 0 (1 - (t - s.lastRequestTime))

/-- The end of attempt `n`, of which it is known whether a request has been sent. -/
def attemptEnds (t : ℚ) (i n : ℕ) (sent : Bool) : Except Exc Unit → State
  -- `_last_request_time` is set here and nowhere else
  | .ok () => { s.put t i .fetched with lastRequestTime := t, holder := none }
  | .error e =>
    if isRetryable e && decide (n < maxAttempts) then
      s.put t i (.ready (n + 1) (t + retryHttpWait n) sent)
    else { s.put t i .failed with holder := none }

/-- One event; `none` when it cannot happen. -/
def step (s : State) (e : Event) : Option State :=
  if e.time < s.now then none
  else
    match s.calls e.task, e.action with
    | none, .start => some (s.put e.time e.task .waiting)
    | some .waiting, .acquire =>
      if s.holder = none then
        some { s.put e.time e.task (.ready 1 (e.time + s.wait e.time) false) with
          holder := some e.task }
      else none
    | some (.ready n due _), .send =>
      if due ≤ e.time then
        some { s.put e.time e.task (.inFlight n) with requests := e.time :: s.requests }
      else none
    | some (.inFlight n), .ends r => some (s.attemptEnds e.time e.task n true r)
    | some (.ready n _ sent), .ends (.error x) =>
      -- the attempt fails before it has sent a request
      some (s.attemptEnds e.time e.task n sent (.error x))
    | some .waiting, .cancel => some (s.put e.time e.task .cancelled)
    | some (.ready _ _ _), .cancel => some { s.put e.time e.task .cancelled with holder := none }
    | some (.inFlight _), .cancel => some { s.put e.time e.task .cancelled with holder := none }
    | _, _ => none

/-- A call that has sent a request and has not left the lock. -/
def hasSent : Phase → Bool
  | .ready _ _ sent => sent
  | .inFlight _ => true
  | _ => false

/-- The attempt is not repeated after `e`. -/
def IsLast (n : ℕ) (e : Exc) : Prop := ¬ (isRetryable e = true ∧ n < maxAttempts)

/-- The condition on a step: no call that has sent a request is cancelled or fails for
good. -/
def KeepsTime (s : State) (e : Event) : Prop :=
  match s.calls e.task, e.action with
  | some p, .cancel => hasSent p = false
  | some (.inFlight n), .ends (.error x) => ¬ IsLast n x
  | some (.ready n _ true), .ends (.error x) => ¬ IsLast n x
  | _, _ => True

/-- Any two requests start at least a second apart. -/
def Spaced (s : State) : Prop := s.requests.Pairwise fun later earlier => earlier + 1 ≤ later

/-- The call holds the lock. -/
def active : Phase → Bool
  | .ready .. | .inFlight _ => true
  | _ => false

/-- What the requests sent so far owe to the call that holds the lock. -/
def HolderSpaced (requests : List ℚ) (lastRequestTime : ℚ) : Phase → Prop
  | .ready _ due sent =>
    (∀ x ∈ requests, x + 1 ≤ due) ∧ (sent = false → ∀ x ∈ requests, x ≤ lastRequestTime)
  | _ => True

/-- The invariant: the requests are spaced and in the past; while the lock is free, none of
them is later than `_last_request_time`; the calls that have got the lock and not left it
are the holder alone, and its next request is due a second after all others. -/
structure Inv (s : State) : Prop where
  spaced : Spaced s
  past : ∀ x ∈ s.requests, x ≤ s.now
  free : s.holder = none → ∀ x ∈ s.requests, x ≤ s.lastRequestTime
  held : ∀ i p, s.calls i = some p → active p = true →
    s.holder = some i ∧ HolderSpaced s.requests s.lastRequestTime p

/-! ### The three kinds of steps -/

variable {s : State} {t : ℚ} {i : ℕ} {p : Phase}

lemma inv_initial : Inv initial where
  spaced := List.Pairwise.nil
  past x hx := by cases hx
  free _ x hx := by cases hx
  held i p h := by cases h

/-- A call outside of the lock moves on. -/
lemma Inv.idle (hs : Inv s) (ht : s.now ≤ t) (hp : active p = false) : Inv (s.put t i p) where
  spaced := hs.spaced
  past x hx := (hs.past x hx).trans ht
  free := hs.free
  held j q hj hq := by
    rcases update_some_cases hj with ⟨rfl, rfl⟩ | ⟨hij, hold⟩
    · rw [hp] at hq
      cases hq
    · exact hs.held j q hold hq

/-- A call leaves the lock. -/
lemma Inv.release (hs : Inv s) (ht : s.now ≤ t) (hi : s.holder = some i) (hp : active p = false)
    {last : ℚ} (hlast : ∀ x ∈ s.requests, x ≤ last) :
    Inv { s.put t i p with lastRequestTime := last, holder := none } where
  spaced := hs.spaced
  past x hx := (hs.past x hx).trans ht
  free _ := hlast
  held j q hj hq := by
    rcases update_some_cases hj with ⟨rfl, rfl⟩ | ⟨hij, hold⟩
    · rw [hp] at hq
      cases hq
    · obtain ⟨hholder, -⟩ := hs.held j q hold hq
      rw [hi, Option.some.injEq] at hholder
      exact absurd hholder.symm hij

/-- A call gets the lock or goes on in it. -/
lemma Inv.hold (hs : Inv s) (ht : s.now ≤ t) (hi : s.holder = none ∨ s.holder = some i)
    (hp : HolderSpaced s.requests s.lastRequestTime p) :
    Inv { s.put t i p with holder := some i } where
  spaced := hs.spaced
  past x hx := (hs.past x hx).trans ht
  free h := by cases h
  held j q hj hq := by
    rcases update_some_cases hj with ⟨rfl, rfl⟩ | ⟨hij, hold⟩
    · exact ⟨rfl, hp⟩
    · obtain ⟨hholder, -⟩ := hs.held j q hold hq
      rcases hi with hi | hi
      · rw [hi] at hholder
        cases hholder
      · rw [hi, Option.some.injEq] at hholder
        exact absurd hholder.symm hij

/-- The holder sends a request. -/
lemma Inv.send (hs : Inv s) (ht : s.now ≤ t) {n : ℕ} {due : ℚ} {sent : Bool}
    (hcall : s.calls i = some (.ready n due sent)) (hdue : due ≤ t) :
    Inv { s.put t i (.inFlight n) with requests := t :: s.requests } := by
  obtain ⟨hholder, hspaced, -⟩ := hs.held i _ hcall rfl
  refine ⟨?_, ?_, ?_, ?_⟩
  · refine List.Pairwise.cons ?_ hs.spaced
    intro x hx
    exact (hspaced x hx).trans hdue
  · intro x hx
    rcases List.mem_cons.mp hx with rfl | hx
    · exact le_rfl
    · exact (hs.past x hx).trans ht
  · intro h
    have hnone : s.holder = none := h
    rw [hholder] at hnone
    cases hnone
  · intro j q hj hq
    rcases update_some_cases hj with ⟨rfl, rfl⟩ | ⟨hij, hold⟩
    · exact ⟨hholder, trivial⟩
    · obtain ⟨hj', -⟩ := hs.held j q hold hq
      rw [hholder, Option.some.injEq] at hj'
      exact absurd hj'.symm hij

/-- An attempt ends with an exception after which another one is made. -/
lemma Inv.retry (hs : Inv s) (ht : s.now ≤ t) (hi : s.holder = some i) {n : ℕ} {sent : Bool}
    (hsent : sent = false → ∀ x ∈ s.requests, x ≤ s.lastRequestTime) :
    Inv (s.put t i (.ready (n + 1) (t + retryHttpWait n) sent)) := by
  have hspaced : ∀ x ∈ s.requests, x + 1 ≤ t + retryHttpWait n := by
    intro x hx
    have hpast : x ≤ t := (hs.past x hx).trans ht
    have hwait : 1 ≤ retryHttpWait n := one_le_retryHttpWait n
    linarith
  have hnew := hs.hold (p := .ready (n + 1) (t + retryHttpWait n) sent) ht (.inr hi)
    ⟨hspaced, hsent⟩
  simpa [put, hi] using hnew

/-! ### One step and a whole run -/

variable {s' : State} {e : Event}

/-- The time that a call waits before its first attempt ends a second after the last
request at the earliest. -/
lemma lastRequestTime_add_one_le (s : State) (t : ℚ) : s.lastRequestTime + 1 ≤ t + s.wait t := by
  have hwait : 1 - (t - s.lastRequestTime) ≤ s.wait t := le_max_right _ _
  linarith

/-- The end of an attempt, when a request of the call is recorded or none was sent. -/
lemma inv_attemptEnds (hs : Inv s) (ht : s.now ≤ t) (hi : s.holder = some i) {n : ℕ}
    {sent : Bool} {r : Except Exc Unit}
    (hsent : sent = false → ∀ x ∈ s.requests, x ≤ s.lastRequestTime)
    (hlast : sent = true → ∀ x, r = .error x → ¬ IsLast n x) :
    Inv (s.attemptEnds t i n sent r) := by
  rcases r with x | ⟨⟩
  · simp only [attemptEnds]
    split
    · exact hs.retry ht hi hsent
    · rename_i hgiveup
      have hgiven : IsLast n x := by simpa [IsLast] using hgiveup
      cases sent with
      | true => exact absurd hgiven (hlast rfl x rfl)
      | false => exact hs.release ht hi rfl (hsent rfl)
  · exact hs.release ht hi rfl fun x hx => (hs.past x hx).trans ht

/-- A call gets the lock while it is free. -/
lemma inv_acquire (hs : Inv s) (ht : s.now ≤ t) (hfree : s.holder = none) {n : ℕ} :
    Inv { s.put t i (.ready n (t + s.wait t) false) with holder := some i } := by
  have hlast : ∀ x ∈ s.requests, x ≤ s.lastRequestTime := hs.free hfree
  have hspaced : ∀ x ∈ s.requests, x + 1 ≤ t + s.wait t := by
    intro x hx
    have hx1 : x ≤ s.lastRequestTime := hlast x hx
    have hdue : s.lastRequestTime + 1 ≤ t + s.wait t := lastRequestTime_add_one_le s t
    linarith
  exact hs.hold ht (.inl hfree) ⟨hspaced, fun _ => hlast⟩

lemma inv_step (hs : Inv s) (hkeeps : KeepsTime s e) (h : step s e = some s') : Inv s' := by
  unfold step at h
  split at h
  · cases h
  · rename_i hlt
    have ht : s.now ≤ e.time := not_lt.mp hlt
    split at h
    · cases h
      exact hs.idle ht rfl
    · -- the call gets the lock
      split at h
      · rename_i hfree
        cases h
        exact inv_acquire hs ht hfree
      · cases h
    · rename_i n due sent hcall _
      split at h
      · rename_i hdue
        cases h
        exact hs.send ht hcall hdue
      · cases h
    · rename_i n r hcall haction
      cases h
      obtain ⟨hholder, -⟩ := hs.held e.task _ hcall rfl
      refine inv_attemptEnds hs ht hholder ?_ ?_
      · intro hsent
        cases hsent
      · intro _ x hr
        subst hr
        simpa only [KeepsTime, hcall, haction] using hkeeps
    · rename_i n due sent x hcall haction
      cases h
      obtain ⟨hholder, -, hsent⟩ := hs.held e.task _ hcall rfl
      refine inv_attemptEnds hs ht hholder hsent ?_
      intro htrue y hr
      obtain rfl : x = y := by simpa using hr
      subst htrue
      simpa only [KeepsTime, hcall, haction] using hkeeps
    · cases h
      exact hs.idle ht rfl
    · rename_i n due sent hcall haction
      cases h
      obtain ⟨hholder, -, hsent⟩ := hs.held e.task _ hcall rfl
      have hfalse : sent = false := by simpa [KeepsTime, hcall, haction, hasSent] using hkeeps
      exact hs.release ht hholder rfl (hsent hfalse)
    · -- a request is on its way: the condition excludes the cancellation
      rename_i n hcall haction
      simp [KeepsTime, hcall, haction, hasSent] at hkeeps
    · cases h

/-- **The requests to Nominatim are spaced in every run that keeps the time.**  When no call
that has sent a request is cancelled or fails for good, any two requests of the process
start at least a second apart. -/
theorem spaced_of_run {es : List Event} (hrun : Run step KeepsTime initial es s) : Spaced s := by
  have hs : Inv s := hrun.invariant (fun _ _ _ hs hkeeps h => inv_step hs hkeeps h) inv_initial
  exact hs.spaced

/-! ### Two calls -/

/-- A call whose first attempt is made at `t` and ends with `r` a tenth of a second later. -/
def callAt (t : ℚ) (i : ℕ) (r : Except Exc Unit) : List Event :=
  [⟨t, i, .start⟩, ⟨t, i, .acquire⟩, ⟨t, i, .send⟩, ⟨t + 1 / 10, i, .ends r⟩]

instance (s : State) (e : Event) : Decidable (KeepsTime s e) := by
  unfold KeepsTime IsLast
  split <;> infer_instance

theorem spaced_of_two_successes :
    ∃ s, Run step KeepsTime initial
        (callAt 5 0 (.ok ()) ++ [⟨6, 1, .start⟩, ⟨6, 1, .acquire⟩, ⟨61 / 10, 1, .send⟩]) s ∧
      s.requests = [61 / 10, 5] ∧ Spaced s := by
  obtain ⟨s, hrun, hs⟩ : ∃ s, Run step KeepsTime initial
      (callAt 5 0 (.ok ()) ++ [⟨6, 1, .start⟩, ⟨6, 1, .acquire⟩, ⟨61 / 10, 1, .send⟩]) s ∧
      decide (s.requests = [61 / 10, 5]) = true :=
    Run.of_observed (by decide +kernel)
  exact ⟨s, hrun, by simpa using hs, spaced_of_run hrun⟩

/-- The answer to a point that Nominatim does not know. -/
def notFound : Exc := ⟨.httpStatusError 404, "Client error 404 Not Found"⟩

theorem failed_call_leaves_no_gap :
    ∃ s, Run step (fun _ _ => True) initial
        (callAt 5 0 (.error notFound) ++ callAt (51 / 10) 1 (.ok ())) s ∧ ¬ Spaced s := by
  obtain ⟨s, hrun, hs⟩ : ∃ s, Run step (fun _ _ => True) initial
      (callAt 5 0 (.error notFound) ++ callAt (51 / 10) 1 (.ok ())) s ∧
      decide (s.requests = [51 / 10, 5]) = true :=
    Run.of_observed (by decide +kernel)
  refine ⟨s, hrun, ?_⟩
  intro hspaced
  rw [Spaced, of_decide_eq_true hs] at hspaced
  have hgap : (5 : ℚ) + 1 ≤ 51 / 10 := by simpa using hspaced
  exact absurd hgap (by norm_num)

end State

end ImageDescriptor.NominatimRate
