/-
# The circuit breaker

`CircuitBreaker` counts the failures that are recorded one after the other and refuses the
calls of its service for a while when there have been enough of them.  Its methods hold
the breaker's lock without awaiting anything, so that each of them is one step.
-/
import Mathlib.Algebra.Order.Field.Rat
import ImageDescriptor.Python.Numbers

namespace ImageDescriptor

/-- The fields of a breaker, with the defaults of its constructor, and the value of the
gauge `circuit_breaker_state` (0 closed, 1 open, 2 half-open). -/
structure CircuitBreaker where
  failureThreshold : ℕ := 5
  cooldownSec : ℚ := 30
  failureCount : ℕ := 0
  openUntil : ℚ := 0
  gauge : ℕ := 0
deriving DecidableEq, Repr

/-- The values `"open"` and `"closed"` of the item `state` of a status. -/
inductive BreakerState
  | opened
  | closed
deriving DecidableEq, Repr

/-- What `get_status` returns. -/
structure BreakerStatus where
  name : String
  state : BreakerState
  failureCount : ℕ
  cooldownRemaining : ℚ
deriving DecidableEq, Repr

namespace CircuitBreaker

variable (cb : CircuitBreaker) (now : ℚ)

/-- `_open_until` is set and in the future. -/
def Blocks : Prop := cb.openUntil ≠ 0 ∧ now < cb.openUntil

/-- `_open_until` is set and has passed: the next call of `is_open` resets the breaker. -/
def HalfOpens : Prop := cb.openUntil ≠ 0 ∧ cb.openUntil ≤ now

instance : Decidable (cb.Blocks now) := inferInstanceAs (Decidable (_ ∧ _))

instance : Decidable (cb.HalfOpens now) := inferInstanceAs (Decidable (_ ∧ _))

/-- `is_open`, with the breaker after it. -/
def isOpen : CircuitBreaker × Bool :=
  if cb.Blocks now then (cb, true)
  else if cb.HalfOpens now then
    -- half-open: the failures counted so far are forgotten
    ({ cb with openUntil := 0, failureCount := 0, gauge := 2 }, false)
  else (cb, false)

/-- `record_failure`. -/
def recordFailure : CircuitBreaker :=
  let count := cb.failureCount + 1
  if cb.failureThreshold ≤ count then
    { cb with failureCount := count, openUntil := now + cb.cooldownSec, gauge := 1 }
  else { cb with failureCount := count }

/-- `record_success`. -/
def recordSuccess : CircuitBreaker := { cb with failureCount := 0, openUntil := 0, gauge := 0 }

/-- `get_status` of the breaker `name`, with the breaker after it; `later` is the clock reading
from which the rest of the cooldown is counted.  The breaker is asked as by a call. -/
def getStatus (name : String) (later : ℚ) : CircuitBreaker × BreakerStatus :=
  let asked := cb.isOpen now
  let remaining := if asked.2 then max 0 (asked.1.openUntil - later) else 0
  (asked.1,
    { name := name
      state := if asked.2 then .opened else .closed
      failureCount := asked.1.failureCount
      cooldownRemaining := roundHalfEven (remaining * 10) / 10 })

variable {cb now}

lemma isOpen_of_blocks (h : cb.Blocks now) : cb.isOpen now = (cb, true) := by
  simp [isOpen, h]

lemma isOpen_of_halfOpens (h : cb.HalfOpens now) : cb.isOpen now =
    ({ cb with openUntil := 0, failureCount := 0, gauge := 2 }, false) := by
  have hb : ¬ cb.Blocks now := fun hb => absurd hb.2 (not_lt.mpr h.2)
  simp [isOpen, hb, h]

lemma isOpen_of_closed (h1 : ¬ cb.Blocks now) (h2 : ¬ cb.HalfOpens now) :
    cb.isOpen now = (cb, false) := by
  simp [isOpen, h1, h2]

/-- What the status says is what a call would have been told. -/
@[simp] lemma getStatus_fst (name : String) (later : ℚ) :
    (cb.getStatus now name later).1 = (cb.isOpen now).1 := rfl

lemma getStatus_opened_iff (name : String) (later : ℚ) :
    (cb.getStatus now name later).2.state = .opened ↔ (cb.isOpen now).2 = true := by
  simp [getStatus]

/-- The failure that reaches the threshold opens the breaker. -/
lemma recordFailure_of_reached (h : cb.failureThreshold ≤ cb.failureCount + 1) :
    cb.recordFailure now =
      { cb with
        failureCount := cb.failureCount + 1
        openUntil := now + cb.cooldownSec
        gauge := 1 } :=
  if_pos h

/-- Below the threshold nothing but the counter moves. -/
lemma recordFailure_of_below (h : ¬ cb.failureThreshold ≤ cb.failureCount + 1) :
    cb.recordFailure now = { cb with failureCount := cb.failureCount + 1 } :=
  if_neg h

@[simp] lemma recordFailure_failureThreshold :
    (cb.recordFailure now).failureThreshold = cb.failureThreshold := by
  unfold recordFailure
  dsimp only
  split <;> rfl

@[simp] lemma recordFailure_cooldownSec :
    (cb.recordFailure now).cooldownSec = cb.cooldownSec := by
  unfold recordFailure
  dsimp only
  split <;> rfl

@[simp] lemma recordFailure_failureCount :
    (cb.recordFailure now).failureCount = cb.failureCount + 1 := by
  unfold recordFailure
  dsimp only
  split <;> rfl

lemma recordFailure_openUntil (h : cb.failureThreshold ≤ cb.failureCount + 1) :
    (cb.recordFailure now).openUntil = now + cb.cooldownSec := by
  rw [recordFailure_of_reached h]

/-- A recorded failure leaves `_open_until` alone or sets it. -/
lemma recordFailure_openUntil_cases : (cb.recordFailure now).openUntil = cb.openUntil ∨
    (cb.recordFailure now).openUntil = now + cb.cooldownSec := by
  by_cases h : cb.failureThreshold ≤ cb.failureCount + 1
  · exact .inr (recordFailure_openUntil h)
  · left
    rw [recordFailure_of_below h]

end CircuitBreaker

end ImageDescriptor
