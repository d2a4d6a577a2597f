/-
# Retries

The two decorators of `app/utils/retry.py`.  Both make at most three attempts, wait between
two of them, and raise the exception of the last attempt.
-/
import Mathlib.Algebra.Order.Field.Rat
import ImageDescriptor.Python.Exceptions

namespace ImageDescriptor

/-- `_TRANSIENT_EXCEPTIONS`. -/
def transientExceptions : List ExcClass :=
  [.httpConnectError, .httpConnectTimeout, .httpReadTimeout, .httpWriteTimeout, .httpPoolTimeout,
    .httpRemoteProtocolError]

/-- `_RETRYABLE_STATUS_CODES`. -/
def retryableStatusCodes : List ℕ := [429, 500, 502, 503, 504]

/-- `_is_retryable`. -/
def isRetryable (e : Exc) : Bool :=
  transientExceptions.any e.isinstance ||
    match e.cls with
    | .httpStatusError code => decide (code ∈ retryableStatusCodes)
    | _ => false

/-- `_is_retryable_gemini`. -/
def isRetryableGemini (e : Exc) : Bool := !e.isinstance .geminiClientError

/-- `stop_after_attempt(3)`. -/
def maxAttempts : ℕ := 3

/-- `wait_exponential(multiplier, min, max)` after attempt `n`. -/
def waitExponential (multiplier min max : ℚ) (n : ℕ) : ℚ :=
  Max.max (Max.max 0 min) (Min.min (multiplier * 2 ^ (n - 1)) max)

/-- The wait of `retry_http` after attempt `n`. -/
def retryHttpWait (n : ℕ) : ℚ := waitExponential 1 1 4 n

/-- The attempts from number `n` on, of which `left` may be repeated. -/
def retryFrom {α : Type} (retryable : Exc → Bool) (attempt : ℕ → Except Exc α) (n : ℕ) :
    ℕ → Except Exc α
  | 0 => attempt n
  | left + 1 =>
    match attempt n with
    | .ok a => .ok a
    | .error e => if retryable e then retryFrom retryable attempt (n + 1) left else .error e

/-- `retry_http`, on the ends of the attempts. -/
def retryHttp {α : Type} (attempt : ℕ → Except Exc α) : Except Exc α :=
  retryFrom isRetryable attempt 1 (maxAttempts - 1)

/-- `retry_gemini`, on the ends of the attempts. -/
def retryGemini {α : Type} (attempt : ℕ → Except Exc α) : Except Exc α :=
  retryFrom isRetryableGemini attempt 1 (maxAttempts - 1)

lemma one_le_retryHttpWait (n : ℕ) : 1 ≤ retryHttpWait n :=
  (le_max_right (0 : ℚ) 1).trans (le_max_left _ _)

end ImageDescriptor
