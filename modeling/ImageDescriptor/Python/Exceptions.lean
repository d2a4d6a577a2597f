/-
# Exceptions

The `except` clauses of the service tell exceptions apart by their class.  An exception is
modelled by its most specific class among those that some clause, some retry predicate or
some exception handler of the service names, together with the text that `str` makes of
it.  `CancelledError` is not among the classes: it derives from `BaseException` alone, so
that no clause of the service catches it, and a coroutine that ends by it has an ending of
its own.
-/
import Mathlib.Data.List.Basic

namespace ImageDescriptor

/-- The exception classes that the service tells apart.  A class that it does not name is
represented by the nearest of its ancestors in this list. -/
inductive ExcClass
  | exception
  | osError
  | connectionError
  | timeoutError
  | gaierror
  | overflowError
  | runtimeError
  | typeError
  | attributeError
  | keyError
  | valueError
  | jsonDecodeError
  | validationError
  | binasciiError
  /-- `httpx.HTTPError`, the root of the errors of the HTTP client -/
  | httpError
  | httpConnectError
  | httpConnectTimeout
  | httpReadTimeout
  | httpWriteTimeout
  | httpPoolTimeout
  | httpRemoteProtocolError
  /-- `httpx.HTTPStatusError`, with `exc.response.status_code` -/
  | httpStatusError (statusCode : ℕ)
  /-- `google.genai.errors.ClientError` -/
  | geminiClientError
  | databaseError
  | descriptorError
deriving DecidableEq, Repr

namespace ExcClass

/-- The part of the `__mro__` of a class that lies in the list, the class itself first. -/
def mro : ExcClass → List ExcClass
  | exception => [exception]
  | osError => [osError, exception]
  | connectionError => [connectionError, osError, exception]
  | timeoutError => [timeoutError, osError, exception]
  | gaierror => [gaierror, osError, exception]
  | overflowError => [overflowError, exception]
  | runtimeError => [runtimeError, exception]
  | typeError => [typeError, exception]
  | attributeError => [attributeError, exception]
  | keyError => [keyError, exception]
  | valueError => [valueError, exception]
  | jsonDecodeError => [jsonDecodeError, valueError, exception]
  | validationError => [validationError, valueError, exception]
  | binasciiError => [binasciiError, valueError, exception]
  | httpError => [httpError, exception]
  | httpConnectError => [httpConnectError, httpError, exception]
  | httpConnectTimeout => [httpConnectTimeout, httpError, exception]
  | httpReadTimeout => [httpReadTimeout, httpError, exception]
  | httpWriteTimeout => [httpWriteTimeout, httpError, exception]
  | httpPoolTimeout => [httpPoolTimeout, httpError, exception]
  | httpRemoteProtocolError => [httpRemoteProtocolError, httpError, exception]
  | httpStatusError c => [httpStatusError c, httpError, exception]
  | geminiClientError => [geminiClientError, exception]
  | databaseError => [databaseError, exception]
  | descriptorError => [descriptorError, exception]

end ExcClass

/-- A raised exception: its class and the text `str(e)`. -/
structure Exc where
  cls : ExcClass
  message : String
deriving DecidableEq, Repr

namespace Exc

/-- `isinstance(e, c)`. -/
def isinstance (e : Exc) (c : ExcClass) : Bool := decide (c ∈ e.cls.mro)

/-- A timeout is not a lost connection: both are `OSError`s, neither is the other. -/
lemma not_connectionError_of_timeoutError {e : Exc} (h : e.isinstance .timeoutError = true) :
    e.isinstance .connectionError = false := by
  rcases e with ⟨c, m⟩
  cases c <;> simp [isinstance, ExcClass.mro] at h ⊢

lemma not_timeoutError_of_connectionError {e : Exc} (h : e.isinstance .connectionError = true) :
    e.isinstance .timeoutError = false := by
  by_contra ht
  rw [not_connectionError_of_timeoutError (by simpa using ht)] at h
  exact Bool.false_ne_true h

end Exc

/-- A computation whose first part may raise. -/
lemma bind_eq_ok {α β : Type} {x : Except Exc α} {f : α → Except Exc β} {b : β} :
    x >>= f = .ok b ↔ ∃ a, x = .ok a ∧ f a = .ok b := by
  rcases x with e | a <;> simp [bind, Except.bind]

/-- A computation whose last part cannot raise. -/
lemma map_eq_ok {α β : Type} {x : Except Exc α} {f : α → β} {b : β} :
    x.map f = .ok b ↔ ∃ a, x = .ok a ∧ f a = b := by
  rcases x with e | a <;> simp [Except.map]

lemma map_eq_error {α β : Type} {x : Except Exc α} {f : α → β} {e : Exc} :
    x.map f = .error e ↔ x = .error e := by
  rcases x with e | a <;> simp [Except.map]

/-- How a coroutine that was awaited can end: with a value, with an exception, or because
its task was cancelled. -/
inductive Ending (α : Type)
  | value (a : α)
  | raised (e : Exc)
  | cancelled
deriving DecidableEq, Repr

namespace Ending

/-- The ending of a coroutine that was left to run. -/
def ofExcept {α : Type} : Except Exc α → Ending α
  | .ok a => .value a
  | .error e => .raised e

/-- What is computed from the value of an awaited coroutine. -/
def map {α β : Type} (f : α → β) : Ending α → Ending β
  | .value a => .value (f a)
  | .raised e => .raised e
  | .cancelled => .cancelled

lemma map_eq_value {α β : Type} {f : α → β} {r : Ending α} {b : β} (h : r.map f = .value b) :
    ∃ a, r = .value a ∧ f a = b := by
  cases r with
  | value a => exact ⟨a, rfl, Ending.value.inj h⟩
  | raised | cancelled => cases h

end Ending

end ImageDescriptor
