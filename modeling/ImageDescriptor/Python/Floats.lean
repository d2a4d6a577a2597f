/-
# Floats and raw values

A float is a finite number, an infinity or a NaN, with which every comparison is false.
`json.loads` makes infinities and NaNs of a text that has them, so they stand among the raw
values that a request body carries.
-/
import Mathlib.Data.Rat.Defs
import Mathlib.Algebra.Order.Ring.Rat

namespace ImageDescriptor

inductive PyFloat
  | finite (q : ℚ)
  | inf (negative : Bool)
  | nan
deriving DecidableEq

namespace PyFloat

/-- `x <= y`. -/
def le : PyFloat → PyFloat → Bool
  | nan, _ | _, nan => false
  | inf true, _ | _, inf false => true
  | inf false, _ | _, inf true => false
  | finite p, finite q => decide (p ≤ q)

/-- `lo <= x <= hi`. -/
def between (lo : ℚ) (x : PyFloat) (hi : ℚ) : Bool := (finite lo).le x && x.le (finite hi)

@[simp] lemma le_finite (p q : ℚ) : (finite p).le (finite q) = decide (p ≤ q) := rfl

/-- What lies between two numbers is a number. -/
lemma between_eq_true {lo hi : ℚ} {x : PyFloat} :
    between lo x hi = true ↔ ∃ q, x = finite q ∧ lo ≤ q ∧ q ≤ hi := by
  cases x with
  | finite q => simp [between]
  | inf negative => cases negative <;> simp [between, le]
  | nan => simp [between, le]

end PyFloat

/-- A value of a request body that has been decoded. -/
inductive RawValue
  | null
  | bool (b : Bool)
  | int (n : ℤ)
  | float (x : PyFloat)
  | str (s : String)
  | list (xs : List RawValue)
  | dict (items : List (String × RawValue))

namespace RawValue

/-- `None`, or a value. -/
def ofOption {α : Type} (dump : α → RawValue) : Option α → RawValue
  | none => null
  | some a => dump a

/-- A list of floats. -/
def ofFloats (xs : List PyFloat) : RawValue := list (xs.map float)

end RawValue

end ImageDescriptor
