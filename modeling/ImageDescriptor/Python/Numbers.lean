/-
# Rounding and number formats

Python's `round` and its fixed-point format, on exact values: both round half to even.
-/
import Mathlib.Data.Rat.Floor
import Mathlib.Tactic.Linarith

namespace ImageDescriptor

/-- `round(x)`: the nearest integer, the even one of two equally near ones. -/
def roundHalfEven (x : ℚ) : ℤ :=
  if x - ⌊x⌋ < 1 / 2 then ⌊x⌋
  else if 1 / 2 < x - ⌊x⌋ then ⌊x⌋ + 1
  else if ⌊x⌋ % 2 = 0 then ⌊x⌋
  else ⌊x⌋ + 1

/-- Rounding moves a value by a half at most. -/
lemma abs_roundHalfEven_sub_le (x : ℚ) : |(roundHalfEven x : ℚ) - x| ≤ 1 / 2 := by
  have hlow : (⌊x⌋ : ℚ) ≤ x := Int.floor_le x
  have hhigh : x < ⌊x⌋ + 1 := Int.lt_floor_add_one x
  rw [abs_le, roundHalfEven]
  split
  · exact ⟨by linarith, by linarith⟩
  · split
    · push_cast
      exact ⟨by linarith, by linarith⟩
    · split
      · exact ⟨by linarith, by linarith⟩
      · push_cast
        exact ⟨by linarith, by linarith⟩

lemma roundHalfEven_mono {x y : ℚ} (h : x ≤ y) : roundHalfEven x ≤ roundHalfEven y := by
  by_contra hlt
  rw [not_le] at hlt
  have hx := abs_le.mp (abs_roundHalfEven_sub_le x)
  have hy := abs_le.mp (abs_roundHalfEven_sub_le y)
  have hstep : (roundHalfEven y : ℚ) + 1 ≤ roundHalfEven x := by exact_mod_cast hlt
  -- only equal values could be rounded so far apart
  obtain rfl : x = y := by linarith
  exact lt_irrefl _ hlt

/-- `int(x)`: towards zero. -/
def truncate (x : ℚ) : ℤ := if 0 ≤ x then ⌊x⌋ else ⌈x⌉

/-- The format `f"{x:.1f}"`. -/
def formatFixed1 (x : ℚ) : String :=
  let tenths := roundHalfEven (x * 10)
  (if x < 0 then "-" else "") ++ toString (tenths.natAbs / 10) ++ "." ++
    toString (tenths.natAbs % 10)

end ImageDescriptor
