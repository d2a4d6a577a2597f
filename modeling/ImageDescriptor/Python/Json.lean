/-
# JSON values

The values that `json.loads` and `resp.json()` return, and the operations that the modules
apply to them without looking at their type first.  A number is carried by its value; a
`dict` is the list of its items.
-/
import Mathlib.Data.Rat.Defs
import ImageDescriptor.Python.Exceptions

namespace ImageDescriptor

/-- A decoded JSON value. -/
inductive Json
  | null
  | bool (b : Bool)
  | num (q : ℚ)
  | str (s : String)
  | arr (xs : List Json)
  | obj (fields : List (String × Json))

/-- The items of a `dict`. -/
abbrev Fields := List (String × Json)

namespace Json

/-- `bool(v)`, the test that `if v:` makes. -/
def truthy : Json → Bool
  | null => false
  | bool b => b
  | num q => decide (q ≠ 0)
  | str s => decide (s ≠ "")
  | arr xs => !xs.isEmpty
  | obj fields => !fields.isEmpty

/-- `d.get(key, default)`: only a `dict` has the method. -/
def get (d : Json) (key : String) (default : Json) : Except Exc Json :=
  match d with
  | obj fields => .ok ((fields.lookup key).getD default)
  | _ => .error ⟨.attributeError, "no attribute get"⟩

@[simp] lemma get_obj (fields : Fields) (key : String) (default : Json) :
    (obj fields).get key default = .ok ((fields.lookup key).getD default) := rfl

/-- The JSON value of an optional string. -/
def ofOptStr : Option String → Json
  | none => null
  | some s => str s

/-- The JSON value of an optional number. -/
def ofOptNum : Option ℚ → Json
  | none => null
  | some q => num q

end Json

/-- `if s:` for an optional string. -/
def nonEmpty : Option String → Bool
  | none => false
  | some s => decide (s ≠ "")

/-- `mapM` reads back what `map` wrote when each element is read back. -/
lemma mapM_map_ok {α β : Type} {f : β → Except Exc α} {g : α → β}
    (h : ∀ x, f (g x) = .ok x) (xs : List α) : (xs.map g).mapM f = .ok xs := by
  induction xs with
  | nil => rfl
  | cons x xs ih =>
    rw [List.map_cons, List.mapM_cons, h, ih]
    rfl

end ImageDescriptor
