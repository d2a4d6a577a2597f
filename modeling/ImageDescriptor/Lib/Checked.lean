/-
# Checks that collect errors

A check accepts a value, perhaps converted, or rejects it with the errors that it has found,
of which there is at least one.  The parts of a value are checked side by side, and the errors
of all parts are collected; the checks of one part are made one after the other, and the first
that rejects it ends them.
-/
import Mathlib.Data.List.Basic

namespace ImageDescriptor.Lib

/-- How a check ends. -/
inductive Checked (ε : Type*) (α : Type*)
  | ok (a : α)
  | failed (e : ε) (es : List ε)
deriving DecidableEq

namespace Checked

variable {ε δ : Type*} {α β : Type*}

/-- The errors of a check; there are none when it accepts. -/
def errors : Checked ε α → List ε
  | ok _ => []
  | failed e es => e :: es

def map (f : α → β) : Checked ε α → Checked ε β
  | ok a => ok (f a)
  | failed e es => failed e es

def mapErrors (f : ε → δ) : Checked ε α → Checked δ α
  | ok a => ok a
  | failed e es => failed (f e) (es.map f)

/-- One check side by side with another. -/
def seq : Checked ε (α → β) → Checked ε α → Checked ε β
  | ok f, x => x.map f
  | failed e es, x => failed e (es ++ x.errors)

/-- One check and then another, of what the first accepts. -/
def andThen (x : Checked ε α) (f : α → Checked ε β) : Checked ε β :=
  match x with
  | ok a => f a
  | failed e es => failed e es

variable {x : Checked ε α} {f : Checked ε (α → β)} {g : α → β} {a : α} {b : β}

@[simp] lemma errors_ok : (ok a : Checked ε α).errors = [] := rfl

lemma errors_map : (x.map g).errors = x.errors := by
  cases x <;> rfl

lemma errors_mapErrors (h : ε → δ) : (x.mapErrors h).errors = x.errors.map h := by
  cases x <;> rfl

/-- Side by side the errors of both are collected. -/
lemma errors_seq : (f.seq x).errors = f.errors ++ x.errors := by
  cases f with
  | ok f => exact errors_map
  | failed e es => rfl

@[simp] lemma map_ok : (ok a : Checked ε α).map g = ok (g a) := rfl

@[simp] lemma mapErrors_ok (h : ε → δ) : (ok a : Checked ε α).mapErrors h = ok a := rfl

@[simp] lemma ok_seq : (ok g : Checked ε (α → β)).seq x = x.map g := rfl

/-- A check that accepts adds no errors. -/
@[simp] lemma seq_ok (f : Checked ε (α → β)) (a : α) : f.seq (ok a) = f.map fun g => g a := by
  cases f with
  | ok f => rfl
  | failed e es => simp [seq, map]

@[simp] lemma map_map {γ : Type*} (x : Checked ε α) (g : α → β) (h : β → γ) :
    (x.map g).map h = x.map fun a => h (g a) := by
  cases x <;> rfl

@[simp] lemma ok_andThen (h : α → Checked ε β) : (ok a : Checked ε α).andThen h = h a := rfl

lemma map_eq_ok : x.map g = ok b ↔ ∃ a, x = ok a ∧ g a = b := by
  cases x <;> simp [map]

lemma mapErrors_eq_ok {h : ε → δ} : x.mapErrors h = ok a ↔ x = ok a := by
  cases x <;> simp [mapErrors]

lemma seq_eq_ok : f.seq x = ok b ↔ ∃ g a, f = ok g ∧ x = ok a ∧ g a = b := by
  cases f with
  | ok f => simp [map_eq_ok]
  | failed e es => simp [seq]

lemma andThen_eq_ok {h : α → Checked ε β} : x.andThen h = ok b ↔ ∃ a, x = ok a ∧ h a = ok b := by
  cases x <;> simp [andThen]

end Checked

end ImageDescriptor.Lib
