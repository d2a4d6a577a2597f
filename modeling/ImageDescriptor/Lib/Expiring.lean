/-
# Tables of entries that expire

An entry is served at the clock readings at which `serves` holds of it; once it is not
served any more it is never served again.  A table that stands for a map may have lost
entries of the map, but only such as are not served any more, so that nobody who reads
served entries can tell the table from the map.  This file gives the relation and the rules
by which the operations of a table keep it.
-/
import Mathlib.Order.Monotone.Defs
import Mathlib.Logic.Function.Basic

namespace ImageDescriptor.Lib

variable {K E T : Type*}

/-- `table` stands for `map` from the reading `now` on. -/
structure StandsFor (serves : T → E → Prop) (now : T) (table map : K → Option E) : Prop where
  sub : ∀ k e, table k = some e → map k = some e
  kept : ∀ k e, map k = some e → serves now e → table k = some e

namespace StandsFor

variable {serves : T → E → Prop} {now t : T} {table table' map : K → Option E}

lemma refl (serves : T → E → Prop) (now : T) (table : K → Option E) :
    StandsFor serves now table table where
  sub _ _ h := h
  kept _ _ h _ := h

/-- Time passes: what is served at a later reading is served now. -/
lemma later [Preorder T] (hserves : ∀ e, Antitone fun t => serves t e)
    (h : StandsFor serves now table map) (hle : now ≤ t) : StandsFor serves t table map where
  sub := h.sub
  kept k e hmap he := h.kept k e hmap (hserves e hle he)

/-- An entry is written. -/
lemma write [DecidableEq K] (h : StandsFor serves now table map) (k : K) (e : E) :
    StandsFor serves now (Function.update table k (some e)) (Function.update map k (some e)) where
  sub k' e' h' := by
    by_cases hk : k' = k
    · subst hk
      simpa using h'
    · rw [Function.update_of_ne hk] at h' ⊢
      exact h.sub k' e' h'
  kept k' e' h' he := by
    by_cases hk : k' = k
    · subst hk
      simpa using h'
    · rw [Function.update_of_ne hk] at h' ⊢
      exact h.kept k' e' h' he

/-- Entries are removed that are not served any more. -/
lemma prune (h : StandsFor serves now table map)
    (hsub : ∀ k e, table' k = some e → table k = some e)
    (hkept : ∀ k e, table k = some e → serves now e → table' k = some e) :
    StandsFor serves now table' map where
  sub k e h' := h.sub k e (hsub k e h')
  kept k e hmap he := hkept k e (h.kept k e hmap he) he

/-- A reader of served entries finds in the table what is in the map. -/
theorem read (h : StandsFor serves now table map) {k : K} {e : E} (he : serves now e) :
    table k = some e ↔ map k = some e :=
  ⟨h.sub k e, fun hmap => h.kept k e hmap he⟩

end StandsFor

end ImageDescriptor.Lib
