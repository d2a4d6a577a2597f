/-
# Layers around a handler

A handler takes a request to what comes out of it, and a layer makes a new handler of the
one inside it.  The first layer of a list is the outermost.  A property of what comes out is
shown for the whole stack where it arises: at the innermost handler when every layer keeps
it, and at a layer that gives it when all layers outside of that one keep it.
-/
import Mathlib.Logic.Basic
import Mathlib.Data.List.Basic

namespace ImageDescriptor.Lib

variable {S R : Type*}

/-- A layer: a handler from the handler inside. -/
abbrev Layer (S R : Type*) := (S → R) → S → R

namespace Layer

/-- The handler inside the layers. -/
def stack (layers : List (Layer S R)) (app : S → R) : S → R :=
  layers.foldr (fun layer next => layer next) app

@[simp] lemma stack_nil (app : S → R) : stack [] app = app := rfl

@[simp] lemma stack_cons (layer : Layer S R) (layers : List (Layer S R)) (app : S → R) :
    stack (layer :: layers) app = layer (stack layers app) := rfl

lemma stack_append (outer inner : List (Layer S R)) (app : S → R) :
    stack (outer ++ inner) app = stack outer (stack inner app) := by
  induction outer with
  | nil => rfl
  | cons layer outer ih => rw [List.cons_append, stack_cons, ih, stack_cons]

variable {P : S → R → Prop}

/-- What holds of all that the handler inside gives holds of all that the layer gives. -/
def Keeps (P : S → R → Prop) (layer : Layer S R) : Prop :=
  ∀ next, (∀ s, P s (next s)) → ∀ s, P s (layer next s)

/-- It holds of all that the layer gives, whatever is inside. -/
def Gives (P : S → R → Prop) (layer : Layer S R) : Prop := ∀ next s, P s (layer next s)

/-- The property of the innermost handler, through layers that keep it. -/
lemma of_keeps {layers : List (Layer S R)} {app : S → R} (h : ∀ layer ∈ layers, Keeps P layer)
    (happ : ∀ s, P s (app s)) : ∀ s, P s (stack layers app s) := by
  induction layers with
  | nil => exact happ
  | cons layer layers ih =>
    have hinner := ih fun l hl => h l (List.mem_cons_of_mem _ hl)
    exact h layer (List.mem_cons_self ..) (stack layers app) hinner

/-- The property of a layer that gives it, through the layers outside of it. -/
lemma of_gives {outer inner : List (Layer S R)} {layer : Layer S R} {app : S → R}
    (hlayer : Gives P layer) (h : ∀ l ∈ outer, Keeps P l) :
    ∀ s, P s (stack (outer ++ layer :: inner) app s) := by
  rw [stack_append]
  exact of_keeps h (hlayer (stack inner app))

end Layer

end ImageDescriptor.Lib
