/-
# Journals of writes

A store that keeps its writes in memory until they are committed loses those that have not
been when it dies, and no others.  A journal lists the writes that are durable and after them
the writes that are not; a commit makes all of them durable, and a crash drops the rest.  What
a store whose writes have keys should hold is the last write of every key.
-/
import Mathlib.Data.List.Infix
import Mathlib.Logic.Function.Basic

namespace ImageDescriptor.Lib

/-- The writes in their order: first the durable ones, then the others. -/
structure Journal (W : Type*) where
  durable : List W
  pending : List W

namespace Journal

variable {W : Type*} {j : Journal W}

def empty : Journal W := ⟨[], []⟩

def writes (j : Journal W) : List W := j.durable ++ j.pending

def append (j : Journal W) (ws : List W) : Journal W := { j with pending := j.pending ++ ws }

def commit (j : Journal W) : Journal W := ⟨j.writes, []⟩

def crash (j : Journal W) : Journal W := ⟨j.durable, []⟩

@[simp] lemma writes_append (j : Journal W) (ws : List W) :
    (j.append ws).writes = j.writes ++ ws := by
  rw [writes, writes, append, List.append_assoc]

@[simp] lemma durable_append (j : Journal W) (ws : List W) :
    (j.append ws).durable = j.durable := rfl

@[simp] lemma writes_commit (j : Journal W) : j.commit.writes = j.writes :=
  List.append_nil j.writes

@[simp] lemma durable_commit (j : Journal W) : j.commit.durable = j.writes := rfl

@[simp] lemma writes_crash (j : Journal W) : j.crash.writes = j.durable :=
  List.append_nil j.durable

@[simp] lemma durable_crash (j : Journal W) : j.crash.durable = j.durable := rfl

lemma durable_prefix_writes (j : Journal W) : j.durable <+: j.writes := List.prefix_append _ _

end Journal

section LastWrite

variable {K V : Type*} [DecidableEq K] {ws before after : List (K × V)} {k : K} {v : V}

/-- The last write of a key. -/
def lastWrite (ws : List (K × V)) (k : K) : Option V := ws.reverse.lookup k

lemma lastWrite_nil (k : K) : lastWrite ([] : List (K × V)) k = none := rfl

lemma lastWrite_snoc (ws : List (K × V)) (k : K) (v : V) :
    lastWrite (ws ++ [(k, v)]) = Function.update (lastWrite ws) k (some v) := by
  funext k'
  rw [lastWrite, List.reverse_append, List.reverse_singleton, List.singleton_append,
    List.lookup_cons]
  by_cases hk : k' = k
  · subst hk
    simp
  · rw [Function.update_of_ne hk, beq_false_of_ne hk]
    rfl

/-- A write is the last one of its key when no later one is of this key. -/
lemma lastWrite_of_split (h : ∀ w ∈ after, w.1 ≠ k) :
    lastWrite (before ++ (k, v) :: after) k = some v := by
  refine List.lookup_eq_some_iff.mpr ⟨after.reverse, before.reverse, by simp, fun w hw => ?_⟩
  rw [List.mem_reverse] at hw
  exact bne_iff_ne.mpr (h w hw).symm

end LastWrite

end ImageDescriptor.Lib
