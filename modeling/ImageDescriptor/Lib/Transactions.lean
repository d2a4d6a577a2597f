/-
# Connections with transactions

A connection sees the database that is on disk, or the state of its open transaction.
Without an open transaction a statement is a transaction of its own.  When the process dies,
what is left is what is on disk.
-/
import Mathlib.Logic.Basic

namespace ImageDescriptor.Lib

/-- A connection to a database: what is on disk, and the state of the open transaction. -/
structure Connection (D : Type*) where
  disk : D
  working : Option D

namespace Connection

variable {D ε : Type*}

/-- A connection that has just been opened. -/
def opened (d : D) : Connection D := ⟨d, none⟩

/-- What the connection sees. -/
def view (c : Connection D) : D := c.working.getD c.disk

/-- A transaction is open afterwards: a new one, unless there is one already. -/
def begin (c : Connection D) : Connection D := ⟨c.disk, some c.view⟩

/-- The open transaction is committed, if there is one. -/
def commit (c : Connection D) : Connection D := opened c.view

def rollback (c : Connection D) : Connection D := opened c.disk

/-- A statement that changes the database, or fails and leaves it as it was. -/
def write (c : Connection D) (f : D → Except ε D) : Except ε (Connection D) :=
  match c.working with
  | none => (f c.disk).map opened
  | some d => (f d).map fun d' => ⟨c.disk, some d'⟩

variable {c c' : Connection D} {f : D → Except ε D} {P : D → Prop}

@[simp] lemma disk_opened (d : D) : (opened d).disk = d := rfl

@[simp] lemma working_opened (d : D) : (opened d).working = none := rfl

@[simp] lemma view_begin (c : Connection D) : c.begin.view = c.view := rfl

@[simp] lemma commit_opened (d : D) : (opened d).commit = opened d := rfl

lemma eq_opened (h : c.working = none) : c = opened c.disk := by
  cases c
  simp only at h
  subst h
  rfl

/-- A statement changes what the connection sees. -/
lemma view_write (h : c.write f = .ok c') : f c.view = .ok c'.view := by
  unfold write at h
  rcases hworking : c.working with _ | d
  · rcases hf : f c.disk with e | d' <;> simp only [hworking, hf] at h <;> cases h
    simp [view, hworking, hf]
  · rcases hf : f d with e | d' <;> simp only [hworking, hf] at h <;> cases h
    simp [view, hworking, hf]

/-- Within a transaction nothing reaches the disk. -/
lemma disk_write_of_open (hopen : c.working.isSome = true) (h : c.write f = .ok c') :
    c'.disk = c.disk ∧ c'.working.isSome = true := by
  unfold write at h
  rcases hworking : c.working with _ | d
  · simp [hworking] at hopen
  · rcases hf : f d with e | d' <;> simp only [hworking, hf] at h <;> cases h
    exact ⟨rfl, rfl⟩

/-! ### What holds on disk and in the transaction -/

/-- A condition holds on disk and in the open transaction. -/
def Holds (P : D → Prop) (c : Connection D) : Prop := P c.disk ∧ ∀ d, c.working = some d → P d

lemma Holds.opened {d : D} (h : P d) : (opened d).Holds P := ⟨h, fun _ hd => by cases hd⟩

lemma Holds.view (h : c.Holds P) : P c.view := by
  unfold Connection.view
  rcases hworking : c.working with _ | d
  · exact h.1
  · exact h.2 d hworking

lemma Holds.begin (h : c.Holds P) : c.begin.Holds P := by
  refine ⟨h.1, fun d hd => ?_⟩
  obtain rfl : c.view = d := by simpa [Connection.begin] using hd
  exact h.view

lemma Holds.commit (h : c.Holds P) : c.commit.Holds P := .opened h.view

lemma Holds.rollback (h : c.Holds P) : c.rollback.Holds P := .opened h.1

lemma Holds.write (h : c.Holds P) (hf : ∀ d d', P d → f d = .ok d' → P d')
    (hwrite : c.write f = .ok c') : c'.Holds P := by
  unfold Connection.write at hwrite
  rcases hworking : c.working with _ | d
  · rcases hd : f c.disk with e | d' <;> simp only [hworking, hd] at hwrite <;> cases hwrite
    exact .opened (hf _ _ h.1 hd)
  · rcases hd : f d with e | d' <;> simp only [hworking, hd] at hwrite <;> cases hwrite
    refine ⟨h.1, fun d'' hd'' => ?_⟩
    cases hd''
    exact hf _ _ (h.2 d hworking) hd

end Connection

end ImageDescriptor.Lib
