/-
# Interleaved calls of the database module

Any number of calls of `get_client`, `ping` and the four operations on the table share the
module variables and the lock.  An event resumes one call at a clock reading and runs it to
the next place where control returns to the event loop.  Events come at non-decreasing
clock readings; a call may be cancelled wherever it is suspended.
-/
import Mathlib.Logic.Function.Basic
import ImageDescriptor.Db.Supabase
import ImageDescriptor.Lib.Run

namespace ImageDescriptor.Db

open Lib

variable {Client : Type}

/-- The state of the process, with the time of the last real failure recorded beside it. -/
structure Sessions (Client : Type) where
  shared : Shared Client
  /-- the call that holds the lock -/
  holder : Option ℕ
  calls : ℕ → Option (Op × Phase Client)
  now : ℚ
  /-- when a connection attempt or a query last failed -/
  lastRealFailure : Option ℚ

/-- The process when the module has been loaded. -/
def Sessions.initial : Sessions Client where
  shared := Shared.initial
  holder := none
  calls := fun _ => none
  now := 0
  lastRealFailure := none

/-- What resumes a call: its beginning, the lock, the end of `acreate_client`, the end of
its query, or its cancellation. -/
inductive Resume (Client : Type)
  | start (op : Op)
  | acquire
  | created (r : Except Exc Client)
  | answered (r : Except Exc Answer)
  | cancel

/-- An event: call `task` is resumed at the clock reading `time`. -/
structure Event (Client : Type) where
  time : ℚ
  task : ℕ
  resume : Resume Client

/-- The time of the last real failure after an awaited call has ended with `r`. -/
def noteFailure {α : Type} (time : ℚ) (last : Option ℚ) : Except Exc α → Option ℚ
  | .ok _ => last
  | .error _ => some time

/-- The call that holds the lock after call `i` has run to `p` in the locked section. -/
def holderAfter (i : ℕ) : Phase Client → Option ℕ
  | .creating => some i
  | _ => none

namespace Sessions

/-- The state after call `i` has run to `p`, leaving the module variables `g`. -/
def put (s : Sessions Client) (time : ℚ) (i : ℕ) (op : Op) (g : Shared Client)
    (p : Phase Client) : Sessions Client :=
  { s with shared := g, calls := Function.update s.calls i (some (op, p)), now := time }

/-- One event; `none` when the call cannot be resumed in this way. -/
def step (cfg : Settings) (s : Sessions Client) (e : Event Client) : Option (Sessions Client) :=
  if e.time < s.now then none
  else
    match s.calls e.task, e.resume with
    | none, .start op => some (s.put e.time e.task op s.shared (start op s.shared))
    | some (op, .waiting), .acquire =>
      if s.holder = none then
        let r := acquire cfg e.time op s.shared
        some { s.put e.time e.task op r.1 r.2 with holder := holderAfter e.task r.2 }
      else none
    | some (op, .creating), .created r =>
      let next := created e.time op s.shared r
      some { s.put e.time e.task op next.1 next.2 with
        holder := none, lastRealFailure := noteFailure e.time s.lastRealFailure r }
    | some (op, .querying q _), .answered r =>
      let next := answered e.time q s.shared r
      some { s.put e.time e.task op next.1 next.2 with
        lastRealFailure := noteFailure e.time s.lastRealFailure r }
    | some (op, .creating), .cancel =>
      -- `async with` releases the lock; no `except Exception` sees the cancellation
      some { s.put e.time e.task op s.shared .cancelled with holder := none }
    | some (op, .waiting), .cancel => some (s.put e.time e.task op s.shared .cancelled)
    | some (op, .querying _ _), .cancel => some (s.put e.time e.task op s.shared .cancelled)
    | _, _ => none

variable {cfg : Settings} {s s' : Sessions Client} {e : Event Client}

lemma step_time (h : step cfg s e = some s') : s.now ≤ e.time ∧ s'.now = e.time := by
  unfold step at h
  split at h
  · cases h
  · rename_i hlt
    refine ⟨not_lt.mp hlt, ?_⟩
    split at h
    · cases h; rfl
    · split at h
      · cases h; rfl
      · cases h
    · cases h; rfl
    · cases h; rfl
    · cases h; rfl
    · cases h; rfl
    · cases h; rfl
    · cases h

/-- The step of a call that gets the lock. -/
lemma step_acquire {op : Op} (h : step cfg s e = some s')
    (hcall : s.calls e.task = some (op, .waiting)) (hres : e.resume = .acquire) :
    s.holder = none ∧ s'.shared = (acquire cfg e.time op s.shared).1 ∧
      s'.calls e.task = some (op, (acquire cfg e.time op s.shared).2) := by
  simp only [step, hcall, hres] at h
  split at h
  · cases h
  · split at h
    · rename_i hfree
      cases h
      exact ⟨hfree, rfl, Function.update_self ..⟩
    · cases h

/-- What a step does to the module variables and to the time of the last real failure. -/
lemma step_cases (h : step cfg s e = some s') :
    (s'.shared = s.shared ∧ s'.lastRealFailure = s.lastRealFailure) ∨
      (∃ op, s.calls e.task = some (op, .waiting) ∧ e.resume = .acquire ∧
        s'.shared = (acquire cfg e.time op s.shared).1 ∧
        s'.lastRealFailure = s.lastRealFailure) ∨
      (∃ op r, s.calls e.task = some (op, .creating) ∧
        s'.shared = (created e.time op s.shared r).1 ∧
        s'.lastRealFailure = noteFailure e.time s.lastRealFailure r) ∨
      (∃ op q c r, s.calls e.task = some (op, .querying q c) ∧
        s'.shared = (answered e.time q s.shared r).1 ∧
        s'.lastRealFailure = noteFailure e.time s.lastRealFailure r) := by
  unfold step at h
  split at h
  · cases h
  · split at h
    · cases h; exact .inl ⟨rfl, rfl⟩
    · rename_i op hcall hres
      split at h
      · cases h
        exact .inr (.inl ⟨op, hcall, hres, rfl, rfl⟩)
      · cases h
    · rename_i op r hcall hres
      cases h
      exact .inr (.inr (.inl ⟨op, r, hcall, rfl, rfl⟩))
    · rename_i op q c r hcall hres
      cases h
      exact .inr (.inr (.inr ⟨op, q, c, r, hcall, rfl, rfl⟩))
    · cases h; exact .inl ⟨rfl, rfl⟩
    · cases h; exact .inl ⟨rfl, rfl⟩
    · cases h; exact .inl ⟨rfl, rfl⟩
    · cases h

/-! ### The steps as a relation -/

variable (cfg) in
/-- What resuming a call at a clock reading does, with what has to hold before it. -/
inductive Moves (s : Sessions Client) (t : ℚ) (i : ℕ) : Resume Client → Sessions Client → Prop
  | start {op : Op} (hnew : s.calls i = none) :
      Moves s t i (.start op) (s.put t i op s.shared (start op s.shared))
  | acquire {op : Op} (hcall : s.calls i = some (op, .waiting)) (hfree : s.holder = none) :
      Moves s t i .acquire
        { s.put t i op (acquire cfg t op s.shared).1 (acquire cfg t op s.shared).2 with
          holder := holderAfter i (acquire cfg t op s.shared).2 }
  | created {op : Op} {r : Except Exc Client} (hcall : s.calls i = some (op, .creating)) :
      Moves s t i (.created r)
        { s.put t i op (created t op s.shared r).1 (created t op s.shared r).2 with
          holder := none, lastRealFailure := noteFailure t s.lastRealFailure r }
  | answered {op : Op} {q : Query} {c : Client} {r : Except Exc Answer}
      (hcall : s.calls i = some (op, .querying q c)) :
      Moves s t i (.answered r)
        { s.put t i op (answered t q s.shared r).1 (answered t q s.shared r).2 with
          lastRealFailure := noteFailure t s.lastRealFailure r }
  | release {op : Op} (hcall : s.calls i = some (op, .creating)) :
      Moves s t i .cancel { s.put t i op s.shared .cancelled with holder := none }
  | cancel {op : Op} {p : Phase Client} (hcall : s.calls i = some (op, p)) (hp : p ≠ .creating) :
      Moves s t i .cancel (s.put t i op s.shared .cancelled)

lemma moves_of_step (h : step cfg s e = some s') :
    s.now ≤ e.time ∧ Moves cfg s e.time e.task e.resume s' := by
  obtain ⟨t, i, resume⟩ := e
  unfold step at h
  split at h
  · cases h
  · rename_i hlt
    refine ⟨not_lt.mp hlt, ?_⟩
    dsimp only at h ⊢
    split at h
    · cases h
      exact .start ‹_›
    · split at h <;> cases h
      exact .acquire ‹_› ‹_›
    · cases h
      exact .created ‹_›
    · cases h
      exact .answered ‹_›
    · cases h
      exact .release ‹_›
    · cases h
      exact .cancel ‹_› (by simp)
    · cases h
      exact .cancel ‹_› (by simp)
    · cases h

/-! ### One client is created at a time -/

/-- The invariant of the lock: a call that awaits `acreate_client` holds it, and there is no
client meanwhile. -/
def CreatesLocked (s : Sessions Client) : Prop :=
  ∀ i op, s.calls i = some (op, .creating) → s.holder = some i ∧ s.shared.client = none

lemma createsLocked_initial : CreatesLocked (initial : Sessions Client) := by
  intro i op hcall
  cases hcall

/-- The call that is resumed, and the others. -/
lemma calls_update {i j : ℕ} {op op' : Op} {p p' : Phase Client}
    (h : Function.update s.calls i (some (op, p)) j = some (op', p')) :
    (j = i ∧ op = op' ∧ p = p') ∨ (j ≠ i ∧ s.calls j = some (op', p')) := by
  rcases update_some_cases h with ⟨hj, hsame⟩ | hother
  · rw [Prod.mk.injEq] at hsame
    exact .inl ⟨hj, hsame.1, hsame.2⟩
  · exact .inr hother

/-- A failure leaves no client behind. -/
lemma fail_client {now : ℚ} {op : Op} {g : Shared Client} {x : Exc} (h : g.client = none) :
    (fail now op g x).1.client = none := by
  rcases fail_fst now op g x with hsame | hreset
  · rw [hsame, h]
  · rw [hreset]
    rfl

lemma withClient_ne_creating (op : Op) (c : Client) : withClient op c ≠ .creating := by
  cases op <;> simp [withClient]

/-- A call goes on to `acreate_client` when there is no client. -/
lemma acquire_creating {now : ℚ} {op : Op} {g : Shared Client}
    (h : (acquire cfg now op g).2 = .creating) :
    (acquire cfg now op g).1 = g ∧ g.client = none := by
  rcases hclient : g.client with _ | c
  · rcases lockedSection_none cfg now hclient with ⟨-, r, hr⟩ | ⟨-, hr⟩ | ⟨-, -, hr⟩
    · simp [acquire, hr] at h
    · simp [acquire, hr] at h
    · exact ⟨by simp [acquire, hr], rfl⟩
  · simp only [acquire, lockedSection_some hclient] at h
    exact absurd h (withClient_ne_creating op c)

lemma start_ne_creating (op : Op) (g : Shared Client) : start op g ≠ .creating := by
  unfold start
  split
  · exact withClient_ne_creating op _
  · simp

lemma createsLocked_step (hs : CreatesLocked s) (h : step cfg s e = some s') :
    CreatesLocked s' := by
  obtain ⟨t, i, resume⟩ := e
  intro j op' hcall
  cases (moves_of_step h).2 with
  | start hnew =>
    rcases calls_update hcall with ⟨-, -, hp⟩ | ⟨-, hold⟩
    · exact absurd hp (start_ne_creating _ _)
    · exact hs j op' hold
  | acquire hwaiting hfree =>
    rcases calls_update hcall with ⟨rfl, -, hp⟩ | ⟨-, hold⟩
    · obtain ⟨hshared, hclient⟩ := acquire_creating hp
      refine ⟨by simp only [hp]; rfl, ?_⟩
      simp only [put, hshared, hclient]
    · -- nobody creates while the lock is free
      rw [(hs j op' hold).1] at hfree
      cases hfree
  | @created op r hcreating =>
    rcases calls_update hcall with ⟨-, -, hp⟩ | ⟨hne, hold⟩
    · exfalso
      rcases r with x | c
      · simp [created, clientCreated] at hp
      · exact withClient_ne_creating op c (by simpa [created, clientCreated] using hp)
    · have hholder := (hs i op hcreating).1
      rw [(hs j op' hold).1, Option.some.injEq] at hholder
      exact absurd hholder hne
  | @answered op q c r hquerying =>
    rcases calls_update hcall with ⟨-, -, hp⟩ | ⟨-, hold⟩
    · rcases r with x | a <;> simp [answered] at hp
    · obtain ⟨hholder, hclient⟩ := hs j op' hold
      refine ⟨hholder, ?_⟩
      show (answered t q s.shared r).1.client = none
      rcases r with x | a
      · exact fail_client hclient
      · exact hclient
  | @release op hcreating =>
    rcases calls_update hcall with ⟨-, -, hp⟩ | ⟨hne, hold⟩
    · cases hp
    · have hholder := (hs i op hcreating).1
      rw [(hs j op' hold).1, Option.some.injEq] at hholder
      exact absurd hholder hne
  | cancel hcalled hp =>
    rcases calls_update hcall with ⟨-, -, hp'⟩ | ⟨-, hold⟩
    · cases hp'
    · exact hs j op' hold

lemma createsLocked_run {es : List (Event Client)}
    (hrun : Run (step cfg) (fun _ _ => True) initial es s) : CreatesLocked s :=
  hrun.invariant (fun _ _ _ hs _ h => createsLocked_step hs h) createsLocked_initial

end Sessions

end ImageDescriptor.Db
