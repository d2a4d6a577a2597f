/-
# The cleanup task

`_cache_cleanup_loop` sleeps for the interval of the settings and then deletes the rows whose
time has passed, over and over, until `lifespan` cancels it.  The statements of `get` and
`set` run between its own.  The DELETE of the loop names the expiry and not a key, so that it
never removes a row that has replaced an expired one; and a cleanup that fails does not end
the loop, so that an expired row stays in the table for a bounded time.  Sleeps and expiries
are measured by one clock.
-/
import Mathlib.Tactic.Linarith
import Mathlib.Tactic.Positivity
import ImageDescriptor.Cache.Races

namespace ImageDescriptor

open Lib

/-- The setting of the loop; `_positive_int` admits no other values. -/
structure CleanupSettings where
  cacheCleanupIntervalSeconds : ℕ := 3600
  cacheCleanupIntervalSeconds_pos : 0 < cacheCleanupIntervalSeconds := by norm_num

/-- The settings of a service that sets none of them. -/
def CleanupSettings.defaults : CleanupSettings := {}

/-- Where `_cache_cleanup_loop` is suspended. -/
inductive CleanupPhase
  /-- in `asyncio.sleep` until `due` -/
  | sleeping (due : ℚ)
  /-- in the DELETE of `cleanup_expired`, which has read the clock -/
  | deleting (reading : ℚ)
  /-- in the commit after the DELETE -/
  | committing (reading : ℚ) (deleted : ℕ)
  /-- the task has been cancelled; its DELETE may still be queued in the connection -/
  | ended (queued : Option ℚ)

/-- The process with its cleanup task, and beside them the reading of the last DELETE of the
loop that was carried out and the number of cleanups in a row that have failed since. -/
structure Housekeeping where
  shared : SharedStore
  loop : CleanupPhase
  cleaned : ℚ
  missed : ℕ

/-- What happens to the loop: its sleep ends, the statement or the commit that it awaits is
carried out or fails, it is cancelled; or a DELETE that it has left behind is carried out. -/
inductive LoopAction
  | sleepEnds
  | deletes
  | commits
  | fails (e : Exc)
  | cancel
  | queuedDeletes

/-- An event of the calls of `get` and `set`, or of the loop at a clock reading. -/
inductive HousekeepingEvent
  | call (e : StoreEvent)
  | loop (time : ℚ) (a : LoopAction)

def HousekeepingEvent.time : HousekeepingEvent → ℚ
  | .call e => e.time
  | .loop t _ => t

namespace Housekeeping

/-- The state after the startup in `lifespan` on a database with the rows of earlier
processes: the loop sleeps first. -/
def started (cfg : CleanupSettings) (store : CacheStore) (t₀ : ℚ) : Housekeeping where
  shared := { SharedStore.initial store with now := t₀ }
  loop := .sleeping (t₀ + cfg.cacheCleanupIntervalSeconds)
  cleaned := t₀
  missed := 0

/-- `cleanup_expired` after its statements: the number of the rows that it has deleted, or
what it makes of the exception of a statement. -/
def cleanupResult : Except Exc ℕ → Except Exc ℕ
  | .ok deleted => .ok deleted
  | .error e => if CacheStore.catches e then .ok 0 else .error e

/-- The loop after `cleanup_expired`: it sleeps again. -/
def afterCleanup (cfg : CleanupSettings) (now : ℚ) : Except Exc ℕ → CleanupPhase
  | .ok _ => .sleeping (now + cfg.cacheCleanupIntervalSeconds)
  -- `except Exception` only logs
  | .error _ => .sleeping (now + cfg.cacheCleanupIntervalSeconds)

/-- The DELETE of a cleanup that has read the clock. -/
def deleteBefore (s : Housekeeping) (reading : ℚ) : SharedStore :=
  s.shared.withTable (s.shared.store.table.deleteWhere (CacheStore.pastExpiry reading))

/-- The number of rows that the DELETE removes. -/
def rowcount (s : Housekeeping) (reading : ℚ) : ℕ :=
  s.shared.store.table.entries.length - (s.deleteBefore reading).store.table.entries.length

/-- One action of the loop; `none` when it cannot happen. -/
def act (cfg : CleanupSettings) (s : Housekeeping) (now : ℚ) : LoopAction → Option Housekeeping
  | .sleepEnds =>
    match s.loop with
    | .sleeping due => if due ≤ now then some { s with loop := .deleting now } else none
    | _ => none
  | .deletes =>
    match s.loop with
    | .deleting r =>
      some ⟨s.deleteBefore r, .committing r (s.rowcount r), r, 0⟩
    | _ => none
  | .commits =>
    match s.loop with
    | .committing _ deleted =>
      some { s with loop := afterCleanup cfg now (cleanupResult (.ok deleted)) }
    | _ => none
  | .fails e =>
    match s.loop with
    | .deleting _ =>
      some { s with
        loop := afterCleanup cfg now (cleanupResult (.error e))
        missed := s.missed + 1 }
    | .committing .. => some { s with loop := afterCleanup cfg now (cleanupResult (.error e)) }
    | _ => none
  | .cancel =>
    match s.loop with
    | .deleting r => some { s with loop := .ended (some r) }
    | .ended _ => none
    | _ => some { s with loop := .ended none }
  | .queuedDeletes =>
    match s.loop with
    | .ended (some r) => some { s with shared := s.deleteBefore r, loop := .ended none }
    | _ => none

/-- One event; the cleanups of the process are those of the loop. -/
def step (cfg : CleanupSettings) (s : Housekeeping) : HousekeepingEvent → Option Housekeeping
  | .call e =>
    match e.action with
    | .cleanup => none
    | _ => (s.shared.step e).map fun shared => { s with shared }
  | .loop t a =>
    if t < s.shared.now then none
    else (s.act cfg t a).map fun s' => { s' with shared := { s'.shared with now := t } }

section Moves

variable (cfg : CleanupSettings) (s : Housekeeping) (now : ℚ)

/-- What the loop does, and when. -/
inductive Acts : LoopAction → Housekeeping → Prop
  | sleepEnds {due : ℚ} (hloop : s.loop = .sleeping due) (hdue : due ≤ now) :
      Acts .sleepEnds { s with loop := .deleting now }
  | deletes {r : ℚ} (hloop : s.loop = .deleting r) :
      Acts .deletes ⟨s.deleteBefore r, .committing r (s.rowcount r), r, 0⟩
  | commits {r : ℚ} {deleted : ℕ} (hloop : s.loop = .committing r deleted) :
      Acts .commits { s with loop := .sleeping (now + cfg.cacheCleanupIntervalSeconds) }
  | deleteFails {e : Exc} {r : ℚ} (hloop : s.loop = .deleting r) :
      Acts (.fails e) { s with
        loop := .sleeping (now + cfg.cacheCleanupIntervalSeconds)
        missed := s.missed + 1 }
  | commitFails {e : Exc} {r : ℚ} {deleted : ℕ} (hloop : s.loop = .committing r deleted) :
      Acts (.fails e) { s with loop := .sleeping (now + cfg.cacheCleanupIntervalSeconds) }
  | cancelDelete {r : ℚ} (hloop : s.loop = .deleting r) :
      Acts .cancel { s with loop := .ended (some r) }
  | cancel (hloop : ∀ r, s.loop ≠ .deleting r) : Acts .cancel { s with loop := .ended none }
  | queuedDeletes {r : ℚ} (hloop : s.loop = .ended (some r)) :
      Acts .queuedDeletes { s with shared := s.deleteBefore r, loop := .ended none }

end Moves

variable {cfg : CleanupSettings} {s s' : Housekeeping} {e : HousekeepingEvent} {a : LoopAction}
  {now t t₀ : ℚ}

/-- Neither clause of `except` ends the loop. -/
lemma afterCleanup_eq (r : Except Exc ℕ) :
    afterCleanup cfg now r = .sleeping (now + cfg.cacheCleanupIntervalSeconds) := by
  rcases r with e | deleted
  · rfl
  · rfl

lemma acts_of_act (h : s.act cfg now a = some s') : Acts cfg s now a s' := by
  cases a with
  | sleepEnds =>
    simp only [act] at h
    split at h
    · rename_i due hloop
      split at h
      · rename_i hdue
        cases h
        exact .sleepEnds hloop hdue
      · cases h
    · cases h
  | deletes =>
    simp only [act] at h
    split at h
    · rename_i r hloop
      cases h
      exact .deletes hloop
    · cases h
  | commits =>
    simp only [act, afterCleanup_eq] at h
    split at h
    · rename_i hloop
      cases h
      exact .commits hloop
    · cases h
  | fails e =>
    simp only [act, afterCleanup_eq] at h
    split at h
    · rename_i hloop
      cases h
      exact .deleteFails hloop
    · rename_i hloop
      cases h
      exact .commitFails hloop
    · cases h
  | cancel =>
    simp only [act] at h
    split at h
    · rename_i hloop
      cases h
      exact .cancelDelete hloop
    · cases h
    · rename_i hdeleting _
      cases h
      exact .cancel hdeleting
  | queuedDeletes =>
    simp only [act] at h
    split at h
    · rename_i hloop
      cases h
      exact .queuedDeletes hloop
    · cases h

/-- An event is one of the calls, or an action of the loop at a reading that does not go
back. -/
lemma step_cases (h : step cfg s e = some s') :
    (∃ e' shared, e = .call e' ∧ e'.action ≠ .cleanup ∧ s.shared.step e' = some shared ∧
        s' = { s with shared }) ∨
      ∃ t a s₁, e = .loop t a ∧ s.shared.now ≤ t ∧ Acts cfg s t a s₁ ∧
        s' = { s₁ with shared := { s₁.shared with now := t } } := by
  cases e with
  | call e' =>
    simp only [step] at h
    split at h
    · cases h
    · rename_i hcleanup
      obtain ⟨shared, hshared, rfl⟩ := Option.map_eq_some_iff.mp h
      exact .inl ⟨e', shared, rfl, hcleanup, hshared, rfl⟩
  | loop t a =>
    simp only [step] at h
    split at h
    · cases h
    · rename_i hlt
      obtain ⟨s₁, hact, rfl⟩ := Option.map_eq_some_iff.mp h
      exact .inr ⟨t, a, s₁, rfl, not_lt.mp hlt, acts_of_act hact, rfl⟩

/-! ### No live row is lost -/

/-- The condition on a step: the DELETE of a `get` finds no row under its key, or one whose
time to live has passed. -/
def GetsDeleteExpired (s : Housekeeping) : HousekeepingEvent → Prop
  | .call e => s.shared.DeletesExpired e
  | .loop .. => True

/-- A DELETE that has not been carried out belongs to a reading of the past. -/
def ReadBefore (now : ℚ) : CleanupPhase → Prop
  | .deleting r => r ≤ now
  | .ended (some r) => r ≤ now
  | _ => True

lemma ReadBefore.later {loop : CleanupPhase} (h : ReadBefore now loop) (hle : now ≤ t) :
    ReadBefore t loop := by
  cases loop with
  | deleting r => exact le_trans h hle
  | ended queued =>
    cases queued with
    | none => exact trivial
    | some r => exact le_trans h hle
  | sleeping | committing => exact trivial

lemma readBefore_acts (hs : ReadBefore now s.loop) (h : Acts cfg s now a s') :
    ReadBefore now s'.loop := by
  cases h with
  | sleepEnds => exact le_refl now
  | cancelDelete hloop =>
    rw [hloop] at hs
    exact hs
  | deletes | commits | deleteFails | commitFails | cancel | queuedDeletes => exact trivial

/-- The invariant of the process. -/
structure Sound (s : Housekeeping) : Prop where
  kept : s.shared.Kept
  readBefore : ReadBefore s.shared.now s.loop

/-- A row that the DELETE of the loop removes does not live. -/
lemma keepsRows_deleteBefore {r : ℚ}
    (hs : SharedStore.KeepsRows now s.shared.store.table s.shared.lastInsert) (hr : r ≤ now) :
    SharedStore.KeepsRows now (s.deleteBefore r).store.table s.shared.lastInsert := by
  refine hs.prune (fun key row hrow => ?_) fun key row hrow hlive => ?_
  · exact (Table.lookup_deleteWhere_eq_some_iff.mp hrow).1
  · have hthen : CacheStore.Live r row := CacheStore.live_antitone row hr hlive
    exact Table.lookup_deleteWhere_eq_some_iff.mpr ⟨hrow, hthen.not_pastExpiry⟩

lemma keepsRows_acts (hkept : SharedStore.KeepsRows now s.shared.store.table s.shared.lastInsert)
    (hread : ReadBefore now s.loop) (h : Acts cfg s now a s') :
    SharedStore.KeepsRows now s'.shared.store.table s'.shared.lastInsert := by
  cases h with
  | deletes hloop | queuedDeletes hloop =>
    rw [hloop] at hread
    exact keepsRows_deleteBefore hkept hread
  | sleepEnds | commits | deleteFails | commitFails | cancelDelete | cancel => exact hkept

lemma sound_started (cfg : CleanupSettings) (store : CacheStore) (t₀ : ℚ) :
    Sound (started cfg store t₀) where
  kept := .refl CacheStore.Live t₀ fun key => store.table.lookup key
  readBefore := trivial

lemma sound_step (hs : Sound s) (hC : GetsDeleteExpired s e) (h : step cfg s e = some s') :
    Sound s' := by
  rcases step_cases h with ⟨e', shared, rfl, -, hshared, rfl⟩ | ⟨t, a, s₁, rfl, hle, hacts, rfl⟩
  · exact ⟨SharedStore.kept_step hs.kept hC hshared,
      hs.readBefore.later (SharedStore.step_now hshared)⟩
  · have hkept : SharedStore.KeepsRows t s.shared.store.table s.shared.lastInsert :=
      hs.kept.later CacheStore.live_antitone hle
    have hread : ReadBefore t s.loop := hs.readBefore.later hle
    have hkept' : SharedStore.KeepsRows t s₁.shared.store.table s₁.shared.lastInsert :=
      keepsRows_acts hkept hread hacts
    have hread' : ReadBefore t s₁.loop := readBefore_acts hread hacts
    exact ⟨hkept', hread'⟩

instance (s : Housekeeping) (e : HousekeepingEvent) : Decidable (GetsDeleteExpired s e) :=
  match e with
  | .call e => inferInstanceAs (Decidable (s.shared.DeletesExpired e))
  | .loop .. => isTrue trivial

/-- A row that has expired is replaced between the clock reading of a cleanup and its DELETE,
which is carried out after the loop has been cancelled. -/
def lateCleanup : List HousekeepingEvent :=
  [.call ⟨1, .set 0 "geocode:127.0:37.0" [("country", .str "대한민국")] { seconds := some 10 }⟩,
    .call ⟨1, .execute 0⟩, .call ⟨1, .commit 0⟩, .loop 3600 .sleepEnds,
    .call ⟨3600, .set 1 "geocode:127.0:37.0" [("country", .str "대한민국")] { seconds := some 10 }⟩,
    .call ⟨3600, .execute 1⟩, .loop 3601 .cancel, .loop 3602 .queuedDeletes]

/-- How long the loop stays where it is suspended when its sleep is at most `δ` seconds late
and the statements of a cleanup take at most `ε` seconds. -/
def deadline (δ ε : ℚ) : CleanupPhase → Option ℚ
  | .sleeping due => some (due + δ)
  | .deleting r => some (r + ε)
  | .committing r _ => some (r + ε)
  | .ended _ => none

/-- The condition on a step: the loop is resumed in time, no row is written after its time to
live has passed, and at most `m` cleanups in a row fail. -/
structure Timely (δ ε : ℚ) (m : ℕ) (s : Housekeeping) (e : HousekeepingEvent) : Prop where
  resumed : ∀ d, deadline δ ε s.loop = some d → e.time ≤ d
  written : ∀ t task key row, e = .call ⟨t, .execute task⟩ →
    s.shared.calls task = some (.inserting key row) → CacheStore.Live t row
  failed : ∀ t x r, e = .loop t (.fails x) → s.loop = .deleting r → s.missed < m

/-- The longest time between the readings of a cleanup and the next. -/
def roundTime (cfg : CleanupSettings) (δ ε : ℚ) : ℚ := cfg.cacheCleanupIntervalSeconds + δ + ε

variable {δ ε : ℚ} {m : ℕ}

/-- Where the loop is suspended, and for how long at most. -/
def PhaseInTime (cfg : CleanupSettings) (δ ε now cleaned : ℚ) (missed : ℕ) : CleanupPhase → Prop
  | .sleeping due => due + δ ≤ cleaned + (missed + 1) * roundTime cfg δ ε ∧ now ≤ due + δ
  | .deleting r =>
    cleaned ≤ r ∧ r ≤ now ∧ r ≤ cleaned + (missed + 1) * roundTime cfg δ ε ∧ now ≤ r + ε
  | .committing r _ => r = cleaned ∧ missed = 0 ∧ now ≤ r + ε
  | .ended _ => True

/-- No row of the table had expired at the last cleanup, which is not long ago. -/
structure InTime (cfg : CleanupSettings) (δ ε : ℚ) (m : ℕ) (t₀ : ℚ) (s : Housekeeping) : Prop where
  rows : ∀ key row t, s.shared.store.table.lookup key = some row → row.expiresAt = some t →
    s.cleaned ≤ max t t₀
  cleaned_le : s.cleaned ≤ s.shared.now
  missed_le : s.missed ≤ m
  phase : PhaseInTime cfg δ ε s.shared.now s.cleaned s.missed s.loop

/-- A row that a call has brought into the table was awaiting its INSERT. -/
lemma lookup_of_call {shared shared' : SharedStore} {e : StoreEvent} {key : String}
    {row : CacheRow} (h : shared.step e = some shared')
    (hrow : shared'.store.table.lookup key = some row) :
    shared.store.table.lookup key = some row ∨
      ∃ task, e.action = .execute task ∧ shared.calls task = some (.inserting key row) := by
  obtain ⟨hle, s₁, hacts, rfl⟩ := SharedStore.step_acts h
  obtain ⟨t, action⟩ := e
  cases hacts with
  | get | set | select | missed | stored | abandon => exact .inl hrow
  | delete => exact .inl (Table.lookup_of_lookup_erase hrow)
  | @insert task key' row' hcall =>
    by_cases hk : key = key'
    · subst hk
      have hself : (shared.store.table.insert key row').lookup key = some row' :=
        AList.lookup_insert _
      obtain rfl : row' = row := Option.some.inj (hself.symm.trans hrow)
      exact .inr ⟨task, rfl, hcall⟩
    · left
      rw [← hrow]
      exact (AList.lookup_insert_ne hk).symm
  | resume =>
    rw [← SharedStore.judge_table]
    exact .inl hrow
  | cleanup => exact .inl (CacheStore.lookup_cleanup_subset hrow)

/-- Time passes while the loop is suspended. -/
lemma PhaseInTime.later {cleaned : ℚ} {missed : ℕ} {loop : CleanupPhase}
    (h : PhaseInTime cfg δ ε now cleaned missed loop) (hle : now ≤ t)
    (hdeadline : ∀ d, deadline δ ε loop = some d → t ≤ d) :
    PhaseInTime cfg δ ε t cleaned missed loop := by
  cases loop with
  | sleeping due => exact ⟨h.1, hdeadline _ rfl⟩
  | deleting r => exact ⟨h.1, h.2.1.trans hle, h.2.2.1, hdeadline _ rfl⟩
  | committing r deleted => exact ⟨h.1, h.2.1, hdeadline _ rfl⟩
  | ended queued => exact trivial

/-- The loop sleeps again after a cleanup whose reading was in time. -/
lemma phaseInTime_sleeping {cleaned r : ℚ} {missed : ℕ} (hδ : 0 ≤ δ)
    (hr : r ≤ cleaned + missed * roundTime cfg δ ε) (hnow : now ≤ r + ε) :
    PhaseInTime cfg δ ε now cleaned missed (.sleeping (now + cfg.cacheCleanupIntervalSeconds)) := by
  have hinterval : (0 : ℚ) ≤ cfg.cacheCleanupIntervalSeconds := Nat.cast_nonneg _
  constructor
  · have hround : ((missed : ℚ) + 1) * roundTime cfg δ ε =
        missed * roundTime cfg δ ε + (cfg.cacheCleanupIntervalSeconds + δ + ε) := by
      rw [roundTime, add_mul, one_mul]
    linarith
  · linarith

lemma phaseInTime_acts (hδ : 0 ≤ δ) (hε : 0 ≤ ε) (hcleaned : s.cleaned ≤ now)
    (hs : PhaseInTime cfg δ ε now s.cleaned s.missed s.loop) (h : Acts cfg s now a s') :
    PhaseInTime cfg δ ε now s'.cleaned s'.missed s'.loop := by
  cases h with
  | sleepEnds hloop hdue =>
    rw [hloop] at hs
    exact ⟨hcleaned, le_refl now, hs.2.trans hs.1, le_add_of_nonneg_right hε⟩
  | deletes hloop =>
    rw [hloop] at hs
    exact ⟨rfl, rfl, hs.2.2.2⟩
  | commits hloop | commitFails hloop =>
    rw [hloop] at hs
    obtain ⟨rfl, hmissed, hnow⟩ := hs
    refine phaseInTime_sleeping hδ ?_ hnow
    simp [hmissed]
  | deleteFails hloop =>
    rw [hloop] at hs
    refine phaseInTime_sleeping hδ ?_ hs.2.2.2
    push_cast
    exact hs.2.2.1
  | cancelDelete | cancel | queuedDeletes => exact trivial

/-- The DELETE of a cleanup leaves no row that had expired at its reading. -/
lemma reading_le_of_deleteBefore {key : String} {row : CacheRow} {r : ℚ}
    (hrow : (s.deleteBefore r).store.table.lookup key = some row) (ht : row.expiresAt = some t) :
    r ≤ t := by
  have hkept := (Table.lookup_deleteWhere_eq_some_iff.mp hrow).2
  simpa [CacheStore.pastExpiry, ht] using hkept

lemma inTime_call {e' : StoreEvent} {shared : SharedStore} (hs : InTime cfg δ ε m t₀ s)
    (hC : Timely δ ε m s (.call e')) (h : s.shared.step e' = some shared) :
    InTime cfg δ ε m t₀ { s with shared } := by
  have hnow : s.shared.now ≤ e'.time := (SharedStore.step_acts h).1
  have hlater : shared.now = e'.time := by
    obtain ⟨-, s₁, -, rfl⟩ := SharedStore.step_acts h
    rfl
  refine ⟨fun key row t hrow ht => ?_, ?_, hs.missed_le, ?_⟩
  · rcases lookup_of_call h hrow with hold | ⟨task, haction, hcall⟩
    · exact hs.rows key row t hold ht
    · -- the row has been written by this step, and it lives
      have hlive : CacheStore.Live e'.time row :=
        hC.written e'.time task key row (by rw [← haction]) hcall
      exact (hs.cleaned_le.trans (hnow.trans (hlive t ht))).trans (le_max_left t t₀)
  · show s.cleaned ≤ shared.now
    rw [hlater]
    exact hs.cleaned_le.trans hnow
  · show PhaseInTime cfg δ ε shared.now s.cleaned s.missed s.loop
    rw [hlater]
    exact hs.phase.later hnow hC.resumed

lemma inTime_acts (hs : InTime cfg δ ε m t₀ s) (hle : s.shared.now ≤ t)
    (hphase : PhaseInTime cfg δ ε t s.cleaned s.missed s.loop) (hδ : 0 ≤ δ) (hε : 0 ≤ ε)
    (hfailed : ∀ x r, a = .fails x → s.loop = .deleting r → s.missed < m)
    (h : Acts cfg s t a s') :
    InTime cfg δ ε m t₀ { s' with shared := { s'.shared with now := t } } := by
  have hcleaned : s.cleaned ≤ t := hs.cleaned_le.trans hle
  have hphase' : PhaseInTime cfg δ ε t s'.cleaned s'.missed s'.loop :=
    phaseInTime_acts hδ hε hcleaned hphase h
  cases h with
  | sleepEnds | commits | commitFails | cancelDelete | cancel =>
    exact ⟨hs.rows, hcleaned, hs.missed_le, hphase'⟩
  | @deletes r hloop =>
    rw [hloop] at hphase
    refine ⟨fun key row t hrow ht => ?_, hphase.2.1, Nat.zero_le m, hphase'⟩
    exact (reading_le_of_deleteBefore hrow ht).trans (le_max_left t t₀)
  | @deleteFails x r hloop => exact ⟨hs.rows, hcleaned, hfailed x r rfl hloop, hphase'⟩
  | queuedDeletes =>
    refine ⟨fun key row t hrow ht => ?_, hcleaned, hs.missed_le, hphase'⟩
    exact hs.rows key row t (Table.lookup_deleteWhere_eq_some_iff.mp hrow).1 ht

lemma inTime_step (hδ : 0 ≤ δ) (hε : 0 ≤ ε) (hs : InTime cfg δ ε m t₀ s)
    (hC : Timely δ ε m s e) (h : step cfg s e = some s') : InTime cfg δ ε m t₀ s' := by
  rcases step_cases h with ⟨e', shared, rfl, -, hshared, rfl⟩ | ⟨t, a, s₁, rfl, hle, hacts, rfl⟩
  · exact inTime_call hs hC hshared
  · refine inTime_acts hs hle (hs.phase.later hle hC.resumed) hδ hε ?_ hacts
    rintro x r rfl hloop
    exact hC.failed t x r rfl hloop

lemma inTime_started (hδ : 0 ≤ δ) (hε : 0 ≤ ε) (cfg : CleanupSettings) (store : CacheStore)
    (m : ℕ) (t₀ : ℚ) : InTime cfg δ ε m t₀ (started cfg store t₀) where
  rows _ _ t _ _ := le_max_right t t₀
  cleaned_le := le_refl t₀
  missed_le := Nat.zero_le m
  phase := by
    have hfirst : t₀ ≤ t₀ + (0 : ℕ) * roundTime cfg δ ε := by simp
    exact phaseInTime_sleeping hδ hfirst (le_add_of_nonneg_right hε)

/-- A loop that has not ended has cleaned the table not long ago. -/
lemma now_le_of_inTime (hε : 0 ≤ ε) (hδ : 0 ≤ δ) (hs : InTime cfg δ ε m t₀ s)
    (hloop : ∀ q, s.loop ≠ .ended q) :
    s.shared.now ≤ s.cleaned + (m + 1) * roundTime cfg δ ε + ε := by
  have hinterval : (0 : ℚ) ≤ cfg.cacheCleanupIntervalSeconds := Nat.cast_nonneg _
  have hround : 0 ≤ roundTime cfg δ ε := by
    rw [roundTime]
    linarith
  have hrounds : ((s.missed : ℚ) + 1) * roundTime cfg δ ε ≤ (m + 1) * roundTime cfg δ ε := by
    refine mul_le_mul_of_nonneg_right ?_ hround
    have hmissed : (s.missed : ℚ) ≤ m := by exact_mod_cast hs.missed_le
    linarith
  have hphase := hs.phase
  cases hold : s.loop with
  | sleeping due =>
    rw [hold] at hphase
    linarith [hphase.1, hphase.2]
  | deleting r =>
    rw [hold] at hphase
    linarith [hphase.2.2.1, hphase.2.2.2]
  | committing r deleted =>
    rw [hold] at hphase
    obtain ⟨rfl, -, hnow⟩ := hphase
    have hpositive : 0 ≤ ((m : ℚ) + 1) * roundTime cfg δ ε :=
      mul_nonneg (by positivity) hround
    linarith
  | ended q => exact absurd hold (hloop q)

/-- The loop can go on, by actions of its own that are in time, to a DELETE that is carried
out. -/
def Cleans (cfg : CleanupSettings) (δ ε : ℚ) (m : ℕ) (s : Housekeeping) : Prop :=
  ∃ es s', Run (step cfg) (Timely δ ε m) s es s' ∧ (∀ e ∈ es, ∃ t a, e = .loop t a) ∧
    s.cleaned ≤ s'.cleaned ∧ s'.missed = 0 ∧
    s'.shared.store.table = s.shared.store.table.deleteWhere (CacheStore.pastExpiry s'.cleaned)

/-- An action of the loop that cannot fail is taken in time. -/
lemma timely_loop (hnow : ∀ d, deadline δ ε s.loop = some d → t ≤ d) (ha : ∀ x, a ≠ .fails x) :
    Timely δ ε m s (.loop t a) where
  resumed := hnow
  written _ _ _ _ he := by cases he
  failed _ x _ he := by
    cases he
    exact absurd rfl (ha x)

lemma cleans_of_deleting {r : ℚ} (hloop : s.loop = .deleting r) (hr : s.cleaned ≤ r)
    (hnow : s.shared.now ≤ r + ε) : Cleans cfg δ ε m s := by
  have hstep : step cfg s (.loop s.shared.now .deletes) = some
      { shared := { s.deleteBefore r with now := s.shared.now }
        loop := .committing r (s.rowcount r)
        cleaned := r
        missed := 0 } := by
    simp [step, act, hloop]
  have htimely : Timely δ ε m s (.loop s.shared.now .deletes) := by
    refine timely_loop (fun d hd => ?_) fun x hx => by cases hx
    rw [hloop] at hd
    cases hd
    exact hnow
  refine ⟨_, _, .cons htimely hstep (.nil _), ?_, hr, rfl, rfl⟩
  simp

lemma cleans_of_sleeping {due : ℚ} (hloop : s.loop = .sleeping due)
    (hcleaned : s.cleaned ≤ s.shared.now) (hδ : 0 ≤ δ) (hε : 0 ≤ ε)
    (hnow : s.shared.now ≤ due + δ) : Cleans cfg δ ε m s := by
  have hstep : step cfg s (.loop (max s.shared.now due) .sleepEnds) = some { s with
      shared := { s.shared with now := max s.shared.now due }
      loop := .deleting (max s.shared.now due) } := by
    simp [step, act, hloop]
  have htimely : Timely δ ε m s (.loop (max s.shared.now due) .sleepEnds) := by
    refine timely_loop (fun d hd => ?_) fun x hx => by cases hx
    rw [hloop] at hd
    cases hd
    exact max_le hnow (le_add_of_nonneg_right hδ)
  have hcleans : Cleans cfg δ ε m { s with
      shared := { s.shared with now := max s.shared.now due }
      loop := .deleting (max s.shared.now due) } :=
    cleans_of_deleting rfl (hcleaned.trans (le_max_left _ _)) (le_add_of_nonneg_right hε)
  obtain ⟨es, s', hrun, hes, hlater, hmissed, htable⟩ := hcleans
  refine ⟨_, s', .cons htimely hstep hrun, ?_, hlater, hmissed, htable⟩
  intro e he
  rcases List.mem_cons.mp he with rfl | hrest
  · exact ⟨_, _, rfl⟩
  · exact hes e hrest

lemma cleans_of_committing {r : ℚ} {deleted : ℕ} (hloop : s.loop = .committing r deleted)
    (hcleaned : s.cleaned ≤ s.shared.now) (hδ : 0 ≤ δ) (hε : 0 ≤ ε)
    (hnow : s.shared.now ≤ r + ε) : Cleans cfg δ ε m s := by
  have hstep : step cfg s (.loop s.shared.now .commits) = some
      { s with loop := .sleeping (s.shared.now + cfg.cacheCleanupIntervalSeconds) } := by
    simp [step, act, hloop, afterCleanup_eq]
  have htimely : Timely δ ε m s (.loop s.shared.now .commits) := by
    refine timely_loop (fun d hd => ?_) fun x hx => by cases hx
    rw [hloop] at hd
    cases hd
    exact hnow
  have hinterval : (0 : ℚ) ≤ cfg.cacheCleanupIntervalSeconds := Nat.cast_nonneg _
  have hnext : s.shared.now ≤ s.shared.now + cfg.cacheCleanupIntervalSeconds + δ := by linarith
  have hcleans : Cleans cfg δ ε m
      { s with loop := .sleeping (s.shared.now + cfg.cacheCleanupIntervalSeconds) } :=
    cleans_of_sleeping rfl hcleaned hδ hε hnext
  obtain ⟨es, s', hrun, hes, hlater, hmissed, htable⟩ := hcleans
  refine ⟨_, s', .cons htimely hstep hrun, ?_, hlater, hmissed, htable⟩
  intro e he
  rcases List.mem_cons.mp he with rfl | hrest
  · exact ⟨_, _, rfl⟩
  · exact hes e hrest

/-- A loop that has not ended comes to another cleanup. -/
lemma cleans_of_inTime (hδ : 0 ≤ δ) (hε : 0 ≤ ε) (hs : InTime cfg δ ε m t₀ s)
    (hloop : ∀ q, s.loop ≠ .ended q) : Cleans cfg δ ε m s := by
  have hphase := hs.phase
  cases hold : s.loop with
  | sleeping due =>
    rw [hold] at hphase
    exact cleans_of_sleeping hold hs.cleaned_le hδ hε hphase.2
  | deleting r =>
    rw [hold] at hphase
    exact cleans_of_deleting hold hphase.1 hphase.2.2.2
  | committing r deleted =>
    rw [hold] at hphase
    exact cleans_of_committing hold hs.cleaned_le hδ hε hphase.2.2
  | ended q => exact absurd hold (hloop q)

/-- A row that expires at 10. -/
def oneRow : CacheStore :=
  (CacheStore.init.set 0 "geocode:127.0:37.0" [] { seconds := some 10 } none).1

end Housekeeping

end ImageDescriptor
