/-
# The cache across restarts

The table of the store lies in a file and is served again by the next process.  The calls of
a process share one connection and with it one transaction: a statement opens it, and the
commit of any call commits the statements of all.  When the process dies, the statements that
have not been committed are lost.  What the next process finds is nevertheless what the last
committed INSERT of every key has written, so that a `set` that has returned is not lost, and
a value that has been lost is not served again later on.
-/
import ImageDescriptor.Cache.CleanupLoop
import ImageDescriptor.Lib.Journal

namespace ImageDescriptor

open Lib

/-- A process on the file of the cache: the rows on disk, and beside them the INSERTs of all
processes so far. -/
structure PersistentCache where
  process : Housekeeping
  disk : Table String CacheRow
  journal : Journal (String × CacheRow)

/-- What happens: an event of the process, a commit that a cancelled call has left behind, or
the process dies and another one is started. -/
inductive PersistentEvent
  | run (e : HousekeepingEvent)
  | queuedCommit
  | restart (time : ℚ)

def PersistentEvent.restarts : PersistentEvent → Bool
  | .restart _ => true
  | _ => false

namespace PersistentCache

/-- The first process, on a new file. -/
def created (cfg : CleanupSettings) (t₀ : ℚ) : PersistentCache :=
  ⟨.started cfg .init t₀, ∅, .empty⟩

/-- The time of the process. -/
def now (s : PersistentCache) : ℚ := s.process.shared.now

/-- The rows that an event inserts. -/
def inserted (shared : SharedStore) : HousekeepingEvent → List (String × CacheRow)
  | .call ⟨_, .execute task⟩ =>
    match shared.calls task with
    | some (.inserting key row) => [(key, row)]
    | _ => []
  | _ => []

/-- The event is a `commit()` that returns. -/
def commits : HousekeepingEvent → Bool
  | .call ⟨_, .commit _⟩ => true
  | .loop _ .commits => true
  | _ => false

/-- `commit()` of the connection. -/
def commit (s : PersistentCache) : PersistentCache :=
  { s with disk := s.process.shared.store.table, journal := s.journal.commit }

/-- The process dies and another one is started on what is on disk; the last INSERTs that
count for it are the committed ones. -/
def restarted (cfg : CleanupSettings) (s : PersistentCache) (t : ℚ) : PersistentCache where
  process := { Housekeeping.started cfg { CacheStore.init with table := s.disk } t with
    shared := { SharedStore.initial { CacheStore.init with table := s.disk } with
      now := t
      lastInsert := lastWrite s.journal.durable } }
  disk := s.disk
  journal := s.journal.crash

/-- One event; `none` when it cannot happen. -/
def step (cfg : CleanupSettings) (s : PersistentCache) : PersistentEvent → Option PersistentCache
  | .run e =>
    (s.process.step cfg e).map fun process =>
      let s' : PersistentCache :=
        { s with process, journal := s.journal.append (inserted s.process.shared e) }
      if commits e then s'.commit else s'
  | .queuedCommit => some s.commit
  | .restart t => if t < s.now then none else some (s.restarted cfg t)

/-- The condition on a step: the DELETE of a `get` finds no row under its key, or one whose
time to live has passed. -/
def GetsDeleteExpired (s : PersistentCache) : PersistentEvent → Prop
  | .run e => s.process.GetsDeleteExpired e
  | _ => True

variable {cfg : CleanupSettings} {s s' : PersistentCache} {e : PersistentEvent} {t₀ : ℚ}

/-! ### The journal -/

/-- What an event of the process does to the journal and to the disk. -/
lemma run_spec {e : HousekeepingEvent} (h : step cfg s (.run e) = some s') :
    s.process.step cfg e = some s'.process ∧
      s'.journal.writes = s.journal.writes ++ inserted s.process.shared e ∧
      ((commits e = false ∧ s'.disk = s.disk ∧ s'.journal.durable = s.journal.durable) ∨
        (commits e = true ∧ s'.disk = s'.process.shared.store.table ∧
          s'.journal.durable = s'.journal.writes)) := by
  simp only [step] at h
  obtain ⟨process, hprocess, hs'⟩ := Option.map_eq_some_iff.mp h
  cases hcommits : commits e with
  | false =>
    rw [hcommits, if_neg Bool.false_ne_true] at hs'
    subst hs'
    exact ⟨hprocess, Journal.writes_append _ _, .inl ⟨rfl, rfl, rfl⟩⟩
  | true =>
    rw [hcommits, if_pos rfl] at hs'
    subst hs'
    refine ⟨hprocess, ?_, .inr ⟨rfl, rfl, ?_⟩⟩
    · simp [commit]
    · simp [commit]

/-- What is durable stays so, whatever happens. -/
lemma durable_prefix_of_step (h : step cfg s e = some s') :
    s.journal.durable <+: s'.journal.durable := by
  cases e with
  | run e =>
    obtain ⟨-, hwrites, ⟨-, -, hdurable⟩ | ⟨-, -, hdurable⟩⟩ := run_spec h
    · rw [hdurable]
    · rw [hdurable, hwrites]
      exact s.journal.durable_prefix_writes.trans (List.prefix_append _ _)
  | queuedCommit =>
    cases h
    exact s.journal.durable_prefix_writes
  | restart t =>
    simp only [step] at h
    split at h
    · cases h
    · cases h
      exact List.prefix_rfl

lemma durable_prefix_of_run {C : PersistentCache → PersistentEvent → Prop}
    {es : List PersistentEvent} (hrun : Run (step cfg) C s es s') :
    s.journal.durable <+: s'.journal.durable :=
  hrun.invariant (I := fun s' => s.journal.durable <+: s'.journal.durable)
    (fun _ _ _ hs _ h => hs.trans (durable_prefix_of_step h)) List.prefix_rfl

/-! ### The disk stands for the committed INSERTs -/

/-- The invariant of the processes. -/
structure Sound (s : PersistentCache) : Prop where
  process : s.process.Sound
  last : s.process.shared.lastInsert = lastWrite s.journal.writes
  disk : SharedStore.KeepsRows s.now s.disk (lastWrite s.journal.durable)

lemma lastInsert_of_call {ws : List (String × CacheRow)} {shared shared' : SharedStore}
    {e : StoreEvent} (hlast : shared.lastInsert = lastWrite ws)
    (h : shared.step e = some shared') :
    shared'.lastInsert = lastWrite (ws ++ inserted shared (.call e)) := by
  obtain ⟨-, s₁, hacts, rfl⟩ := SharedStore.step_acts h
  obtain ⟨t, action⟩ := e
  show s₁.lastInsert = _
  cases hacts with
  | get | set | resume | missed | stored | abandon | cleanup =>
    show shared.lastInsert = lastWrite (ws ++ [])
    rw [List.append_nil, hlast]
  | @select task key hcall | @delete task key hcall =>
    have hnone : inserted shared (.call ⟨t, .execute task⟩) = [] := by simp [inserted, hcall]
    show shared.lastInsert = _
    rw [hnone, List.append_nil, hlast]
  | @insert task key row hcall =>
    have hone : inserted shared (.call ⟨t, .execute task⟩) = [(key, row)] := by
      simp [inserted, hcall]
    show Function.update shared.lastInsert key (some row) = _
    rw [hone, lastWrite_snoc, hlast]

lemma lastInsert_of_step {ws : List (String × CacheRow)} {p p' : Housekeeping}
    {e : HousekeepingEvent} (hlast : p.shared.lastInsert = lastWrite ws)
    (h : p.step cfg e = some p') :
    p'.shared.lastInsert = lastWrite (ws ++ inserted p.shared e) := by
  rcases Housekeeping.step_cases h with
    ⟨e', shared, rfl, -, hshared, rfl⟩ | ⟨t, a, p₁, rfl, -, hacts, rfl⟩
  · exact lastInsert_of_call hlast hshared
  · show p₁.shared.lastInsert = lastWrite (ws ++ [])
    rw [List.append_nil, ← hlast]
    cases hacts <;> rfl

/-- The clock of the process does not go back. -/
lemma now_le_of_process_step {p p' : Housekeeping} {e : HousekeepingEvent}
    (h : p.step cfg e = some p') : p.shared.now ≤ p'.shared.now := by
  rcases Housekeeping.step_cases h with
    ⟨e', shared, rfl, -, hshared, rfl⟩ | ⟨t, a, p₁, rfl, hle, -, rfl⟩
  · exact SharedStore.step_now hshared
  · exact hle

lemma sound_run {e : HousekeepingEvent} (hs : Sound s) (hC : s.process.GetsDeleteExpired e)
    (h : step cfg s (.run e) = some s') : Sound s' := by
  obtain ⟨hprocess, hwrites, hdisk⟩ := run_spec h
  have hsound : s'.process.Sound := Housekeeping.sound_step hs.process hC hprocess
  have hlast : s'.process.shared.lastInsert = lastWrite s'.journal.writes := by
    rw [hwrites]
    exact lastInsert_of_step hs.last hprocess
  refine ⟨hsound, hlast, ?_⟩
  rcases hdisk with ⟨-, hsame, hdurable⟩ | ⟨-, htable, hdurable⟩
  · rw [hsame, hdurable]
    exact hs.disk.later CacheStore.live_antitone (now_le_of_process_step hprocess)
  · rw [htable, hdurable, ← hlast]
    exact hsound.kept

lemma sound_restarted {t : ℚ} (hs : Sound s) (hle : s.now ≤ t) : Sound (s.restarted cfg t) := by
  have hdisk : SharedStore.KeepsRows t s.disk (lastWrite s.journal.durable) :=
    hs.disk.later CacheStore.live_antitone hle
  refine ⟨⟨hdisk, trivial⟩, ?_, hdisk⟩
  show lastWrite s.journal.durable = lastWrite s.journal.crash.writes
  rw [Journal.writes_crash]

lemma sound_step (hs : Sound s) (hC : GetsDeleteExpired s e) (h : step cfg s e = some s') :
    Sound s' := by
  cases e with
  | run e => exact sound_run hs hC h
  | queuedCommit =>
    cases h
    refine ⟨hs.process, ?_, ?_⟩
    · show s.process.shared.lastInsert = lastWrite s.journal.commit.writes
      rw [Journal.writes_commit, hs.last]
    · show SharedStore.KeepsRows s.now s.process.shared.store.table (lastWrite s.journal.writes)
      rw [← hs.last]
      exact hs.process.kept
  | restart t =>
    simp only [step] at h
    split at h
    · cases h
    · rename_i hlt
      cases h
      exact sound_restarted hs (not_lt.mp hlt)

lemma lastWrite_no_rows : lastWrite ([] : List (String × CacheRow)) =
    fun key => (∅ : Table String CacheRow).lookup key := by
  funext key
  rw [lastWrite_nil, AList.lookup_empty]

lemma sound_created (cfg : CleanupSettings) (t₀ : ℚ) : Sound (created cfg t₀) where
  process := Housekeeping.sound_started cfg .init t₀
  last := (lastWrite_no_rows).symm
  disk := by
    show SharedStore.KeepsRows t₀ ∅ (lastWrite [])
    rw [lastWrite_no_rows]
    exact .refl CacheStore.Live t₀ _

lemma sound_of_run {es : List PersistentEvent}
    (hrun : Run (step cfg) GetsDeleteExpired (created cfg t₀) es s) : Sound s :=
  hrun.invariant (fun _ _ _ hs hC h => sound_step hs hC h) (sound_created cfg t₀)

variable {task : ℕ} {key : String} {row : CacheRow} {writes durable : List (String × CacheRow)}

/-- How far a `set` has come with its row. -/
def HasWritten (key : String) (row : CacheRow) (writes durable : List (String × CacheRow)) :
    Option StorePhase → Prop
  | some (.inserting key' row') => key' = key ∧ row' = row
  | some .inserted => (key, row) ∈ writes
  | some .stored => (key, row) ∈ durable
  | some .abandoned => True
  | _ => False

lemma HasWritten.mono {writes' durable' : List (String × CacheRow)} {call : Option StorePhase}
    (h : HasWritten key row writes durable call) (hwrites : writes ⊆ writes')
    (hdurable : durable ⊆ durable') : HasWritten key row writes' durable' call := by
  rcases call with _ | p
  · exact h
  · cases p with
    | inserted => exact hwrites h
    | stored => exact hdurable h
    | inserting | abandoned | selecting | selected | deleting | deleted | returned => exact h

/-- A call other than the one that a step moves, or the one with its new phase. -/
lemma hasWritten_put (shared : SharedStore) {i : ℕ} {p : StorePhase}
    (hs : HasWritten key row writes durable (shared.calls task))
    (hp : i = task → HasWritten key row writes durable (some p)) :
    HasWritten key row writes durable ((shared.put i p).calls task) := by
  by_cases hi : task = i
  · subst hi
    simpa [SharedStore.put] using hp rfl
  · simpa [SharedStore.put, Function.update_of_ne hi] using hs

lemma hasWritten_call {shared shared' : SharedStore} {e : StoreEvent}
    {durable' : List (String × CacheRow)}
    (hs : HasWritten key row writes durable (shared.calls task)) (h : shared.step e = some shared')
    (hdurable : durable ⊆ durable')
    (hcommits : commits (.call e) = true → writes ⊆ durable') :
    HasWritten key row (writes ++ inserted shared (.call e)) durable' (shared'.calls task) := by
  obtain ⟨-, s₁, hacts, rfl⟩ := SharedStore.step_acts h
  obtain ⟨t, action⟩ := e
  show HasWritten key row _ durable' (s₁.calls task)
  have hgrown : HasWritten key row (writes ++ inserted shared (.call ⟨t, action⟩)) durable'
      (shared.calls task) := hs.mono (List.subset_append_left _ _) hdurable
  -- the call is none that has not begun, and no `get`
  have hother : ∀ {i : ℕ} {q : Option StorePhase}, shared.calls i = q →
      (HasWritten key row writes durable q → False) → i ≠ task := by
    rintro i q hq hno rfl
    rw [hq] at hs
    exact hno hs
  cases hacts with
  | get hnew | set hnew =>
    exact hasWritten_put shared hgrown fun hi => absurd hi (hother hnew id)
  | select hcall =>
    exact hasWritten_put shared hgrown fun hi => absurd hi (hother hcall id)
  | delete hcall =>
    exact hasWritten_put (shared.withTable _) hgrown fun hi =>
      absurd hi (hother hcall id)
  | @insert i key' row' hcall =>
    have hone : inserted shared (.call ⟨t, .execute i⟩) = [(key', row')] := by
      simp [inserted, hcall]
    rw [hone] at hgrown ⊢
    refine hasWritten_put (shared.withTable _) hgrown fun hi => ?_
    subst hi
    rw [hcall] at hs
    obtain ⟨rfl, rfl⟩ := hs
    exact List.mem_append_right _ (List.mem_singleton_self _)
  | resume hcall | missed hcall =>
    exact hasWritten_put { shared with store := _ } hgrown fun hi =>
      absurd hi (hother hcall id)
  | @stored i hcall =>
    refine hasWritten_put shared hgrown fun hi => ?_
    subst hi
    rw [hcall] at hs
    exact hcommits rfl hs
  | abandon => exact hasWritten_put shared hgrown fun _ => trivial
  | cleanup => exact hgrown

/-- The `set` of a task in a state of the processes. -/
def Stores (task : ℕ) (key : String) (row : CacheRow) (s : PersistentCache) : Prop :=
  HasWritten key row s.journal.writes s.journal.durable (s.process.shared.calls task)

/-- A `set` begins. -/
lemma stores_of_set {t : ℚ} {value : Fields} {ttl : CacheStore.Ttl}
    (h : step cfg s (.run (.call ⟨t, .set task key value ttl⟩)) = some s') :
    Stores task key ⟨.dumps (.obj value), CacheStore.expiresAt t ttl⟩ s' := by
  obtain ⟨hprocess, -, -⟩ := run_spec h
  rcases Housekeeping.step_cases hprocess with
    ⟨e', shared, he, -, hshared, hs'⟩ | ⟨t', a, p₁, he, -, -, -⟩
  · cases he
    obtain ⟨-, s₁, hacts, rfl⟩ := SharedStore.step_acts hshared
    rw [Stores, hs']
    cases hacts with
    | set hnew =>
      show HasWritten key _ _ _ ((s.process.shared.put task _).calls task)
      simp [SharedStore.put, HasWritten]
  · cases he

/-- A process goes on. -/
lemma stores_step (hs : Stores task key row s) (hsame : e.restarts = false)
    (h : step cfg s e = some s') : Stores task key row s' := by
  have hdurable : s.journal.durable ⊆ s'.journal.durable := (durable_prefix_of_step h).subset
  cases e with
  | run e =>
    obtain ⟨hprocess, hwrites, hdisk⟩ := run_spec h
    rw [Stores, hwrites]
    rcases Housekeeping.step_cases hprocess with
      ⟨e', shared, rfl, -, hshared, hs'⟩ | ⟨t, a, p₁, rfl, -, hacts, hs'⟩
    · have hcommits : commits (.call e') = true → s.journal.writes ⊆ s'.journal.durable := by
        intro hcommit
        rcases hdisk with ⟨hno, -, -⟩ | ⟨-, -, hall⟩
        · rw [hcommit] at hno
          cases hno
        · rw [hall, hwrites]
          exact List.subset_append_left _ _
      rw [hs']
      exact hasWritten_call hs hshared hdurable hcommits
    · have hcalls : s'.process.shared.calls = s.process.shared.calls := by
        rw [hs']
        cases hacts <;> rfl
      rw [hcalls]
      exact hs.mono (List.subset_append_left _ _) hdurable
  | queuedCommit =>
    cases h
    refine hs.mono ?_ hdurable
    rw [commit, Journal.writes_commit]
    exact List.Subset.refl _
  | restart t => cases hsame

instance (s : PersistentCache) (e : PersistentEvent) : Decidable (GetsDeleteExpired s e) :=
  match e with
  | .run e => inferInstanceAs (Decidable (s.process.GetsDeleteExpired e))
  | .queuedCommit => isTrue trivial
  | .restart _ => isTrue trivial

/-- The place of a `set` that returns. -/
def storedSet : List PersistentEvent :=
  [.run (.call ⟨1, .execute 0⟩), .run (.call ⟨1, .commit 0⟩)]

/-- Another INSERT, and the end of the process. -/
def lostInsert : List PersistentEvent :=
  [.run (.call ⟨2, .set 1 "geocode:128.0:38.0" [] { seconds := some 10 }⟩),
    .run (.call ⟨2, .execute 1⟩), .restart 3]

/-- Whether a call of `set` has returned. -/
def returnedStored : Option StorePhase → Bool
  | some .stored => true
  | _ => false

/-- Whether two processes are at 1 and at 3, the first with a `set` that has returned. -/
def storedThenLost (s₃ s₄ : PersistentCache) : Bool :=
  returnedStored (s₃.process.shared.calls 0) && decide (s₄.now = 3)

end PersistentCache

end ImageDescriptor
