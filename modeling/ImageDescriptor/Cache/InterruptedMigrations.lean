/-
# Interrupted migrations

A run of the migrations that stops leaves the database on disk.  That is the state after some
of the pending migrations, with their versions recorded, exactly when the statements that have
been executed of a script whose version is not recorded have committed no change of the
schema.  Outside a transaction every statement commits, so a stop within a script, or between
a script and the commit of its version, leaves a schema that no version stands for; a script
that opens a transaction and leaves it open to the commit of the version may stop anywhere.
-/
import Mathlib.Data.List.Basic
import Mathlib.Data.List.Nodup
import ImageDescriptor.Cache.Migrator

namespace ImageDescriptor

open Lib

/-- The row of `schema_version` for a migration. -/
def Migration.row {Stmt : Type} (m : Migration Stmt) : ℕ × String := (m.version, m.name)

namespace Migrator

variable {Stmt Schema : Type} (exec : Stmt → Schema → Except Exc Schema)
  (migrations : List (Migration Stmt)) (d : Database Schema)

/-- The migrations whose versions are not recorded in a database. -/
def pending : List (Migration Stmt) :=
  migrations.filter fun m => m.version ∉ d.recorded.map Prod.fst

/-- The first `k` of the pending migrations are applied completely. -/
def complete (k : ℕ) : Except Exc (Connection (Database Schema)) :=
  ((pending migrations d).take k).foldlM (applyMigration exec) (.opened (withTable d))

/-- A database as if some of the pending migrations, in their order, had been applied
completely and the others not at all, with their versions recorded. -/
def LeavesWhole (d' : Database Schema) : Prop :=
  ∃ k c, complete exec migrations d k = .ok c ∧ d'.schema = c.disk.schema ∧
    d'.recorded = d.recorded ++ ((pending migrations d).take k).map Migration.row

/-- Where an uninterrupted run returns, a run that begins with another database does so too,
and leaves the same. -/
def Resumes (d' : Database Schema) : Prop :=
  ∀ c n, runMigrations exec migrations (.opened d) = .ok (c, n) →
    ∃ n', runMigrations exec migrations (.opened d') = .ok (c, n')

/-- What is asked of the database that a run leaves. -/
structure SoundStop (d' : Database Schema) : Prop where
  whole : LeavesWhole exec migrations d d'
  resumes : Resumes exec migrations d d'

/-- The statements that have been executed of a script whose version is not recorded have
committed no change of the schema, on which the migrations before it have been applied. -/
def NothingCommitted (s : Migrating Stmt Schema) : Prop :=
  ∃ c c', complete exec migrations d s.count = .ok c ∧
    runStatements exec c s.executed = .ok c' ∧ c'.disk.schema = c.disk.schema

variable {exec migrations d} {s s' : Migrating Stmt Schema} {c c' : Connection (Database Schema)}
  {m : Migration Stmt} {rows : List (ℕ × String)} {k : ℕ}

/-! ### Scripts and versions -/

lemma runStatement_versions {v : Option (List (ℕ × String))} {st : Statement Stmt}
    (hc : c.Holds fun d => d.schemaVersion = v) (h : runStatement exec c st = .ok c') :
    c'.Holds fun d => d.schemaVersion = v := by
  cases st with
  | sql stmt =>
    simp only [runStatement] at h
    refine hc.write (fun d₁ d₂ hd₁ hd₂ => ?_) h
    rcases hexec : exec stmt d₁.schema with e | schema <;> simp only [hexec] at hd₂ <;> cases hd₂
    exact hd₁
  | begin =>
    simp only [runStatement] at h
    split at h <;> cases h
    exact hc.begin
  | commit =>
    simp only [runStatement] at h
    split at h <;> cases h
    exact hc.commit
  | rollback =>
    simp only [runStatement] at h
    split at h <;> cases h
    exact hc.rollback

/-- A script leaves the versions alone. -/
lemma runStatements_versions {v : Option (List (ℕ × String))} {script : List (Statement Stmt)}
    (hc : c.Holds fun d => d.schemaVersion = v) (h : runStatements exec c script = .ok c') :
    c'.Holds fun d => d.schemaVersion = v := by
  induction script generalizing c with
  | nil =>
    cases h
    exact hc
  | cons st rest ih =>
    simp only [runStatements, List.foldlM_cons, bind_eq_ok] at h
    obtain ⟨c₁, hst, hrest⟩ := h
    exact ih (runStatement_versions hc hst) hrest

/-- The version of a migration is recorded in a transaction. -/
lemma insertVersion_spec (hrows : c.view.schemaVersion = some rows)
    (h : insertVersion c m = .ok c') : m.version ∉ rows.map Prod.fst ∧
      c'.view.schemaVersion = some (rows ++ [m.row]) ∧ c'.disk = c.disk := by
  have hdisk := Connection.disk_write_of_open (c := c.begin) rfl h
  have hview := Connection.view_write h
  simp only [Connection.view_begin, hrows] at hview
  split at hview
  · cases hview
  · rename_i hnew
    rw [Except.ok.injEq] at hview
    exact ⟨hnew, by rw [← hview]; rfl, hdisk.1⟩

/-- A migration that is applied adds its version, which was not there. -/
lemma applyMigration_spec (hc : c.working = none) (hrows : c.disk.schemaVersion = some rows)
    (h : applyMigration exec c m = .ok c') : m.version ∉ rows.map Prod.fst ∧
      c'.working = none ∧ c'.disk.schemaVersion = some (rows ++ [m.row]) := by
  simp only [applyMigration, executescript, bind_eq_ok] at h
  obtain ⟨c₁, hscript, c₂, hinsert, hc'⟩ := h
  cases hc'
  rw [Connection.eq_opened hc] at hscript
  have hversions := runStatements_versions (v := some rows) (.opened hrows) hscript
  obtain ⟨hnew, hview, -⟩ := insertVersion_spec hversions.view hinsert
  exact ⟨hnew, rfl, hview⟩

/-- Migrations that are applied one after the other have different versions, and add them. -/
lemma applyAll_spec {ms : List (Migration Stmt)} (hc : c.working = none)
    (hrows : c.disk.schemaVersion = some rows)
    (h : ms.foldlM (applyMigration exec) c = .ok c') :
    (ms.map Migration.version).Nodup ∧ (∀ m ∈ ms, m.version ∉ rows.map Prod.fst) ∧
      c'.working = none ∧ c'.disk.schemaVersion = some (rows ++ ms.map Migration.row) := by
  induction ms generalizing c rows with
  | nil =>
    cases h
    simpa using ⟨hc, hrows⟩
  | cons m ms ih =>
    simp only [List.foldlM_cons, bind_eq_ok] at h
    obtain ⟨c₁, hm, hms⟩ := h
    obtain ⟨hnew, hc₁, hrows₁⟩ := applyMigration_spec hc hrows hm
    obtain ⟨hnodup, hdisjoint, hc', hrows'⟩ := ih hc₁ hrows₁ hms
    have hnot : ∀ m' ∈ ms, m'.version ∉ rows.map Prod.fst ∧ m'.version ≠ m.version := by
      intro m' hm'
      have hm'rows := hdisjoint m' hm'
      rw [List.map_append, List.mem_append, not_or] at hm'rows
      exact ⟨hm'rows.1, by simpa [Migration.row] using hm'rows.2⟩
    refine ⟨?_, ?_, hc', by simpa using hrows'⟩
    · rw [List.map_cons, List.nodup_cons]
      refine ⟨fun hmem => ?_, hnodup⟩
      obtain ⟨m', hm', hversion⟩ := List.mem_map.mp hmem
      exact (hnot m' hm').2 hversion
    · intro m' hm'
      rcases List.mem_cons.mp hm' with rfl | hm'
      · exact hnew
      · exact (hnot m' hm').1

lemma complete_spec (h : complete exec migrations d k = .ok c) : c.working = none ∧
    c.disk.schemaVersion = some (d.recorded ++ ((pending migrations d).take k).map Migration.row) :=
  (applyAll_spec rfl rfl h).2.2

/-! ### The function without stops -/

lemma applyMigrations_eq (applied : List ℕ) (ms : List (Migration Stmt)) (count : ℕ)
    (c : Connection (Database Schema)) :
    applyMigrations exec applied ms count c =
      ((ms.filter fun m => m.version ∉ applied).foldlM (applyMigration exec) c).map
        fun c' => (c', count + (ms.filter fun m => m.version ∉ applied).length) := by
  induction ms generalizing count c with
  | nil => rfl
  | cons m ms ih =>
    by_cases hm : m.version ∈ applied
    · simp [applyMigrations, hm, ih]
    · rcases happly : applyMigration exec c m with e | c₁
      · simp [applyMigrations, hm, happly, bind, Except.bind, Except.map]
      · simp [applyMigrations, hm, happly, ih, bind, Except.bind, Nat.add_assoc, Nat.add_comm 1]

/-- `run_migrations` applies the pending migrations. -/
lemma runMigrations_eq : runMigrations exec migrations (.opened d) =
    ((pending migrations d).foldlM (applyMigration exec) (.opened (withTable d))).map
      fun c => (c, (pending migrations d).length) := by
  have happlied := @applyMigrations_eq _ _ exec (d.recorded.map Prod.fst) migrations 0
    (.opened (withTable d))
  rw [Nat.zero_add] at happlied
  exact happlied

/-! ### Running again -/

/-- What is pending once the first `k` pending migrations have been applied. -/
lemma pending_eq_drop {d' : Database Schema}
    (hnodup : ((pending migrations d).map Migration.version).Nodup)
    (hrecorded : d'.recorded = d.recorded ++ ((pending migrations d).take k).map Migration.row) :
    pending migrations d' = (pending migrations d).drop k := by
  have hversions : d'.recorded.map Prod.fst = d.recorded.map Prod.fst ++
      ((pending migrations d).take k).map Migration.version := by
    rw [hrecorded, List.map_append, List.map_map]
    rfl
  have hfilter : pending migrations d' = (pending migrations d).filter
      fun m => m.version ∉ ((pending migrations d).take k).map Migration.version := by
    conv_rhs => arg 2; rw [pending]
    rw [pending, List.filter_filter, hversions]
    refine List.filter_congr fun m _ => ?_
    rw [← Bool.decide_and]
    exact decide_eq_decide.mpr (by rw [List.mem_append, not_or, and_comm])
  rw [← List.take_append_drop k (pending migrations d), List.map_append,
    List.nodup_append] at hnodup
  obtain ⟨-, -, hdisjoint⟩ := hnodup
  rw [hfilter]
  conv_lhs => arg 2; rw [← List.take_append_drop k (pending migrations d)]
  rw [List.filter_append, List.filter_eq_nil_iff.mpr, List.filter_eq_self.mpr, List.nil_append]
  · -- a version that is left differs from those that are recorded
    intro m hm
    simp only [decide_eq_true_eq]
    intro hmem
    exact hdisjoint _ hmem _ (List.mem_map_of_mem hm) rfl
  · intro m hm
    simpa using List.mem_map_of_mem hm

lemma resumes_of_leavesWhole {d' : Database Schema} (h : LeavesWhole exec migrations d d') :
    Resumes exec migrations d d' := by
  intro c n hrun
  obtain ⟨k, c₁, hcomplete, hschema, hrecorded⟩ := h
  obtain ⟨hclosed, hversions⟩ := complete_spec hcomplete
  rw [runMigrations_eq] at hrun
  rcases hall : (pending migrations d).foldlM (applyMigration exec) (.opened (withTable d)) with
    e | c₂ <;> rw [hall] at hrun <;> cases hrun
  have hnodup := (applyAll_spec rfl rfl hall).1
  -- the second run begins where the first `k` migrations have led
  have hbegins : Connection.opened (withTable d') = c₁ := by
    rw [Connection.eq_opened hclosed]
    congr 1
    rcases hdisk : c₁.disk with ⟨schema, versions⟩
    rw [hdisk] at hschema hversions
    simp only at hschema hversions
    simp only [withTable, hschema, hversions, hrecorded]
  rw [← List.take_append_drop k (pending migrations d), List.foldlM_append, bind_eq_ok] at hall
  obtain ⟨c₃, htake, hdrop⟩ := hall
  obtain rfl : c₁ = c₃ := by
    rw [complete, htake] at hcomplete
    exact (Except.ok.inj hcomplete).symm
  refine ⟨((pending migrations d).drop k).length, ?_⟩
  rw [runMigrations_eq, pending_eq_drop hnodup hrecorded, hbegins, hdrop]
  rfl

/-! ### Where a run may stop -/

/-- What is on disk, when the first migrations have led to the connection `c`. -/
def Inside (exec : Stmt → Schema → Except Exc Schema) (s : Migrating Stmt Schema)
    (c : Connection (Database Schema)) : Prop :=
  ∃ c₁, runStatements exec c s.executed = .ok c₁ ∧ s.conn.disk.schema = c₁.disk.schema ∧
    s.conn.disk.recorded = c.disk.recorded

/-- What has been executed belongs to the script of a pending migration. -/
def UnderWay (migrations : List (Migration Stmt)) (d : Database Schema)
    (s : Migrating Stmt Schema) : Prop :=
  s.executed = [] ∨ ∃ m ∈ pending migrations d, s.executed <+: m.sqlUp

/-- The loop is at a migration of the pending ones. -/
structure InLoop (migrations : List (Migration Stmt)) (d : Database Schema)
    (s : Migrating Stmt Schema) (rest : List (Migration Stmt)) : Prop where
  applied : s.applied = d.recorded.map Prod.fst
  rest : (pending migrations d).drop s.count = rest

/-- What holds in a phase, when the first migrations have led to the connection `c`. -/
def PhaseFits (exec : Stmt → Schema → Except Exc Schema) (migrations : List (Migration Stmt))
    (d : Database Schema) (s : Migrating Stmt Schema) (c : Connection (Database Schema)) : Prop :=
  match s.phase with
  | .creating => s.conn = .opened d ∧ s.count = 0 ∧ s.executed = []
  | .created | .selecting => s.conn = c ∧ s.count = 0 ∧ s.executed = []
  | .loop todo => s.conn = c ∧ s.executed = [] ∧ InLoop migrations d s (pending todo d)
  | .script m rest todo =>
    runStatements exec c s.executed = .ok s.conn ∧ m.sqlUp = s.executed ++ rest ∧
      InLoop migrations d s (m :: pending todo d)
  | .inserting m todo =>
    runStatements exec c s.executed = .ok s.conn ∧ m.sqlUp = s.executed ∧
      InLoop migrations d s (m :: pending todo d)
  | .committing m todo =>
    ∃ c₁, runStatements exec c s.executed = .ok c₁ ∧ m.sqlUp = s.executed ∧
      insertVersion c₁ m = .ok s.conn ∧ InLoop migrations d s (m :: pending todo d)
  | .returned => s.conn = c ∧ s.executed = [] ∧ (pending migrations d).drop s.count = []
  | .raised _ => Inside exec s c ∧ UnderWay migrations d s

/-- The invariant of a run. -/
def Fits (exec : Stmt → Schema → Except Exc Schema) (migrations : List (Migration Stmt))
    (d : Database Schema) (s : Migrating Stmt Schema) : Prop :=
  s.count ≤ (pending migrations d).length ∧
    ∃ c, complete exec migrations d s.count = .ok c ∧ PhaseFits exec migrations d s c

/-- A script that is under way leaves the versions of the migrations before it. -/
lemma recorded_of_runStatements {script : List (Statement Stmt)}
    {c₁ : Connection (Database Schema)} (hcomplete : complete exec migrations d k = .ok c)
    (h : runStatements exec c script = .ok c₁) : c₁.disk.recorded = c.disk.recorded := by
  obtain ⟨hclosed, hversions⟩ := complete_spec hcomplete
  rw [Connection.eq_opened hclosed] at h
  have hkept : c₁.disk.schemaVersion = _ := (runStatements_versions (.opened hversions) h).1
  simp only [Database.recorded, hkept, hversions]

lemma inside_of_empty (hconn : s.conn = c) (hexecuted : s.executed = []) : Inside exec s c :=
  ⟨c, by rw [hexecuted]; rfl, by rw [hconn], by rw [hconn]⟩

lemma inside_of_runStatements (hcomplete : complete exec migrations d s.count = .ok c)
    {c₁ : Connection (Database Schema)} (h : runStatements exec c s.executed = .ok c₁)
    (hdisk : s.conn.disk = c₁.disk) : Inside exec s c :=
  ⟨c₁, h, by rw [hdisk], by rw [hdisk, recorded_of_runStatements hcomplete h]⟩

/-- In every phase the disk is that of the statements that have been executed. -/
lemma inside_of_fits (hcomplete : complete exec migrations d s.count = .ok c)
    (h : PhaseFits exec migrations d s c) : Inside exec s c := by
  unfold PhaseFits at h
  split at h
  · obtain ⟨hconn, hcount, hexecuted⟩ := h
    rw [hcount] at hcomplete
    cases hcomplete
    exact ⟨_, by rw [hexecuted]; rfl, by rw [hconn]; rfl, by rw [hconn]; rfl⟩
  · exact inside_of_empty h.1 h.2.2
  · exact inside_of_empty h.1 h.2.2
  · exact inside_of_empty h.1 h.2.1
  · exact inside_of_runStatements hcomplete h.1 rfl
  · exact inside_of_runStatements hcomplete h.1 rfl
  · obtain ⟨c₁, hscript, -, hinsert, -⟩ := h
    exact inside_of_runStatements hcomplete hscript
      (Connection.disk_write_of_open (c := c₁.begin) rfl hinsert).1
  · exact inside_of_empty h.1 h.2.1
  · exact h.1

lemma InLoop.mem {rest : List (Migration Stmt)} (h : InLoop migrations d s (m :: rest)) :
    m ∈ pending migrations d :=
  List.mem_of_mem_drop (h.rest ▸ List.mem_cons_self)

lemma underWay_of_fits (h : PhaseFits exec migrations d s c) : UnderWay migrations d s := by
  unfold PhaseFits at h
  split at h
  · exact .inl h.2.2
  · exact .inl h.2.2
  · exact .inl h.2.2
  · exact .inl h.2.1
  · exact .inr ⟨_, h.2.2.mem, h.2.1 ▸ List.prefix_append _ _⟩
  · exact .inr ⟨_, h.2.2.mem, h.2.1 ▸ List.prefix_rfl⟩
  · obtain ⟨c₁, -, hsql, -, hloop⟩ := h
    exact .inr ⟨_, hloop.mem, hsql ▸ List.prefix_rfl⟩
  · exact .inl h.2.1
  · exact h.2

/-! ### One step -/

lemma pending_cons (m : Migration Stmt) (todo : List (Migration Stmt)) :
    pending (m :: todo) d =
      if m.version ∈ d.recorded.map Prod.fst then pending todo d else m :: pending todo d := by
  by_cases hm : m.version ∈ d.recorded.map Prod.fst <;> simp [pending, hm]

/-- One more migration has been applied completely. -/
lemma complete_succ {rest : List (Migration Stmt)}
    (hcomplete : complete exec migrations d k = .ok c)
    (hdrop : (pending migrations d).drop k = m :: rest)
    (happly : applyMigration exec c m = .ok c') :
    complete exec migrations d (k + 1) = .ok c' ∧ (pending migrations d).drop (k + 1) = rest := by
  have hk : (pending migrations d)[k]? = some m := by
    rw [← List.head?_drop, hdrop]
    rfl
  constructor
  · rw [complete, List.take_add_one, hk, List.foldlM_append, bind_eq_ok]
    exact ⟨c, hcomplete, by simpa [bind_eq_ok] using happly⟩
  · rw [← List.drop_drop, hdrop]
    rfl

/-- The commit after a script and its version completes the migration. -/
lemma applyMigration_of_script {c₁ c₂ : Connection (Database Schema)}
    (hcomplete : complete exec migrations d k = .ok c)
    (hscript : runStatements exec c m.sqlUp = .ok c₁)
    (hinsert : insertVersion c₁ m = .ok c₂) : applyMigration exec c m = .ok c₂.commit := by
  have hcommit : c.commit = c := by
    rw [Connection.eq_opened (complete_spec hcomplete).1, Connection.commit_opened]
  simp only [applyMigration, executescript, bind_eq_ok, hcommit]
  exact ⟨c₁, hscript, c₂, hinsert, rfl⟩

lemma lt_length_of_drop {rest : List (Migration Stmt)}
    (hdrop : (pending migrations d).drop k = m :: rest) : k < (pending migrations d).length := by
  by_contra hge
  rw [List.drop_eq_nil_of_le (Nat.le_of_not_lt hge)] at hdrop
  cases hdrop

lemma fits_proceed (h : Fits exec migrations d s) (hstep : s.proceed exec migrations = some s') :
    Fits exec migrations d s' := by
  obtain ⟨hcount, c, hcomplete, hfits⟩ := h
  have hinside := inside_of_fits hcomplete hfits
  have hunder := underWay_of_fits hfits
  obtain ⟨hclosed, hversions⟩ := complete_spec hcomplete
  have hcommit : c.commit = c := by
    rw [Connection.eq_opened hclosed, Connection.commit_opened]
  obtain ⟨conn, phase, applied, count, executed⟩ := s
  unfold Migrating.proceed at hstep
  cases phase with
  | creating =>
    obtain ⟨rfl, rfl, rfl⟩ := hfits
    cases hstep
    cases hcomplete
    exact ⟨hcount, _, rfl, rfl, rfl, rfl⟩
  | created =>
    obtain ⟨rfl, rfl, rfl⟩ := hfits
    cases hstep
    exact ⟨hcount, _, hcomplete, hcommit, rfl, rfl⟩
  | selecting =>
    obtain ⟨rfl, rfl, rfl⟩ := hfits
    cases hcomplete
    cases hstep
    exact ⟨hcount, _, rfl, rfl, rfl, rfl, rfl⟩
  | loop todo =>
    obtain ⟨rfl, rfl, happlied, hrest⟩ := hfits
    cases todo with
    | nil =>
      cases hstep
      exact ⟨hcount, _, hcomplete, rfl, rfl, hrest⟩
    | cons m todo =>
      simp only at hstep happlied hrest
      rw [pending_cons] at hrest
      by_cases hm : m.version ∈ applied
      · rw [if_pos hm] at hstep
        rw [if_pos (happlied ▸ hm)] at hrest
        cases hstep
        exact ⟨hcount, _, hcomplete, rfl, rfl, happlied, hrest⟩
      · rw [if_neg hm] at hstep
        rw [if_neg (happlied ▸ hm)] at hrest
        cases hstep
        exact ⟨hcount, _, hcomplete, congrArg Except.ok hcommit.symm, rfl, happlied, hrest⟩
  | script m rest todo =>
    obtain ⟨hscript, hsql, happlied, hrest⟩ := hfits
    cases rest with
    | nil =>
      cases hstep
      exact ⟨hcount, _, hcomplete, hscript, by simpa using hsql, happlied, hrest⟩
    | cons st rest =>
      simp only at hstep hscript hsql
      split at hstep <;> cases hstep
      · rename_i c₁ hst
        refine ⟨hcount, _, hcomplete, ?_, by simpa using hsql, happlied, hrest⟩
        simp only [runStatements, List.foldlM_append, bind_eq_ok]
        exact ⟨conn, hscript, by simpa [bind_eq_ok] using hst⟩
      · exact ⟨hcount, _, hcomplete, hinside, hunder⟩
  | inserting m todo =>
    obtain ⟨hscript, hsql, happlied, hrest⟩ := hfits
    simp only at hstep
    split at hstep <;> cases hstep
    · rename_i c₁ hinsert
      exact ⟨hcount, _, hcomplete, conn, hscript, hsql, hinsert, happlied, hrest⟩
    · exact ⟨hcount, _, hcomplete, hinside, hunder⟩
  | committing m todo =>
    obtain ⟨c₁, hscript, hsql, hinsert, happlied, hrest⟩ := hfits
    cases hstep
    have happly : applyMigration exec c m = .ok conn.commit :=
      applyMigration_of_script hcomplete (hsql ▸ hscript) hinsert
    obtain ⟨hnext, hdrop⟩ := complete_succ hcomplete hrest happly
    exact ⟨lt_length_of_drop hrest, _, hnext, rfl, rfl, happlied, hdrop⟩
  | returned => cases hstep
  | raised e => cases hstep

lemma fits_step {e : MigrationEvent} (h : Fits exec migrations d s)
    (hstep : s.step exec migrations e = some s') : Fits exec migrations d s' := by
  cases e with
  | proceeds => exact fits_proceed h hstep
  | fails e =>
    obtain ⟨hcount, c, hcomplete, hfits⟩ := h
    have hinside := inside_of_fits hcomplete hfits
    have hunder := underWay_of_fits hfits
    simp only [Migrating.step] at hstep
    split at hstep <;> cases hstep
    exact ⟨hcount, c, hcomplete, hinside, hunder⟩

lemma fits_start : Fits exec migrations d (Migrating.start d) :=
  ⟨Nat.zero_le _, _, rfl, rfl, rfl, rfl⟩

/-! ### The whole run -/

lemma fits_of_run {es : List MigrationEvent}
    (h : Run (Migrating.step exec migrations) (fun _ _ => True) (.start d) es s) :
    Fits exec migrations d s :=
  h.invariant (fun _ _ _ hs _ hstep => fits_step hs hstep) fits_start

/-- A run that is not interrupted computes what `run_migrations` computes. -/
theorem runMigrations_of_run {es : List MigrationEvent}
    (h : Run (Migrating.step exec migrations) (fun _ _ => True) (.start d) es s)
    (hreturned : s.phase = .returned) :
    runMigrations exec migrations (.opened d) = .ok (s.conn, s.count) := by
  obtain ⟨hcount, c, hcomplete, hfits⟩ := fits_of_run h
  simp only [PhaseFits, hreturned] at hfits
  obtain ⟨rfl, -, hdrop⟩ := hfits
  rw [List.drop_eq_nil_iff] at hdrop
  rw [complete, List.take_of_length_le hdrop] at hcomplete
  rw [runMigrations_eq, hcomplete, Nat.le_antisymm hcount hdrop]
  rfl

/-- The database that a run leaves is the one after some of the migrations exactly when the
script whose version is not recorded has committed nothing. -/
lemma leavesWhole_iff (h : Fits exec migrations d s) :
    LeavesWhole exec migrations d s.conn.disk ↔ NothingCommitted exec migrations d s := by
  obtain ⟨-, c, hcomplete, hfits⟩ := h
  obtain ⟨c₁, hscript, hschema, hrecorded⟩ := inside_of_fits hcomplete hfits
  have hversions := (complete_spec hcomplete).2
  have hrows : c.disk.recorded =
      d.recorded ++ ((pending migrations d).take s.count).map Migration.row := by
    rw [Database.recorded, hversions]
    rfl
  constructor
  · rintro ⟨k, c₂, hcomplete₂, hschema₂, hrecorded₂⟩
    -- the number of the recorded versions tells which migrations these are
    have htake : (pending migrations d).take k = (pending migrations d).take s.count := by
      rw [hrecorded, hrows] at hrecorded₂
      have hlength := congrArg List.length (List.append_cancel_left hrecorded₂)
      rw [List.length_map, List.length_map, List.length_take, List.length_take] at hlength
      exact List.take_eq_take_iff.mpr hlength.symm
    have hsame : c₂ = c := by
      rw [complete, htake] at hcomplete₂
      rw [complete, hcomplete₂] at hcomplete
      exact Except.ok.inj hcomplete
    exact ⟨c, c₁, hcomplete, hscript, by rw [← hschema, hschema₂, hsame]⟩
  · rintro ⟨c₂, c₃, hcomplete₂, hscript₃, hschema₃⟩
    rw [hcomplete] at hcomplete₂
    cases hcomplete₂
    rw [hscript] at hscript₃
    cases hscript₃
    exact ⟨s.count, c, hcomplete, by rw [hschema, hschema₃], by rw [hrecorded, hrows]⟩

/-- **Wherever a run of the migrations stops**, it leaves the database after some of the
migrations, from which another run reaches what an uninterrupted one reaches, exactly when
the statements of a script whose version is not recorded have committed nothing. -/
theorem soundStop_iff_of_run {es : List MigrationEvent}
    (h : Run (Migrating.step exec migrations) (fun _ _ => True) (.start d) es s) :
    SoundStop exec migrations d s.conn.disk ↔ NothingCommitted exec migrations d s := by
  rw [← leavesWhole_iff (fits_of_run h)]
  exact ⟨fun hsound => hsound.whole, fun hwhole => ⟨hwhole, resumes_of_leavesWhole hwhole⟩⟩

/-! ### Scripts within one transaction -/

/-- A script opens a transaction and neither commits it nor rolls it back. -/
def OpensTransaction (m : Migration Stmt) : Prop :=
  ∃ rest, m.sqlUp = .begin :: rest ∧ ∀ st ∈ rest, ∃ stmt, st = .sql stmt

lemma disk_runStatements_of_open {script : List (Statement Stmt)}
    (hscript : ∀ st ∈ script, ∃ stmt, st = .sql stmt) (hopen : c.working.isSome = true)
    (h : runStatements exec c script = .ok c') : c'.disk = c.disk := by
  induction script generalizing c with
  | nil =>
    cases h
    rfl
  | cons st rest ih =>
    simp only [runStatements, List.foldlM_cons, bind_eq_ok] at h
    obtain ⟨c₁, hst, hrest⟩ := h
    obtain ⟨stmt, rfl⟩ := hscript st List.mem_cons_self
    simp only [runStatement] at hst
    obtain ⟨hdisk, hopen₁⟩ := Connection.disk_write_of_open hopen hst
    rw [ih (fun st hst => hscript st (List.mem_cons_of_mem _ hst)) hopen₁ hrest, hdisk]

/-- Where every script runs in a transaction of its own that the record of its version
commits, a run may stop anywhere. -/
theorem soundStop_of_openTransactions {es : List MigrationEvent}
    (hopens : ∀ m ∈ pending migrations d, OpensTransaction m)
    (h : Run (Migrating.step exec migrations) (fun _ _ => True) (.start d) es s) :
    SoundStop exec migrations d s.conn.disk := by
  obtain ⟨-, c, hcomplete, hfits⟩ := fits_of_run h
  have hwhole : LeavesWhole exec migrations d s.conn.disk := by
    rw [leavesWhole_iff (fits_of_run h)]
    obtain ⟨c₁, hscript, -, -⟩ := inside_of_fits hcomplete hfits
    refine ⟨c, c₁, hcomplete, hscript, ?_⟩
    rcases underWay_of_fits hfits with hempty | ⟨m, hm, hexecuted⟩
    · rw [hempty] at hscript
      cases hscript
      rfl
    · obtain ⟨rest, hsql, hrest⟩ := hopens m hm
      rw [hsql, List.prefix_cons_iff] at hexecuted
      rcases hexecuted with hempty | ⟨done, hdone, hpart⟩
      · rw [hempty] at hscript
        cases hscript
        rfl
      · rw [hdone, Connection.eq_opened (complete_spec hcomplete).1] at hscript
        simp only [runStatements, List.foldlM_cons, bind_eq_ok] at hscript
        obtain ⟨c₂, hbegin, hscript⟩ := hscript
        cases hbegin
        rw [disk_runStatements_of_open (fun st hst => hrest st (hpart.subset hst)) rfl hscript]
        rfl
  exact ⟨hwhole, resumes_of_leavesWhole hwhole⟩

/-! ### Two tables -/

/-- `CREATE TABLE`, on a schema that is the list of its tables. -/
def createOne (name : String) (tables : List String) : Except Exc (List String) :=
  if name ∈ tables then .error ⟨.databaseError, "table " ++ name ++ " already exists"⟩
  else .ok (tables ++ [name])

/-- A migration that creates two tables. -/
def twoTables : Migration String := ⟨1, "001_initial", [.sql "cache", .sql "stats"]⟩

/-- The database of a first start. -/
def empty : Database (List String) := ⟨[], none⟩

/-- The steps of a run up to the first statement of the script, and that statement. -/
def upToScript : List MigrationEvent := List.replicate 4 .proceeds

theorem soundStop_of_untouchedScript :
    ∃ s, Run (Migrating.step createOne [twoTables]) (fun _ _ => True) (.start empty) upToScript s ∧
      SoundStop createOne [twoTables] empty s.conn.disk := by
  obtain ⟨s, hrun, hs⟩ : ∃ s, Run (Migrating.step createOne [twoTables]) (fun _ _ => True)
      (.start empty) upToScript s ∧ (decide (s.count = 0) && s.executed.isEmpty) = true :=
    Run.of_observed (by decide +kernel)
  simp only [Bool.and_eq_true, decide_eq_true_eq, List.isEmpty_iff] at hs
  refine ⟨s, hrun, (soundStop_iff_of_run hrun).mpr ⟨.opened (withTable empty),
    .opened (withTable empty), ?_, ?_, rfl⟩⟩
  · rw [hs.1]
    rfl
  · rw [hs.2]
    rfl

/-- After the first statement of the script the schema is that of no version, and running
again fails. -/
theorem half_a_script_is_left :
    ∃ s, Run (Migrating.step createOne [twoTables]) (fun _ _ => True) (.start empty)
        (upToScript ++ [.proceeds]) s ∧
      ¬ SoundStop createOne [twoTables] empty s.conn.disk ∧
      runMigrations createOne [twoTables] (.opened s.conn.disk) =
        .error ⟨.databaseError, "table cache already exists"⟩ := by
  obtain ⟨s, hrun, hs⟩ : ∃ s, Run (Migrating.step createOne [twoTables]) (fun _ _ => True)
      (.start empty) (upToScript ++ [.proceeds]) s ∧
      decide (s.conn.disk = ⟨["cache"], some []⟩) = true :=
    Run.of_observed (by decide +kernel)
  rw [decide_eq_true_eq] at hs
  refine ⟨s, hrun, fun hsound => ?_, by rw [hs]; rfl⟩
  obtain ⟨k, c, hcomplete, hschema, hrecorded⟩ := hsound.whole
  rw [hs] at hschema hrecorded
  -- no version is recorded, so no migration has been applied
  have htake : (pending [twoTables] empty).take k = [] :=
    List.map_eq_nil_iff.mp hrecorded.symm
  rw [complete, htake] at hcomplete
  cases hcomplete
  cases hschema

end Migrator

end ImageDescriptor
