/-
# Migrations of the cache database

`run_migrations` executes the script of each migration whose version is not in the table
`schema_version`, and records the version.  `executescript` commits the open transaction and
then executes the statements of the script one by one; outside a transaction each of them is
committed at once, and a script may open and close transactions itself.  The record is an
INSERT of its own, before which the driver opens a transaction, with a commit after it.

What a statement makes of the schema is decided by SQLite and is a parameter; the scripts
leave `schema_version` alone.  Beside the function, this file has the machine that carries
out its database steps one after the other, so that a run of it may stop anywhere.
-/
import ImageDescriptor.Lib.Run
import ImageDescriptor.Lib.Transactions
import ImageDescriptor.Python.Exceptions

namespace ImageDescriptor

open Lib

/-- A statement of a script. -/
inductive Statement (Stmt : Type)
  | sql (stmt : Stmt)
  | begin
  | commit
  | rollback

/-- A migration module with its number and its name. -/
structure Migration (Stmt : Type) where
  version : ℕ
  name : String
  sqlUp : List (Statement Stmt)

/-- The database: its schema, and the rows of `schema_version` if that table exists. -/
structure Database (Schema : Type) where
  schema : Schema
  schemaVersion : Option (List (ℕ × String))
deriving DecidableEq

/-- The versions that are recorded, with their names. -/
def Database.recorded {Schema : Type} (d : Database Schema) : List (ℕ × String) :=
  d.schemaVersion.getD []

namespace Migrator

variable {Stmt Schema : Type} (exec : Stmt → Schema → Except Exc Schema)

/-- One statement of a script. -/
def runStatement (c : Connection (Database Schema)) :
    Statement Stmt → Except Exc (Connection (Database Schema))
  | .sql stmt => c.write fun d => (exec stmt d.schema).map fun schema => { d with schema := schema }
  | .begin =>
    if c.working.isSome then
      .error ⟨.databaseError, "cannot start a transaction within a transaction"⟩
    else .ok c.begin
  | .commit =>
    if c.working.isSome then .ok c.commit
    else .error ⟨.databaseError, "cannot commit - no transaction is active"⟩
  | .rollback =>
    if c.working.isSome then .ok c.rollback
    else .error ⟨.databaseError, "cannot rollback - no transaction is active"⟩

/-- The statements of a script, one after the other. -/
def runStatements (c : Connection (Database Schema)) (script : List (Statement Stmt)) :
    Except Exc (Connection (Database Schema)) :=
  script.foldlM (runStatement exec) c

/-- `db.executescript(sql_up)`. -/
def executescript (c : Connection (Database Schema)) (sqlUp : List (Statement Stmt)) :
    Except Exc (Connection (Database Schema)) :=
  runStatements exec c.commit sqlUp

/-- `INSERT INTO schema_version (version, name) VALUES (?, ?)`, where `version` is the primary
key.  The driver opens a transaction before it. -/
def insertVersion (c : Connection (Database Schema)) (m : Migration Stmt) :
    Except Exc (Connection (Database Schema)) :=
  c.begin.write fun d =>
    match d.schemaVersion with
    | none => .error ⟨.databaseError, "no such table: schema_version"⟩
    | some rows =>
      if m.version ∈ rows.map Prod.fst then
        .error ⟨.databaseError, "UNIQUE constraint failed: schema_version.version"⟩
      else .ok { d with schemaVersion := some (rows ++ [(m.version, m.name)]) }

/-- The database with the table `schema_version`. -/
def withTable (d : Database Schema) : Database Schema :=
  { d with schemaVersion := some d.recorded }

/-- `CREATE TABLE IF NOT EXISTS schema_version`. -/
def createTable (c : Connection (Database Schema)) : Except Exc (Connection (Database Schema)) :=
  c.write fun d => .ok (withTable d)

/-- `_ensure_schema_version_table`. -/
def ensureSchemaVersionTable (c : Connection (Database Schema)) :
    Except Exc (Connection (Database Schema)) := do
  let c ← createTable c
  pure c.commit

/-- `_get_applied_versions`. -/
def getAppliedVersions (c : Connection (Database Schema)) : Except Exc (List ℕ) :=
  match c.view.schemaVersion with
  | none => .error ⟨.databaseError, "no such table: schema_version"⟩
  | some rows => .ok (rows.map Prod.fst)

/-- The body of the loop for a migration that has not been applied. -/
def applyMigration (c : Connection (Database Schema)) (m : Migration Stmt) :
    Except Exc (Connection (Database Schema)) := do
  let c ← executescript exec c m.sqlUp
  let c ← insertVersion c m
  pure c.commit

/-- The loop of `run_migrations`. -/
def applyMigrations (applied : List ℕ) : List (Migration Stmt) → ℕ →
    Connection (Database Schema) → Except Exc (Connection (Database Schema) × ℕ)
  | [], count, c => .ok (c, count)
  | m :: ms, count, c =>
    if m.version ∈ applied then applyMigrations applied ms count c
    else do
      let c ← applyMigration exec c m
      applyMigrations applied ms (count + 1) c

/-- `run_migrations(db)`, with the number of migrations that it returns. -/
def runMigrations (migrations : List (Migration Stmt)) (c : Connection (Database Schema)) :
    Except Exc (Connection (Database Schema) × ℕ) := do
  let c ← ensureSchemaVersionTable c
  let applied ← getAppliedVersions c
  applyMigrations exec applied migrations 0 c

/-! ### The database steps -/

/-- Where `run_migrations` stands: before the statement or commit of
`_ensure_schema_version_table`, before its SELECT, at the head of the loop, before the next
statement of a script, before the INSERT or the commit of a version; or it is over. -/
inductive Phase (Stmt : Type)
  | creating
  | created
  | selecting
  | loop (todo : List (Migration Stmt))
  | script (m : Migration Stmt) (rest : List (Statement Stmt)) (todo : List (Migration Stmt))
  | inserting (m : Migration Stmt) (todo : List (Migration Stmt))
  | committing (m : Migration Stmt) (todo : List (Migration Stmt))
  | returned
  | raised (e : Exc)

/-- The state of a run.  Beside the variables of the function, `executed` lists the
statements that have been executed of a script whose version has not been recorded. -/
structure Migrating (Stmt Schema : Type) where
  conn : Connection (Database Schema)
  phase : Phase Stmt
  applied : List ℕ := []
  count : ℕ := 0
  executed : List (Statement Stmt) := []

/-- The next database step is carried out, or it fails for a reason outside the program. -/
inductive MigrationEvent
  | proceeds
  | fails (e : Exc)

namespace Migrating

/-- A run on a connection that has just been opened. -/
def start (d : Database Schema) : Migrating Stmt Schema := { conn := .opened d, phase := .creating }

/-- The next database step. -/
def proceed (migrations : List (Migration Stmt)) (s : Migrating Stmt Schema) :
    Option (Migrating Stmt Schema) :=
  match s.phase with
  | .creating =>
    match createTable s.conn with
    | .ok c => some { s with conn := c, phase := .created }
    | .error e => some { s with phase := .raised e }
  | .created => some { s with conn := s.conn.commit, phase := .selecting }
  | .selecting =>
    match getAppliedVersions s.conn with
    | .ok applied => some { s with applied := applied, phase := .loop migrations }
    | .error e => some { s with phase := .raised e }
  | .loop [] => some { s with phase := .returned }
  | .loop (m :: todo) =>
    if m.version ∈ s.applied then some { s with phase := .loop todo }
    else some { s with conn := s.conn.commit, phase := .script m m.sqlUp todo }
  | .script m [] todo => some { s with phase := .inserting m todo }
  | .script m (st :: rest) todo =>
    match runStatement exec s.conn st with
    | .ok c =>
      some { s with conn := c, phase := .script m rest todo, executed := s.executed ++ [st] }
    | .error e => some { s with phase := .raised e }
  | .inserting m todo =>
    match insertVersion s.conn m with
    | .ok c => some { s with conn := c, phase := .committing m todo }
    | .error e => some { s with conn := s.conn.begin, phase := .raised e }
  | .committing _ todo =>
    some { s with conn := s.conn.commit, phase := .loop todo, count := s.count + 1, executed := [] }
  | .returned | .raised _ => none

/-- One event; `none` when it cannot happen. -/
def step (migrations : List (Migration Stmt)) (s : Migrating Stmt Schema) :
    MigrationEvent → Option (Migrating Stmt Schema)
  | .proceeds => s.proceed exec migrations
  | .fails e =>
    match s.phase with
    | .returned | .raised _ | .loop [] => none
    | _ => some { s with phase := .raised e }

end Migrating

end Migrator

end ImageDescriptor
