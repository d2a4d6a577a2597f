/-
# The migrations directory

`run_migrations` finds its migrations by the names of the files: `NNN_*.py`, sorted by name.
The versions that are recorded are read once, before the loop.  All migrations that are not
recorded are applied, once and in the order of their versions, and later calls have nothing to
do, exactly when the files in the order of their names have versions that increase and names
that can be imported.  Two files with one number fail it: the second violates the primary key.

For versions in the digits 0 to 9 the order of the names is that of the versions, so that
nothing is left but two files with one number, and a dot in a name.
-/
import Mathlib.Data.List.Sort
import Mathlib.Data.String.Basic
import ImageDescriptor.Python.Text
import ImageDescriptor.Cache.InterruptedMigrations

namespace ImageDescriptor

open Lib

/-- A file of the migrations directory, with the `SQL_UP` of its module. -/
structure MigrationFile (Stmt : Type) where
  name : String
  sqlUp : List (Statement Stmt)

/-- `MIGRATIONS_DIR`: the files have different names. -/
structure MigrationsDir (Stmt : Type) where
  files : List (MigrationFile Stmt)
  nodup : (files.map MigrationFile.name).Nodup

namespace Migrator

variable {Stmt Schema : Type}

/-- The version in a name that ends in `.py` and matches `_MIGRATION_PATTERN`,
`^(\d{3})_.+\.py$`.  The dot of a pattern matches no line feed. -/
def matchName (name : String) : Option ℕ :=
  match name.toList with
  | a :: b :: c :: '_' :: rest =>
    if ([a, b, c].all isDecimalDigit) && decide (3 < rest.length) && decide ('\n' ∉ rest) then
      some (100 * decimalValue a + 10 * decimalValue b + decimalValue c)
    else none
  | _ => none

/-- `path.stem`, for a name that ends in `.py`. -/
def stem (name : String) : String := String.ofList (name.toList.take (name.toList.length - 3))

/-- `MIGRATIONS_DIR.glob("*.py")`. -/
def globPy (dir : MigrationsDir Stmt) : List (MigrationFile Stmt) :=
  dir.files.filter fun f => ['.', 'p', 'y'].isSuffixOf f.name.toList

/-- The body of the loop of `_discover_migrations`, with the script of the module. -/
def discover (f : MigrationFile Stmt) : Option (Migration Stmt) :=
  if f.name = "__init__.py" then none
  else (matchName f.name).map fun version => ⟨version, stem f.name, f.sqlUp⟩

/-- `_discover_migrations`. -/
def discoverMigrations (dir : MigrationsDir Stmt) : List (Migration Stmt) :=
  ((globPy dir).insertionSort fun f g => f.name ≤ g.name).filterMap discover

/-- A module is found under its name when that has no dot: what stands before a dot is taken
for a package, and the directory has no packages. -/
def Importable (m : Migration Stmt) : Prop := '.' ∉ m.name.toList

instance (m : Migration Stmt) : Decidable (Importable m) :=
  inferInstanceAs (Decidable ('.' ∉ m.name.toList))

/-- The text of the `ModuleNotFoundError` for a name with a dot.  What stands before the dot
may be a module of the directory. -/
def missingModule (dir : MigrationsDir Stmt) (m : Migration Stmt) : String :=
  let package := m.name.toList.takeWhile (· ≠ '.')
  let path := "app.cache.migrations." ++ String.ofList package
  if String.ofList package ++ ".py" ∈ dir.files.map MigrationFile.name then
    let inner := (m.name.toList.drop (package.length + 1)).takeWhile (· ≠ '.')
    "No module named '" ++ path ++ "." ++ String.ofList inner ++ "'; '" ++ path ++
      "' is not a package"
  else "No module named '" ++ path ++ "'"

/-- `importlib.import_module(module_path)`, and `SQL_UP` of the module. -/
def importModule (dir : MigrationsDir Stmt) (m : Migration Stmt) :
    Except Exc (List (Statement Stmt)) :=
  if Importable m then .ok m.sqlUp else .error ⟨.exception, missingModule dir m⟩

variable (exec : Stmt → Schema → Except Exc Schema) (dir : MigrationsDir Stmt)
  (d : Database Schema)

/-- The body of the loop of `run_migrations`, for a file whose version is not recorded. -/
def applyFile (c : Connection (Database Schema)) (m : Migration Stmt) :
    Except Exc (Connection (Database Schema)) := do
  let sqlUp ← importModule dir m
  let c ← executescript exec c sqlUp
  let c ← insertVersion c m
  pure c.commit

/-- The loop of `run_migrations`, with the migrations that it has executed. -/
def applyFiles (applied : List ℕ) : List (Migration Stmt) → List (Migration Stmt) → ℕ →
    Connection (Database Schema) →
    Except Exc (Connection (Database Schema) × List (Migration Stmt) × ℕ)
  | [], executed, count, c => .ok (c, executed, count)
  | m :: ms, executed, count, c =>
    if m.version ∈ applied then applyFiles applied ms executed count c
    else do
      let c ← applyFile exec dir c m
      applyFiles applied ms (executed ++ [m]) (count + 1) c

/-- `run_migrations(db)` on the files of the directory, with the migrations that it executes
and the number that it returns. -/
def runDirectory (c : Connection (Database Schema)) :
    Except Exc (Connection (Database Schema) × List (Migration Stmt) × ℕ) := do
  let c ← ensureSchemaVersionTable c
  let applied ← getAppliedVersions c
  applyFiles exec dir applied (discoverMigrations dir) [] 0 c

/-- Calls of `run_migrations` one after the other, with what each of them executes and
returns. -/
def repeatRuns : ℕ → Connection (Database Schema) →
    Except Exc (Connection (Database Schema) × List (List (Migration Stmt) × ℕ))
  | 0, c => .ok (c, [])
  | n + 1, c => do
    let (c, call) ← runDirectory exec dir c
    let (c, calls) ← repeatRuns n c
    pure (c, call :: calls)

/-- The migrations that are found and whose versions are not recorded. -/
abbrev todo : List (Migration Stmt) := pending (discoverMigrations dir) d

/-- What is asked of any number of calls: the first one executes what is pending, each
migration once and in the order of the versions, and records it; the others execute nothing;
and each returns the number of what it has executed. -/
def MigratesOnce : Prop :=
  ∀ n, ∃ c executed,
    repeatRuns exec dir (n + 1) (.opened d) =
      .ok (c, (executed, executed.length) :: List.replicate n ([], 0)) ∧
    executed.Nodup ∧ (executed.map Migration.version).Pairwise (· ≤ ·) ∧
    (∀ m, m ∈ executed ↔ m ∈ discoverMigrations dir ∧ m.version ∉ d.recorded.map Prod.fst) ∧
    ∀ m ∈ executed, m.row ∈ c.disk.recorded

/-- The script of a pending migration does not fail, once those before it are applied. -/
def ScriptsSucceed : Prop :=
  ∀ k m c, (todo dir d)[k]? = some m → complete exec (discoverMigrations dir) d k = .ok c →
    ∃ c', executescript exec c m.sqlUp = .ok c'

/-- The versions of what is pending increase with the names of the files, and each of these
files can be imported. -/
structure InOrder : Prop where
  increasing : ((todo dir d).map Migration.version).Pairwise (· < ·)
  importable : ∀ m ∈ todo dir d, Importable m

variable {exec dir d} {c c' : Connection (Database Schema)} {m : Migration Stmt}
  {rows : List (ℕ × String)} {executed : List (Migration Stmt)} {n : ℕ}

/-! ### One call -/

lemma applyFile_eq_ok :
    applyFile exec dir c m = .ok c' ↔ Importable m ∧ applyMigration exec c m = .ok c' := by
  by_cases hm : Importable m <;> simp [applyFile, applyMigration, importModule, hm, bind_eq_ok]

lemma foldlM_applyFile_eq_ok {ms : List (Migration Stmt)} :
    ms.foldlM (applyFile exec dir) c = .ok c' ↔
      (∀ m ∈ ms, Importable m) ∧ ms.foldlM (applyMigration exec) c = .ok c' := by
  induction ms generalizing c with
  | nil => simp
  | cons m ms ih =>
    simp only [List.foldlM_cons, bind_eq_ok, applyFile_eq_ok, ih, List.forall_mem_cons]
    constructor
    · rintro ⟨c₁, ⟨hm, happly⟩, hms, hrest⟩
      exact ⟨⟨hm, hms⟩, c₁, happly, hrest⟩
    · rintro ⟨⟨hm, hms⟩, c₁, happly, hrest⟩
      exact ⟨c₁, ⟨hm, happly⟩, hms, hrest⟩

lemma applyFiles_eq (applied : List ℕ) (ms executed : List (Migration Stmt)) (count : ℕ)
    (c : Connection (Database Schema)) :
    applyFiles exec dir applied ms executed count c =
      ((ms.filter fun m => m.version ∉ applied).foldlM (applyFile exec dir) c).map fun c' =>
        (c', executed ++ ms.filter fun m => m.version ∉ applied,
          count + (ms.filter fun m => m.version ∉ applied).length) := by
  induction ms generalizing executed count c with
  | nil => simp [applyFiles, pure, Except.pure, Except.map]
  | cons m ms ih =>
    by_cases hm : m.version ∈ applied
    · simp [applyFiles, hm, ih]
    · rcases happly : applyFile exec dir c m with e | c₁
      · simp [applyFiles, hm, happly, bind, Except.bind, Except.map]
      · simp [applyFiles, hm, happly, ih, bind, Except.bind, Nat.add_assoc, Nat.add_comm 1]

/-- `run_migrations` applies the files that are pending. -/
lemma runDirectory_eq : runDirectory exec dir (.opened d) =
    ((todo dir d).foldlM (applyFile exec dir) (.opened (withTable d))).map
      fun c => (c, todo dir d, (todo dir d).length) := by
  have happlied := @applyFiles_eq _ _ exec dir (d.recorded.map Prod.fst) (discoverMigrations dir) [] 0
    (.opened (withTable d))
  rw [Nat.zero_add, List.nil_append] at happlied
  exact happlied

/-- A call on the directory returns where what is pending can be imported and the call on
the list of the migrations returns. -/
theorem runDirectory_eq_ok : runDirectory exec dir (.opened d) = .ok (c, executed, n) ↔
    (∀ m ∈ todo dir d, Importable m) ∧ executed = todo dir d ∧
      runMigrations exec (discoverMigrations dir) (.opened d) = .ok (c, n) := by
  rw [runDirectory_eq, runMigrations_eq]
  constructor
  · intro h
    rcases hfold : (todo dir d).foldlM (applyFile exec dir) (.opened (withTable d)) with e | c₁ <;>
      rw [hfold] at h <;> cases h
    obtain ⟨himportable, hfold⟩ := foldlM_applyFile_eq_ok.mp hfold
    exact ⟨himportable, rfl, by rw [hfold]; rfl⟩
  · rintro ⟨himportable, rfl, h⟩
    rcases hfold : (todo dir d).foldlM (applyMigration exec) (.opened (withTable d)) with
      e | c₁ <;> rw [hfold] at h <;> cases h
    rw [foldlM_applyFile_eq_ok.mpr ⟨himportable, hfold⟩]
    rfl

/-! ### The first call -/

lemma insertVersion_of_notMem (hrows : c.view.schemaVersion = some rows)
    (hnew : m.version ∉ rows.map Prod.fst) : ∃ c', insertVersion c m = .ok c' := by
  have hbegin : (c.begin).working = some c.view := rfl
  refine ⟨⟨c.disk, some { c.view with schemaVersion := some (rows ++ [m.row]) }⟩, ?_⟩
  simp only [insertVersion, Connection.write, hbegin, hrows, if_neg hnew]
  rfl

/-- A migration is applied, if its version is new and its script does not fail. -/
lemma applyMigration_of_notMem (hc : c.working = none) (hrows : c.disk.schemaVersion = some rows)
    (hnew : m.version ∉ rows.map Prod.fst) (hscript : executescript exec c m.sqlUp = .ok c') :
    ∃ c'', applyMigration exec c m = .ok c'' := by
  have hrun := hscript
  rw [executescript, Connection.eq_opened hc, Connection.commit_opened] at hrun
  have hversions := runStatements_versions (v := some rows) (.opened hrows) hrun
  obtain ⟨c₂, hinsert⟩ := insertVersion_of_notMem hversions.view hnew
  exact ⟨c₂.commit, bind_eq_ok.mpr ⟨c', hscript, bind_eq_ok.mpr ⟨c₂, hinsert, rfl⟩⟩⟩

/-- What is pending has no version that is recorded, and none twice. -/
lemma version_notMem {k : ℕ} {rest : List (Migration Stmt)}
    (hnodup : ((todo dir d).map Migration.version).Nodup)
    (hdrop : (todo dir d).drop k = m :: rest) :
    m.version ∉ (d.recorded ++ ((todo dir d).take k).map Migration.row).map Prod.fst := by
  have hm : m ∈ todo dir d := List.mem_of_mem_drop (hdrop ▸ List.mem_cons_self)
  rw [List.map_append, List.mem_append, not_or]
  refine ⟨by simpa using (List.mem_filter.mp hm).2, fun htake => ?_⟩
  rw [List.map_map] at htake
  rw [← List.take_append_drop k (todo dir d), List.map_append, List.nodup_append] at hnodup
  refine hnodup.2.2 _ htake m.version ?_ rfl
  rw [hdrop]
  exact List.mem_map_of_mem List.mem_cons_self

/-- All that is pending can be applied, if no version stands there twice. -/
lemma exists_complete (hscripts : ScriptsSucceed exec dir d)
    (hnodup : ((todo dir d).map Migration.version).Nodup) (k : ℕ) :
    ∃ c, complete exec (discoverMigrations dir) d k = .ok c := by
  induction k with
  | zero => exact ⟨_, rfl⟩
  | succ k ih =>
    obtain ⟨c, hcomplete⟩ := ih
    obtain ⟨hclosed, hversions⟩ := complete_spec hcomplete
    rcases hdrop : (todo dir d).drop k with _ | ⟨m, rest⟩
    · rw [List.drop_eq_nil_iff] at hdrop
      refine ⟨c, ?_⟩
      rw [complete, List.take_of_length_le hdrop] at hcomplete
      rwa [complete, List.take_of_length_le (Nat.le_succ_of_le hdrop)]
    · have hk : (todo dir d)[k]? = some m := by
        rw [← List.head?_drop, hdrop]
        rfl
      obtain ⟨c₁, hscript⟩ := hscripts k m c hk hcomplete
      obtain ⟨c₂, happly⟩ :=
        applyMigration_of_notMem hclosed hversions (version_notMem hnodup hdrop) hscript
      exact ⟨c₂, (complete_succ hcomplete hdrop happly).1⟩

/-! ### The calls after it -/

/-- A call with nothing pending changes nothing. -/
lemma runDirectory_again (hc : c.working = none) (hrows : c.disk.schemaVersion = some rows)
    (hdone : todo dir c.disk = []) : runDirectory exec dir c = .ok (c, [], 0) := by
  have htable : withTable c.disk = c.disk := by
    rcases hdisk : c.disk with ⟨schema, versions⟩
    obtain rfl : versions = some rows := by rw [← hrows, hdisk]
    rfl
  conv_lhs => rw [Connection.eq_opened hc]
  rw [runDirectory_eq, hdone, htable, ← Connection.eq_opened hc]
  rfl

lemma repeatRuns_again (hc : c.working = none) (hrows : c.disk.schemaVersion = some rows)
    (hdone : todo dir c.disk = []) (n : ℕ) :
    repeatRuns exec dir n c = .ok (c, List.replicate n ([], 0)) := by
  induction n with
  | zero => rfl
  | succ n ih =>
    simp only [repeatRuns, runDirectory_again hc hrows hdone]
    exact bind_eq_ok.mpr ⟨_, rfl, bind_eq_ok.mpr ⟨_, ih, rfl⟩⟩

lemma repeatRuns_succ_eq_ok {call : List (Migration Stmt) × ℕ}
    {calls : List (List (Migration Stmt) × ℕ)} :
    repeatRuns exec dir (n + 1) c = .ok (c', call :: calls) ↔
      ∃ c₁, runDirectory exec dir c = .ok (c₁, call) ∧
        repeatRuns exec dir n c₁ = .ok (c', calls) := by
  simp only [repeatRuns, bind_eq_ok]
  constructor
  · rintro ⟨⟨c₁, call₁⟩, hcall, ⟨c₂, calls₁⟩, hcalls, h⟩
    cases h
    exact ⟨c₁, hcall, hcalls⟩
  · rintro ⟨c₁, hcall, hcalls⟩
    exact ⟨⟨c₁, call⟩, hcall, ⟨c', calls⟩, hcalls, rfl⟩

/-! ### Any number of calls -/

lemma mem_todo : m ∈ todo dir d ↔
    m ∈ discoverMigrations dir ∧ m.version ∉ d.recorded.map Prod.fst := by
  rw [todo, pending, List.mem_filter, decide_eq_true_eq]

lemma inOrder_of_migratesOnce (h : MigratesOnce exec dir d) : InOrder dir d := by
  obtain ⟨c, executed, hruns, -, hascending, -, -⟩ := h 0
  obtain ⟨c₁, hcall, -⟩ := repeatRuns_succ_eq_ok.mp hruns
  obtain ⟨himportable, rfl, hrun⟩ := runDirectory_eq_ok.mp hcall
  rw [runMigrations_eq] at hrun
  rcases hfold : (todo dir d).foldlM (applyMigration exec) (.opened (withTable d)) with e | c₂ <;>
    rw [hfold] at hrun <;> cases hrun
  have hnodup := (applyAll_spec rfl rfl hfold).1
  exact ⟨hascending.imp₂ (fun _ _ hle hne => lt_of_le_of_ne hle hne) hnodup, himportable⟩

lemma migratesOnce_of_inOrder (hscripts : ScriptsSucceed exec dir d) (h : InOrder dir d) :
    MigratesOnce exec dir d := by
  have hnodup : ((todo dir d).map Migration.version).Nodup := h.increasing.imp ne_of_lt
  obtain ⟨c, hcomplete⟩ := exists_complete hscripts hnodup (todo dir d).length
  obtain ⟨hclosed, hversions⟩ := complete_spec hcomplete
  rw [List.take_of_length_le le_rfl] at hversions
  -- nothing is pending any more
  have hdone : todo dir c.disk = [] := by
    have hrecorded : c.disk.recorded =
        d.recorded ++ ((todo dir d).take (todo dir d).length).map Migration.row := by
      rw [List.take_of_length_le le_rfl, Database.recorded, hversions]
      rfl
    rw [todo, pending_eq_drop hnodup hrecorded, List.drop_length]
  have hcall : runDirectory exec dir (.opened d) =
      .ok (c, todo dir d, (todo dir d).length) := by
    rw [complete, List.take_of_length_le le_rfl] at hcomplete
    rw [runDirectory_eq, foldlM_applyFile_eq_ok.mpr ⟨h.importable, hcomplete⟩]
    rfl
  refine fun n => ⟨c, todo dir d, ?_, hnodup.of_map _, h.increasing.imp le_of_lt,
    fun m => mem_todo, fun m hm => ?_⟩
  · exact repeatRuns_succ_eq_ok.mpr ⟨c, hcall, repeatRuns_again hclosed hversions hdone n⟩
  · rw [Database.recorded, hversions]
    exact List.mem_append_right _ (List.mem_map_of_mem hm)

/-- **Calls of `run_migrations`**, with scripts that do not fail, execute and record each
pending file once and in the order of the versions, and return the number of these, exactly
when the pending files have increasing versions in the order of their names and no dots
in them. -/
theorem migratesOnce_iff (hscripts : ScriptsSucceed exec dir d) :
    MigratesOnce exec dir d ↔ InOrder dir d :=
  ⟨inOrder_of_migratesOnce, migratesOnce_of_inOrder hscripts⟩

/-! ### Versions in the digits 0 to 9 -/

/-- The first characters of a name are digits from 0 to 9. -/
def PlainDigits (name : String) : Prop := ∀ c ∈ name.toList.take 3, 48 ≤ c.toNat ∧ c.toNat ≤ 57

lemma decimalValue_of_plain {c : Char} (hc : 48 ≤ c.toNat ∧ c.toNat ≤ 57) :
    decimalValue c = c.toNat - 48 := by
  have hzero : (decide (48 ≤ c.toNat) && decide (c.toNat < 48 + 10)) = true := by
    rw [Bool.and_eq_true, decide_eq_true_eq, decide_eq_true_eq]
    omega
  simp only [decimalValue, digitZeros, List.find?_cons, hzero, Option.getD_some]

lemma matchName_eq_some {name : String} {v : ℕ} (h : matchName name = some v) :
    ∃ a b c rest, name.toList = a :: b :: c :: '_' :: rest ∧
      v = 100 * decimalValue a + 10 * decimalValue b + decimalValue c := by
  unfold matchName at h
  split at h
  · rename_i a b c rest hname
    split at h <;> cases h
    exact ⟨a, b, c, rest, hname, rfl⟩
  · cases h

/-- Names with such digits have the order of their versions. -/
lemma version_le_of_name_le {name name' : String} {v v' : ℕ} (hplain : PlainDigits name)
    (hplain' : PlainDigits name') (hv : matchName name = some v) (hv' : matchName name' = some v')
    (hle : name ≤ name') : v ≤ v' := by
  obtain ⟨a, b, c, rest, hname, rfl⟩ := matchName_eq_some hv
  obtain ⟨a', b', c', rest', hname', rfl⟩ := matchName_eq_some hv'
  simp only [PlainDigits, hname, hname', List.take_succ_cons, List.take_zero,
    List.forall_mem_cons] at hplain hplain'
  obtain ⟨ha, hb, hc, -⟩ := hplain
  obtain ⟨ha', hb', hc', -⟩ := hplain'
  rw [← not_lt, String.lt_iff_toList_lt, hname, hname'] at hle
  have hchar : ∀ x y : Char, x < y ↔ x.toNat < y.toNat := fun _ _ => Iff.rfl
  simp only [List.cons_lt_cons_iff, not_or, not_and, hchar, ← Char.toNat_inj] at hle
  obtain ⟨hfirst, hthen⟩ := hle
  rw [decimalValue_of_plain ha, decimalValue_of_plain hb, decimalValue_of_plain hc,
    decimalValue_of_plain ha', decimalValue_of_plain hb', decimalValue_of_plain hc']
  rcases Nat.lt_or_eq_of_le (Nat.le_of_not_lt hfirst) with hlt | heq
  · omega
  · obtain ⟨hsecond, hthen⟩ := hthen heq.symm
    rcases Nat.lt_or_eq_of_le (Nat.le_of_not_lt hsecond) with hlt | heq'
    · omega
    · have hthird := (hthen heq'.symm).1
      omega

lemma discover_eq_some {f : MigrationFile Stmt} (h : discover f = some m) :
    ∃ v, matchName f.name = some v ∧ m = ⟨v, stem f.name, f.sqlUp⟩ := by
  unfold discover at h
  split at h
  · cases h
  · obtain ⟨v, hv, rfl⟩ := Option.map_eq_some_iff.mp h
    exact ⟨v, hv, rfl⟩

/-- With such digits the files that are found have the order of their versions. -/
lemma pairwise_discoverMigrations (hplain : ∀ f ∈ dir.files, PlainDigits f.name) :
    (discoverMigrations dir).Pairwise fun m m' => m.version ≤ m'.version := by
  have hsorted := List.pairwise_insertionSort
    (fun f g : MigrationFile Stmt => f.name ≤ g.name) (globPy dir)
  have hdir : ∀ f ∈ (globPy dir).insertionSort fun f g => f.name ≤ g.name, f ∈ dir.files := by
    intro f hf
    exact (List.mem_filter.mp ((List.mem_insertionSort _).mp hf)).1
  rw [discoverMigrations, List.pairwise_filterMap]
  refine hsorted.imp_of_mem fun {f g} hf hg hle m hm m' hm' => ?_
  obtain ⟨v, hv, rfl⟩ := discover_eq_some hm
  obtain ⟨v', hv', rfl⟩ := discover_eq_some hm'
  exact version_le_of_name_le (hplain f (hdir f hf)) (hplain g (hdir g hg)) hv hv' hle

/-- With such digits it is two files with one version, or a dot in a name, that fail. -/
theorem inOrder_iff_of_plain (hplain : ∀ f ∈ dir.files, PlainDigits f.name) : InOrder dir d ↔
    ((todo dir d).map Migration.version).Nodup ∧ ∀ m ∈ todo dir d, Importable m := by
  refine ⟨fun h => ⟨h.increasing.imp ne_of_lt, h.importable⟩, fun ⟨hnodup, himportable⟩ => ?_⟩
  have hle : ((todo dir d).map Migration.version).Pairwise (· ≤ ·) :=
    List.pairwise_map.mpr ((pairwise_discoverMigrations hplain).filter _)
  exact ⟨hle.imp₂ (fun _ _ hle hne => lt_of_le_of_ne hle hne) hnodup, himportable⟩

/-! ### Two files with one number -/

lemma exists_runStatements (hexec : ∀ stmt schema, ∃ schema', exec stmt schema = .ok schema')
    {script : List (Statement Stmt)} (hscript : ∀ st ∈ script, ∃ stmt, st = .sql stmt)
    (c : Connection (Database Schema)) : ∃ c', runStatements exec c script = .ok c' := by
  induction script generalizing c with
  | nil => exact ⟨c, rfl⟩
  | cons st rest ih =>
    obtain ⟨stmt, rfl⟩ := hscript st List.mem_cons_self
    obtain ⟨c₁, hst⟩ : ∃ c₁, runStatement exec c (.sql stmt) = .ok c₁ := by
      rcases hworking : c.working with _ | d
      · obtain ⟨schema, hschema⟩ := hexec stmt c.disk.schema
        simp [runStatement, Connection.write, hworking, hschema, Except.map]
      · obtain ⟨schema, hschema⟩ := hexec stmt d.schema
        simp [runStatement, Connection.write, hworking, hschema, Except.map]
    obtain ⟨c', hrest⟩ := ih (fun st hst => hscript st (List.mem_cons_of_mem _ hst)) c₁
    exact ⟨c', bind_eq_ok.mpr ⟨c₁, hst, hrest⟩⟩

/-- Scripts of statements that never fail do not fail. -/
lemma scriptsSucceed_of_total (hexec : ∀ stmt schema, ∃ schema', exec stmt schema = .ok schema')
    (hfiles : ∀ f ∈ dir.files, ∀ st ∈ f.sqlUp, ∃ stmt, st = .sql stmt) :
    ScriptsSucceed exec dir d := by
  intro k m c hk _
  have hm := (mem_todo.mp (List.mem_of_getElem? hk)).1
  obtain ⟨f, hf, hdiscover⟩ := List.mem_filterMap.mp hm
  obtain ⟨v, -, rfl⟩ := discover_eq_some hdiscover
  exact exists_runStatements hexec
    (hfiles f (List.mem_filter.mp ((List.mem_insertionSort _).mp hf)).1) _

/-- `CREATE TABLE IF NOT EXISTS`, on a schema that is the list of its tables. -/
def createIfNotExists (name : String) (tables : List String) : Except Exc (List String) :=
  .ok (if name ∈ tables then tables else tables ++ [name])

/-- A file whose script creates one table. -/
def creating (file table : String) : MigrationFile String := ⟨file, [.sql table]⟩

/-- A directory with a gap in its numbers. -/
def gapDir : MigrationsDir String :=
  ⟨[creating "003_stats.py" "stats", ⟨"__init__.py", []⟩, creating "001_initial.py" "cache"],
    by decide +kernel⟩

/-- A directory after the merge of two branches that both added the number 002. -/
def mergedDir : MigrationsDir String :=
  ⟨[creating "001_initial.py" "cache", creating "002_tags.py" "tags",
    creating "002_stats.py" "stats"], by decide +kernel⟩

theorem migratesOnce_gapDir : ScriptsSucceed createIfNotExists gapDir empty ∧
    MigratesOnce createIfNotExists gapDir empty := by
  have hscripts : ScriptsSucceed createIfNotExists gapDir empty :=
    scriptsSucceed_of_total (fun _ _ => ⟨_, rfl⟩) (by simp [gapDir, creating])
  exact ⟨hscripts, (migratesOnce_iff hscripts).mpr ⟨by decide +kernel, by decide +kernel⟩⟩

/-- The second file with the number is executed, and the record of its version raises. -/
theorem second_file_violates_key : ScriptsSucceed createIfNotExists mergedDir empty ∧
    runDirectory createIfNotExists mergedDir (.opened empty) =
      .error ⟨.databaseError, "UNIQUE constraint failed: schema_version.version"⟩ ∧
    ¬ MigratesOnce createIfNotExists mergedDir empty := by
  have hraises : runDirectory createIfNotExists mergedDir (.opened empty) =
      .error ⟨.databaseError, "UNIQUE constraint failed: schema_version.version"⟩ := by rfl
  refine ⟨scriptsSucceed_of_total (fun _ _ => ⟨_, rfl⟩) (by simp [mergedDir, creating]), hraises,
    fun h => ?_⟩
  obtain ⟨c, executed, hruns, -⟩ := h 0
  obtain ⟨c₁, hcall, -⟩ := repeatRuns_succ_eq_ok.mp hruns
  rw [hraises] at hcall
  cases hcall

end Migrator

end ImageDescriptor
