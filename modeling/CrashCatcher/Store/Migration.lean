import CrashCatcher.Lib.Ddl
import CrashCatcher.Lib.Fallible
import Mathlib.Data.List.Nodup

/-! The start of the store on a database file of any age, which may be cut short at every access. -/

namespace CrashCatcher.Store.Migration
open Lib Lib.Ddl

def schemaVersion : Int := 2

def crashGroup : Str := "crash_group".toList

def packageInstalled : Str := "package_installed".toList

def crashGroupColumns : List Str := [
  "group_id".toList, "package_name".toList, "process_name".toList, "user_id".toList, "kind".toList,
  "is_system_app".toList, packageInstalled, "is_main_process".toList, "self_handled".toList,
  "summary_class".toList, "summary_text".toList, "occurrence".toList, "first_seen_ms".toList,
  "last_seen_ms".toList, "payload_bytes".toList, "muted_until_ms".toList]

def crashRecordColumns : List Str := [
  "id".toList, "group_id".toList, "happened_at_ms".toList, "pid".toList, "sources".toList,
  "app_version_name".toList, "app_version_code".toList, "is_foreground".toList, "is_repeating".toList,
  "dropped_count".toList, "payload_path".toList, "payload_bytes".toList, "payload_codec".toList,
  "payload_state".toList]

def ingestedSourceColumns : List Str := ["source_key".toList, "ingested_at_ms".toList]

def schemaSql : List Statement := [
  .createTable crashGroup crashGroupColumns,
  .createIndex "idx_group_last_seen".toList crashGroup ["last_seen_ms".toList, "group_id".toList],
  .createIndex "idx_group_first_seen".toList crashGroup ["first_seen_ms".toList, "group_id".toList],
  .createIndex "idx_group_occurrence".toList crashGroup ["occurrence".toList, "group_id".toList],
  .createIndex "idx_group_package".toList crashGroup ["package_name".toList, "group_id".toList],
  .createIndex "idx_group_kind".toList crashGroup ["kind".toList, "last_seen_ms".toList],
  .createTable "crash_record".toList crashRecordColumns,
  .createIndex "idx_record_group".toList "crash_record".toList
    ["group_id".toList, "happened_at_ms".toList, "id".toList],
  .createIndex "idx_record_time".toList "crash_record".toList ["happened_at_ms".toList],
  .createIndex "idx_record_payload_state".toList "crash_record".toList
    ["payload_state".toList, "happened_at_ms".toList],
  .createTable "ingested_source".toList ingestedSourceColumns,
  .createIndex "idx_ingested_at".toList "ingested_source".toList ["ingested_at_ms".toList]]

/-- How an access to the file ends: it may fail, and the process may end before it. -/
inductive Access where
  | proceeds
  | fails
  | dies
deriving DecidableEq

inductive Stop where
  | sqlite
  | schemaTooNew (found supported : Int)
  | died
deriving DecidableEq

structure Connection where
  file : File
  accesses : List Access

abbrev ConnectionM := Fallible Connection Stop

def access : ConnectionM Unit := fun connection =>
  let rest := { connection with accesses := connection.accesses.tail }
  match connection.accesses.head? with
  | some .fails => (.error .sqlite, rest)
  | some .dies => (.error .died, rest)
  | _ => (.ok (), rest)

def execute (statement : Statement) : ConnectionM Unit := do
  access
  fun connection => match exec connection.file statement with
    | some file => (.ok (), { connection with file })
    | none => (.error .sqlite, connection)

def executeBatch : List Statement → ConnectionM Unit
  | [] => pure ()
  | statement :: rest => do
      execute statement
      executeBatch rest

def hasColumn (table column : Str) : ConnectionM Bool := do
  access
  let connection ← Fallible.get
  pure (((connection.file.tables table).map fun t => t.columns.contains column).getD false)

def migrate : ConnectionM Unit := do
  if !(← hasColumn crashGroup packageInstalled) then
    execute (.addColumn crashGroup packageInstalled (.integer 1))

def initializeSchema : ConnectionM Unit := do
  -- The journal, the durability, the foreign keys and the time to wait are the connection's own.
  access
  access
  access
  access
  access
  let found := (← Fallible.get).file.userVersion
  if found > schemaVersion then Fallible.fail (.schemaTooNew found schemaVersion)
  else do
    executeBatch schemaSql
    if found > 0 && found < schemaVersion then migrate
    if found ≠ schemaVersion then execute (.setUserVersion schemaVersion)

/-- A start of the store on a file, which its accesses may cut short. -/
def start (accesses : List Access) (file : File) : Except Stop Unit × File :=
  let (outcome, connection) := initializeSchema { file, accesses }
  (outcome, connection.file)

/-- The list of groups was made before `package_installed`. -/
def Lacks (f : File) : Prop := ∃ t, f.tables crashGroup = some t ∧ packageInstalled ∉ t.columns

def Doomed (f : File) : Prop := Lacks f ∧ f.userVersion ≠ 1

def schemaTables : List (Str × List Str) := [
  (crashGroup, crashGroupColumns), ("crash_record".toList, crashRecordColumns),
  ("ingested_source".toList, ingestedSourceColumns)]

def Compatible (f : File) : Prop :=
  ∀ entry ∈ schemaTables, ∀ t, f.tables entry.1 = some t → ∀ column ∈ entry.2,
    column ≠ packageInstalled → column ∈ t.columns

def Provided (f : File) : Statement → Prop
  | .createTable name columns => ∃ t, f.tables name = some t ∧ columns ⊆ t.columns
  | .createIndex name _ _ => name ∈ f.indexes
  | _ => False

def Complete (f : File) : Prop := ∀ statement ∈ schemaSql, Provided f statement

def Made (f : File) : Statement → Prop
  | .createTable name _ => ∃ t, f.tables name = some t
  | .createIndex name _ _ => name ∈ f.indexes
  | _ => False

def creates (name : Str) : Statement → Bool
  | .createTable table _ => table = name
  | _ => false

/-- The statement makes a table of the schema, or an index of columns that a table made before has had from the
first version on. -/
def fits (done : List Statement) : Statement → Bool
  | .createTable name columns => schemaTables.any fun entry => entry.1 = name && entry.2 = columns
  | .createIndex _ table columns => done.any (creates table) && schemaTables.any fun entry =>
      entry.1 = table && columns.all fun column => entry.2.any (· = column) && column ≠ packageInstalled
  | _ => false

def ordered : List Statement → List Statement → Bool
  | _, [] => true
  | done, statement :: rest => fits done statement && ordered (done ++ [statement]) rest

theorem schemaSql_ordered : ordered [] schemaSql = true := by decide +kernel

theorem schemaTables_names {entry other : Str × List Str} (member : entry ∈ schemaTables)
    (member' : other ∈ schemaTables) (same : entry.1 = other.1) : entry = other := by
  have distinct : (schemaTables.map Prod.fst).Nodup := by decide +kernel
  exact List.inj_on_of_nodup_map distinct member member' same

section
variable {f f' before : File} {done : List Statement} {statement : Statement}

theorem Made.mono (extends' : Extends f f') (made : Made f statement) : Made f' statement := by
  cases statement with
  | createTable name columns =>
      obtain ⟨t, found⟩ := made
      obtain ⟨t', found', -⟩ := extends'.tables name t found
      exact ⟨t', found'⟩
  | createIndex name table columns => exact extends'.indexes made
  | addColumn => cases made
  | setUserVersion => cases made

structure Kept (before f : File) : Prop where
  extends' : Extends before f
  compatible : Compatible f
  userVersion : f.userVersion = before.userVersion
  lacks : Lacks f ↔ Lacks before

theorem Kept.createTable {name : Str} {columns : List Str} (kept : Kept before f)
    (member : (name, columns) ∈ schemaTables) : Kept before (f.createTable name columns) where
  extends' := kept.extends'.trans (createTable_extends name columns)
  compatible entry member' t found column own first := by
    rw [createTable_tables] at found
    cases old : f.tables entry.1 with
    | some t' =>
        rw [old] at found
        cases found
        exact kept.compatible entry member' t old column own first
    | none =>
        rw [old, Option.none_or] at found
        split at found
        next same =>
          cases found
          rw [schemaTables_names member' member same] at own
          exact own
        next => cases found
  userVersion := (createTable_userVersion name columns).trans kept.userVersion
  lacks := by
    rw [← kept.lacks]
    constructor
    · rintro ⟨t, found, missing⟩
      rw [createTable_tables] at found
      cases old : f.tables crashGroup with
      | some t' =>
          rw [old] at found
          cases found
          exact ⟨t, old, missing⟩
      | none =>
          rw [old, Option.none_or] at found
          split at found
          next same =>
            cases found
            have group : (crashGroup, crashGroupColumns) ∈ schemaTables := List.mem_cons_self
            have own : columns = crashGroupColumns :=
              congrArg Prod.snd (schemaTables_names member group same.symm)
            exact absurd (by rw [own]; simp [crashGroupColumns]) missing
          next => cases found
    · rintro ⟨t, found, missing⟩
      exact ⟨t, by rw [createTable_tables, found]; rfl, missing⟩

theorem Kept.createIndex {name table : Str} {columns : List Str} (kept : Kept before f)
    (ran : f.createIndex name table columns = some f') : Kept before f' ∧ name ∈ f'.indexes ∧
      Extends f f' := by
  obtain ⟨indexes, same, more, member⟩ := createIndex_ran ran
  subst same
  have wider : Extends f { f with indexes } := ⟨fun _ t found => ⟨t, found, .refl t⟩, more⟩
  exact ⟨⟨kept.extends'.trans wider, kept.compatible, kept.userVersion, kept.lacks⟩, member, wider⟩

theorem exec_fits (kept : Kept before f) (made : ∀ s ∈ done, Made f s) (fit : fits done statement = true) :
    ∃ f', exec f statement = some f' ∧ Kept before f' ∧ ∀ s ∈ done ++ [statement], Made f' s := by
  have all {f' : File} (wider : Extends f f') (last : Made f' statement) : ∀ s ∈ done ++ [statement],
      Made f' s := by
    intro s member
    rcases List.mem_append.mp member with old | new
    · exact (made s old).mono wider
    · rwa [List.mem_singleton.mp new]
  cases statement with
  | createTable name columns =>
      have member : (name, columns) ∈ schemaTables := by
        obtain ⟨entry, member, same⟩ := List.any_eq_true.mp fit
        simp only [Bool.and_eq_true, decide_eq_true_eq] at same
        rwa [← same.1, ← same.2]
      have wider : Extends f (f.createTable name columns) := createTable_extends name columns
      refine ⟨_, rfl, kept.createTable member, all wider ?_⟩
      show ∃ t, (f.createTable name columns).tables name = some t
      rw [createTable_tables, if_pos rfl]
      cases f.tables name with
      | none => exact ⟨_, rfl⟩
      | some t => exact ⟨t, rfl⟩
  | createIndex name table columns =>
      obtain ⟨created, placed⟩ := Bool.and_eq_true_iff.mp fit
      obtain ⟨creator, earlier, creating⟩ := List.any_eq_true.mp created
      obtain ⟨t, found⟩ : ∃ t, f.tables table = some t := by
        cases creator with
        | createTable other columns =>
            rw [← of_decide_eq_true creating]
            exact made _ earlier
        | createIndex => cases creating
        | addColumn => cases creating
        | setUserVersion => cases creating
      obtain ⟨entry, member, same⟩ := List.any_eq_true.mp placed
      obtain ⟨named, inside⟩ := Bool.and_eq_true_iff.mp same
      have has : columns ⊆ t.columns := by
        intro column own
        obtain ⟨first, second⟩ := Bool.and_eq_true_iff.mp (List.all_eq_true.mp inside column own)
        obtain ⟨other, listed, same⟩ := List.any_eq_true.mp first
        have found' : f.tables entry.1 = some t := by rw [of_decide_eq_true named, found]
        exact kept.compatible entry member t found' column (of_decide_eq_true same ▸ listed)
          (of_decide_eq_true second)
      obtain ⟨f', ran⟩ := @createIndex_runs f name table columns t found has
      obtain ⟨kept', last, wider⟩ := kept.createIndex ran
      exact ⟨f', ran, kept', all wider last⟩
  | addColumn => cases fit
  | setUserVersion => cases fit

abbrev Meets (property : File → Prop) (clean : Prop) (c : Connection) : Prop :=
  property c.file ∧ (clean → c.accesses = [])

abbrev Cut (property : File → Prop) (clean : Prop) (_ : Stop) (c : Connection) : Prop :=
  ¬clean ∧ property c.file

abbrev Prepared (before : File) (done : List Statement) (f : File) : Prop :=
  Kept before f ∧ ∀ s ∈ done, Made f s

theorem access_holds (property : File → Prop) (clean : Prop) :
    Fallible.Holds (Meets property clean) access (fun _ => Meets property clean) (Cut property clean) := by
  rintro ⟨file, accesses⟩ ⟨holds, quiet⟩
  have tail : clean → accesses.tail = [] := fun sure => by rw [show accesses = [] from quiet sure]; rfl
  unfold access
  cases accesses with
  | nil => exact ⟨holds, tail⟩
  | cons first rest =>
      have dirty : ¬clean := fun sure => by cases quiet sure
      cases first with
      | proceeds => exact ⟨holds, tail⟩
      | fails => exact ⟨dirty, holds⟩
      | dies => exact ⟨dirty, holds⟩

theorem execute_holds {property after : File → Prop} {clean : Prop}
    (runs : ∀ f, property f → ∃ f', exec f statement = some f' ∧ after f') :
    Fallible.Holds (Meets property clean) (execute statement) (fun _ => Meets after clean)
      (Cut property clean) := by
  unfold execute
  refine (access_holds property clean).bind fun _ => ?_
  rintro ⟨file, accesses⟩ ⟨holds, quiet⟩
  obtain ⟨f', ran, after'⟩ := runs file holds
  simp only [ran]
  exact ⟨after', quiet⟩

theorem executeBatch_holds {clean : Prop} {statements : List Statement}
    (fit : ordered done statements = true) :
    Fallible.Holds (Meets (Prepared before done) clean) (executeBatch statements)
      (fun _ => Meets (Prepared before (done ++ statements)) clean) (Cut (Kept before) clean) := by
  induction statements generalizing done with
  | nil =>
      refine Fallible.Holds.pure fun c holds => ?_
      rwa [List.append_nil]
  | cons statement rest ih =>
      obtain ⟨first, others⟩ := Bool.and_eq_true_iff.mp fit
      have one := @execute_holds statement (Prepared before done) (Prepared before (done ++ [statement])) clean
        fun f holds => exec_fits holds.1 holds.2 first
      refine (one.consequence (fun _ => id) (fun _ _ => id) fun _ _ failed => ⟨failed.1, failed.2.1⟩).bind
        fun _ => ?_
      have rest' := ih others
      rwa [List.append_assoc] at rest'

end

structure Safe (before f : File) : Prop where
  extends' : Extends before f
  compatible : Compatible f
  supported : before.userVersion ≤ schemaVersion → f.userVersion ≤ schemaVersion
  doomed : Doomed f ↔ Doomed before

section
variable {f before : File} {clean : Prop}

theorem Kept.safe (kept : Kept before f) : Safe before f where
  extends' := kept.extends'
  compatible := kept.compatible
  supported := kept.userVersion.trans_le
  doomed := by rw [Doomed, Doomed, kept.lacks, kept.userVersion]

/-- The file has been brought up to the schema, except for its version. -/
structure Moved (before f : File) : Prop where
  extends' : Extends before f
  compatible : Compatible f
  userVersion : f.userVersion = before.userVersion
  lacks : Lacks f ↔ Doomed before
  made : ∀ s ∈ schemaSql, Made f s

theorem Kept.moved (kept : Kept before f) (made : ∀ s ∈ schemaSql, Made f s) (new : before.userVersion ≠ 1) :
    Moved before f where
  extends' := kept.extends'
  compatible := kept.compatible
  userVersion := kept.userVersion
  lacks := kept.lacks.trans ⟨fun lacks => ⟨lacks, new⟩, And.left⟩
  made := made

theorem Moved.safe (moved : Moved before f) : Safe before f where
  extends' := moved.extends'
  compatible := moved.compatible
  supported := moved.userVersion.trans_le
  doomed := by
    unfold Doomed at *
    rw [moved.userVersion, moved.lacks]
    exact ⟨And.left, fun doomed => ⟨doomed, doomed.2⟩⟩

structure Settled (before f : File) : Prop extends Safe before f where
  userVersion : f.userVersion = schemaVersion
  made : ∀ s ∈ schemaSql, Made f s

theorem Moved.settled (moved : Moved before f) : Settled before { f with userVersion := schemaVersion } where
  extends' := moved.extends'.trans ⟨fun _ t found => ⟨t, found, .refl t⟩, List.Subset.refl _⟩
  compatible := moved.compatible
  supported _ := Int.le_refl _
  doomed := (and_iff_left (by simp [schemaVersion])).trans moved.lacks
  userVersion := rfl
  made s member := (moved.made s member).mono ⟨fun _ t found => ⟨t, found, .refl t⟩, List.Subset.refl _⟩

theorem group_found (made : ∀ s ∈ schemaSql, Made f s) : ∃ t, f.tables crashGroup = some t :=
  made (.createTable crashGroup crashGroupColumns) (by simp [schemaSql])

theorem addColumn_moves (kept : Kept before f) (made : ∀ s ∈ schemaSql, Made f s)
    (old : before.userVersion = 1) (lacks : Lacks f) :
    ∃ f', exec f (.addColumn crashGroup packageInstalled (.integer 1)) = some f' ∧ Moved before f' := by
  obtain ⟨t, found, new⟩ := lacks
  have wider := @addColumn_extends f crashGroup packageInstalled (.integer 1) t found
  refine ⟨_, addColumn_runs found new, kept.extends'.trans wider,
    fun entry member t' found' column own first => ?_, kept.userVersion, ?_,
    fun s member => (made s member).mono wider⟩
  · dsimp only at found'
    by_cases same : entry.1 = crashGroup
    · rw [same, Function.update_self] at found'
      cases found'
      exact List.mem_append_left _ (kept.compatible entry member t (same ▸ found) column own first)
    · rw [Function.update_of_ne same] at found'
      exact kept.compatible entry member t' found' column own first
  · refine ⟨fun lacks' => ?_, fun doomed => absurd old doomed.2⟩
    obtain ⟨t', found', missing⟩ := lacks'
    dsimp only at found'
    rw [Function.update_self] at found'
    cases found'
    exact absurd (List.mem_append_right _ (List.mem_singleton_self _)) missing

theorem hasColumn_holds : Fallible.Holds (Meets (Prepared before schemaSql) clean)
    (hasColumn crashGroup packageInstalled)
    (fun has => Meets (fun f => Prepared before schemaSql f ∧ (has = false ↔ Lacks f)) clean)
    (Cut (Safe before) clean) := by
  unfold hasColumn
  refine ((access_holds (Prepared before schemaSql) clean).consequence (fun _ => id) (fun _ _ => id)
    fun _ _ failed => ⟨failed.1, failed.2.1.safe⟩).bind fun _ => ?_
  rintro ⟨file, accesses⟩ ⟨⟨kept, made⟩, quiet⟩
  refine ⟨⟨⟨kept, made⟩, ?_⟩, quiet⟩
  obtain ⟨t, found⟩ := group_found made
  unfold Lacks
  dsimp only
  rw [found]
  constructor
  · intro lacks
    exact ⟨t, rfl, fun member => Bool.false_ne_true (lacks.symm.trans (List.contains_iff_mem.mpr member))⟩
  · rintro ⟨t', same, missing⟩
    cases same
    exact Bool.eq_false_iff.mpr fun contained => missing (List.contains_iff_mem.mp contained)

theorem migrate_holds (old : before.userVersion = 1) :
    Fallible.Holds (Meets (Prepared before schemaSql) clean) migrate (fun _ => Meets (Moved before) clean)
      (Cut (Safe before) clean) := by
  unfold migrate
  refine hasColumn_holds.bind fun has => ?_
  cases has with
  | true =>
      refine Fallible.Holds.pure fun c holds => ?_
      obtain ⟨⟨⟨kept, made⟩, lacks⟩, quiet⟩ := holds
      refine ⟨⟨kept.extends', kept.compatible, kept.userVersion, ?_, made⟩, quiet⟩
      exact ⟨fun lacking => Bool.noConfusion (lacks.mpr lacking), fun doomed => absurd old doomed.2⟩
  | false =>
      have added := @execute_holds (.addColumn crashGroup packageInstalled (.integer 1))
        (fun f => Prepared before schemaSql f ∧ Lacks f) (Moved before) clean
        fun f holds => addColumn_moves holds.1.1 holds.1.2 old holds.2
      exact added.consequence (fun _ holds => ⟨⟨holds.1.1, holds.1.2.mp rfl⟩, holds.2⟩) (fun _ _ => id)
        fun _ _ failed => ⟨failed.1, failed.2.1.1.safe⟩

theorem setUserVersion_holds : Fallible.Holds (Meets (Moved before) clean)
    (if before.userVersion ≠ schemaVersion then execute (.setUserVersion schemaVersion) else pure ())
    (fun _ c => Settled before c.file) (Cut (Safe before) clean) := by
  split
  next older =>
    exact (execute_holds fun f moved => ⟨_, rfl, moved.settled⟩).consequence (fun _ => id)
      (fun _ _ => And.left) fun _ _ failed => ⟨failed.1, failed.2.safe⟩
  next current =>
    refine Fallible.Holds.pure fun c holds => ?_
    have version : before.userVersion = schemaVersion := not_not.mp current
    exact { holds.1.safe with userVersion := holds.1.userVersion.trans version, made := holds.1.made }

theorem initializeSchema_holds (low : before.userVersion ≤ schemaVersion) (compatible : Compatible before) :
    Fallible.Holds (Meets (· = before) clean) initializeSchema (fun _ c => Settled before c.file)
      (Cut (Safe before) clean) := by
  have same {f : File} (unchanged : f = before) : Kept before f := by
    subst unchanged
    exact ⟨.refl _, compatible, rfl, Iff.rfl⟩
  have pragma := (access_holds (· = before) clean).consequence (fun _ => id) (fun _ _ => id)
    fun (e : Stop) (c : Connection) failed => (⟨failed.1, (same failed.2).safe⟩ : ¬clean ∧ Safe before c.file)
  unfold initializeSchema
  refine pragma.bind fun _ => pragma.bind fun _ => pragma.bind fun _ => pragma.bind fun _ =>
    pragma.bind fun _ => ?_
  refine (Fallible.Holds.get fun c holds => ?_ :
    Fallible.Holds _ _ (fun read c => read.file = before ∧ Meets (· = before) clean c) _).bind fun read => ?_
  · exact ⟨holds.1, holds⟩
  rintro c ⟨seen, start⟩
  rw [seen, if_neg (Int.not_lt.mpr low)]
  have batch : Fallible.Holds (Meets (Prepared before []) clean) (executeBatch schemaSql)
      (fun _ => Meets (Prepared before schemaSql) clean) (Cut (Safe before) clean) :=
    (executeBatch_holds schemaSql_ordered).consequence (fun _ => id) (fun _ _ => id)
      fun _ _ failed => ⟨failed.1, failed.2.safe⟩
  refine (batch.bind fun _ => ?_) c ⟨⟨same start.1, fun _ member => by cases member⟩, start.2⟩
  dsimp only
  split
  next old =>
    simp only [Bool.and_eq_true, decide_eq_true_eq] at old
    have one : before.userVersion = 1 := by
      unfold schemaVersion at old
      omega
    exact (migrate_holds one).bind fun _ => setUserVersion_holds
  next old =>
    simp only [Bool.and_eq_true, decide_eq_true_eq] at old
    have other : before.userVersion ≠ 1 := by
      unfold schemaVersion at old
      omega
    exact setUserVersion_holds.consequence (fun c holds => ⟨holds.1.1.moved holds.1.2 other, holds.2⟩)
      (fun _ _ => id) fun _ _ => id

theorem exec_made {statement : Statement} (made : Made f statement) : exec f statement = some f := by
  cases statement with
  | createTable name columns =>
      obtain ⟨t, found⟩ := made
      show some (f.createTable name columns) = some f
      unfold File.createTable
      rw [found]
  | createIndex name table columns => exact if_pos (List.contains_iff_mem.mpr made)
  | addColumn => cases made
  | setUserVersion => cases made

abbrev Stays (f : File) {α : Type} (m : ConnectionM α) : Prop :=
  Fallible.Holds (fun c => c.file = f) m (fun _ c => c.file = f) fun _ c => c.file = f

theorem access_stays (f : File) : Stays f access :=
  (access_holds (· = f) False).consequence (fun _ same => ⟨same, False.elim⟩) (fun _ _ => And.left)
    fun _ _ => And.right

theorem execute_stays {statement : Statement} (made : Made f statement) : Stays f (execute statement) := by
  have runs : ∀ g, g = f → ∃ g', exec g statement = some g' ∧ g' = f := by
    rintro g rfl
    exact ⟨g, exec_made made, rfl⟩
  exact (execute_holds runs).consequence (fun _ same => ⟨same, (False.elim : False → _)⟩) (fun _ _ => And.left)
    fun _ _ => And.right

theorem executeBatch_stays {statements : List Statement} (made : ∀ s ∈ statements, Made f s) :
    Stays f (executeBatch statements) := by
  induction statements with
  | nil => exact Fallible.Holds.pure fun _ same => same
  | cons statement rest ih =>
      have first := execute_stays (made statement List.mem_cons_self)
      exact first.bind fun _ => ih fun s member => made s (.tail _ member)

theorem Settled.stays (settled : Settled before f) : Stays f initializeSchema := by
  have pragma := access_stays f
  unfold initializeSchema
  refine pragma.bind fun _ => pragma.bind fun _ => pragma.bind fun _ => pragma.bind fun _ =>
    pragma.bind fun _ => ?_
  rintro c same
  have version : c.file.userVersion = schemaVersion := by rw [same, settled.userVersion]
  simp only [Fallible.bind_run, Fallible.get, version]
  rw [if_neg (Int.lt_irrefl _)]
  refine ((executeBatch_stays settled.made).bind fun _ => ?_) c same
  exact Fallible.Holds.pure fun _ same => same

theorem Settled.complete_iff (settled : Settled before f) : Complete f ↔ ¬Doomed before := by
  have version : f.userVersion ≠ 1 := by
    rw [settled.userVersion]
    simp [schemaVersion]
  rw [← settled.doomed]
  constructor
  · rintro complete ⟨⟨t, found, missing⟩, -⟩
    obtain ⟨t', found', has⟩ := complete (.createTable crashGroup crashGroupColumns) (by simp [schemaSql])
    rw [found] at found'
    cases found'
    exact missing (has (by simp [crashGroupColumns]))
  · intro fine statement member
    have made := settled.made statement member
    cases statement with
    | createTable name columns =>
        obtain ⟨t, found⟩ := made
        have listed : (name, columns) ∈ schemaTables := by
          simp only [schemaSql, List.mem_cons, Statement.createTable.injEq, reduceCtorEq,
            List.not_mem_nil, or_false, false_or] at member
          simpa [schemaTables] using member
        refine ⟨t, found, fun column own => ?_⟩
        by_cases first : column = packageInstalled
        · subst first
          have group : name = crashGroup := by
            simp only [schemaTables, List.mem_cons, Prod.mk.injEq, List.not_mem_nil, or_false] at listed
            rcases listed with ⟨same, -⟩ | ⟨-, same⟩ | ⟨-, same⟩
            · exact same
            · exact absurd (same ▸ own) (by decide +kernel)
            · exact absurd (same ▸ own) (by decide +kernel)
          subst group
          exact not_not.mp fun missing => fine ⟨⟨t, found, missing⟩, version⟩
        · exact settled.compatible _ listed t found column own first
    | createIndex name table columns => exact made
    | addColumn => cases made
    | setUserVersion => cases made

end

theorem start_safe {accesses : List Access} {file : File} (low : file.userVersion ≤ schemaVersion)
    (compatible : Compatible file) : Safe file (start accesses file).2 := by
  have ends := @initializeSchema_holds file False low compatible { file, accesses } ⟨rfl, False.elim⟩
  unfold start
  cases ran : initializeSchema { file, accesses } with
  | mk outcome connection =>
      rw [ran] at ends
      cases outcome with
      | ok _ => exact ends.toSafe
      | error _ => exact ends.2

theorem Safe.trans {file f g : File} (first : Safe file f) (next : Safe f g) : Safe file g where
  extends' := first.extends'.trans next.extends'
  compatible := next.compatible
  supported := next.supported ∘ first.supported
  doomed := next.doomed.trans first.doomed

theorem starts_safe {file : File} (low : file.userVersion ≤ schemaVersion) (compatible : Compatible file)
    (interrupted : List (List Access)) :
    Safe file (interrupted.foldl (fun f accesses => (start accesses f).2) file) := by
  induction interrupted generalizing file with
  | nil => exact Kept.safe ⟨.refl _, compatible, rfl, Iff.rfl⟩
  | cons accesses rest ih =>
      have first := @start_safe accesses file low compatible
      exact first.trans (ih (first.supported low) first.compatible)

theorem start_refused (accesses : List Access) {file : File} (newer : schemaVersion < file.userVersion) :
    (start accesses file).2 = file ∧
      (accesses = [] → (start accesses file).1 = .error (.schemaTooNew file.userVersion schemaVersion)) := by
  have pragma := (access_holds (· = file) (accesses = [])).consequence (fun _ => id) (fun _ _ => id)
    fun (e : Stop) (c : Connection) failed =>
      (⟨failed.2, fun quiet => absurd quiet failed.1⟩ :
        c.file = file ∧ (accesses = [] → e = .schemaTooNew file.userVersion schemaVersion))
  have refused : Fallible.Holds (fun c : Connection => c.file = file ∧ (accesses = [] → c.accesses = []))
      initializeSchema (fun _ _ => False)
      fun e c => c.file = file ∧ (accesses = [] → e = .schemaTooNew file.userVersion schemaVersion) := by
    unfold initializeSchema
    refine pragma.bind fun _ => pragma.bind fun _ => pragma.bind fun _ => pragma.bind fun _ =>
      pragma.bind fun _ => ?_
    rintro c ⟨same, -⟩
    simp only [Fallible.bind_run, Fallible.get, same]
    rw [if_pos newer]
    exact ⟨same, fun _ => rfl⟩
  have ends := refused { file, accesses } ⟨rfl, id⟩
  unfold start
  cases ran : initializeSchema { file, accesses } with
  | mk outcome connection =>
      rw [ran] at ends
      cases outcome with
      | ok _ => exact ends.elim
      | error e => exact ⟨ends.1, fun quiet => congrArg _ (ends.2 quiet)⟩

theorem start_settles {file : File} (low : file.userVersion ≤ schemaVersion) (compatible : Compatible file) :
    ∃ g, start [] file = (.ok (), g) ∧ Settled file g := by
  have ends := @initializeSchema_holds file True low compatible { file, accesses := [] } ⟨rfl, fun _ => rfl⟩
  unfold start
  cases ran : initializeSchema { file, accesses := [] } with
  | mk outcome connection =>
      rw [ran] at ends
      cases outcome with
      | ok _ => exact ⟨connection.file, rfl, ends⟩
      | error _ => exact absurd trivial ends.1

theorem Settled.start {before f : File} (settled : Settled before f) (accesses : List Access) :
    (start accesses f).2 = f := by
  have ends := settled.stays { file := f, accesses } rfl
  unfold Migration.start
  cases ran : initializeSchema { file := f, accesses } with
  | mk outcome connection =>
      rw [ran] at ends
      cases outcome <;> exact ends

/-- Whatever starts were cut short before it and wherever, a start that nothing cuts short succeeds, keeps
every row and makes the store's tables and indexes, with every column exactly if the file did not have an
older list of groups under another version than the first; and no later start changes anything. A file of a
later version is refused and left alone. -/
theorem store_starts (file : File) (compatible : Compatible file) (interrupted : List (List Access)) :
    let f := interrupted.foldl (fun f accesses => (start accesses f).2) file
    (file.userVersion ≤ schemaVersion → ∃ g, start [] f = (.ok (), g) ∧ Extends file g ∧
      g.userVersion = schemaVersion ∧ (Complete g ↔ ¬Doomed file) ∧ ∀ accesses, (start accesses g).2 = g) ∧
    (schemaVersion < file.userVersion →
      start [] f = (.error (.schemaTooNew file.userVersion schemaVersion), file)) := by
  intro f
  constructor
  · intro low
    have safe : Safe file f := starts_safe low compatible interrupted
    obtain ⟨g, ran, settled⟩ := start_settles (safe.supported low) safe.compatible
    refine ⟨g, ran, safe.extends'.trans settled.extends', settled.userVersion, ?_, settled.start⟩
    rw [settled.complete_iff, safe.doomed]
  · intro newer
    have same : f = file := by
      show interrupted.foldl (fun f accesses => (start accesses f).2) file = file
      induction interrupted with
      | nil => rfl
      | cons accesses rest ih =>
          rw [List.foldl_cons, (start_refused accesses newer).1]
          exact ih
    rw [same]
    obtain ⟨left, refused⟩ := start_refused [] newer
    exact Prod.ext (refused rfl) left

def firstVersion : File where
  userVersion := 1
  tables name :=
    if name = crashGroup then
      some ⟨crashGroupColumns.erase packageInstalled, [[.text "g1".toList, .text "app".toList]]⟩
    else none

theorem store_starts_firstVersion : ∃ g,
    start [] ((start [.proceeds, .proceeds, .dies]
      (start (.replicate 20 .proceeds ++ [.fails]) firstVersion).2).2) =
      (.ok (), g) ∧ Complete g ∧ Extends firstVersion g := by
  have compatible : Compatible firstVersion := by
    intro entry member t found column own first
    simp only [firstVersion] at found
    split at found
    next same =>
      cases found
      have whole : entry = (crashGroup, crashGroupColumns) :=
        schemaTables_names member List.mem_cons_self same
      subst whole
      exact (List.mem_erase_of_ne first).mpr own
    next => cases found
  obtain ⟨g, ran, wider, -, complete, -⟩ := (store_starts firstVersion compatible
    [.replicate 20 .proceeds ++ [.fails], [.proceeds, .proceeds, .dies]]).1 (by decide)
  exact ⟨g, ran, complete.mpr fun doomed => doomed.2 rfl, wider⟩

end CrashCatcher.Store.Migration
