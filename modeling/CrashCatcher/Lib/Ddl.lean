import CrashCatcher.Lib.Utf8
import Mathlib.Logic.Function.Basic

/-! The statements that shape a database file, each of which happens whole or not at all. -/

namespace CrashCatcher.Lib.Ddl

inductive Value where
  | null
  | integer (n : Int)
  | text (text : Str)
  | blob (bytes : List UInt8)
deriving DecidableEq

structure Table where
  columns : List Str
  rows : List (List Value)
deriving DecidableEq

structure File where
  userVersion : Int := 0
  tables : Str → Option Table := fun _ => none
  indexes : List Str := []

inductive Statement where
  | createTable (name : Str) (columns : List Str)
  | createIndex (name table : Str) (columns : List Str)
  | addColumn (table column : Str) (value : Value)
  | setUserVersion (version : Int)

namespace File
variable (f : File)

def createTable (name : Str) (columns : List Str) : File :=
  match f.tables name with
  | some _ => f
  | none => { f with tables := Function.update f.tables name (some ⟨columns, []⟩) }

def createIndex (name table : Str) (columns : List Str) : Option File :=
  if f.indexes.contains name then some f
  else match f.tables table with
    | some t => if columns.all t.columns.contains then some
        { f with indexes := f.indexes ++ [name] } else none
    | none => none

def addColumn (table column : Str) (value : Value) : Option File :=
  match f.tables table with
  | some t =>
      if t.columns.contains column then none
      else
        let wider := { columns := t.columns ++ [column], rows := t.rows.map (· ++ [value]) }
        some { f with tables := Function.update f.tables table (some wider) }
  | none => none

end File

def exec (f : File) : Statement → Option File
  | .createTable name columns => some (f.createTable name columns)
  | .createIndex name table columns => f.createIndex name table columns
  | .addColumn table column value => f.addColumn table column value
  | .setUserVersion version => some { f with userVersion := version }

def Table.Widens (t t' : Table) : Prop :=
  ∃ more : List (Str × Value), t'.columns = t.columns ++ more.map Prod.fst ∧
    t'.rows = t.rows.map (· ++ more.map Prod.snd)

structure Extends (f f' : File) : Prop where
  tables : ∀ name t, f.tables name = some t → ∃ t', f'.tables name = some t' ∧ t.Widens t'
  indexes : f.indexes ⊆ f'.indexes

theorem Table.Widens.refl (t : Table) : t.Widens t := ⟨[], by simp, by simp⟩

theorem Table.Widens.trans {t t' t'' : Table} (first : t.Widens t') (next : t'.Widens t'') :
    t.Widens t'' := by
  obtain ⟨more, columns, rows⟩ := first
  obtain ⟨more', columns', rows'⟩ := next
  refine ⟨more ++ more', ?_, ?_⟩
  · rw [columns', columns, List.map_append, List.append_assoc]
  · rw [rows', rows, List.map_map]
    simp [Function.comp_def]

theorem Extends.refl (f : File) : Extends f f := ⟨fun _ t found => ⟨t, found, .refl t⟩, List.Subset.refl _⟩

theorem Extends.trans {f f' f'' : File} (first : Extends f f') (next : Extends f' f'') : Extends f f'' where
  tables name t found := by
    obtain ⟨t', found', wider⟩ := first.tables name t found
    obtain ⟨t'', found'', wider'⟩ := next.tables name t' found'
    exact ⟨t'', found'', wider.trans wider'⟩
  indexes := List.Subset.trans first.indexes next.indexes

section
variable {f f' : File}

theorem createTable_tables (name other : Str) (columns : List Str) :
    (f.createTable name columns).tables other =
      (f.tables other).or (if other = name then some ⟨columns, []⟩ else none) := by
  unfold File.createTable
  cases found : f.tables name with
  | some t =>
      dsimp only
      split
      next same => rw [same, found]; rfl
      next => rw [Option.or_none]
  | none =>
      dsimp only
      by_cases same : other = name
      · rw [same, Function.update_self, found, if_pos rfl, Option.none_or]
      · rw [Function.update_of_ne same, if_neg same, Option.or_none]

theorem createTable_extends (name : Str) (columns : List Str) : Extends f (f.createTable name columns) where
  tables other t found := ⟨t, by rw [createTable_tables, found]; rfl, .refl t⟩
  indexes := by
    unfold File.createTable
    split <;> exact List.Subset.refl _

theorem createTable_userVersion (name : Str) (columns : List Str) :
    (f.createTable name columns).userVersion = f.userVersion := by
  unfold File.createTable
  split <;> rfl

theorem createIndex_ran {name table : Str} {columns : List Str}
    (ran : f.createIndex name table columns = some f') :
    ∃ indexes, f' = { f with indexes } ∧ f.indexes ⊆ indexes ∧ name ∈ indexes := by
  unfold File.createIndex at ran
  split at ran
  next found =>
    cases ran
    exact ⟨f.indexes, rfl, List.Subset.refl _, List.contains_iff_mem.mp found⟩
  next =>
    split at ran
    next =>
      split at ran
      next =>
        cases ran
        exact ⟨_, rfl, List.subset_append_left _ _, by simp⟩
      next => cases ran
    next => cases ran

theorem createIndex_runs {name table : Str} {columns : List Str} {t : Table} (found : f.tables table = some t)
    (has : columns ⊆ t.columns) : ∃ f', f.createIndex name table columns = some f' := by
  have all : columns.all t.columns.contains = true :=
    List.all_eq_true.mpr fun column member => List.contains_iff_mem.mpr (has member)
  unfold File.createIndex
  split
  · exact ⟨_, rfl⟩
  · rw [found]
    exact ⟨_, if_pos all⟩

theorem addColumn_runs {table column : Str} {value : Value} {t : Table} (found : f.tables table = some t)
    (new : column ∉ t.columns) : f.addColumn table column value = some { f with
      tables := Function.update f.tables table
        (some { columns := t.columns ++ [column], rows := t.rows.map (· ++ [value]) }) } := by
  unfold File.addColumn
  rw [found]
  exact if_neg fun contained => new (List.contains_iff_mem.mp contained)

theorem addColumn_extends {table column : Str} {value : Value} {t : Table} (found : f.tables table = some t) :
    Extends f { f with
      tables := Function.update f.tables table
        (some { columns := t.columns ++ [column], rows := t.rows.map (· ++ [value]) }) } where
  tables other t' old := by
    dsimp only
    by_cases same : other = table
    · subst same
      rw [found] at old
      cases old
      exact ⟨_, Function.update_self _ _ _, [(column, value)], rfl, rfl⟩
    · exact ⟨t', by rw [Function.update_of_ne same, old], .refl t'⟩
  indexes := List.Subset.refl _

end
end CrashCatcher.Lib.Ddl
