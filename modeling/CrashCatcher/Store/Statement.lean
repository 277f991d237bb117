import CrashCatcher.Lib.Sql
import CrashCatcher.Store.Paging

namespace CrashCatcher.Store
open Lib Lib.Sql Model Wire

/-- A SQL fragment together with the values to bind to it. -/
structure Predicates where
  clauses : List Str := []
  params : List Value := []

namespace Predicates
variable (self : Predicates)

def push (clause : Str) (values : List Value) : Predicates where
  clauses := self.clauses ++ [clause]
  params := self.params ++ values

def pushIf (condition : Bool) (clause : Str) (values : List Value) : Predicates :=
  if condition then self.push clause values else self

def pushSome {α : Type} (value : Option α) (clause : Str) (values : α → List Value) : Predicates :=
  match value with
  | some value => self.push clause (values value)
  | none => self

def whereClause : Str :=
  if self.clauses.isEmpty then [] else " WHERE ".toList ++ " AND ".toList.intercalate self.clauses

def extend (other : Predicates) : Predicates where
  clauses := self.clauses ++ other.clauses
  params := self.params ++ other.params

end Predicates

namespace Statement

def placeholders (count : Nat) : Str :=
  (List.range count).flatMap fun index => if index > 0 then ",?".toList else "?".toList

def groupFilter (filter : CrashFilter) : Predicates :=
  ({} : Predicates)
    |>.pushIf (!filter.packages.isEmpty)
        ("package_name IN (".toList ++ placeholders filter.packages.length ++ ")".toList)
        (filter.packages.map Value.text)
    |>.pushIf (!filter.kinds.isEmpty)
        ("kind IN (".toList ++ placeholders filter.kinds.length ++ ")".toList)
        (filter.kinds.map fun kind => .integer kind.asI64)
    |>.pushIf (!filter.userIds.isEmpty)
        ("user_id IN (".toList ++ placeholders filter.userIds.length ++ ")".toList)
        (filter.userIds.map Value.integer)
    |>.pushSome filter.timeFromMs "last_seen_ms >= ?".toList (fun lower => [.integer lower.val])
    |>.pushSome filter.timeToMs "first_seen_ms < ?".toList (fun upper => [.integer upper.val])
    |>.pushIf (!filter.includeSystemApps) "NOT (is_system_app = 1 AND package_installed = 1)".toList []
    |>.pushIf (!filter.includeSystemProcesses) "package_installed = 1".toList []
    |>.pushIf filter.onlyMainProcess "is_main_process = 1".toList []
    |>.pushIf filter.onlySelfHandled "self_handled = 1".toList []
    |>.pushSome (searchText filter.query)
        ("(package_name LIKE ? ESCAPE '\\'\n".toList ++
          "               OR COALESCE(summary_class, '') LIKE ? ESCAPE '\\'\n".toList ++
          "               OR COALESCE(summary_text, '') LIKE ? ESCAPE '\\')".toList)
        (fun query =>
          let pattern := likePattern query
          [.text pattern, .text pattern, .text pattern])

def groupSortColumn : SortKey → Str
  | .lastSeenDesc => "last_seen_ms".toList
  | .firstSeenDesc => "first_seen_ms".toList
  | .occurrenceDesc => "occurrence".toList
  | .packageAsc => "package_name".toList

def anchorValue : CursorAnchor → Value
  | .int value => .integer value
  | .text value => .text value

def pastClause (sort : SortKey) : Str :=
  let column := groupSortColumn sort
  let comparison := if sort.isDescending then "<".toList else ">".toList
  "(".toList ++ column ++ " ".toList ++ comparison ++ " ? OR (".toList ++ column ++
    " = ? AND group_id ".toList ++
    comparison ++ " ?))".toList

def cursorPredicate (cursor : Cursor) (sort : SortKey) : Except WireError Predicates := do
  cursor.validateFor sort
  let anchor := anchorValue cursor.anchor
  pure (({} : Predicates).push (pastClause sort) [anchor, anchor, .text cursor.tiebreak])

def groupOrderBy (sort : SortKey) : Str :=
  let direction := if sort.isDescending then "DESC".toList else "ASC".toList
  " ORDER BY ".toList ++ groupSortColumn sort ++ " ".toList ++ direction ++ ", group_id ".toList ++ direction

def columnNames : List Str :=
  ["group_id".toList, "package_name".toList, "process_name".toList, "user_id".toList, "kind".toList,
    "is_system_app".toList, "is_main_process".toList, "self_handled".toList, "summary_class".toList,
    "summary_text".toList, "occurrence".toList, "first_seen_ms".toList, "last_seen_ms".toList,
    "payload_bytes".toList, "muted_until_ms".toList, "package_installed".toList]

def groupColumns : Str := ", ".toList.intercalate columnNames

def pagePredicates (page : PageRequest) : Except WireError Predicates :=
  match page.cursor with
  | some cursor => do pure ((groupFilter page.filter).extend (← cursorPredicate cursor page.sort))
  | none => pure (groupFilter page.filter)

def listGroups (page : PageRequest) : Except WireError (Str × List Value) := do
  page.validate
  let limit := page.effectiveLimit
  let predicates ← pagePredicates page
  let statementSql := "SELECT ".toList ++ groupColumns ++ " FROM crash_group".toList ++
    predicates.whereClause ++
    groupOrderBy page.sort ++ " LIMIT ?".toList
  pure (statementSql, predicates.params ++ [.integer (limit + 1)])

end Statement

def flag (value : Bool) : Value := .integer (if value then 1 else 0)

def nullable (text : Option Str) : Value := text.elim .null .text

def GroupSummary.cell (group : GroupSummary) (column : Str) : Value :=
  if column = "group_id".toList then .text group.groupId
  else if column = "package_name".toList then .text group.packageName
  else if column = "process_name".toList then .text group.processName
  else if column = "user_id".toList then .integer group.userId
  else if column = "kind".toList then .integer group.kind.asI64
  else if column = "is_system_app".toList then flag group.isSystemApp
  else if column = "is_main_process".toList then flag group.isMainProcess
  else if column = "self_handled".toList then flag group.selfHandled
  else if column = "summary_class".toList then nullable group.summaryClass
  else if column = "summary_text".toList then nullable group.summaryText
  else if column = "occurrence".toList then .integer group.occurrence
  else if column = "first_seen_ms".toList then .integer group.firstSeenMs.val
  else if column = "last_seen_ms".toList then .integer group.lastSeenMs.val
  else if column = "payload_bytes".toList then .integer group.payloadBytes
  else if column = "muted_until_ms".toList then group.mutedUntilMs.elim .null fun untilMs =>
    .integer untilMs.val
  else if column = "package_installed".toList then flag group.packageInstalled
  else .null

/-- The fragment reads as these conditions, which together select the rows that pass the test. -/
structure Predicates.Denotes (p : Predicates) (conds : List Cond) (test : GroupSummary → Bool) : Prop where
  text : p.clauses = conds.map Cond.text
  reads : ∀ c ∈ conds, c.Reads ∧ 2 ≤ c.level
  holes : totalHoles conds = p.params.length
  truth : ∀ (group : GroupSummary) (bind : Nat → Value) (i : Nat), Bound bind i p.params →
    conjunction group.cell bind i conds = some (test group)

/-- The clause reads as this condition, with the values in its placeholders. -/
structure ClauseDenotes (clause : Str) (values : List Value) (c : Cond) (test : GroupSummary → Bool) :
    Prop where
  text : clause = c.text
  reads : c.Reads
  level : 2 ≤ c.level
  holes : c.holes = values.length
  truth : ∀ (group : GroupSummary) (bind : Nat → Value) (i : Nat), Bound bind i values →
    c.truth group.cell bind i = some (test group)

namespace Predicates.Denotes
variable {p other : Predicates} {conds more : List Cond} {test test' : GroupSummary → Bool}

theorem empty : ({} : Predicates).Denotes [] fun _ => true :=
  ⟨rfl, nofun, rfl, fun _ _ _ _ => rfl⟩

theorem extend (denotes : p.Denotes conds test) (denotes' : other.Denotes more test') :
    (p.extend other).Denotes (conds ++ more) fun group => test group && test' group := by
  refine ⟨?_, ?_, ?_, fun group bind i bound => ?_⟩
  · rw [List.map_append, ← denotes.text, ← denotes'.text]
    rfl
  · intro c member
    rcases List.mem_append.mp member with left | right
    · exact denotes.reads c left
    · exact denotes'.reads c right
  · rw [totalHoles_append, denotes.holes, denotes'.holes]
    exact List.length_append.symm
  · obtain ⟨left, right⟩ := bound.append
    rw [conjunction_append, denotes.truth group bind i left, denotes.holes, denotes'.truth group bind _ right,
      and3_some]

theorem push (denotes : p.Denotes conds test) {clause : Str} {values : List Value} {c : Cond}
    (clauseDenotes : ClauseDenotes clause values c test') :
    (p.push clause values).Denotes (conds ++ [c]) fun group => test group && test' group := by
  have alone : Predicates.Denotes ⟨[clause], values⟩ [c] test' := by
    refine ⟨congrArg (fun s => [s]) clauseDenotes.text, ?_, ?_, ?_⟩
    · intro d member
      obtain rfl := List.mem_singleton.mp member
      exact ⟨clauseDenotes.reads, clauseDenotes.level⟩
    · exact clauseDenotes.holes
    · intro group bind i bound
      rw [conjunction, clauseDenotes.truth group bind i bound, conjunction, and3_some, Bool.and_true]
  exact denotes.extend alone

theorem of_eq (denotes : p.Denotes conds test) (same : ∀ group, test group = test' group) :
    p.Denotes conds test' :=
  (funext same : test = test') ▸ denotes

theorem pushUnless (denotes : p.Denotes conds test) (skipped : Bool) {clause : Str}
    {values : List Value} {c : Cond} (clauseDenotes : ClauseDenotes clause values c test') :
    ∃ conds, (p.pushIf (!skipped) clause values).Denotes conds fun group =>
      test group && (skipped || test' group) := by
  cases skipped with
  | false => exact ⟨_, denotes.push clauseDenotes⟩
  | true =>
      refine ⟨conds, ?_⟩
      simpa [Predicates.pushIf] using denotes

theorem pushIf (denotes : p.Denotes conds test) (condition : Bool) {clause : Str}
    {values : List Value} {c : Cond} (clauseDenotes : ClauseDenotes clause values c test') :
    ∃ conds, (p.pushIf condition clause values).Denotes conds fun group =>
      test group && (!condition || test' group) := by
  have pushed := denotes.pushUnless (!condition) clauseDenotes
  rwa [Bool.not_not] at pushed

theorem pushSome (denotes : p.Denotes conds test) {α : Type} (value : Option α) {clause : Str}
    {values : α → List Value} {c : Cond} {test' : α → GroupSummary → Bool}
    (clauseDenotes : ∀ a, ClauseDenotes clause (values a) c (test' a)) :
    ∃ conds, (p.pushSome value clause values).Denotes conds fun group =>
      test group && value.all (test' · group) := by
  cases value with
  | some a => exact ⟨_, denotes.push (clauseDenotes a)⟩
  | none =>
      refine ⟨conds, ?_⟩
      simpa [Predicates.pushSome] using denotes

end Predicates.Denotes

theorem intercalate_replicate_succ (count : Nat) :
    [','].intercalate (List.replicate (count + 1) ['?']) =
      '?' :: (List.range count).flatMap fun _ => ",?".toList := by
  induction count with
  | zero => rfl
  | succ count ih =>
      rw [List.replicate_succ, List.replicate_succ, List.intercalate_cons_cons, ← List.replicate_succ, ih,
        List.range_succ_eq_map, List.flatMap_cons, List.flatMap_map]
      rfl

theorem placeholders_eq (count : Nat) : Statement.placeholders count = Sql.placeholders count := by
  cases count with
  | zero => rfl
  | succ count =>
      rw [Sql.placeholders, intercalate_replicate_succ, Statement.placeholders, List.range_succ_eq_map,
        List.flatMap_cons, List.flatMap_map]
      rfl

theorem contains_map {α β : Type} [BEq α] [LawfulBEq α] [BEq β] [LawfulBEq β] {f : α → β}
    (injective : Function.Injective f) (values : List α) (a : α) : (values.map f).contains (f a) =
      values.contains a := by
  rw [Bool.eq_iff_iff, List.contains_iff_mem, List.contains_iff_mem]
  exact List.mem_map_of_injective injective

namespace ClauseDenotes

theorem isIn {α : Type} [BEq α] [LawfulBEq α] (clause : Str) {name : Str} {items : List α} {value : α → Value}
    {values : List Value} {column : GroupSummary → α} (text : clause = name ++ " IN (".toList)
      (isName : IsName name)
    (injective : Function.Injective value) (valued : ∀ a, value a ≠ .null) (listed : values = items.map value)
    (cell : ∀ group : GroupSummary, group.cell name = value (column group)) :
    ClauseDenotes (clause ++ Statement.placeholders items.length ++ ")".toList) values
      (.isIn (.column name) items.length) fun group => items.contains (column group) where
  text := by
    rw [text, placeholders_eq]
    rfl
  reads := isName
  level := show 2 ≤ 4 by decide
  holes := by
    rw [listed, List.length_map]
    exact Nat.zero_add _
  truth group bind i bound := by
    have known : group.cell name ≠ .null := cell group ▸ valued _
    have nonnull : .null ∉ items.map value := by
      intro member
      obtain ⟨a, -, null⟩ := List.mem_map.mp member
      exact valued a null
    have contained : (Cond.isIn (.column name) (items.map value).length).truth group.cell bind i = _ :=
      truth_isIn (listed ▸ bound) known nonnull
    rw [List.length_map] at contained
    rw [contained]
    show some ((items.map value).contains (group.cell name)) = _
    rw [cell, contains_map injective]

theorem compare {name clause : Str} {op : Comparison} {value : Value} {test : GroupSummary → Bool}
    (text : clause = name ++ " ".toList ++ op.sign ++ " ?".toList) (isName : IsName name)
    (truth : ∀ group : GroupSummary, op.apply (group.cell name) value = some (test group)) :
    ClauseDenotes clause [value] (.compare op (.column name) .placeholder) test where
  text := by
    rw [text]
    exact (List.append_assoc _ " ".toList "?".toList).symm
  reads := ⟨isName, trivial⟩
  level := show 2 ≤ 4 by decide
  holes := rfl
  truth group bind i bound := by
    show op.apply (group.cell name) (bind (i + 0)) = _
    rw [Nat.add_zero, bound.head]
    exact truth group

theorem isSet (clause : Str) {name : Str} {test : GroupSummary → Bool} (text : clause = name ++ " = 1".toList)
    (isName : IsName name) (cell : ∀ group : GroupSummary, group.cell name = flag (test group)) :
    ClauseDenotes clause [] (.compare .equal (.column name) (.integer 1)) test where
  text := by
    rw [text]
    show name ++ (" ".toList ++ ("=".toList ++ (" ".toList ++ "1".toList))) =
      name ++ " ".toList ++ "=".toList ++ " ".toList ++ "1".toList
    simp only [List.append_assoc]
  reads := ⟨isName, trivial⟩
  level := show 2 ≤ 4 by decide
  holes := rfl
  truth group bind i bound := by
    show Comparison.equal.apply (group.cell name) (.integer 1) = _
    rw [cell]
    cases test group <;> rfl

end ClauseDenotes

section
variable (group : GroupSummary)

theorem cell_packageName : group.cell "package_name".toList = .text group.packageName := rfl
theorem cell_summaryClass : group.cell "summary_class".toList = nullable group.summaryClass := rfl
theorem cell_summaryText : group.cell "summary_text".toList = nullable group.summaryText := rfl
theorem cell_isSystemApp : group.cell "is_system_app".toList = flag group.isSystemApp := rfl
theorem cell_packageInstalled : group.cell "package_installed".toList = flag group.packageInstalled := rfl
theorem cell_kind : group.cell "kind".toList = .integer group.kind.asI64 := rfl
theorem cell_userId : group.cell "user_id".toList = .integer group.userId := rfl
theorem cell_isMainProcess : group.cell "is_main_process".toList = flag group.isMainProcess := rfl
theorem cell_selfHandled : group.cell "self_handled".toList = flag group.selfHandled := rfl
theorem cell_sortColumn (sort : SortKey) :
    group.cell (Statement.groupSortColumn sort) = Statement.anchorValue (groupSortColumn sort group) := by
  cases sort <;> rfl

end

def systemApp : Cond :=
  .not (.paren (.and (.compare .equal (.column "is_system_app".toList) (.integer 1))
    (.compare .equal (.column "package_installed".toList) (.integer 1))))

theorem systemApp_denotes :
    ClauseDenotes "NOT (is_system_app = 1 AND package_installed = 1)".toList [] systemApp
      fun group => !(group.isSystemApp && group.packageInstalled) where
  text := by decide +kernel
  reads := by
    have system : IsName "is_system_app".toList := by decide
    have installed : IsName "package_installed".toList := by decide
    exact ⟨by decide, by decide, by decide, ⟨system, trivial⟩, installed, trivial⟩
  level := by decide
  holes := rfl
  truth group bind i bound := by
    show (and3 (Comparison.equal.apply (group.cell "is_system_app".toList) (.integer 1))
      (Comparison.equal.apply (group.cell "package_installed".toList) (.integer 1))).map (! ·) = _
    rw [cell_isSystemApp, cell_packageInstalled]
    cases group.isSystemApp <;> cases group.packageInstalled <;> rfl

def indent : Str := "\n               ".toList

def searched : Cond :=
  .paren (.or indent (.or indent (.like (.column "package_name".toList) .placeholder)
    (.like (.coalesce (.column "summary_class".toList) .blank) .placeholder))
    (.like (.coalesce (.column "summary_text".toList) .blank) .placeholder))

theorem value_nullable {column : Str} {cells : Str → Value} {bind : Nat → Value} {i : Nat} {text : Option Str}
    (cell : cells column = nullable text) :
    (Operand.coalesce (.column column) .blank).value cells bind i = .text (text.getD []) := by
  rw [Operand.value, Operand.value, cell]
  cases text <;> rfl

theorem truth_like {a : Operand} {cells : Str → Value} {bind : Nat → Value} {i : Nat} {text pattern : Str}
    (value : a.value cells bind i = .text text) (bound : bind (i + a.holes) = .text pattern) :
    (Cond.like a .placeholder).truth cells bind i = some (like pattern text) := by
  rw [Cond.truth, value, Operand.value, bound]
  rfl

theorem searched_denotes (query : Str) :
    ClauseDenotes
      ("(package_name LIKE ? ESCAPE '\\'\n".toList ++
        "               OR COALESCE(summary_class, '') LIKE ? ESCAPE '\\'\n".toList ++
        "               OR COALESCE(summary_text, '') LIKE ? ESCAPE '\\')".toList)
      [.text (likePattern query), .text (likePattern query), .text (likePattern query)] searched fun group =>
        like (likePattern query) group.packageName || like (likePattern query) (group.summaryClass.getD []) ||
          like (likePattern query) (group.summaryText.getD []) where
  text := by decide +kernel
  reads := by
    have package : IsName "package_name".toList := by decide
    have class_ : IsName "summary_class".toList := by decide
    have text : IsName "summary_text".toList := by decide
    have white : indent ≠ [] ∧ ∀ c ∈ indent, Text.isWhitespace c :=
      ⟨by decide, List.all_eq_true.mp (by decide : (indent.all fun c => Text.isWhitespace c) = true)⟩
    exact ⟨white.1, white.2, ⟨white.1, white.2, ⟨package, trivial⟩, ⟨class_, trivial⟩, trivial⟩,
      ⟨text, trivial⟩, trivial⟩
  level := by decide
  holes := rfl
  truth group bind i bound := by
    have first : bind i = .text (likePattern query) := bound.head
    have second : bind (i + 1) = .text (likePattern query) := bound 1 _ rfl
    have third : bind (i + 2) = .text (likePattern query) := bound 2 _ rfl
    show or3 (or3 ((Cond.like (.column "package_name".toList) .placeholder).truth group.cell bind i)
      ((Cond.like (.coalesce (.column "summary_class".toList) .blank) .placeholder).truth group.cell
        bind (i + 1)))
      ((Cond.like (.coalesce (.column "summary_text".toList) .blank) .placeholder).truth group.cell bind
        (i + 2)) = _
    have package : (Operand.column "package_name".toList).value group.cell bind i = .text group.packageName :=
      cell_packageName group
    rw [truth_like package first, truth_like (value_nullable (cell_summaryClass group)) second,
      truth_like (value_nullable (cell_summaryText group)) third, or3_some, or3_some]

theorem denotes_groupFilter (filter : CrashFilter) :
    ∃ conds, (Statement.groupFilter filter).Denotes conds (groupFilter filter) := by
  have text_injective : Function.Injective Value.text := fun _ _ => Value.text.inj
  have integer_injective : Function.Injective Value.integer := fun _ _ => Value.integer.inj
  have kind_injective : Function.Injective fun kind : CrashKind => Value.integer kind.asI64 := by
    intro a b same
    exact CrashKind.asI64_injective (Value.integer.inj same)
  have lastSeen : ∀ lower : I64, ClauseDenotes "last_seen_ms >= ?".toList [.integer lower.val]
      (.compare .atLeast (.column "last_seen_ms".toList) .placeholder) fun group =>
        decide (group.lastSeenMs ≥ lower) :=
    fun lower => .compare rfl (by decide) fun group =>
      congrArg some (decide_not.symm.trans (decide_eq_decide.mpr not_lt))
  have firstSeen : ∀ upper : I64, ClauseDenotes "first_seen_ms < ?".toList [.integer upper.val]
      (.compare .less (.column "first_seen_ms".toList) .placeholder) fun group =>
        decide (group.firstSeenMs < upper) :=
    fun upper => .compare rfl (by decide) fun group => rfl
  obtain ⟨_, packages⟩ := Predicates.Denotes.empty.pushUnless filter.packages.isEmpty
    (ClauseDenotes.isIn "package_name IN (".toList rfl (by decide) text_injective (fun _ => nofun)
      (Eq.refl (filter.packages.map Value.text)) cell_packageName)
  obtain ⟨_, kinds⟩ := packages.pushUnless filter.kinds.isEmpty
    (ClauseDenotes.isIn "kind IN (".toList rfl
      (by decide) kind_injective (fun _ => nofun) (Eq.refl (filter.kinds.map _)) cell_kind)
  obtain ⟨_, users⟩ := kinds.pushUnless filter.userIds.isEmpty
    (ClauseDenotes.isIn "user_id IN (".toList rfl (by decide) integer_injective (fun _ => nofun)
      (Eq.refl (filter.userIds.map Value.integer)) cell_userId)
  obtain ⟨_, since⟩ := users.pushSome filter.timeFromMs lastSeen
  obtain ⟨_, until_⟩ := since.pushSome filter.timeToMs firstSeen
  obtain ⟨_, apps⟩ := until_.pushUnless filter.includeSystemApps systemApp_denotes
  obtain ⟨_, processes⟩ := apps.pushUnless filter.includeSystemProcesses
    (ClauseDenotes.isSet "package_installed = 1".toList rfl (by decide) cell_packageInstalled)
  obtain ⟨_, main⟩ := processes.pushIf filter.onlyMainProcess
    (ClauseDenotes.isSet "is_main_process = 1".toList rfl (by decide) cell_isMainProcess)
  obtain ⟨_, handled⟩ := main.pushIf filter.onlySelfHandled
    (ClauseDenotes.isSet "self_handled = 1".toList rfl (by decide) cell_selfHandled)
  obtain ⟨conds, text⟩ := handled.pushSome (searchText filter.query) searched_denotes
  refine ⟨conds, text.of_eq fun group => ?_⟩
  rw [groupFilter, contains_map CrashKind.asI64_injective, Bool.true_and]

theorem text_lt_text {a b : Str} : CursorAnchor.text a < .text b ↔ a < b := Sum.Lex.inr_lt_inr_iff

theorem anchorValue_injective : Function.Injective Statement.anchorValue := by
  intro a b same
  cases a <;> cases b <;> cases same <;> rfl

section
variable (a b : CursorAnchor)

theorem less_anchorValue : (Statement.anchorValue a).less (Statement.anchorValue b) = decide (a < b) := by
  cases a with
  | int m => cases b with
    | int n => exact decide_eq_decide.mpr int_lt_int.symm
    | text t => exact (decide_eq_true (Sum.Lex.inl_lt_inr m t)).symm
  | text s => cases b with
    | int n =>
        have apart : ¬ CursorAnchor.text s < .int n := Sum.Lex.not_inr_lt_inl
        exact (decide_eq_false apart).symm
    | text t => exact decide_eq_decide.mpr text_lt_text.symm

theorem anchorValue_ne_null : Statement.anchorValue a ≠ .null := by
  cases a <;> nofun

theorem apply_less_anchorValue :
    Comparison.less.apply (Statement.anchorValue a) (Statement.anchorValue b) = some (decide (a < b)) := by
  rw [← less_anchorValue]
  cases a <;> cases b <;> rfl

theorem apply_greater_anchorValue :
    Comparison.greater.apply (Statement.anchorValue a) (Statement.anchorValue b) = some (decide (b < a)) := by
  rw [← less_anchorValue]
  cases a <;> cases b <;> rfl

theorem apply_equal_anchorValue :
    Comparison.equal.apply (Statement.anchorValue a) (Statement.anchorValue b) = some (decide (a = b)) := by
  rw [Comparison.equal_apply (anchorValue_ne_null a) (anchorValue_ne_null b)]
  exact congrArg some (decide_eq_decide.mpr anchorValue_injective.eq_iff)

end

def past (sort : SortKey) : Cond :=
  let op : Comparison := if sort.isDescending then .less else .greater
  let column := Operand.column (Statement.groupSortColumn sort)
  .paren (.or " ".toList (.compare op column .placeholder)
    (.paren (.and (.compare .equal column .placeholder)
      (.compare op (.column "group_id".toList) .placeholder))))

theorem isName_sortColumn (sort : SortKey) : IsName (Statement.groupSortColumn sort) := by
  cases sort <;> decide

theorem truth_past {sort : SortKey} {group : GroupSummary} {bind : Nat → Value} {i : Nat} {cursor : Cursor}
    (bound : Bound bind i
      [Statement.anchorValue cursor.anchor, Statement.anchorValue cursor.anchor, .text cursor.tiebreak]) :
    (past sort).truth group.cell bind i = some (decide (Before sort cursor.key (groupKey sort group))) := by
  have first : bind i = Statement.anchorValue cursor.anchor := bound.head
  have second : bind (i + 1) = Statement.anchorValue cursor.anchor := bound 1 _ rfl
  have third : bind (i + 1 + 1) = Statement.anchorValue (.text cursor.tiebreak) := bound 2 _ rfl
  have tied : group.cell "group_id".toList = Statement.anchorValue (.text group.groupId) := rfl
  let op : Comparison := if sort.isDescending then .less else .greater
  show or3 (op.apply (group.cell (Statement.groupSortColumn sort)) (bind (i + 0)))
    (and3 (Comparison.equal.apply (group.cell (Statement.groupSortColumn sort)) (bind (i + 1 + 0)))
      (op.apply (group.cell "group_id".toList) (bind (i + 1 + 1 + 0)))) = _
  simp only [Nat.add_zero, first, second, third, cell_sortColumn, tied, op]
  rw [apply_equal_anchorValue]
  by_cases descending : sort.isDescending
  · rw [if_pos descending, apply_less_anchorValue, apply_less_anchorValue, and3_some, or3_some,
      ← Bool.decide_and, ← Bool.decide_or]
    refine congrArg some (decide_eq_decide.mpr ?_)
    rw [before_of_descending descending, text_lt_text]
    exact Iff.rfl
  · rw [if_neg descending, apply_greater_anchorValue, apply_greater_anchorValue, and3_some, or3_some,
      ← Bool.decide_and, ← Bool.decide_or]
    refine congrArg some (decide_eq_decide.mpr ?_)
    rw [before_of_ascending descending, text_lt_text]
    exact Iff.rfl

theorem denotes_cursorPredicate {cursor : Cursor} {sort : SortKey} (valid : cursor.validateFor sort = .ok ()) :
    ∃ p, Statement.cursorPredicate cursor sort = .ok p ∧
      p.Denotes [past sort] fun group => decide (Before sort cursor.key (groupKey sort group)) := by
  have text : ClauseDenotes (Statement.pastClause sort) [Statement.anchorValue cursor.anchor,
      Statement.anchorValue cursor.anchor, .text cursor.tiebreak] (past sort)
      fun group => decide (Before sort cursor.key (groupKey sort group)) :=
    { text := by cases sort <;> decide +kernel
      reads := by
        have named := isName_sortColumn sort
        have tied : IsName "group_id".toList := by decide
        have bare : 2 ≤ 4 := by decide
        have white : ∀ c ∈ " ".toList, Text.isWhitespace c :=
          List.all_eq_true.mp (by decide : (" ".toList.all fun c => Text.isWhitespace c) = true)
        exact ⟨by decide, white, ⟨named, trivial⟩, bare, bare, ⟨named, trivial⟩, tied, trivial⟩
      level := show 2 ≤ 4 by decide
      holes := rfl
      truth := fun _ _ _ bound => truth_past bound }
  refine ⟨_, ?_, (Predicates.Denotes.empty.push text).of_eq fun group => Bool.true_and _⟩
  unfold Statement.cursorPredicate
  rw [valid]
  rfl

theorem orderBy_group (sort : SortKey) (a b : GroupSummary) :
    Select.orderBy GroupSummary.cell
      [(Statement.groupSortColumn sort, sort.isDescending), ("group_id".toList, sort.isDescending)] a b =
      groupOrderBy sort a b := by
  have ids : ∀ a b : GroupSummary, (a.cell "group_id".toList).less (b.cell "group_id".toList) =
      decide (a.groupId < b.groupId) := fun _ _ => rfl
  simp only [Select.orderBy, cell_sortColumn, less_anchorValue, ids, decide_eq_true_eq, groupOrderBy]
  rcases lt_trichotomy (groupSortColumn sort a) (groupSortColumn sort b) with less | same | greater
  · cases sort.isDescending <;> simp [less, less.not_gt, less.ne]
  · rcases lt_trichotomy a.groupId b.groupId with less | same' | greater
    · cases sort.isDescending <;> simp [same, less, less.le]
    · cases sort.isDescending <;> simp [same, same']
    · cases sort.isDescending <;> simp [same, greater, greater.not_gt, greater.le]
  · cases sort.isDescending <;> simp [greater, greater.not_gt, greater.ne']

def listing (sort : SortKey) (conds : List Cond) : Select where
  columns := Statement.columnNames
  table := "crash_group".toList
  conds
  order := [(Statement.groupSortColumn sort, sort.isDescending), ("group_id".toList, sort.isDescending)]
  limit := .placeholder

theorem reads_listing (sort : SortKey) {conds : List Cond} (reads : ∀ c ∈ conds, c.Reads ∧ 2 ≤ c.level) :
    (listing sort conds).Reads where
  columns := show ∀ name ∈ Statement.columnNames, IsName name by decide
  table := show IsName "crash_group".toList by decide
  conds := reads
  order term listed := by
    have tied : IsName "group_id".toList := by decide
    rcases List.mem_pair.mp listed with rfl | rfl
    · exact isName_sortColumn sort
    · exact tied
  limit := trivial

theorem text_listing {sort : SortKey} {p : Predicates} {conds : List Cond}
    (same : p.clauses = conds.map Cond.text) :
    "SELECT ".toList ++ Statement.groupColumns ++ " FROM crash_group".toList ++ p.whereClause ++
      Statement.groupOrderBy sort ++ " LIMIT ?".toList = (listing sort conds).text := by
  have shape : (listing sort conds).text = "SELECT ".toList ++
    ", ".toList.intercalate Statement.columnNames ++ " FROM ".toList ++
      "crash_group".toList ++
      (if conds.isEmpty then [] else " WHERE ".toList ++ " AND ".toList.intercalate (conds.map Cond.text)) ++
      " ORDER BY ".toList ++ ", ".toList.intercalate
        [Statement.groupSortColumn sort ++ " ".toList ++ Select.direction sort.isDescending,
          "group_id".toList ++ " ".toList ++ Select.direction sort.isDescending] ++
      " LIMIT ".toList ++ "?".toList := rfl
  have conditions : p.whereClause =
      if conds.isEmpty then [] else " WHERE ".toList ++ " AND ".toList.intercalate (conds.map Cond.text) := by
    rw [Predicates.whereClause, same, List.isEmpty_map]
  have order : Statement.groupOrderBy sort = " ORDER BY ".toList ++ ", ".toList.intercalate
        [Statement.groupSortColumn sort ++ " ".toList ++ Select.direction sort.isDescending,
          "group_id".toList ++ " ".toList ++ Select.direction sort.isDescending] := by
    cases sort <;> decide +kernel
  have table : " FROM crash_group".toList = " FROM ".toList ++ "crash_group".toList := by decide
  have limit : " LIMIT ?".toList = " LIMIT ".toList ++ "?".toList := by decide
  rw [shape, conditions, order, table, limit, Statement.groupColumns]
  simp only [List.append_assoc]

end CrashCatcher.Store
