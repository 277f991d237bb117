import CrashCatcher.Daemon.Pages
import CrashCatcher.Store.Statement

namespace CrashCatcher.Daemon
open Lib Lib.Sql Model Wire Store

/-- What a filter asks of a group, where `holds` is what a search text asks of a column; an unset field
and an empty list ask nothing. -/
structure Matches (holds : Str → Str → Prop) (filter : CrashFilter) (group : GroupSummary) : Prop where
  package : filter.packages ≠ [] → group.packageName ∈ filter.packages
  kind : filter.kinds ≠ [] → group.kind ∈ filter.kinds
  user : filter.userIds ≠ [] → group.userId ∈ filter.userIds
  since : ∀ lower ∈ filter.timeFromMs, lower ≤ group.lastSeenMs
  until_ : ∀ upper ∈ filter.timeToMs, group.firstSeenMs < upper
  app : filter.includeSystemApps = false → ¬ (group.isSystemApp = true ∧ group.packageInstalled = true)
  process : filter.includeSystemProcesses = false → group.packageInstalled = true
  main : filter.onlyMainProcess = true → group.isMainProcess = true
  handled : filter.onlySelfHandled = true → group.selfHandled = true
  query : ∀ query ∈ filter.query, Text.trim query ≠ [] →
    holds (Text.trim query) group.packageName ∨
      (∃ text ∈ group.summaryClass, holds (Text.trim query) text) ∨
      ∃ text ∈ group.summaryText, holds (Text.trim query) text

/-- The search text and the columns that it is looked for in hold no NUL, U+FFFE or U+FFFF. -/
structure PlainSearch (filter : CrashFilter) (group : GroupSummary) : Prop where
  query : ∀ query ∈ filter.query, Plain (Text.trim query)
  package : Plain group.packageName
  class_ : ∀ text ∈ group.summaryClass, Plain text
  text : ∀ text ∈ group.summaryText, Plain text

theorem PlainSearch.matches_iff {filter : CrashFilter} {group : GroupSummary} (plain : PlainSearch filter group) :
    Matches Shows filter group ↔ Matches Contains filter group := by
  have query : ∀ query ∈ filter.query,
      (Shows (Text.trim query) group.packageName ∨
        (∃ text ∈ group.summaryClass, Shows (Text.trim query) text) ∨
        ∃ text ∈ group.summaryText, Shows (Text.trim query) text) ↔
      (Contains (Text.trim query) group.packageName ∨
        (∃ text ∈ group.summaryClass, Contains (Text.trim query) text) ∨
        ∃ text ∈ group.summaryText, Contains (Text.trim query) text) := by
    intro query asked
    have needle := plain.query query asked
    refine or_congr (needle.shows_iff plain.package) (or_congr ?_ ?_)
    · exact exists_congr fun text => and_congr_right fun own => needle.shows_iff (plain.class_ text own)
    · exact exists_congr fun text => and_congr_right fun own => needle.shows_iff (plain.text text own)
  constructor
  · intro found
    exact { found with query := fun text asked some => (query text asked).mp (found.query text asked some) }
  · intro found
    exact { found with query := fun text asked some => (query text asked).mpr (found.query text asked some) }

/-- The bounds of a filter select the groups that were seen in a window that is not empty. -/
theorem overlaps_iff {group : GroupSummary} {lower upper : I64}
    (window : lower < upper) (span : group.firstSeenMs ≤ group.lastSeenMs) :
    (lower ≤ group.lastSeenMs ∧ group.firstSeenMs < upper) ↔
      ∃ t, (lower ≤ t ∧ t < upper) ∧ group.firstSeenMs ≤ t ∧ t ≤ group.lastSeenMs := by
  constructor
  · rintro ⟨since, until_⟩
    exact ⟨max lower group.firstSeenMs, ⟨le_max_left _ _, max_lt window until_⟩, le_max_right _ _,
      max_le since span⟩
  · rintro ⟨t, ⟨above, below⟩, first, last⟩
    exact ⟨above.trans last, first.trans_lt below⟩

theorem not_shows_nil {needle : Str} (ends : '\x00' ∉ needle) (some : needle ≠ []) : ¬ Shows needle [] := by
  rintro ⟨front, middle, back, split, same⟩
  have empty : middle = [] := by
    have parts := List.append_eq_nil_iff.mp split.symm
    exact (List.append_eq_nil_iff.mp parts.1).2
  rw [empty, seen_of_no_nul ends] at same
  exact some (List.map_eq_nil_iff.mp (List.map_eq_nil_iff.mp same.symm))

theorem shows_getD {needle : Str} (ends : '\x00' ∉ needle) (nonempty : needle ≠ []) (text : Option Str) :
    Shows needle (text.getD []) ↔ ∃ found ∈ text, Shows needle found := by
  cases text with
  | none => simp [not_shows_nil ends nonempty]
  | some text => simp

theorem all_searchText {query : Option Str} {test : Str → Bool} :
    (searchText query).all test = true ↔ ∀ text ∈ query, Text.trim text ≠ [] →
      test (Text.trim text) = true := by
  cases query with
  | none => simp [searchText]
  | some text =>
      by_cases empty : Text.trim text = []
      · simp [searchText, empty]
      · simp [searchText, empty]

theorem isEmpty_or {α : Type} [BEq α] [LawfulBEq α] {items : List α} {a : α} :
    (items.isEmpty || items.contains a) = true ↔ (items ≠ [] → a ∈ items) := by
  cases items with
  | nil => simp
  | cons b items => simp

theorem all_decide {α : Type} {value : Option α} {p : α → Prop} [DecidablePred p] :
    value.all (fun a => decide (p a)) = true ↔ ∀ a ∈ value, p a := by
  cases value <;> simp

theorem unless_iff {skipped kept : Bool} : (skipped || kept) = true ↔ (skipped = false → kept = true) := by
  cases skipped <;> simp

theorem only_iff {asked kept : Bool} : (!asked || kept) = true ↔ (asked = true → kept = true) := by
  cases asked <;> simp

theorem not_both_iff {a b : Bool} : (!(a && b)) = true ↔ ¬ (a = true ∧ b = true) := by
  cases a <;> cases b <;> simp

theorem groupFilter_iff {filter : CrashFilter} {group : GroupSummary}
    (ends : ∀ query ∈ filter.query, '\x00' ∉ Text.trim query) :
    groupFilter filter group = true ↔ Matches Shows filter group := by
  have searched : ∀ query ∈ filter.query, Text.trim query ≠ [] →
      ((like (likePattern (Text.trim query)) group.packageName ||
        like (likePattern (Text.trim query)) (group.summaryClass.getD []) ||
          like (likePattern (Text.trim query)) (group.summaryText.getD [])) = true ↔
      Shows (Text.trim query) group.packageName ∨
        (∃ text ∈ group.summaryClass, Shows (Text.trim query) text) ∨
        ∃ text ∈ group.summaryText, Shows (Text.trim query) text) := by
    intro query asked nonempty
    have ends := ends query asked
    rw [Bool.or_eq_true, Bool.or_eq_true, or_assoc, ← shows_getD ends nonempty, ← shows_getD ends nonempty]
    exact or_congr (like_contains ends _) (or_congr (like_contains ends _) (like_contains ends _))
  have kinds := contains_map CrashKind.asI64_injective filter.kinds group.kind
  unfold groupFilter
  simp only [kinds, Bool.and_eq_true, isEmpty_or, all_searchText, all_decide]
  constructor
  · rintro ⟨⟨⟨⟨⟨⟨⟨⟨⟨package, kind⟩, user⟩, since⟩, until_⟩, app⟩, process⟩, main⟩, handled⟩, query⟩
    exact ⟨package, kind, user, since, until_, fun left => not_both_iff.mp (unless_iff.mp app left),
      unless_iff.mp process, only_iff.mp main, only_iff.mp handled,
      fun text asked nonempty => (searched text asked nonempty).mp (query text asked nonempty)⟩
  · rintro ⟨package, kind, user, since, until_, app, process, main, handled, query⟩
    exact ⟨⟨⟨⟨⟨⟨⟨⟨⟨package, kind⟩, user⟩, since⟩, until_⟩, unless_iff.mpr fun left => not_both_iff.mpr
      (app left)⟩, unless_iff.mpr process⟩, only_iff.mpr main⟩, only_iff.mpr handled⟩,
      fun text asked nonempty => (searched text asked nonempty).mpr (query text asked nonempty)⟩

theorem run_listing {p : Predicates} {sort : SortKey} {conds : List Cond} {test : GroupSummary → Bool}
    (denotes : p.Denotes conds test) (limit : Nat) (rows : List GroupSummary) :
    (listing sort conds).run GroupSummary.cell (p.params ++ [.integer (limit + 1)]) rows =
      ((rows.filter test).mergeSort (groupOrderBy sort)).take (limit + 1) := by
  let params := p.params ++ [Value.integer (limit + 1)]
  have bound := bound_getD params
  obtain ⟨own, last⟩ := bound.append
  have kept : (rows.filter fun row =>
      conjunction row.cell (fun i => params.getD i .null) 0 conds == some true) = rows.filter test := by
    refine List.filter_congr fun row _ => ?_
    rw [denotes.truth row _ 0 own]
    cases test row <;> rfl
  have order : Select.orderBy GroupSummary.cell
      [(Statement.groupSortColumn sort, sort.isDescending), ("group_id".toList, sort.isDescending)] =
      groupOrderBy sort := funext fun a => funext fun b => orderBy_group sort a b
  have limited : params.getD (totalHoles conds) .null = .integer (limit + 1) := by
    rw [denotes.holes, ← Nat.zero_add p.params.length]
    exact last.head
  have positive : ¬ (limit + 1 : Int) < 0 := by omega
  rw [Select.run_of_limit GroupSummary.cell (s := listing sort conds) limited positive, ← kept, ← order]
  rfl

/-- Every placeholder of a page's statement has its parameter, and the answer is what the statement selects. -/
structure StatementDenotes (page : PageRequest) (text : Str) (params : List Value) (select : Select) :
    Prop where
  made : Statement.listGroups page = .ok (text, params)
  reads : select.Reads
  same : select.text = text
  counted : text.count '?' = params.length
  holes : select.holes = params.length
  answers : ∀ s, listGroups page (quiet s) = (.ok (pageOf page.effectiveLimit (cursorAfter page.sort)
    (select.run GroupSummary.cell params s.db.groups.rows)), quiet s)

theorem cursor_valid {page : PageRequest} (valid : page.validate = .ok ()) :
    ∀ cursor ∈ page.cursor, cursor.validateFor page.sort = .ok () := by
  intro cursor resumed
  unfold PageRequest.validate at valid
  rw [resumed] at valid
  cases filter : page.filter.validate with
  | error error =>
      rw [filter] at valid
      cases valid
  | ok _ =>
      rw [filter] at valid
      exact valid

def selected (page : PageRequest) (group : GroupSummary) : Bool :=
  groupFilter page.filter group &&
    page.cursor.all fun cursor => decide (Before page.sort cursor.key (groupKey page.sort group))

theorem denotes_page {page : PageRequest} (valid : page.validate = .ok ()) :
    ∃ p conds, Statement.pagePredicates page = .ok p ∧ p.Denotes conds (selected page) := by
  obtain ⟨conds, filtered⟩ := denotes_groupFilter page.filter
  cases resumed : page.cursor with
  | none =>
      refine ⟨Statement.groupFilter page.filter, conds, ?_, filtered.of_eq fun group => ?_⟩
      · rw [Statement.pagePredicates, resumed]
        rfl
      · rw [selected, resumed, Option.all_none, Bool.and_true]
  | some cursor =>
      obtain ⟨p, made, past⟩ := denotes_cursorPredicate (cursor_valid valid cursor resumed)
      refine ⟨_, _, ?_, (filtered.extend past).of_eq fun group => ?_⟩
      · rw [Statement.pagePredicates, resumed]
        simp only [made]
        rfl
      · rw [selected, resumed, Option.all_some]

theorem statement_denotes {page : PageRequest} (valid : page.validate = .ok ()) :
    ∃ text params select, StatementDenotes page text params select := by
  obtain ⟨p, conds, made, denotes⟩ := denotes_page valid
  let select := listing page.sort conds
  have reads : select.Reads := reads_listing page.sort denotes.reads
  have holes : select.holes = (p.params ++ [Value.integer (page.effectiveLimit + 1)]).length := by
    rw [List.length_append, ← denotes.holes]
    rfl
  refine ⟨select.text, p.params ++ [.integer (page.effectiveLimit + 1)], select, ?_, reads, rfl, ?_, holes,
    fun s => ?_⟩
  · unfold Statement.listGroups
    rw [valid, made]
    exact congrArg (fun text => Except.ok (text, p.params ++ [Value.integer (page.effectiveLimit + 1)]))
      (text_listing denotes.text)
  · rw [Select.count_text reads, holes]
  · rw [listGroups_quiet s valid, run_listing denotes]
    rfl

theorem items_pageOf {α : Type} (limit : Nat) (after : α → Cursor) (listed : List α) :
    (pageOf limit after (listed.take (limit + 1))).items = listed.take limit := by
  unfold pageOf
  by_cases long : (listed.take (limit + 1)).length > limit
  · rw [if_pos long, List.take_take, Nat.min_eq_left (Nat.le_succ limit)]
  · rw [if_neg long]
    rw [List.length_take] at long
    have short : listed.length ≤ limit := by omega
    rw [List.take_of_length_le short, List.take_of_length_le (Nat.le_succ_of_le short)]

theorem pairwise_listed (page : PageRequest) (db : Database) :
    (listedRows page db).Pairwise fun a b =>
      Before page.sort (groupKey page.sort a) (groupKey page.sort b) := by
  have order : groupOrderBy page.sort = fun a b =>
      !decide (Before page.sort (groupKey page.sort b) (groupKey page.sort a)) :=
    funext fun a => funext fun b => groupOrderBy_eq page.sort a b
  rw [listedRows, order]
  refine Keyset.pairwise_ordered (List.Nodup.of_map Prod.snd ?_)
  rw [List.map_map]
  exact db.groups.distinct.sublist (List.filter_sublist.map GroupSummary.groupId)

/-- A page without a cursor is the start of the groups that match, in the order that was asked for. -/
theorem listGroups_denotes (page : PageRequest) (valid : page.validate = .ok ()) :
    (∃ text params select, StatementDenotes page text params select) ∧
      (page.cursor = none → (∀ query ∈ page.filter.query, '\x00' ∉ Text.trim query) → ∀ s,
        ∃ (listed : List GroupSummary) (answer : Page GroupSummary),
        (∀ group, group ∈ listed ↔ group ∈ s.db.groups.rows ∧ Matches Shows page.filter group) ∧
        (∀ group, PlainSearch page.filter group →
          (group ∈ listed ↔ group ∈ s.db.groups.rows ∧ Matches Contains page.filter group)) ∧
        (listed.Pairwise fun a b => Before page.sort (groupKey page.sort a) (groupKey page.sort b)) ∧
        listGroups page (quiet s) = (.ok answer, quiet s) ∧
          answer.items = listed.take page.effectiveLimit) := by
  refine ⟨statement_denotes valid, fun first ends s => ?_⟩
  have selects : ∀ group, group ∈ listedRows page s.db ↔
      group ∈ s.db.groups.rows ∧ Matches Shows page.filter group := by
    intro group
    rw [listedRows, List.mem_mergeSort, List.mem_filter, first, Option.all_none, Bool.and_true,
      groupFilter_iff ends]
  refine ⟨listedRows page s.db, _, selects, fun group plain => ?_, pairwise_listed page s.db,
    listGroups_quiet s valid, items_pageOf _ _ _⟩
  rw [selects, plain.matches_iff]

def search (query : String) : PageRequest :=
  { filter := { query := some query.toList } }

theorem percent_search_denotes :
    (∃ text params select, StatementDenotes (search "50%") text params select) ∧ ∀ s,
      ∃ (listed : List GroupSummary) (answer : Page GroupSummary),
        (∀ group, group ∈ listed ↔ group ∈ s.db.groups.rows ∧ Matches Shows (search "50%").filter group) ∧
        listGroups (search "50%") (quiet s) = (.ok answer, quiet s) ∧
          answer.items = listed.take (search "50%").effectiveLimit := by
  refine ⟨(listGroups_denotes (search "50%") rfl).1, fun s => ?_⟩
  obtain ⟨listed, answer, selects, -, -, answered, items⟩ :=
    (listGroups_denotes (search "50%") rfl).2 rfl (by decide) s
  exact ⟨listed, answer, selects, answered, items⟩

def nulReport : GroupSummary :=
  { newGroup "group".toList oneByteCrash 0 with summaryText := some ('x' :: '\x00' :: "boom".toList) }

def nulStore : StoreState :=
  { StoreState.empty with db := { Database.empty with groups := ⟨[nulReport], List.nodup_singleton _⟩ } }

/-- `LIKE` does not see what stands behind the NUL. -/
theorem search_ends_at_nul :
    (search "boom").validate = .ok () ∧ (search "boom").cursor = none ∧
      nulReport ∈ nulStore.db.groups.rows ∧ Matches Contains (search "boom").filter nulReport ∧
      ∃ answer, listGroups (search "boom") (quiet nulStore) = (.ok answer, quiet nulStore) ∧
        answer.items = [] := by
  have unseen : ∀ group ∈ nulStore.db.groups.rows,
      ¬ (groupFilter (search "boom").filter group && true) = true := by
    intro group member
    obtain rfl := List.mem_singleton.mp member
    decide +kernel
  have listed : listedRows (search "boom") nulStore.db = [] := by
    have none := List.filter_eq_nil_iff.mpr unseen
    show (nulStore.db.groups.rows.filter fun group => groupFilter (search "boom").filter group && true).mergeSort
      _ = []
    rw [none]
    exact List.mergeSort_nil
  refine ⟨rfl, rfl, List.mem_singleton.mpr rfl, ?_, _, listGroups_quiet nulStore rfl, ?_⟩
  · have query : ∀ query ∈ (search "boom").filter.query, query = "boom".toList := fun query asked =>
      (Option.some.inj asked).symm
    refine ⟨fun some => absurd rfl some, fun some => absurd rfl some, fun some => absurd rfl some, ?_, ?_,
      fun _ system => ?_, fun _ => rfl, ?_, ?_, fun text asked _ => .inr (.inr ⟨_, rfl, ?_⟩)⟩
    · exact fun lower asked => nomatch asked
    · exact fun upper asked => nomatch asked
    · cases system.1
    · exact fun asked => Bool.noConfusion asked
    · exact fun asked => Bool.noConfusion asked
    · rw [query text asked]
      exact ⟨['x', '\x00'], "boom".toList, [], by decide, by decide⟩
  · rw [listed]
    rfl

end CrashCatcher.Daemon
