import CrashCatcher.Daemon.Replies
import CrashCatcher.Store.Paging
import CrashCatcher.Store.Upkeep

namespace CrashCatcher.Daemon
open Lib Lib.Json Model Wire Store Fallible

def listedRows (page : PageRequest) (db : Database) : List GroupSummary :=
  (db.groups.rows.filter fun group => groupFilter page.filter group &&
    page.cursor.all fun cursor => decide (Before page.sort cursor.key (groupKey page.sort group))).mergeSort
      (groupOrderBy page.sort)

def cursorSize (sort : SortKey) (items : List GroupSummary) : Nat :=
  optionalSize (fun group => escapedSize (cursorAfter sort group).display + 2) items.getLast?

def pageReplySize (page : PageRequest) (seq : UInt64) (db : Database) : Nat :=
  let rows := listedRows page db
  let items := rows.take page.effectiveLimit
  70 + digits seq.toNat + total groupSize items + (items.length - 1) +
    if rows.length > page.effectiveLimit then cursorSize page.sort items else 4

section
variable (services : Services) (s : StoreState)

theorem listGroups_quiet {page : PageRequest} (valid : page.validate = .ok ()) :
    listGroups page (quiet s) = (.ok (pageOf page.effectiveLimit (cursorAfter page.sort)
      ((listedRows page s.db).take (page.effectiveLimit + 1))), quiet s) := by
  unfold listGroups
  rw [request_bind valid]
  unfold listedRows
  cases resumed : page.cursor with
  | none => rfl
  | some cursor =>
      have checked : cursor.validateFor page.sort = .ok () := by
        unfold PageRequest.validate at valid
        rw [resumed] at valid
        cases filter : page.filter.validate with
        | error error =>
            rw [filter] at valid
            cases valid
        | ok _ =>
            rw [filter] at valid
            exact valid
      exact congrFun (request_bind (cursorPredicate_eq checked) _) _

theorem size_page (seq : UInt64) (page : Page GroupSummary) :
    (ResponseEnvelope.mk seq (.ok (.groups page))).body.length =
      70 + digits seq.toNat + total groupSize page.items + (page.items.length - 1) +
        optionalSize (fun cursor => escapedSize cursor.display + 2) page.nextCursor := by
  have outer : frameSize ["response".toList, "page".toList] = 21 := by decide
  have tag : escapedSize "groups".toList = 6 := by decide
  have inner : frameSize ["items".toList, "next_cursor".toList] = 25 := by decide
  have rows : total (fun json => Utf8.size (compact json)) (page.items.map groupJson) =
      total groupSize page.items := by
    rw [total_map]
    exact congrArg (total · page.items) (funext size_groupJson)
  rw [size_ok, Response.toJson, size_compact_obj, Page.toJson]
  simp only [List.map_cons, List.map_nil, outer, total, size_compact_str, tag, size_compact_obj, inner,
    size_compact_arr, rows, List.length_map, size_compact_optional]
  omega

theorem size_pageOf (seq : UInt64) (page : PageRequest) (db : Database) :
    (ResponseEnvelope.mk seq (.ok (.groups (pageOf page.effectiveLimit (cursorAfter page.sort)
      ((listedRows page db).take (page.effectiveLimit + 1)))))).body.length =
      pageReplySize page seq db := by
  rw [size_page]
  unfold pageReplySize pageOf
  by_cases more : (listedRows page db).length > page.effectiveLimit
  · have full : ((listedRows page db).take (page.effectiveLimit + 1)).length > page.effectiveLimit := by
      rw [List.length_take]
      omega
    rw [if_pos full]
    dsimp only
    rw [if_pos more, List.take_take, Nat.min_eq_left (Nat.le_succ _), cursorSize]
    cases ((listedRows page db).take page.effectiveLimit).getLast? <;> rfl
  · have short : ¬ ((listedRows page db).take (page.effectiveLimit + 1)).length > page.effectiveLimit := by
      rw [List.length_take]
      omega
    rw [if_neg short]
    dsimp only
    rw [if_neg more, List.take_of_length_le (by omega), List.take_of_length_le (by omega)]
    rfl

theorem digits_i64_le (n : I64) : digits n.val ≤ 20 := by
  have within : n.val.natAbs < 10 ^ 19 := by
    have lower := n.lower
    have upper := n.upper
    omega
  exact digits_le n.val (by decide) within

theorem escapedSize_decimal_le (n : I64) : escapedSize (decimal n.val) ≤ 120 := by
  have bytes := escapedSize_le (decimal n.val)
  have most : Utf8.size (decimal n.val) ≤ 20 := digits_i64_le n
  omega

theorem size_filterRefusal {filter : CrashFilter} {error : WireError}
    (refused : filter.validate = .error error) :
    escapedSize error.code.name + escapedSize error.message ≤ 1000 := by
  unfold CrashFilter.validate at refused
  split at refused
  · next lower upper _ _ =>
    split at refused
    · cases refused
      have fixed : escapedSize ErrorCode.invalidRequest.name + escapedSize "time_from_ms (".toList +
          escapedSize ") is after time_to_ms (".toList + escapedSize ")".toList = 53 := by decide
      have from' := escapedSize_decimal_le lower
      have to' := escapedSize_decimal_le upper
      simp only [WireError.invalidRequest, escapedSize_append]
      omega
    · cases refused
  · cases refused

theorem size_cursorRefusal {cursor : Cursor} {sort : SortKey} {error : WireError}
    (refused : cursor.validateFor sort = .error error) :
    escapedSize error.code.name + escapedSize error.message ≤ 1000 := by
  have names : ∀ sort : SortKey, escapedSize sort.debug ≤ 14 := by
    intro sort
    cases sort <;> decide
  have code : escapedSize ErrorCode.cursorInvalidated.name = 18 := by decide
  unfold Cursor.validateFor at refused
  split at refused
  · cases refused
    have fixed : escapedSize "cursor was issued for ".toList +
        escapedSize " but the request sorts by ".toList = 48 := by decide
    have issued := names cursor.sort
    have sorts := names sort
    simp only [WireError.cursorInvalidated, escapedSize_append, code]
    omega
  · have only : ∀ (other : WireError) (passes : Bool),
        (if passes then Except.ok () else Except.error other) = Except.error error → error = other := by
      intro other passes failed
      cases passes <;> cases failed
      rfl
    have mismatched := only _ _ refused
    have fixed : escapedSize "cursor anchor type does not match the sort column".toList = 49 := by decide
    rw [mismatched]
    simp only [WireError.cursorInvalidated, fixed, code]
    omega

theorem size_refusal {page : PageRequest} {error : WireError} (refused : page.validate = .error error) :
    escapedSize error.code.name + escapedSize error.message ≤ 1000 := by
  unfold PageRequest.validate at refused
  cases filter : page.filter.validate with
  | error other =>
      rw [filter] at refused
      cases refused
      exact size_filterRefusal filter
  | ok _ =>
      rw [filter] at refused
      cases resumed : page.cursor with
      | none =>
          rw [resumed] at refused
          cases refused
      | some cursor =>
          rw [resumed] at refused
          exact size_cursorRefusal refused

theorem pageServed_iff (seq : UInt64) (page : PageRequest) :
    FitsFrame (services.dispatch ⟨seq, .listGroups page⟩ (quiet s)).1.body ↔
      page.validate ≠ .ok () ∨ pageReplySize page seq s.db ≤ maxFrameBodyBytes := by
  cases valid : page.validate with
  | error error =>
      have refused : services.dispatch ⟨seq, .listGroups page⟩ (quiet s) =
          (⟨seq, .error error⟩, quiet s) := by
        have failed : listGroups page (quiet s) = (.error (.request error), quiet s) := by
          unfold listGroups
          rw [valid]
          rfl
        unfold Services.dispatch Services.handleRequest
        simp only [bind_of_error failed]
        rfl
      have texts := size_refusal valid
      have digits := digits_u64_le seq
      rw [refused, fitsFrame_iff, size_err]
      refine iff_of_true ?_ (.inl nofun)
      show _ ≤ 1024 * 1024
      omega
  | ok _ =>
      have listed : services.dispatch ⟨seq, .listGroups page⟩ (quiet s) =
          (⟨seq, .ok (.groups (pageOf page.effectiveLimit (cursorAfter page.sort)
            ((listedRows page s.db).take (page.effectiveLimit + 1))))⟩, quiet s) := by
        unfold Services.dispatch Services.handleRequest
        simp only [bind_of_ok (listGroups_quiet s valid)]
        rfl
      rw [listed, fitsFrame_iff, size_pageOf]
      simp

end

/-! What keeps every page small: rows with short names. -/

/-- A row that takes at most the two hundredth part of a frame, whatever its numbers are. -/
structure Slim (group : GroupSummary) : Prop where
  groupId : escapedSize group.groupId ≤ 32
  names : escapedSize group.packageName + escapedSize group.processName + digits group.userId ≤ 1600
  className : optionalSize (fun text => escapedSize text + 2) group.summaryClass ≤ 1602
  text : optionalSize (fun text => escapedSize text + 2) group.summaryText ≤ 1538

def Counted (group : GroupSummary) : Prop := group.occurrence < 2 ^ 64 ∧ group.payloadBytes < 2 ^ 64

theorem Slim.groupSize_le {group : GroupSummary} (slim : Slim group) (counted : Counted group) :
    groupSize group ≤ 5200 := by
  have kind : escapedSize (kindName group.kind) ≤ 14 := by
    cases group.kind <;> decide
  have occurrence : digits (group.occurrence : Int) ≤ 20 :=
    digits_natCast_le (by decide) (counted.1.trans (by decide))
  have bytes : digits (group.payloadBytes : Int) ≤ 20 :=
    digits_natCast_le (by decide) (counted.2.trans (by decide))
  have firstSeen := digits_i64_le group.firstSeenMs
  have lastSeen := digits_i64_le group.lastSeenMs
  have muted : optionalSize (fun untilMs : I64 => digits untilMs.val) group.mutedUntilMs ≤ 20 := by
    cases group.mutedUntilMs with
    | none => decide
    | some untilMs => exact digits_i64_le untilMs
  have bools : ∀ b, boolSize b ≤ 5 := by decide
  have system := bools group.isSystemApp
  have main := bools group.isMainProcess
  have handled := bools group.selfHandled
  have installed := bools group.packageInstalled
  have groupId := slim.groupId
  have names := slim.names
  have className := slim.className
  have text := slim.text
  unfold groupSize
  omega

theorem escapedSize_hexEncode (bytes : List UInt8) :
    escapedSize (GroupKey.hexEncode bytes) = 2 * bytes.length := by
  have digit : ∀ n < 16, escapedSize [GroupKey.hexDigit n] = 1 := by decide
  induction bytes with
  | nil => rfl
  | cons b rest ih =>
      have split : GroupKey.hexEncode (b :: rest) = [GroupKey.hexDigit (b.toNat / 16)] ++
          [GroupKey.hexDigit (b.toNat % 16)] ++ GroupKey.hexEncode rest := rfl
      have below := b.toNat_lt
      rw [split, escapedSize_append, escapedSize_append, digit _ (by omega), digit _ (by omega), ih,
        List.length_cons]
      omega

theorem size_takeBytes_le (budget : Nat) (text : Str) : Utf8.size (takeBytes budget text) ≤ budget := by
  induction text generalizing budget with
  | nil => exact Nat.zero_le _
  | cons c rest ih =>
      unfold takeBytes
      split_ifs with room
      · have later := ih (budget - c.utf8Size)
        rw [Utf8.size_cons]
        omega
      · exact Nat.zero_le _

theorem size_truncateOnCharBoundary_le (value : Str) (maxBytes : Nat) :
    Utf8.size (truncateOnCharBoundary value maxBytes) ≤ maxBytes := by
  unfold truncateOnCharBoundary
  split_ifs with whole
  · rwa [← Utf8.length_encode]
  · exact size_takeBytes_le maxBytes value

/-- A crash with short names. Its summary is one that `CrashSummary::new` built, so the text is cut. -/
structure SlimCrash (record : CrashRecord) : Prop where
  names : escapedSize record.packageName + escapedSize record.processName + digits record.userId ≤ 1600
  className : ∀ className, record.summary.className = some className → escapedSize className ≤ 1600
  summary : ∃ className text, record.summary = CrashSummary.new className text

theorem SlimCrash.text_le {record : CrashRecord} (slim : SlimCrash record) {text : Str}
    (has : record.summary.text = some text) : escapedSize text ≤ 1536 := by
  obtain ⟨className, whole, built⟩ := slim.summary
  rw [built] at has
  obtain ⟨value, -, rfl⟩ := Option.map_eq_some_iff.mp has
  have bytes := escapedSize_le (truncateOnCharBoundary value summaryTextMaxBytes)
  have cut : Utf8.size (truncateOnCharBoundary value summaryTextMaxBytes) ≤ 256 :=
    size_truncateOnCharBoundary_le value summaryTextMaxBytes
  omega

theorem optionalSize_le {α : Type} {weight : α → Nat} {value : Option α} {most : Nat} (room : 4 ≤ most)
    (within : ∀ a, value = some a → weight a ≤ most) : optionalSize weight value ≤ most := by
  cases value with
  | none => exact room
  | some a => exact within a rfl

theorem optionalSize_or_le {α : Type} {weight : α → Nat} {value other : Option α} {most : Nat}
    (first : optionalSize weight value ≤ most) (next : optionalSize weight other ≤ most) :
    optionalSize weight (value.or other) ≤ most := by
  cases value with
  | none => exact next
  | some a => exact first

section
variable (platform : Platform) {record : CrashRecord}

theorem SlimCrash.sighting (slim : SlimCrash record) (written : Option WrittenPayload) :
    Slim (sightingOf platform record written) where
  groupId := by
    show escapedSize (GroupKey.hexEncode _) ≤ 32
    rw [escapedSize_hexEncode, List.length_take]
    omega
  names := slim.names
  className := optionalSize_le (by decide) fun className has =>
    Nat.add_le_add_right (slim.className className has) 2
  text := optionalSize_le (by decide) fun text has => Nat.add_le_add_right (slim.text_le has) 2

theorem SlimCrash.sightAgain (slim : SlimCrash record) (written : Option WrittenPayload)
    {old : GroupSummary} (kept : Slim old) : Slim ((sightingOf platform record written).sightAgain old) where
  groupId := kept.groupId
  names := kept.names
  className := optionalSize_or_le (slim.sighting platform written).className kept.className
  text := optionalSize_or_le (slim.sighting platform written).text kept.text

theorem ignoresBytes_slim : IgnoresBytes Slim := fun _ _ slim =>
  ⟨slim.groupId, slim.names, slim.className, slim.text⟩

def SlimOp : Op → Prop
  | .insert record .. => SlimCrash record
  | _ => True

def storeAfter (s : StoreState) (steps : List (Op × (Nat → Option Nat))) : StoreState :=
  steps.foldl (fun s step => s.apply platform step.1 step.2) s

theorem every_slim_apply {s : StoreState} {op : Op} (slim : SlimOp op) (every : Every Slim s.db)
    (faults : Nat → Option Nat) : Every Slim (s.apply platform op faults).db := by
  have ends := op.run_every platform ignoresBytes_slim every
    (by rintro record retention sourceKeys ingestedAtMs written rfl
        exact SlimCrash.sighting platform slim written)
    (by rintro record retention sourceKeys ingestedAtMs written old rfl kept
        exact SlimCrash.sightAgain platform slim written kept)
  exact ends.always faults

theorem every_slim_storeAfter {s : StoreState} {steps : List (Op × (Nat → Option Nat))}
    (slim : ∀ step ∈ steps, SlimOp step.1) (every : Every Slim s.db) :
    Every Slim (storeAfter platform s steps).db := by
  induction steps generalizing s with
  | nil => exact every
  | cons step rest ih =>
      have first := every_slim_apply platform (slim step List.mem_cons_self) every step.2
      exact ih (fun later member => slim later (List.mem_cons_of_mem _ member)) first

end

theorem escapedSize_cursor_le {sort : SortKey} {group : GroupSummary} (slim : Slim group)
    (counted : Counted group) : escapedSize (cursorAfter sort group).display ≤ 1700 := by
  have sortName : ∀ sort : SortKey, escapedSize sort.name ≤ 15 := by
    intro sort
    cases sort <;> decide
  have parts : ∀ kind anchor : Str, escapedSize kind ≤ 1 → escapedSize anchor ≤ 1600 →
      escapedSize (joined ['|'] ["1".toList, sort.name, kind, anchor, group.groupId]) ≤ 1700 := by
    intro kind anchor short within
    have bar : escapedSize ['|'] = 1 := by decide
    have one : escapedSize "1".toList = 1 := by decide
    have named := sortName sort
    have groupId := slim.groupId
    rw [escapedSize_joined, bar]
    simp only [total, one, List.length_cons, List.length_nil]
    omega
  have number : ∀ n : I64, escapedSize (decimal n.val) ≤ 1600 := fun n =>
    (escapedSize_decimal_le n).trans (by decide)
  cases sort with
  | lastSeenDesc => exact parts "i".toList (decimal group.lastSeenMs.val) (by decide) (number _)
  | firstSeenDesc => exact parts "i".toList (decimal group.firstSeenMs.val) (by decide) (number _)
  | occurrenceDesc =>
      have bytes := escapedSize_le (decimal (group.occurrence : Int))
      have most : Utf8.size (decimal (group.occurrence : Int)) ≤ 20 :=
        digits_natCast_le (by decide) (counted.1.trans (by decide))
      exact parts "i".toList (decimal group.occurrence) (by decide) (by omega)
  | packageAsc =>
      have names := slim.names
      exact parts "t".toList group.packageName (by decide) (by omega)

theorem pageReplySize_le {db : Database} (slim : Every Slim db) (counted : Every Counted db)
    (page : PageRequest) (seq : UInt64) : pageReplySize page seq db ≤ maxFrameBodyBytes := by
  have limit : page.effectiveLimit ≤ 200 := by
    unfold PageRequest.effectiveLimit
    have default : defaultPageLimit = 50 := rfl
    have most : maxPageLimit = 200 := rfl
    split_ifs <;> omega
  have listed : ∀ group ∈ (listedRows page db).take page.effectiveLimit, group ∈ db.groups.rows := by
    intro group member
    have sorted := (List.mergeSort_perm _ _).mem_iff.mp (List.mem_of_mem_take member)
    exact List.mem_of_mem_filter sorted
  have count : ((listedRows page db).take page.effectiveLimit).length ≤ 200 :=
    (List.length_take_le _ _).trans limit
  have rows : total groupSize ((listedRows page db).take page.effectiveLimit) ≤ 200 * 5200 :=
    (total_le fun group member => (slim group (listed group member)).groupSize_le
      (counted group (listed group member))).trans (Nat.mul_le_mul_right 5200 count)
  have cursor : cursorSize page.sort ((listedRows page db).take page.effectiveLimit) ≤ 1702 := by
    refine optionalSize_le (by decide) fun group last => ?_
    have member := listed group (List.mem_of_getLast? last)
    exact Nat.add_le_add_right (escapedSize_cursor_le (slim group member) (counted group member)) 2
  have digits := digits_u64_le seq
  have most : maxFrameBodyBytes = 1048576 := rfl
  unfold pageReplySize
  dsimp only
  split_ifs <;> omega

/-- Which pages are answered within a frame: in any store by the rows that the page lists, and in
every store that was filled with short names, all of them. -/
theorem pages_fit_iff (services : Services) (platform : Platform) :
    (∀ s seq page, FitsFrame (services.dispatch ⟨seq, .listGroups page⟩ (quiet s)).1.body ↔
      page.validate ≠ .ok () ∨ pageReplySize page seq s.db ≤ maxFrameBodyBytes) ∧
    ∀ steps : List (Op × (Nat → Option Nat)), (∀ step ∈ steps, SlimOp step.1) →
      Every Counted (storeAfter platform .empty steps).db → ∀ seq page,
        FitsFrame (services.dispatch ⟨seq, .listGroups page⟩
          (quiet (storeAfter platform .empty steps))).1.body := by
  constructor
  · intro s seq page
    exact pageServed_iff services s seq page
  · intro steps slim counted seq page
    have every : Every Slim (storeAfter platform .empty steps).db :=
      every_slim_storeAfter platform slim (by intro group member; cases member)
    rw [pageServed_iff]
    exact .inr (pageReplySize_le every counted page seq)

theorem page_of_one_crash_fits :
    FitsFrame (plainServices.dispatch ⟨1, .listGroups {}⟩
      (quiet (storeAfter plainPlatform .empty [(.insert oneByteCrash {} [] 0, noFaults)]))).1.body := by
  have slim : SlimCrash oneByteCrash := ⟨by decide, nofun, none, none, rfl⟩
  have counted : Every Counted
      (storeAfter plainPlatform .empty [(.insert oneByteCrash {} [] 0, noFaults)]).db := by
    unfold Every Counted
    decide +kernel
  exact (pages_fit_iff plainServices plainPlatform).2 _ (by
    intro step member
    rw [List.mem_singleton.mp member]
    exact slim) counted 1 {}

def crashOfClass (className : Str) : CrashRecord :=
  { oneByteCrash with payload := .none, summary := .new (some className) none }

theorem rows_upsertGroup_empty (group : GroupSummary) :
    (Database.empty.upsertGroup group).groups.rows = [group] := by
  unfold Database.upsertGroup
  cases added : Database.empty.groups.insert? group with
  | none =>
      obtain ⟨stored, member, -⟩ := Table.insert?_eq_none_iff.mp added
      cases member
  | some groups => exact (Table.insert?_eq_some added).2

theorem rows_crashOfClass (className : Str) :
    (quietStep plainPlatform .empty (.insert (crashOfClass className) {} [] 0)).db.groups.rows =
      [sightingOf plainPlatform (crashOfClass className) none] := by
  have fresh : ∀ row ∈ StoreState.empty.db.records.rows, row.id ≠ StoreState.empty.newId 1 := by
    intro row stored
    cases stored
  have wrote : PayloadStore.write plainPlatform (StoreState.empty.newId 1) (crashOfClass className).payload
      ({} : Config.RetentionPolicy).maxPayloadBytesPerRecord
      (quiet { StoreState.empty with ids := StoreState.empty.nextIds 1 }) =
        (.ok none, quiet { StoreState.empty with ids := StoreState.empty.nextIds 1 }) := rfl
  obtain ⟨result, db, inserted, ran⟩ :=
    insertWithSources_quiet plainPlatform (crashOfClass className) {} [] 0 fresh wrote rfl
  have groups := (Database.insertCrash_eq_some inserted).2.2
  rw [quietStep_insert plainPlatform ran]
  show db.groups.rows = _
  rw [groups]
  exact rows_upsertGroup_empty _

/-- One crash with a class name of one mebibyte makes the first page unreadable. -/
theorem long_class_name_blocks_the_page :
    ∃ s seq page, Reachable plainPlatform s ∧
      ¬ FitsFrame (plainServices.dispatch ⟨seq, .listGroups page⟩ (quiet s)).1.body := by
  have blocked : ∀ className : Str, 1048576 ≤ Utf8.size className →
      ¬ FitsFrame (plainServices.dispatch ⟨1, .listGroups {}⟩
        (quiet (quietStep plainPlatform .empty (.insert (crashOfClass className) {} [] 0)))).1.body := by
    intro className long
    have listed : listedRows {} (quietStep plainPlatform .empty (.insert (crashOfClass className) {} [] 0)).db =
        [sightingOf plainPlatform (crashOfClass className) none] := by
      have selected : groupFilter {} (sightingOf plainPlatform (crashOfClass className) none) = true := rfl
      unfold listedRows
      rw [rows_crashOfClass, List.filter_cons_of_pos (by rw [selected]; rfl), List.filter_nil,
        List.mergeSort_singleton]
    have row : 1048576 ≤ groupSize (sightingOf plainPlatform (crashOfClass className) none) := by
      have part : optionalSize (fun text => escapedSize text + 2)
          (sightingOf plainPlatform (crashOfClass className) none).summaryClass =
            escapedSize className + 2 := rfl
      have written := size_le_escapedSize className
      unfold groupSize
      omega
    have most : maxFrameBodyBytes = 1048576 := rfl
    rw [pageServed_iff]
    rintro (refused | fits)
    · exact refused rfl
    · have items : [sightingOf plainPlatform (crashOfClass className) none].take
          (PageRequest.effectiveLimit {}) = [sightingOf plainPlatform (crashOfClass className) none] := rfl
      rw [pageReplySize, listed, items, total, total] at fits
      omega
  have dots : ∀ n, Utf8.size (List.replicate n '.') = n := by
    intro n
    induction n with
    | zero => rfl
    | succ n ih =>
        rw [List.replicate_succ, Utf8.size_cons, ih]
        exact Nat.add_comm 1 n
  exact ⟨_, 1, {}, .step _ _ .empty, blocked (List.replicate 1048576 '.') (dots 1048576).ge⟩

end CrashCatcher.Daemon
