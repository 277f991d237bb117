import CrashCatcher.Lib.Run
import CrashCatcher.Manager.Coroutines
import CrashCatcher.Manager.Replies

namespace CrashCatcher.Manager
open Lib Model

inductive CrashTab where
  | all
  | java
  | anr
  | native
deriving DecidableEq

def CrashTab.kind : CrashTab → Option CrashKind
  | .all => none
  | .java => some .javaException
  | .anr => some .anr
  | .native => some .nativeCrash

/-- What Kotlin takes for whitespace. -/
def isWhitespace (c : Char) : Bool :=
  (9 ≤ c.toNat && c.toNat ≤ 13) || (0x1C ≤ c.toNat && c.toNat ≤ 0x20) || c.toNat == 0xA0 ||
    c.toNat == 0x1680 || (0x2000 ≤ c.toNat && c.toNat ≤ 0x200A) || c.toNat == 0x2028 ||
    c.toNat == 0x2029 || c.toNat == 0x202F || c.toNat == 0x205F || c.toNat == 0x3000

def isNotBlank (text : Str) : Bool := text.any fun c => !isWhitespace c

structure CrashesUiState where
  groups : List GroupSummary := []
  tab : CrashTab := .all
  query : Str := []
  searchExpanded : Bool := false
  includeSystemApps : Bool := false
  includeSystemProcesses : Bool := false
  onlySelfHandled : Bool := false
  isLoading : Bool := true
  isRefreshing : Bool := false
  hasMore : Bool := false
  isAppending : Bool := false
  error : Option DomainError := none

def CrashesUiState.filter (self : CrashesUiState) : CrashFilter where
  kinds := self.tab.kind.toList
  includeSystemApps := self.includeSystemApps
  includeSystemProcesses := self.includeSystemProcesses
  onlySelfHandled := self.onlySelfHandled
  query := if isNotBlank self.query then some self.query else none

structure Exchange where
  request : PageRequest
  page : Page GroupSummary

inductive Afterwards where
  | stopRefreshing
  | joinFloor
  | nothing

/-- Where a load waits; `supplier` is the exchange that the list's cursor came from when it began. -/
structure Listing where
  request : PageRequest
  append : Bool
  afterwards : Afterwards
  supplier : Option Exchange

/-- The view model and its jobs in the order in which they asked the daemon. `answered`, newest first, and
`searched`, the query of the last load from the top, are kept for the record only. -/
structure CrashesViewModel where
  state : CrashesUiState := {}
  nextCursor : Option Cursor := none
  inFlight : Option Nat := none
  waiting : List (Suspended Listing) := []
  elapsed : List Nat := []
  joining : List Nat := []
  launched : Nat := 0
  answered : List Exchange := []
  searched : Option Str := none

def pageSize : Int := 40

namespace CrashesViewModel

def update (self : CrashesViewModel) (f : CrashesUiState → CrashesUiState) : CrashesViewModel :=
  { self with state := f self.state }

def cancelInFlight (self : CrashesViewModel) : CrashesViewModel :=
  { self with
    waiting := cancelJob self.inFlight self.waiting
    joining := self.joining.filter fun job => some job != self.inFlight }

def launch (append : Bool) (afterwards : Afterwards) (self : CrashesViewModel) : CrashesViewModel :=
  let request := {
    filter := self.state.filter
    sort := .lastSeenDesc
    cursor := if append then self.nextCursor else none
    limit := pageSize }
  { self with
    waiting := self.waiting ++ [{
      job := self.launched
      point := { request, append, afterwards, supplier := self.answered.head? } }]
    inFlight := some self.launched
    launched := self.launched + 1
    searched := if append then self.searched else self.state.filter.query }

def refresh (showSpinner : Bool) (self : CrashesViewModel) : CrashesViewModel :=
  let self := { self.cancelInFlight with nextCursor := none }
  let self := self.update fun state => { state with
    isLoading := showSpinner && state.groups.isEmpty
    isRefreshing := showSpinner && !state.groups.isEmpty
    error := none }
  self.launch false .stopRefreshing

def onPullToRefresh (self : CrashesViewModel) : CrashesViewModel :=
  let self := { self.cancelInFlight with nextCursor := none }
  let self := self.update fun state => { state with isRefreshing := true, error := none }
  self.launch false .joinFloor

def canLoadMore (self : CrashesViewModel) : Bool :=
  self.state.hasMore && !self.state.isAppending && self.nextCursor.isSome

def loadMore (self : CrashesViewModel) : CrashesViewModel :=
  if self.canLoadMore then (self.update fun state => { state with isAppending := true }).launch true .nothing
  else self

def loaded (listing : Listing) (self : CrashesViewModel) :
    Except DomainError (Page GroupSummary) → CrashesViewModel
  | .ok page =>
      let self := { self with
        nextCursor := page.nextCursor
        answered := { request := listing.request, page } :: self.answered }
      self.update fun state => { state with
        groups := if listing.append then state.groups ++ page.items else page.items
        isLoading := false
        isAppending := false
        hasMore := page.nextCursor.isSome
        error := none }
  | .error error =>
      if error.code = some .cursorInvalidated ∧ listing.append then
        let self := { self with nextCursor := none }
        (self.update fun state => { state with isAppending := false }).refresh false
      else
        self.update fun state => { state with isLoading := false, isAppending := false, error := some error }

/-- The rest of a job once its load has returned; a cancelled one does not get past its floor. -/
def returned (suspended : Suspended Listing) (self : CrashesViewModel) : CrashesViewModel :=
  match suspended.point.afterwards with
  | .nothing => self
  | .stopRefreshing => self.update fun state => { state with isRefreshing := false }
  | .joinFloor =>
      if suspended.cancelled then self
      else if self.elapsed.contains suspended.job then
        self.update fun state => { state with isRefreshing := false }
      else { self with joining := suspended.job :: self.joining }

def resume (suspended : Suspended Listing) (result : Except Failure (Page GroupSummary))
    (self : CrashesViewModel) : CrashesViewModel :=
  (self.loaded suspended.point (ask result)).returned suspended

def answer (result : Except Failure (Page GroupSummary)) (self : CrashesViewModel) : CrashesViewModel :=
  match self.waiting with
  | [] => self
  | first :: waiting => if first.cancelled then self else { self with waiting }.resume first result

def throwCancelled (place : Nat) (failure : Failure) (self : CrashesViewModel) : CrashesViewModel :=
  match self.waiting[place]? with
  | none => self
  | some suspended =>
      if suspended.cancelled then
        { self with waiting := self.waiting.eraseIdx place }.resume suspended (.error failure)
      else self

def floorElapsed (job : Nat) (self : CrashesViewModel) : CrashesViewModel :=
  if self.joining.contains job then
    { self with joining := self.joining.filter (· != job) }.update fun state =>
      { state with isRefreshing := false }
  else { self with elapsed := job :: self.elapsed }

end CrashesViewModel

/-- What happens to the list: the user acts, the module signals, the daemon answers the first job that waits,
a cancelled job goes on, or a delay is over. -/
inductive CrashesAction where
  | onTabSelected (tab : CrashTab)
  | onQueryChange (query : Str)
  | onSearchExpandedChange (expanded : Bool)
  | onSearchSubmit
  | onIncludeSystemAppsChange (included : Bool)
  | onIncludeSystemProcessesChange (included : Bool)
  | onOnlySelfHandledChange (only : Bool)
  | onPullToRefresh
  | refresh (showSpinner : Bool)
  | loadMore
  | crashRecorded
  | dataChanged
  | answer (result : Except Failure (Page GroupSummary))
  | cancelled (place : Nat) (failure : Failure)
  | floorElapsed (job : Nat)

namespace CrashesViewModel

def step (self : CrashesViewModel) : CrashesAction → CrashesViewModel
  | .onTabSelected tab =>
      if tab = self.state.tab then self
      else (self.update fun state => { state with tab }).refresh true
  | .onQueryChange query => self.update fun state => { state with query }
  | .onSearchExpandedChange expanded => self.update fun state => { state with searchExpanded := expanded }
  | .onSearchSubmit => self.refresh true
  | .onIncludeSystemAppsChange included =>
      (self.update fun state => { state with includeSystemApps := included }).refresh true
  | .onIncludeSystemProcessesChange included =>
      (self.update fun state => { state with includeSystemProcesses := included }).refresh true
  | .onOnlySelfHandledChange only =>
      (self.update fun state => { state with onlySelfHandled := only }).refresh true
  | .onPullToRefresh => self.onPullToRefresh
  | .refresh showSpinner => self.refresh showSpinner
  | .loadMore => self.loadMore
  | .crashRecorded | .dataChanged => self.refresh false
  | .answer result => self.answer result
  | .cancelled place failure => self.throwCancelled place failure
  | .floorElapsed job => self.floorElapsed job

def opened : CrashesViewModel := ({} : CrashesViewModel).refresh true

end CrashesViewModel

/-- The groups shown are the pages of one filter, one after the other, by the newest of the exchanges. -/
def Consecutive : List Exchange → List GroupSummary → Prop
  | [], groups => groups = []
  | last :: earlier, groups => match last.request.cursor with
      | none => groups = last.page.items
      | some cursor => ∃ previous, earlier.head? = some previous ∧
          previous.page.nextCursor = some cursor ∧ previous.request.filter = last.request.filter ∧
          ∃ before, Consecutive earlier before ∧ groups = before ++ last.page.items

/-- Each request goes on in the result set that its cursor came from, and the groups shown are of one. -/
structure OneResultSet (vm : CrashesViewModel) : Prop where
  requests : ∀ suspended ∈ vm.waiting, ∀ cursor, suspended.point.request.cursor = some cursor →
    ∃ supplier, suspended.point.supplier = some supplier ∧ supplier.page.nextCursor = some cursor ∧
      supplier.request.filter = suspended.point.request.filter
  displayed : Consecutive vm.answered vm.state.groups

/-- Where the next page is asked for, the search field holds what was searched for. -/
def SearchedAsTyped (vm : CrashesViewModel) : CrashesAction → Prop
  | .loadMore => vm.canLoadMore = true → vm.state.filter.query = vm.searched
  | _ => True

namespace CrashesViewModel

def searchedFilter (self : CrashesViewModel) : CrashFilter := { self.state.filter with query := self.searched }

/-- Every job but the last is cancelled and that one is in flight. A list with a cursor waits for no cancelled
job, and for its next page only. -/
structure Tracked (vm : CrashesViewModel) : Prop extends OneResultSet vm where
  inFlight : ∀ suspended ∈ vm.waiting, suspended.cancelled = false → some suspended.job = vm.inFlight
  ordered : vm.waiting.Pairwise fun earlier _ => earlier.cancelled = true
  active : ∀ suspended ∈ vm.waiting, suspended.cancelled = false →
    suspended.point.request.filter = vm.searchedFilter ∧
    suspended.point.request.cursor = vm.nextCursor ∧
    suspended.point.append = vm.nextCursor.isSome ∧
    (vm.nextCursor.isSome = true → vm.state.isAppending = true)
  cursor : ∀ cursor, vm.nextCursor = some cursor →
    (∃ supplier, vm.answered.head? = some supplier ∧ supplier.page.nextCursor = some cursor ∧
      supplier.request.filter = vm.searchedFilter) ∧
    ∀ suspended ∈ vm.waiting, suspended.cancelled = false

variable {vm : CrashesViewModel}

theorem Tracked.update {f : CrashesUiState → CrashesUiState}
    (filter : { (f vm.state).filter with query := vm.searched } = vm.searchedFilter)
    (groups : (f vm.state).groups = vm.state.groups)
    (appending : ∀ suspended ∈ vm.waiting, vm.nextCursor.isSome = true →
      (f vm.state).isAppending = vm.state.isAppending) (tracked : vm.Tracked) :
    (vm.update f).Tracked where
  requests := tracked.requests
  displayed := by
    show Consecutive vm.answered (f vm.state).groups
    rw [groups]
    exact tracked.displayed
  inFlight := tracked.inFlight
  ordered := tracked.ordered
  active suspended waits active := by
    obtain ⟨same, cursor, append, appends⟩ := tracked.active suspended waits active
    exact ⟨same.trans filter.symm, cursor, append,
      fun some => (appending suspended waits some).trans (appends some)⟩
  cursor cursor kept := by
    obtain ⟨⟨supplier, last, supplied, same⟩, none⟩ := tracked.cursor cursor kept
    exact ⟨⟨supplier, last, supplied, same.trans filter.symm⟩, none⟩

theorem launch_tracked (afterwards : Afterwards) (shows : Consecutive vm.answered vm.state.groups)
    (requests : ∀ suspended ∈ vm.waiting, ∀ cursor, suspended.point.request.cursor = some cursor →
      ∃ supplier, suspended.point.supplier = some supplier ∧ supplier.page.nextCursor = some cursor ∧
        supplier.request.filter = suspended.point.request.filter)
    (cancelled : ∀ suspended ∈ vm.waiting, suspended.cancelled = true) (dropped : vm.nextCursor = none) :
    (vm.launch false afterwards).Tracked := by
  have cases_of {suspended : Suspended Listing} (waits : suspended ∈ (vm.launch false afterwards).waiting) :
      suspended ∈ vm.waiting ∨ suspended.job = vm.launched ∧ suspended.point.append = false ∧
        suspended.point.request.cursor = none ∧ suspended.point.request.filter = vm.state.filter := by
    rcases List.mem_append.mp waits with before | new
    · exact .inl before
    · obtain rfl := List.mem_singleton.mp new
      exact .inr ⟨rfl, rfl, rfl, rfl⟩
  refine ⟨⟨?_, shows⟩, ?_, ?_, ?_, ?_⟩
  · intro suspended waits cursor carries
    rcases cases_of waits with before | ⟨-, -, none, -⟩
    · exact requests suspended before cursor carries
    · cases none.symm.trans carries
  · intro suspended waits active
    rcases cases_of waits with before | ⟨job, -⟩
    · cases (cancelled suspended before).symm.trans active
    · exact congrArg some job
  · refine List.pairwise_append.mpr ⟨?_, List.pairwise_singleton _ _, fun suspended before _ _ =>
      cancelled suspended before⟩
    exact List.pairwise_of_forall_mem_list fun suspended before _ _ => cancelled suspended before
  · intro suspended waits active
    rcases cases_of waits with before | ⟨-, append, none, filter⟩
    · cases (cancelled suspended before).symm.trans active
    · have dropped : (vm.launch false afterwards).nextCursor = .none := dropped
      rw [dropped]
      exact ⟨filter, none, append, fun some => by cases some⟩
  · intro cursor kept
    cases dropped.symm.trans kept

theorem restart_tracked (f : CrashesUiState → CrashesUiState) (afterwards : Afterwards)
    (groups : (f vm.state).groups = vm.state.groups) (good : OneResultSet vm)
    (inFlight : ∀ suspended ∈ vm.waiting, suspended.cancelled = false → some suspended.job = vm.inFlight) :
    ((({ vm.cancelInFlight with nextCursor := none } : CrashesViewModel).update f).launch false
      afterwards).Tracked := by
  refine launch_tracked afterwards ?_ ?_ (cancelled_of_cancelJob inFlight) rfl
  · show Consecutive vm.answered (f vm.state).groups
    rw [groups]
    exact good.displayed
  · intro suspended waits cursor carries
    obtain ⟨before, waited, -, point, -⟩ := mem_cancelJob waits
    rw [← point] at carries ⊢
    exact good.requests before waited cursor carries

theorem refresh_tracked (showSpinner : Bool) (good : OneResultSet vm)
    (inFlight : ∀ suspended ∈ vm.waiting, suspended.cancelled = false → some suspended.job = vm.inFlight) :
    (vm.refresh showSpinner).Tracked :=
  restart_tracked _ .stopRefreshing rfl good inFlight

theorem Tracked.refresh (tracked : vm.Tracked) (f : CrashesUiState → CrashesUiState)
    (groups : (f vm.state).groups = vm.state.groups) (showSpinner : Bool) :
    ((vm.update f).refresh showSpinner).Tracked := by
  refine refresh_tracked showSpinner ⟨tracked.requests, ?_⟩ tracked.inFlight
  show Consecutive vm.answered (f vm.state).groups
  rw [groups]
  exact tracked.displayed

theorem Tracked.returned (tracked : vm.Tracked) (suspended : Suspended Listing) :
    (vm.returned suspended).Tracked := by
  have settled : (vm.update fun state => { state with isRefreshing := false }).Tracked :=
    tracked.update rfl rfl fun _ _ _ => rfl
  unfold CrashesViewModel.returned
  cases suspended.point.afterwards with
  | nothing => exact tracked
  | stopRefreshing => exact settled
  | joinFloor =>
      show (if _ then _ else if _ then _ else _ : CrashesViewModel).Tracked
      split
      · exact tracked
      · split
        · exact settled
        · exact ⟨⟨tracked.requests, tracked.displayed⟩, tracked.inFlight, tracked.ordered, tracked.active,
            tracked.cursor⟩

theorem Tracked.failed (tracked : vm.Tracked) (listing : Listing) (error : DomainError)
    (quiet : vm.waiting = [] ∨ vm.nextCursor = none) : (vm.loaded listing (.error error)).Tracked := by
  unfold loaded
  show (if _ then _ else _ : CrashesViewModel).Tracked
  split
  · exact refresh_tracked false ⟨tracked.requests, tracked.displayed⟩ tracked.inFlight
  · refine tracked.update rfl rfl fun suspended waits some => ?_
    rcases quiet with empty | none
    · rw [empty] at waits
      cases waits
    · rw [none] at some
      cases some

theorem Tracked.loaded (tracked : vm.Tracked) {first : Suspended Listing} (waits : vm.waiting = [first])
    (active : first.cancelled = false) (page : Page GroupSummary) :
    (({ vm with waiting := [] } : CrashesViewModel).loaded first.point (.ok page)).Tracked := by
  have member : first ∈ vm.waiting := by
    rw [waits]
    exact List.mem_singleton_self first
  obtain ⟨filter, cursor, append, -⟩ := tracked.active first member active
  refine ⟨⟨fun _ none => (by cases none), ?_⟩, fun _ none => (by cases none), List.Pairwise.nil,
    fun _ none => (by cases none), fun next kept => ⟨⟨_, rfl, kept, filter⟩, fun _ none => (by cases none)⟩⟩
  show Consecutive ({ request := first.point.request, page } :: vm.answered)
    (if first.point.append then vm.state.groups ++ page.items else page.items)
  unfold Consecutive
  cases here : vm.nextCursor with
  | none =>
      rw [here] at cursor append
      rw [cursor, append]
      rfl
  | some next =>
      obtain ⟨⟨supplier, last, supplied, same⟩, -⟩ := tracked.cursor next here
      rw [here] at cursor append
      rw [cursor, append]
      exact ⟨supplier, last, supplied, same.trans filter.symm, vm.state.groups, tracked.displayed, rfl⟩

theorem Tracked.nothing_waits (tracked : vm.Tracked) (can : vm.canLoadMore = true) : vm.waiting = [] := by
  unfold canLoadMore at can
  rw [Bool.and_eq_true, Bool.and_eq_true, Bool.not_eq_true'] at can
  obtain ⟨⟨-, idle⟩, held⟩ := can
  obtain ⟨cursor, kept⟩ := Option.isSome_iff_exists.mp held
  refine List.eq_nil_iff_forall_not_mem.mpr fun suspended waits => ?_
  have active := (tracked.cursor cursor kept).2 suspended waits
  obtain ⟨-, -, -, appends⟩ := tracked.active suspended waits active
  cases idle.symm.trans (appends held)

def appending (self : CrashesViewModel) : Suspended Listing where
  job := self.launched
  point := {
    request := { filter := self.state.filter, cursor := self.nextCursor, limit := pageSize }
    append := true
    afterwards := .nothing
    supplier := self.answered.head? }

theorem loadMore_of_can (can : vm.canLoadMore = true) :
    vm.loadMore = (vm.update fun state => { state with isAppending := true }).launch true .nothing := by
  unfold CrashesViewModel.loadMore
  rw [if_pos can]

theorem Tracked.loadMore_waiting (tracked : vm.Tracked) (can : vm.canLoadMore = true) :
    vm.loadMore.waiting = [vm.appending] := by
  rw [loadMore_of_can can]
  show vm.waiting ++ [vm.appending] = [vm.appending]
  rw [tracked.nothing_waits can, List.nil_append]

theorem Tracked.supplier (tracked : vm.Tracked) (can : vm.canLoadMore = true) :
    ∃ cursor supplier, vm.nextCursor = some cursor ∧ vm.answered.head? = some supplier ∧
      supplier.page.nextCursor = some cursor ∧ supplier.request.filter = vm.searchedFilter := by
  unfold canLoadMore at can
  rw [Bool.and_eq_true] at can
  obtain ⟨cursor, kept⟩ := Option.isSome_iff_exists.mp can.2
  obtain ⟨⟨supplier, last, supplied, same⟩, -⟩ := tracked.cursor cursor kept
  exact ⟨cursor, supplier, kept, last, supplied, same⟩

theorem Tracked.loadMore_iff (tracked : vm.Tracked) (can : vm.canLoadMore = true) :
    OneResultSet vm.loadMore ↔ vm.state.filter.query = vm.searched := by
  obtain ⟨cursor, supplier, kept, last, supplied, same⟩ := tracked.supplier can
  have waits := tracked.loadMore_waiting can
  constructor
  · intro good
    have waiting : vm.appending ∈ vm.loadMore.waiting := by
      rw [waits]
      exact List.mem_singleton_self _
    obtain ⟨other, first, -, filter⟩ := good.requests vm.appending waiting cursor kept
    obtain rfl := Option.some.inj (last.symm.trans first)
    exact (congrArg CrashFilter.query (same.symm.trans filter)).symm
  · intro searched
    have unchanged : vm.state.filter = vm.searchedFilter := by
      unfold searchedFilter
      rw [← searched]
    refine ⟨fun suspended member next carries => ?_, ?_⟩
    · rw [waits] at member
      obtain rfl := List.mem_singleton.mp member
      obtain rfl := Option.some.inj (kept.symm.trans carries)
      exact ⟨supplier, last, supplied, same.trans unchanged.symm⟩
    · rw [loadMore_of_can can]
      exact tracked.displayed

theorem Tracked.loadMore (tracked : vm.Tracked) (can : vm.canLoadMore = true)
    (searched : vm.state.filter.query = vm.searched) : vm.loadMore.Tracked := by
  obtain ⟨cursor, supplier, kept, last, supplied, same⟩ := tracked.supplier can
  have waits := tracked.loadMore_waiting can
  have only {suspended : Suspended Listing} (member : suspended ∈ vm.loadMore.waiting) :
      suspended = vm.appending := by
    rw [waits] at member
    exact List.mem_singleton.mp member
  have fields : vm.loadMore.inFlight = some vm.launched ∧ vm.loadMore.nextCursor = some cursor ∧
      vm.loadMore.answered = vm.answered ∧ vm.loadMore.state.isAppending = true ∧
      vm.loadMore.searchedFilter = vm.searchedFilter := by
    rw [loadMore_of_can can]
    exact ⟨rfl, kept, rfl, rfl, rfl⟩
  obtain ⟨inFlight, nextCursor, answered, appends, filter⟩ := fields
  have unchanged : vm.state.filter = vm.searchedFilter := by
    unfold searchedFilter
    rw [← searched]
  refine ⟨(tracked.loadMore_iff can).mpr searched, fun suspended member _ => ?_, ?_,
    fun suspended member _ => ?_, fun next held => ?_⟩
  · rw [only member, inFlight]
    rfl
  · rw [waits]
    exact List.pairwise_singleton _ _
  · rw [only member, nextCursor, filter]
    exact ⟨unchanged, kept, rfl, fun _ => appends⟩
  · obtain rfl := Option.some.inj (nextCursor.symm.trans held)
    rw [answered, filter]
    refine ⟨⟨supplier, last, supplied, same⟩, fun suspended member => ?_⟩
    rw [only member]
    rfl

theorem Tracked.no_cursor (tracked : vm.Tracked) {suspended : Suspended Listing}
    (waits : suspended ∈ vm.waiting) (cancelled : suspended.cancelled = true) : vm.nextCursor = none := by
  cases kept : vm.nextCursor with
  | none => rfl
  | some cursor => cases cancelled.symm.trans ((tracked.cursor cursor kept).2 suspended waits)

theorem Tracked.erase (tracked : vm.Tracked) (place : Nat) :
    ({ vm with waiting := vm.waiting.eraseIdx place } : CrashesViewModel).Tracked :=
  ⟨⟨fun suspended waits => tracked.requests suspended (List.mem_of_mem_eraseIdx waits), tracked.displayed⟩,
    fun suspended waits => tracked.inFlight suspended (List.mem_of_mem_eraseIdx waits),
    tracked.ordered.sublist (List.eraseIdx_sublist _ _),
    fun suspended waits => tracked.active suspended (List.mem_of_mem_eraseIdx waits),
    fun cursor kept => ⟨(tracked.cursor cursor kept).1, fun suspended waits =>
      (tracked.cursor cursor kept).2 suspended (List.mem_of_mem_eraseIdx waits)⟩⟩

theorem Tracked.answer (tracked : vm.Tracked) (result : Except Failure (Page GroupSummary)) :
    (vm.answer result).Tracked := by
  unfold CrashesViewModel.answer
  cases waits : vm.waiting with
  | nil => exact tracked
  | cons first rest =>
      show (if first.cancelled then vm else _).Tracked
      cases active : first.cancelled with
      | true => exact tracked
      | false =>
          have last : rest = [] := by
            have ordered := tracked.ordered
            rw [waits] at ordered
            refine List.eq_nil_iff_forall_not_mem.mpr fun later member => ?_
            cases active.symm.trans ((List.pairwise_cons.mp ordered).1 later member)
          obtain rfl := last
          refine Tracked.returned ?_ first
          cases result with
          | ok page => exact tracked.loaded waits active page
          | error failure =>
              have left : ({ vm with waiting := [] } : CrashesViewModel).Tracked := by
                have erased := tracked.erase 0
                rwa [waits] at erased
              exact left.failed first.point failure.toDomainError (.inl rfl)

theorem Tracked.throwCancelled (tracked : vm.Tracked) (place : Nat) (failure : Failure) :
    (vm.throwCancelled place failure).Tracked := by
  unfold CrashesViewModel.throwCancelled
  cases found : vm.waiting[place]? with
  | none => exact tracked
  | some suspended =>
      show (if suspended.cancelled then _ else vm).Tracked
      cases cancelled : suspended.cancelled with
      | false => exact tracked
      | true =>
          have dropped := tracked.no_cursor (List.mem_of_getElem? found) cancelled
          exact Tracked.returned ((tracked.erase place).failed suspended.point failure.toDomainError
            (.inr dropped)) suspended

theorem Tracked.step (tracked : vm.Tracked) {action : CrashesAction} (searched : SearchedAsTyped vm action) :
    (vm.step action).Tracked := by
  cases action with
  | onTabSelected tab =>
      show (if _ then _ else _ : CrashesViewModel).Tracked
      split
      · exact tracked
      · exact tracked.refresh _ rfl true
  | onQueryChange query =>
      have typed : (vm.update fun state => { state with query }).Tracked :=
        tracked.update rfl rfl fun _ _ _ => rfl
      exact typed
  | onSearchExpandedChange expanded =>
      have shown : (vm.update fun state => { state with searchExpanded := expanded }).Tracked :=
        tracked.update rfl rfl fun _ _ _ => rfl
      exact shown
  | onSearchSubmit => exact tracked.refresh id rfl true
  | onIncludeSystemAppsChange included => exact tracked.refresh _ rfl true
  | onIncludeSystemProcessesChange included => exact tracked.refresh _ rfl true
  | onOnlySelfHandledChange only => exact tracked.refresh _ rfl true
  | onPullToRefresh => exact restart_tracked _ .joinFloor rfl tracked.toOneResultSet tracked.inFlight
  | refresh showSpinner => exact tracked.refresh id rfl showSpinner
  | loadMore =>
      cases can : vm.canLoadMore with
      | true => exact tracked.loadMore can (searched can)
      | false =>
          show (CrashesViewModel.loadMore vm).Tracked
          unfold CrashesViewModel.loadMore
          rw [can]
          exact tracked
  | crashRecorded => exact tracked.refresh id rfl false
  | dataChanged => exact tracked.refresh id rfl false
  | answer result => exact tracked.answer result
  | cancelled place failure => exact tracked.throwCancelled place failure
  | floorElapsed job =>
      show (if _ then _ else _ : CrashesViewModel).Tracked
      split
      · refine Tracked.update rfl rfl (fun _ _ _ => rfl) ?_
        exact ⟨⟨tracked.requests, tracked.displayed⟩, tracked.inFlight, tracked.ordered, tracked.active,
            tracked.cursor⟩
      · exact ⟨⟨tracked.requests, tracked.displayed⟩, tracked.inFlight, tracked.ordered, tracked.active,
            tracked.cursor⟩

theorem opened_tracked : opened.Tracked :=
  refresh_tracked true ⟨fun _ none => (by cases none), rfl⟩ fun _ none => (by cases none)

end CrashesViewModel

open CrashesViewModel

/-- A run of the list shows one result set at a time exactly when the next page is asked for only while the
search field holds what was searched for. -/
theorem one_result_set_iff (actions : List CrashesAction) :
    Run.Throughout step (fun vm action => OneResultSet (vm.step action)) opened actions ↔
      Run.Throughout step SearchedAsTyped opened actions := by
  refine Run.throughout_iff Tracked ?_ ?_ opened_tracked
  · intro vm action tracked
    refine ⟨fun good => ?_, fun searched => (tracked.step searched).toOneResultSet⟩
    cases action with
    | loadMore => exact fun can => (tracked.loadMore_iff can).mp good
    | _ => trivial
  · intro vm action tracked good
    refine tracked.step ?_
    cases action with
    | loadMore => exact fun can => (tracked.loadMore_iff can).mp good
    | _ => trivial

def typing : List CrashesAction :=
  [.answer (.ok { items := [], nextCursor := some { value := "next".toList } }), .onQueryChange "x".toList,
    .loadMore]

/-- The cursor of the whole list is sent with the filter of the letter. -/
theorem typed_query_takes_the_cursor :
    (∃ suspended ∈ (typing.foldl step opened).waiting, ∃ supplier,
      suspended.point.supplier = some supplier ∧
      supplier.page.nextCursor = some { value := "next".toList } ∧
      suspended.point.request.cursor = some { value := "next".toList } ∧
      supplier.request.filter.query = none ∧ suspended.point.request.filter.query = some "x".toList) ∧
    ¬ Run.Throughout step (fun vm action => OneResultSet (vm.step action)) opened typing := by
  refine ⟨⟨_, List.mem_singleton_self _, _, rfl, rfl, rfl, rfl, rfl⟩, ?_⟩
  rintro ⟨-, -, mixed, -⟩
  obtain ⟨supplier, first, -, same⟩ := mixed.requests _ (List.mem_singleton_self _) _ rfl
  cases first
  have query := congrArg CrashFilter.query same
  cases query

end CrashCatcher.Manager
