import CrashCatcher.Manager.RecordPage

namespace CrashCatcher.Manager
open Lib Model

structure GroupDetailUiState where
  group : Option GroupSummary := none
  records : List RecordSummary := []
  isLoading : Bool := true
  isAppending : Bool := false
  hasMore : Bool := false
  error : Option DomainError := none

inductive GroupCall where
  | getGroup (id : Str)
  | listRecords (id : Str) (cursor : Option Cursor) (append : Bool)

/-- The group page, its jobs, and the signals that its collector has yet to see; `checking` is the group that
the collector looks for. -/
structure GroupDetailViewModel where
  state : GroupDetailUiState := {}
  groupId : Option Str := none
  nextCursor : Option Cursor := none
  inFlight : Option Nat := none
  closed : Bool := false
  waiting : List (Suspended (OfLoad GroupCall)) := []
  launched : Nat := 0
  loads : Nat := 0
  checking : Option Str := none
  signals : Nat := 0
  deletedEvents : Nat := 0

/-- What happens to a group page; an answer is for the job at its place, and a cancelled one throws. -/
inductive GroupAction where
  | load (id : Str) (force : Bool)
  | loadMore
  | answer (place : Nat) (result : Except Failure WireResponse)
  | cancelled (place : Nat)
  | dataChanged
  | checked (result : Except Failure WireResponse)

namespace GroupDetailViewModel

def loadsAnew (self : GroupDetailViewModel) (id : Str) (force : Bool) : Bool :=
  force || !(self.groupId == some id && self.state.group.isSome)

def load (id : Str) (force : Bool) (self : GroupDetailViewModel) : GroupDetailViewModel :=
  if self.loadsAnew id force then
    { self with
      groupId := some id
      closed := false
      nextCursor := none
      waiting := cancelJob self.inFlight self.waiting ++
        [{ job := self.launched, point := { load := self.loads + 1, call := .getGroup id } }]
      state := {}
      inFlight := some self.launched
      launched := self.launched + 1
      loads := self.loads + 1 }
  else self

def loadRecords (append : Bool) (self : GroupDetailViewModel) : Option GroupCall :=
  self.groupId.map fun id => .listRecords id (if append then self.nextCursor else none) append

def loadMore (self : GroupDetailViewModel) : GroupDetailViewModel :=
  if !self.state.hasMore || self.state.isAppending || self.nextCursor.isNone then self
  else { self with
    state := { self.state with isAppending := true }
    waiting := self.waiting ++ ((self.loadRecords true).map fun call =>
      { job := self.launched, point := { load := self.loads, call } }).toList
    inFlight := some self.launched
    launched := self.launched + 1 }

def returned (result : Except Failure WireResponse) (self : GroupDetailViewModel) :
    GroupCall → GroupDetailViewModel × Option GroupCall
  | .getGroup _ =>
      let group := ask (do
        match ← result with
        | .group group => .ok group
        | _ => .error unexpected)
      match group with
      | .error error =>
          ({ self with state := { self.state with isLoading := false, error := some error } }, none)
      | .ok group =>
          let self := { self with state := { self.state with group := some group } }
          (self, self.loadRecords false)
  | .listRecords _ _ append =>
      let page := ask (do
        match ← result with
        | .records page => .ok page
        | _ => .error unexpected)
      match page with
      | .error error =>
          ({ self with state := { self.state with isLoading := false, isAppending := false, error := some error } },
            none)
      | .ok page =>
          ({ self with
            nextCursor := page.nextCursor
            state := { self.state with
              records := if append then self.state.records ++ page.items else page.items
              isLoading := false
              isAppending := false
              hasMore := page.nextCursor.isSome
              error := none } }, none)

def resume (place : Nat) (suspended : Suspended (OfLoad GroupCall)) (result : Except Failure WireResponse)
    (self : GroupDetailViewModel) : GroupDetailViewModel :=
  let (after, next) := { self with waiting := self.waiting.eraseIdx place }.returned result suspended.point.call
  { after with waiting := after.waiting ++ (next.map fun call =>
    { suspended with point := { suspended.point with call } }).toList }

def close (self : GroupDetailViewModel) : GroupDetailViewModel :=
  if self.closed then self else { self with closed := true, deletedEvents := self.deletedEvents + 1 }

def collectSignal (self : GroupDetailViewModel) : GroupDetailViewModel :=
  match self.signals with
  | 0 => self
  | signals + 1 => { self with signals, checking := self.groupId }

def checked (id : Str) (result : Except Failure WireResponse) (self : GroupDetailViewModel) :
    GroupDetailViewModel :=
  match result with
  | .ok (.group _) => self.load id true
  | _ => self.close

def resumed (self : GroupDetailViewModel) : GroupAction → Option (Suspended (OfLoad GroupCall))
  | .answer place _ => (self.waiting[place]?).filter fun suspended => !suspended.cancelled
  | .cancelled place => (self.waiting[place]?).filter fun suspended => suspended.cancelled
  | _ => none

def step (self : GroupDetailViewModel) (action : GroupAction) : GroupDetailViewModel :=
  match action with
  | .load id force => self.load id force
  | .loadMore => self.loadMore
  | .answer place result => match self.resumed action with
      | none => self
      | some suspended => self.resume place suspended result
  | .cancelled place => match self.resumed action with
      | none => self
      | some suspended => self.resume place suspended (.error .cancellation)
  | .dataChanged =>
      let self := { self with signals := self.signals + 1 }
      if self.checking.isSome then self else self.collectSignal
  | .checked result => match self.checking with
      | none => self
      | some id => ({ self with checking := none }.checked id result).collectSignal

def startsLoad (self : GroupDetailViewModel) : GroupAction → Bool
  | .load id force => self.loadsAnew id force
  | .checked (.ok (.group _)) => self.checking.isSome
  | _ => false

def target (self : GroupDetailViewModel) : Option GroupSummary × List RecordSummary × Option DomainError :=
  (self.state.group, self.state.records, self.state.error)

/-- What is shown changes by a new load or by a job of the last one only. -/
def OwnChange (self : GroupDetailViewModel) (action : GroupAction) : Prop :=
  (self.step action).target = self.target ∨ self.startsLoad action = true ∨
    ∃ suspended, self.resumed action = some suspended ∧ suspended.point.load = self.loads

end GroupDetailViewModel

/-- A new load does not find a job of the last one waiting. -/
def LoadsWhenIdle (vm : GroupDetailViewModel) (action : GroupAction) : Prop :=
  vm.startsLoad action = true → ∀ suspended ∈ vm.waiting, suspended.cancelled = true

namespace GroupDetailViewModel
variable {vm : GroupDetailViewModel}

/-- At most one job waits: the one in flight, at work for the load shown, while no further page can be asked
for. -/
def Settled (vm : GroupDetailViewModel) : Prop :=
  vm.waiting = [] ∨ ∃ suspended, vm.waiting = [suspended] ∧ suspended.cancelled = false ∧
    suspended.point.load = vm.loads ∧ some suspended.job = vm.inFlight ∧
    (vm.state.hasMore = false ∨ vm.state.isAppending = true)

structure Unseen (vm after : GroupDetailViewModel) : Prop where
  state : after.state = vm.state
  waiting : after.waiting = vm.waiting
  loads : after.loads = vm.loads
  inFlight : after.inFlight = vm.inFlight

theorem Unseen.trans {first second third : GroupDetailViewModel} (one : Unseen first second)
    (two : Unseen second third) : Unseen first third :=
  ⟨two.state.trans one.state, two.waiting.trans one.waiting, two.loads.trans one.loads,
    two.inFlight.trans one.inFlight⟩

theorem Unseen.target {after : GroupDetailViewModel} (unseen : Unseen vm after) : after.target = vm.target := by
  unfold GroupDetailViewModel.target
  rw [unseen.state]

theorem Unseen.settled {after : GroupDetailViewModel} (unseen : Unseen vm after) (settled : vm.Settled) :
    after.Settled := by
  unfold Settled
  rw [unseen.state, unseen.waiting, unseen.loads, unseen.inFlight]
  exact settled

theorem unseen_collectSignal (vm : GroupDetailViewModel) : Unseen vm vm.collectSignal := by
  unfold collectSignal
  split <;> exact ⟨rfl, rfl, rfl, rfl⟩

theorem unseen_close (vm : GroupDetailViewModel) : Unseen vm vm.close := by
  unfold close
  split <;> exact ⟨rfl, rfl, rfl, rfl⟩

theorem unseen_dataChanged (vm : GroupDetailViewModel) : Unseen vm (vm.step .dataChanged) := by
  let signalled := { vm with signals := vm.signals + 1 }
  have counted : Unseen vm signalled := ⟨rfl, rfl, rfl, rfl⟩
  show Unseen vm (if vm.checking.isSome then signalled else signalled.collectSignal)
  split
  · exact counted
  · exact counted.trans signalled.unseen_collectSignal

theorem checked_cases (vm : GroupDetailViewModel) (id : Str) (result : Except Failure WireResponse) :
    (∃ group, result = .ok (.group group) ∧ vm.checked id result = vm.load id true) ∨
      vm.checked id result = vm.close := by
  unfold checked
  split
  · exact .inl ⟨_, rfl, rfl⟩
  · exact .inr rfl

theorem resumed_answer {place : Nat} {result : Except Failure WireResponse}
    {suspended : Suspended (OfLoad GroupCall)}
    (resumed : vm.resumed (.answer place result) = some suspended) : vm.waiting[place]? = some suspended :=
  (Option.filter_eq_some_iff.mp resumed).1

theorem Settled.found (settled : vm.Settled) {place : Nat} {suspended : Suspended (OfLoad GroupCall)}
    (found : vm.waiting[place]? = some suspended) :
    place = 0 ∧ vm.waiting = [suspended] ∧ suspended.cancelled = false ∧ suspended.point.load = vm.loads ∧
      some suspended.job = vm.inFlight ∧ (vm.state.hasMore = false ∨ vm.state.isAppending = true) := by
  rcases settled with empty | ⟨only, waits, active⟩
  · rw [empty] at found
    cases found
  · rw [waits] at found
    cases place with
    | zero =>
        cases found
        exact ⟨rfl, waits, active⟩
    | succ place => cases found

theorem Settled.not_cancelled (settled : vm.Settled) (place : Nat) : vm.resumed (.cancelled place) = none := by
  cases resumed : vm.resumed (.cancelled place) with
  | none => rfl
  | some suspended =>
      obtain ⟨found, cancelled⟩ := Option.filter_eq_some_iff.mp resumed
      cases (settled.found found).2.2.1.symm.trans cancelled

theorem load_of_anew {id : Str} {force : Bool} (anew : vm.loadsAnew id force = true) :
    (vm.load id force).waiting = cancelJob vm.inFlight vm.waiting ++
      [{ job := vm.launched, point := { load := vm.loads + 1, call := .getGroup id } }] ∧
    (vm.load id force).loads = vm.loads + 1 ∧ (vm.load id force).inFlight = some vm.launched ∧
    (vm.load id force).state = {} := by
  unfold GroupDetailViewModel.load
  rw [if_pos anew]
  exact ⟨rfl, rfl, rfl, rfl⟩

theorem load_of_not_anew {id : Str} {force : Bool} (same : vm.loadsAnew id force = false) :
    vm.load id force = vm := by
  unfold GroupDetailViewModel.load
  rw [same]
  rfl

theorem Settled.load (settled : vm.Settled) {id : Str} {force : Bool}
    (idle : vm.loadsAnew id force = true → ∀ suspended ∈ vm.waiting, suspended.cancelled = true) :
    (vm.load id force).Settled := by
  cases anew : vm.loadsAnew id force with
  | false => rwa [load_of_not_anew anew]
  | true =>
      obtain ⟨waiting, loads, inFlight, fresh⟩ := load_of_anew anew
      rcases settled with empty | ⟨only, waits, active, -⟩
      · refine .inr ⟨{ job := vm.launched, point := { load := vm.loads + 1, call := .getGroup id } }, ?_, rfl,
          loads.symm, inFlight.symm, .inl ?_⟩
        · rw [waiting, empty]
          rfl
        · rw [fresh]
      · have member : only ∈ vm.waiting := by
          rw [waits]
          exact List.mem_singleton_self only
        cases active.symm.trans (idle anew only member)

theorem returned_cases (vm : GroupDetailViewModel) (result : Except Failure WireResponse) (call : GroupCall) :
    (∃ group next, vm.returned result call = ({ vm with state := { vm.state with group } }, next)) ∨
      (vm.returned result call).2 = none ∧ (vm.returned result call).1.waiting = vm.waiting := by
  unfold returned
  cases call with
  | getGroup id =>
      dsimp only
      split
      · exact .inr ⟨rfl, rfl⟩
      · exact .inl ⟨_, _, rfl⟩
  | listRecords id cursor append =>
      dsimp only
      split <;> exact .inr ⟨rfl, rfl⟩

theorem Settled.resume (settled : vm.Settled) {place : Nat} {suspended : Suspended (OfLoad GroupCall)}
    (found : vm.waiting[place]? = some suspended) (result : Except Failure WireResponse) :
    (vm.resume place suspended result).Settled := by
  obtain ⟨rfl, waits, active, current, inFlight, busy⟩ := settled.found found
  have erased : vm.waiting.eraseIdx 0 = [] := by
    rw [waits]
    rfl
  unfold GroupDetailViewModel.resume
  rw [erased]
  rcases returned_cases { vm with waiting := [] } result suspended.point.call with
    ⟨group, next, same⟩ | ⟨done, kept⟩
  · rw [same]
    cases next with
    | none => exact .inl rfl
    | some call => exact .inr ⟨_, rfl, active, current, inFlight, busy⟩
  · left
    show _ ++ _ = []
    rw [done, kept]
    rfl

theorem Settled.loadMore (settled : vm.Settled) : vm.loadMore.Settled := by
  unfold GroupDetailViewModel.loadMore
  split
  · exact settled
  · next can =>
      rw [Bool.or_eq_true, Bool.or_eq_true, not_or, not_or, Bool.not_eq_true', Bool.not_eq_false] at can
      rcases settled with empty | ⟨only, -, -, -, -, full | appending⟩
      · cases called : vm.loadRecords true with
        | none =>
            left
            show vm.waiting ++ _ = []
            rw [empty]
            rfl
        | some call =>
            refine .inr ⟨{ job := vm.launched, point := { load := vm.loads, call } }, ?_, rfl, rfl,
              rfl, .inr rfl⟩
            show vm.waiting ++ _ = _
            rw [empty]
            rfl
      · cases full.symm.trans can.1.1
      · exact absurd appending can.1.2

theorem Settled.step (settled : vm.Settled) {action : GroupAction} (idle : LoadsWhenIdle vm action) :
    (vm.step action).Settled := by
  cases action with
  | load id force => exact settled.load idle
  | loadMore => exact settled.loadMore
  | answer place result =>
      unfold GroupDetailViewModel.step
      cases resumed : vm.resumed (.answer place result) with
      | none => exact settled
      | some suspended => exact settled.resume (resumed_answer resumed) result
  | cancelled place =>
      unfold GroupDetailViewModel.step
      simp only [settled.not_cancelled place]
      exact settled
  | dataChanged => exact vm.unseen_dataChanged.settled settled
  | checked result =>
      unfold GroupDetailViewModel.step
      cases looked : vm.checking with
      | none => exact settled
      | some id =>
          refine (unseen_collectSignal _).settled ?_
          let idler := { vm with checking := none }
          have before : idler.Settled := settled
          rcases checked_cases idler id result with ⟨group, rfl, same⟩ | same
          · rw [same]
            have starts : vm.startsLoad (.checked (.ok (.group group))) = true := by
              show vm.checking.isSome = true
              rw [looked]
              rfl
            exact before.load fun _ => idle starts
          · rw [same]
            exact idler.unseen_close.settled before

theorem Settled.ownChange (settled : vm.Settled) (action : GroupAction) : vm.OwnChange action := by
  cases action with
  | load id force =>
      cases anew : vm.loadsAnew id force with
      | true => exact .inr (.inl anew)
      | false => exact .inl (congrArg target (load_of_not_anew anew))
  | loadMore =>
      left
      show vm.loadMore.target = vm.target
      unfold GroupDetailViewModel.loadMore
      split <;> rfl
  | answer place result =>
      cases resumed : vm.resumed (.answer place result) with
      | none =>
          left
          unfold GroupDetailViewModel.step
          simp only [resumed]
      | some suspended =>
          have current := (settled.found (resumed_answer resumed)).2.2.2.1
          exact .inr (.inr ⟨suspended, resumed, current⟩)
  | cancelled place =>
      left
      unfold GroupDetailViewModel.step
      simp only [settled.not_cancelled place]
  | dataChanged => exact .inl vm.unseen_dataChanged.target
  | checked result =>
      cases looked : vm.checking with
      | none =>
          left
          unfold GroupDetailViewModel.step
          simp only [looked]
      | some id =>
          let idler := { vm with checking := none }
          rcases checked_cases idler id result with ⟨group, rfl, -⟩ | same
          · right
            left
            show vm.checking.isSome = true
            rw [looked]
            rfl
          · left
            have gone : Unseen idler (idler.checked id result).collectSignal := by
              rw [same]
              exact idler.unseen_close.trans idler.close.unseen_collectSignal
            unfold GroupDetailViewModel.step
            simp only [looked]
            exact gone.target

theorem returned_cancelled (vm : GroupDetailViewModel) (call : GroupCall) :
    ∃ error, (vm.returned (.error .cancellation) call).1.state.error = some error := by
  cases call with
  | getGroup id => exact ⟨_, rfl⟩
  | listRecords id cursor append => exact ⟨_, rfl⟩

theorem starts_load {action : GroupAction} (starts : vm.startsLoad action = true) :
    ∃ before id force, Unseen vm before ∧ before.loadsAnew id force = true ∧
      Unseen (before.load id force) (vm.step action) := by
  cases action with
  | load id force => exact ⟨vm, id, force, ⟨rfl, rfl, rfl, rfl⟩, starts, ⟨rfl, rfl, rfl, rfl⟩⟩
  | checked result =>
      have found : ∃ group, result = .ok (.group group) ∧ vm.checking.isSome = true := by
        cases result with
        | error failure => cases starts
        | ok response => cases response with
            | group group => exact ⟨group, rfl, starts⟩
            | _ => cases starts
      obtain ⟨group, rfl, looking⟩ := found
      obtain ⟨id, looked⟩ := Option.isSome_iff_exists.mp looking
      refine ⟨{ vm with checking := none }, id, true, ⟨rfl, rfl, rfl, rfl⟩, rfl, ?_⟩
      unfold GroupDetailViewModel.step
      simp only [looked]
      exact unseen_collectSignal _
  | _ => cases starts

theorem busy_load_is_seen (settled : vm.Settled) {action : GroupAction} (starts : vm.startsLoad action = true)
    {suspended : Suspended (OfLoad GroupCall)} (waits : suspended ∈ vm.waiting) :
    ¬ (vm.step action).OwnChange (.cancelled 0) := by
  obtain ⟨place, here⟩ := List.mem_iff_getElem?.mp waits
  obtain ⟨-, only, -, current, inFlight, -⟩ := settled.found here
  obtain ⟨before, id, force, unseen, anew, seen⟩ := starts_load starts
  obtain ⟨waiting, loads, -, fresh⟩ := load_of_anew anew
  let after := vm.step action
  have first : after.waiting[0]? = some { suspended with cancelled := true } := by
    rw [seen.waiting, waiting, unseen.waiting, unseen.inFlight, only, ← inFlight]
    simp [cancelJob]
  have resumed : after.resumed (.cancelled 0) = some { suspended with cancelled := true } :=
    Option.filter_eq_some_iff.mpr ⟨first, rfl⟩
  rintro (same | starts | ⟨other, found, own⟩)
  · obtain ⟨error, shown⟩ := returned_cancelled { after with waiting := after.waiting.eraseIdx 0 }
      suspended.point.call
    have thrown : (after.step (.cancelled 0)).target.2.2 = some error := by
      unfold GroupDetailViewModel.step
      simp only [resumed]
      exact shown
    have clean : after.target.2.2 = none := by
      show after.state.error = none
      rw [seen.state, fresh]
    rw [same, clean] at thrown
    cases thrown
  · cases starts
  · obtain rfl := Option.some.inj (resumed.symm.trans found)
    have own : suspended.point.load = after.loads := own
    rw [seen.loads, loads, unseen.loads] at own
    omega

/-- Whatever happens next to the page, what it shows changes by a new load or by a job of the last one. -/
def ShowsOneGroup (vm : GroupDetailViewModel) : Prop := ∀ action, vm.OwnChange action

theorem Settled.shows_iff (settled : vm.Settled) (action : GroupAction) :
    ShowsOneGroup (vm.step action) ↔ LoadsWhenIdle vm action := by
  refine ⟨fun shows starts suspended waits => ?_, fun idle => (settled.step idle).ownChange⟩
  exact absurd (shows _) (busy_load_is_seen settled starts waits)

end GroupDetailViewModel

/-- In a run of either page, whatever happens next, the page shows what its own load brings, exactly when no
load has cancelled a job that shows its cancellation. -/
theorem detail_pages_show_one_target_iff (records : List RecordAction) (groups : List GroupAction) :
    (Run.Throughout RecordDetailViewModel.step (fun vm action => (vm.step action).ShowsOneRecord) {} records ↔
      Run.Throughout RecordDetailViewModel.step LoadsWhenQuiet {} records) ∧
    (Run.Throughout GroupDetailViewModel.step (fun vm action => (vm.step action).ShowsOneGroup) {} groups ↔
      Run.Throughout GroupDetailViewModel.step LoadsWhenIdle {} groups) := by
  constructor
  · refine Run.throughout_iff RecordDetailViewModel.Settled ?_ ?_ fun _ none => by cases none
    · exact fun _ action settled => RecordDetailViewModel.Settled.shows_iff settled action
    · exact fun _ action settled shows =>
        RecordDetailViewModel.Settled.step settled
          ((RecordDetailViewModel.Settled.shows_iff settled action).mp shows)
  · refine Run.throughout_iff GroupDetailViewModel.Settled ?_ ?_ (.inl rfl)
    · exact fun _ action settled => GroupDetailViewModel.Settled.shows_iff settled action
    · exact fun _ action settled shows =>
        GroupDetailViewModel.Settled.step settled
          ((GroupDetailViewModel.Settled.shows_iff settled action).mp shows)

/-- A page is opened and left for another one before its answer has come: its job is cancelled, and what it
throws is the error of the other page. -/
theorem left_page_shows_on_the_next :
    ¬ Run.Throughout RecordDetailViewModel.step RecordDetailViewModel.OwnChange {}
      [.load { text := "first".toList }, .load { text := "second".toList }, .cancelled 0] ∧
    ¬ Run.Throughout GroupDetailViewModel.step GroupDetailViewModel.OwnChange {}
      [.load "first".toList false, .load "second".toList false, .cancelled 0] := by
  constructor
  · rintro ⟨-, -, shown, -⟩
    rcases shown with same | ⟨id, load, -⟩ | ⟨suspended, resumed, own⟩
    · cases congrArg (fun target => target.2.2) same
    · cases load
    · cases resumed
      cases own
  · rintro ⟨-, -, shown, -⟩
    rcases shown with same | starts | ⟨suspended, resumed, own⟩
    · cases congrArg (fun target => target.2.2) same
    · cases starts
    · cases resumed
      cases own

end CrashCatcher.Manager
