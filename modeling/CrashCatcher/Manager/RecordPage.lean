import CrashCatcher.Lib.Run
import CrashCatcher.Manager.Coroutines
import CrashCatcher.Manager.Replies

namespace CrashCatcher.Manager
open Lib Model

structure RecordDetailUiState where
  detail : Option RecordDetail := none
  payload : Str := []
  bytesRead : Int := 0
  totalBytes : Int := 0
  payloadComplete : Bool := false
  foldFrameworkFrames : Bool := true
  wrapLines : Bool := true
  expandedFolds : List Int := []
  isLoading : Bool := true
  error : Option DomainError := none

/-- What comes out of a descriptor: the texts with the bytes read so far, and how the reading ended. -/
structure DescriptorRead where
  texts : List (Str × Int)
  bytesRead : Int
  failure : Option Failure

inductive RecordCall where
  | getRecord (id : RecordId)
  | openPayload (id : RecordId)
  | readPayload (handle offset totalBytes : Int)
  | closePayload (thrown : Option Failure)

def PayloadState.isReadable : PayloadState → Bool
  | .present | .truncated => true
  | _ => false

namespace RecordDetailUiState

def payloadReadable (self : RecordDetailUiState) : Bool :=
  self.detail.any fun detail => PayloadState.isReadable detail.record.payloadState

def collect (text : Str) (bytesRead totalBytes : Int) (eof : Bool) (self : RecordDetailUiState) :
    RecordDetailUiState :=
  { self with payload := self.payload ++ text, bytesRead, totalBytes, payloadComplete := eof }

/-- The operator lets the cancellation of its own job through. -/
def catching (cancelled : Bool) (failure : Failure) (self : RecordDetailUiState) : RecordDetailUiState :=
  if cancelled ∧ failure.thrown = .cancellation then self
  else { self with error := some failure.toDomainError, payloadComplete := true }

def readHandle (cancelled : Bool) (opened : PayloadOpened) (self : RecordDetailUiState) :
    RecordDetailUiState × Option RecordCall :=
  match opened.handle with
  | some handle => (self, some (.readPayload handle 0 opened.totalBytes))
  | none =>
      (self.catching cancelled {
        thrown := .protocolViolation
        message := "protocol violation: payload came with neither a descriptor nor a handle".toList }, none)

/-- Reads the descriptor to its end; one that fails before its first text is left for the handle. -/
def readDescriptor (cancelled : Bool) (opened : PayloadOpened) (read : DescriptorRead)
    (self : RecordDetailUiState) : RecordDetailUiState × Option RecordCall :=
  let emitted := read.texts.foldl (fun state chunk => state.collect chunk.1 chunk.2 opened.totalBytes false)
    self
  match read.failure with
  | none => (emitted.collect [] read.bytesRead opened.totalBytes true, none)
  | some failure =>
      if read.texts.isEmpty then self.readHandle cancelled opened
        else (emitted.catching cancelled failure, none)

def resume (cancelled : Bool) (result : Except Failure (WireResponse × Option DescriptorRead))
    (self : RecordDetailUiState) : RecordCall → RecordDetailUiState × Option RecordCall
  | .getRecord id =>
      let detail := ask (do
        match (← result).1 with
        | .record detail => .ok detail
        | _ => .error unexpected)
      match detail with
      | .error error => ({ self with isLoading := false, error := some error }, none)
      | .ok detail =>
          let self := { self with detail := some detail, isLoading := false }
          if self.payloadReadable then (self, some (.openPayload id))
          else ({ self with payloadComplete := true }, none)
  | .openPayload _ => match result with
      | .error failure => (self.catching cancelled failure, none)
      | .ok (.payloadOpenedResponse opened, some read) => self.readDescriptor cancelled opened read
      | .ok (.payloadOpenedResponse opened, none) => self.readHandle cancelled opened
      | .ok _ => (self.catching cancelled unexpected, none)
  | .readPayload handle offset totalBytes => match result with
      | .error failure =>
          if cancelled then (self.catching cancelled failure, none)
          else (self, some (.closePayload (some failure)))
      | .ok (.payloadChunkResponse chunk, _) =>
          let self := self.collect chunk.text chunk.nextOffset totalBytes chunk.eof
          if chunk.eof then (self, some (.closePayload none))
          else if chunk.nextOffset ≤ offset then
            (self, some (.closePayload (some {
              thrown := .protocolViolation
              message := "protocol violation: payload reader made no progress".toList })))
          else (self, some (.readPayload handle chunk.nextOffset totalBytes))
      | .ok _ => (self, some (.closePayload (some unexpected)))
  | .closePayload thrown => match thrown with
      | none => (self, none)
      | some failure => (self.catching cancelled failure, none)

end RecordDetailUiState

structure RecordDetailViewModel where
  state : RecordDetailUiState := {}
  loadJob : Option Nat := none
  recordId : Option RecordId := none
  closed : Bool := false
  waiting : List (Suspended (OfLoad RecordCall)) := []
  launched : Nat := 0
  loads : Nat := 0
  checking : Bool := false
  signals : Nat := 0
  deletedEvents : Nat := 0

inductive RecordAction where
  | load (id : RecordId)
  | answer (place : Nat) (result : Except Failure (WireResponse × Option DescriptorRead))
  | cancelled (place : Nat)
  | dataChanged
  | checked (result : Except Failure WireResponse)
  | onToggleFolding
  | onToggleWrap
  | onExpandFold (firstIndex : Int)

namespace RecordDetailViewModel

def loadsAnew (self : RecordDetailViewModel) (id : RecordId) : Bool :=
  !(self.recordId == some id && self.state.detail.isSome)

def load (id : RecordId) (self : RecordDetailViewModel) : RecordDetailViewModel :=
  if self.loadsAnew id then
    { self with
      recordId := some id
      closed := false
      waiting := cancelJob self.loadJob self.waiting ++
        [{ job := self.launched, point := { load := self.loads + 1, call := .getRecord id } }]
      state := {}
      loadJob := some self.launched
      launched := self.launched + 1
      loads := self.loads + 1 }
  else self

def resume (place : Nat) (suspended : Suspended (OfLoad RecordCall))
    (result : Except Failure (WireResponse × Option DescriptorRead)) (self : RecordDetailViewModel) :
    RecordDetailViewModel :=
  let (state, next) := self.state.resume suspended.cancelled result suspended.point.call
  { self with
    state
    waiting := self.waiting.eraseIdx place ++ (next.map fun call =>
      { suspended with point := { suspended.point with call } }).toList }

def close (self : RecordDetailViewModel) : RecordDetailViewModel :=
  if self.closed then self else { self with closed := true, deletedEvents := self.deletedEvents + 1 }

def collectSignal (self : RecordDetailViewModel) : RecordDetailViewModel :=
  match self.signals with
  | 0 => self
  | signals + 1 => match self.recordId with
      | none => { self with signals }
      | some _ => { self with signals, checking := true }

def resumed (self : RecordDetailViewModel) : RecordAction → Option (Suspended (OfLoad RecordCall))
  | .answer place _ => (self.waiting[place]?).filter fun suspended => !suspended.cancelled
  | .cancelled place => (self.waiting[place]?).filter fun suspended => suspended.cancelled
  | _ => none

def step (self : RecordDetailViewModel) (action : RecordAction) : RecordDetailViewModel :=
  match action with
  | .load id => self.load id
  | .answer place result => match self.resumed action with
      | none => self
      | some suspended => self.resume place suspended result
  | .cancelled place => match self.resumed action with
      | none => self
      | some suspended => self.resume place suspended (.error .cancellation)
  | .dataChanged =>
      let self := { self with signals := self.signals + 1 }
      if self.checking then self else self.collectSignal
  | .checked result =>
      if self.checking then
        let self := { self with checking := false }
        match result with
        | .ok (.record _) => self.collectSignal
        | _ => self.close.collectSignal
      else self
  | .onToggleFolding => { self with state := { self.state with foldFrameworkFrames := !self.state.foldFrameworkFrames } }
  | .onToggleWrap => { self with state := { self.state with wrapLines := !self.state.wrapLines } }
  | .onExpandFold firstIndex =>
      { self with state := { self.state with expandedFolds := firstIndex :: self.state.expandedFolds } }

def target (self : RecordDetailViewModel) : Option RecordDetail × Str × Option DomainError :=
  (self.state.detail, self.state.payload, self.state.error)

def OwnChange (self : RecordDetailViewModel) (action : RecordAction) : Prop :=
  (self.step action).target = self.target ∨ (∃ id, action = .load id ∧ self.loadsAnew id = true) ∨
    ∃ suspended, self.resumed action = some suspended ∧ suspended.point.load = self.loads

end RecordDetailViewModel

/-- A job that is cancelled here shows nothing any more. -/
def RecordCall.Quiet : RecordCall → Prop
  | .getRecord _ => False
  | .closePayload thrown => ∀ failure ∈ thrown, failure.thrown = .cancellation
  | _ => True

/-- A new load does not find the job of the last one waiting for its record, or closing a payload that it
could not read to the end. -/
def LoadsWhenQuiet (vm : RecordDetailViewModel) : RecordAction → Prop
  | .load id => vm.loadsAnew id = true →
      ∀ suspended ∈ vm.waiting, suspended.cancelled = false → suspended.point.call.Quiet
  | _ => True

theorem RecordDetailUiState.resume_quiet (state : RecordDetailUiState) {call : RecordCall}
    (quiet : call.Quiet) :
    state.resume true (.error .cancellation) call = (state, none) := by
  cases call with
  | getRecord id => cases quiet
  | openPayload id => rfl
  | readPayload handle offset totalBytes => rfl
  | closePayload thrown => cases thrown with
      | none => rfl
      | some failure =>
          show (state.catching true failure, none) = (state, none)
          unfold catching
          rw [if_pos ⟨rfl, quiet failure rfl⟩]

theorem RecordDetailUiState.resume_loud (state : RecordDetailUiState) {call : RecordCall}
    (loud : ¬ call.Quiet) :
    ∃ error, (state.resume true (.error .cancellation) call).1.error = some error := by
  cases call with
  | getRecord id => exact ⟨_, rfl⟩
  | openPayload id => exact absurd trivial loud
  | readPayload handle offset totalBytes => exact absurd trivial loud
  | closePayload thrown => cases thrown with
      | none => exact absurd (fun _ none => by cases none) loud
      | some failure =>
          have other : ¬ failure.thrown = .cancellation := fun same => loud fun _ present => by
            cases present
            exact same
          refine ⟨failure.toDomainError, ?_⟩
          show (state.catching true failure).error = _
          unfold catching
          rw [if_neg fun both => other both.2]

namespace RecordDetailViewModel
variable {vm : RecordDetailViewModel}

/-- Whatever waits is quiet, or is the job in flight at work for the load shown. -/
def Settled (vm : RecordDetailViewModel) : Prop :=
  ∀ suspended ∈ vm.waiting, suspended.cancelled = true ∧ suspended.point.call.Quiet ∨
    suspended.cancelled = false ∧ suspended.point.load = vm.loads ∧ some suspended.job = vm.loadJob

theorem resumed_answer {place : Nat} {result : Except Failure (WireResponse × Option DescriptorRead)}
    {suspended : Suspended (OfLoad RecordCall)} (resumed : vm.resumed (.answer place result) = some suspended) :
    suspended ∈ vm.waiting ∧ suspended.cancelled = false := by
  obtain ⟨found, active⟩ := Option.filter_eq_some_iff.mp resumed
  exact ⟨List.mem_of_getElem? found, by simpa using active⟩

theorem resumed_cancelled {place : Nat} {suspended : Suspended (OfLoad RecordCall)}
    (resumed : vm.resumed (.cancelled place) = some suspended) :
    suspended ∈ vm.waiting ∧ suspended.cancelled = true := by
  obtain ⟨found, cancelled⟩ := Option.filter_eq_some_iff.mp resumed
  exact ⟨List.mem_of_getElem? found, cancelled⟩

theorem Settled.load (settled : vm.Settled) {id : RecordId} (quiet : LoadsWhenQuiet vm (.load id)) :
    (vm.load id).Settled := by
  unfold RecordDetailViewModel.load
  cases anew : vm.loadsAnew id with
  | false => exact settled
  | true =>
      intro suspended waits
      rcases List.mem_append.mp waits with old | new
      · obtain ⟨before, waited, -, point, cancelled⟩ := mem_cancelJob old
        left
        rw [← point]
        rcases settled before waited with ⟨marked, quiet⟩ | ⟨active, -, inFlight⟩
        · rw [cancelled, marked]
          exact ⟨rfl, quiet⟩
        · rw [cancelled, active, inFlight]
          exact ⟨by simp, quiet anew before waited active⟩
      · obtain rfl := List.mem_singleton.mp new
        exact .inr ⟨rfl, rfl, rfl⟩

theorem Settled.resume (settled : vm.Settled) (place : Nat) {suspended : Suspended (OfLoad RecordCall)}
    (waits : suspended ∈ vm.waiting) (active : suspended.cancelled = false)
    (result : Except Failure (WireResponse × Option DescriptorRead)) :
    (vm.resume place suspended result).Settled := by
  intro later member
  rcases List.mem_append.mp member with old | new
  · exact settled later (List.mem_of_mem_eraseIdx old)
  · obtain ⟨call, -, rfl⟩ := Option.map_eq_some_iff.mp (Option.mem_toList.mp new)
    rcases settled suspended waits with ⟨cancelled, -⟩ | current
    · cases active.symm.trans cancelled
    · exact .inr current

theorem resume_cancelled (settled : vm.Settled) (place : Nat) {suspended : Suspended (OfLoad RecordCall)}
    (waits : suspended ∈ vm.waiting) (cancelled : suspended.cancelled = true) :
    vm.resume place suspended (.error .cancellation) = { vm with waiting := vm.waiting.eraseIdx place } := by
  rcases settled suspended waits with ⟨-, quiet⟩ | ⟨active, -⟩
  · unfold RecordDetailViewModel.resume
    rw [cancelled, RecordDetailUiState.resume_quiet vm.state quiet]
    simp
  · cases active.symm.trans cancelled

structure Unseen (vm after : RecordDetailViewModel) : Prop where
  target : after.target = vm.target
  waiting : after.waiting = vm.waiting
  loads : after.loads = vm.loads
  loadJob : after.loadJob = vm.loadJob

theorem unseen_collectSignal (vm : RecordDetailViewModel) : Unseen vm vm.collectSignal := by
  unfold collectSignal
  split
  · exact ⟨rfl, rfl, rfl, rfl⟩
  · split <;> exact ⟨rfl, rfl, rfl, rfl⟩

theorem unseen_close (vm : RecordDetailViewModel) : Unseen vm vm.close := by
  unfold close
  split <;> exact ⟨rfl, rfl, rfl, rfl⟩

theorem Unseen.trans {first second third : RecordDetailViewModel} (one : Unseen first second)
    (two : Unseen second third) : Unseen first third :=
  ⟨two.target.trans one.target, two.waiting.trans one.waiting, two.loads.trans one.loads,
    two.loadJob.trans one.loadJob⟩

theorem Unseen.settled {after : RecordDetailViewModel} (unseen : Unseen vm after) (settled : vm.Settled) :
    after.Settled := by
  unfold Settled
  rw [unseen.waiting, unseen.loads, unseen.loadJob]
  exact settled

theorem unseen_dataChanged (vm : RecordDetailViewModel) : Unseen vm (vm.step .dataChanged) := by
  let signalled := { vm with signals := vm.signals + 1 }
  have counted : Unseen vm signalled := ⟨rfl, rfl, rfl, rfl⟩
  show Unseen vm (if vm.checking then signalled else signalled.collectSignal)
  split
  · exact counted
  · exact counted.trans signalled.unseen_collectSignal

theorem unseen_checked (vm : RecordDetailViewModel) (result : Except Failure WireResponse) :
    Unseen vm (vm.step (.checked result)) := by
  let checked := { vm with checking := false }
  have answered : Unseen vm checked := ⟨rfl, rfl, rfl, rfl⟩
  have gone : Unseen vm checked.close.collectSignal :=
    answered.trans (checked.unseen_close.trans checked.close.unseen_collectSignal)
  show Unseen vm (if vm.checking then (match result with
    | .ok (.record _) => checked.collectSignal
    | _ => checked.close.collectSignal) else vm)
  split
  · split
    · exact answered.trans checked.unseen_collectSignal
    · exact gone
  · exact ⟨rfl, rfl, rfl, rfl⟩

theorem Settled.step (settled : vm.Settled) {action : RecordAction} (quiet : LoadsWhenQuiet vm action) :
    (vm.step action).Settled := by
  cases action with
  | load id => exact settled.load quiet
  | answer place result =>
      show (match vm.resumed (.answer place result) with
        | none => vm
        | some suspended => vm.resume place suspended result : RecordDetailViewModel).Settled
      cases resumed : vm.resumed (.answer place result) with
      | none => exact settled
      | some suspended =>
          obtain ⟨waits, active⟩ := resumed_answer resumed
          exact settled.resume place waits active result
  | cancelled place =>
      show (match vm.resumed (.cancelled place) with
        | none => vm
        | some suspended => vm.resume place suspended (.error .cancellation) : RecordDetailViewModel).Settled
      cases resumed : vm.resumed (.cancelled place) with
      | none => exact settled
      | some suspended =>
          obtain ⟨waits, cancelled⟩ := resumed_cancelled resumed
          show (vm.resume place suspended (.error .cancellation)).Settled
          rw [resume_cancelled settled place waits cancelled]
          exact fun later member => settled later (List.mem_of_mem_eraseIdx member)
  | dataChanged => exact vm.unseen_dataChanged.settled settled
  | checked result => exact (vm.unseen_checked result).settled settled
  | onToggleFolding => exact settled
  | onToggleWrap => exact settled
  | onExpandFold firstIndex => exact settled

theorem Settled.ownChange (settled : vm.Settled) (action : RecordAction) : vm.OwnChange action := by
  cases action with
  | load id =>
      cases anew : vm.loadsAnew id with
      | true => exact .inr (.inl ⟨id, rfl, anew⟩)
      | false =>
          left
          show (vm.load id).target = vm.target
          unfold RecordDetailViewModel.load
          rw [anew]
          rfl
  | answer place result =>
      cases resumed : vm.resumed (.answer place result) with
      | none =>
          left
          unfold RecordDetailViewModel.step
          simp only [resumed]
      | some suspended =>
          obtain ⟨waits, active⟩ := resumed_answer resumed
          rcases settled suspended waits with ⟨cancelled, -⟩ | ⟨-, current, -⟩
          · cases active.symm.trans cancelled
          · exact .inr (.inr ⟨suspended, resumed, current⟩)
  | cancelled place =>
      left
      cases resumed : vm.resumed (.cancelled place) with
      | none =>
          unfold RecordDetailViewModel.step
          simp only [resumed]
      | some suspended =>
          obtain ⟨waits, cancelled⟩ := resumed_cancelled resumed
          unfold RecordDetailViewModel.step
          simp only [resumed]
          rw [resume_cancelled settled place waits cancelled]
          rfl
  | dataChanged => exact .inl vm.unseen_dataChanged.target
  | checked result => exact .inl (vm.unseen_checked result).target
  | onToggleFolding => exact .inl rfl
  | onToggleWrap => exact .inl rfl
  | onExpandFold firstIndex => exact .inl rfl

theorem loud_load_is_seen (settled : vm.Settled) {id : RecordId} (anew : vm.loadsAnew id = true)
    {suspended : Suspended (OfLoad RecordCall)} (waits : suspended ∈ vm.waiting)
    (active : suspended.cancelled = false) (loud : ¬ suspended.point.call.Quiet) :
    ∃ place, ¬ (vm.step (.load id)).OwnChange (.cancelled place) := by
  obtain ⟨place, found⟩ := List.mem_iff_getElem?.mp waits
  rcases settled suspended waits with ⟨cancelled, -⟩ | ⟨-, current, inFlight⟩
  · cases active.symm.trans cancelled
  let after := vm.step (.load id)
  have fields : after.waiting = cancelJob vm.loadJob vm.waiting ++
      [{ job := vm.launched, point := { load := vm.loads + 1, call := .getRecord id } }] ∧
      after.loads = vm.loads + 1 ∧ after.state = {} := by
    show (vm.load id).waiting = _ ∧ (vm.load id).loads = _ ∧ (vm.load id).state = _
    unfold RecordDetailViewModel.load
    rw [if_pos anew]
    exact ⟨rfl, rfl, rfl⟩
  obtain ⟨waiting, loads, fresh⟩ := fields
  have marked : (cancelJob vm.loadJob vm.waiting)[place]? = some { suspended with cancelled := true } := by
    unfold cancelJob
    rw [List.getElem?_map, found, Option.map_some, inFlight, beq_self_eq_true, Bool.or_true]
  have still : after.waiting[place]? = some { suspended with cancelled := true } := by
    rw [waiting]
    exact List.getElem?_append_left (List.getElem?_eq_some_iff.mp marked).1 ▸ marked
  have resumed : after.resumed (.cancelled place) = some { suspended with cancelled := true } :=
    Option.filter_eq_some_iff.mpr ⟨still, rfl⟩
  refine ⟨place, ?_⟩
  rintro (same | ⟨other, load, -⟩ | ⟨other, found', own⟩)
  · obtain ⟨error, shown⟩ := after.state.resume_loud loud
    have seen : (after.step (.cancelled place)).target.2.2 = some error := by
      unfold RecordDetailViewModel.step
      simp only [resumed]
      exact shown
    have clean : after.target.2.2 = none := by
      show after.state.error = none
      rw [fresh]
    rw [same, clean] at seen
    cases seen
  · cases load
  · obtain rfl := Option.some.inj (resumed.symm.trans found')
    have own : suspended.point.load = after.loads := own
    omega

/-- Whatever happens next to the page, what it shows changes by a new load or by a job of the last one. -/
def ShowsOneRecord (vm : RecordDetailViewModel) : Prop := ∀ action, vm.OwnChange action

theorem Settled.shows_iff (settled : vm.Settled) (action : RecordAction) :
    ShowsOneRecord (vm.step action) ↔ LoadsWhenQuiet vm action := by
  refine ⟨fun shows => ?_, fun quiet => (settled.step quiet).ownChange⟩
  cases action with
  | load id =>
      intro anew suspended waits active
      by_contra loud
      obtain ⟨place, seen⟩ := loud_load_is_seen settled anew waits active loud
      exact seen (shows _)
  | _ => trivial

end RecordDetailViewModel

end CrashCatcher.Manager
