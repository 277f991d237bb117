import CrashCatcher.Collect.Fragments
import CrashCatcher.Lib.Kotlinx
import CrashCatcher.Logd.LoggerEntry

/-! What the events buffer says of a crash, on every release that writes it. -/

namespace CrashCatcher.Logd
open Lib Checked LittleEndian ByteCursor Kotlinx Collect

def amAnrTag : Int32 := 30008
def amCrashTag : Int32 := 30039
def amWtfTag : Int32 := 30040
def wmSetKeyguardShownTag : Int32 := 30067
def screenToggledTag : Int32 := 70000
def maxPlausibleUserId : Int := 999

inductive ScreenEvent where
  | unlocked
  | screenOff
deriving DecidableEq

/-- Where a release keeps the field, told from the number of fields. -/
def keyguardShowing : EventValue → Option Bool
  | .list values =>
      let index : Option Nat := if values.length = 3 ∨ values.length = 4 then some 0
        else if values.length = 6 then some 1
        else none
      match index.bind (values[·]?) with
      | some (.int showing) => some (showing != 0)
      | _ => none
  | _ => none

def parseScreenEvent (record : EventRecord) : Option ScreenEvent :=
  if record.tag = screenToggledTag then
    match record.value with
    | .int state => if state = 0 then some .screenOff else none
    | _ => none
  else if record.tag = wmSetKeyguardShownTag then
    (keyguardShowing record.value).bind fun showing => if showing then none else some .unlocked
  else none

section Parse

def intAt (values : List EventValue) (index : Nat) (field : Str) : Except EntryError Int :=
  match values[index]? with
  | some (.int value) => .ok value.toInt
  | some (.long value) =>
      if IsInt value.toInt then .ok value.toInt else .error (.parse (.integerOutOfRange field))
  | _ => .error (.wrongEventType field)

def stringAt (values : List EventValue) (index : Nat) (field : Str) : Except EntryError Str :=
  match values[index]? with
  | some (.string value) => .ok value
  | _ => .error (.wrongEventType field)

/-- Some releases write the process before the user; a small number after a large one is the user. -/
def activityUserAndPid (values : List EventValue) : Except EntryError (Int × Int) := do
  let first ← intAt values 0 "user_or_pid".toList
  let second ← intAt values 1 "pid_or_user".toList
  if first > maxPlausibleUserId ∧ 0 ≤ second ∧ second ≤ maxPlausibleUserId then return (second, first)
  else return (first, second)

/-- Releases before Android 14 write no such field. -/
def recoverableAt (values : List EventValue) : Except EntryError Bool :=
  if values.length = 9 then do return (← intAt values 8 "recoverable".toList) != 0 else .ok false

def parseAmCrash (values : List EventValue) : Except EntryError AmCrashEvent :=
  if ¬(values.length = 8 ∨ values.length = 9) then .error (.wrongValueCount "8 or 9".toList values.length)
  else do
    let (userId, pid) ← activityUserAndPid values
    return {
      userId, pid
      processName := ← stringAt values 2 "process_name".toList
      flags := ← intAt values 3 "flags".toList
      exceptionClass := ← stringAt values 4 "exception_class".toList
      message := ← stringAt values 5 "message".toList
      file := ← stringAt values 6 "file".toList
      line := ← intAt values 7 "line".toList
      recoverable := ← recoverableAt values }

def parseAmAnr (values : List EventValue) : Except EntryError AmAnrEvent :=
  if values.length ≠ 5 then .error (.wrongValueCount "5".toList values.length)
  else do
    let (userId, pid) ← activityUserAndPid values
    return {
      userId, pid
      processName := ← stringAt values 2 "process_name".toList
      flags := ← intAt values 3 "flags".toList
      reason := ← stringAt values 4 "reason".toList }

def parseAmWtf (values : List EventValue) : Except EntryError AmWtfEvent :=
  if values.length ≠ 6 then .error (.wrongValueCount "6".toList values.length)
  else do
    let (userId, pid) ← activityUserAndPid values
    return {
      userId, pid
      processName := ← stringAt values 2 "process_name".toList
      flags := ← intAt values 3 "flags".toList
      tag := ← stringAt values 4 "tag".toList
      message := ← stringAt values 5 "message".toList }

def parseActivityEvent (record : EventRecord) : Except EntryError ActivityEvent :=
  match record.value with
  | .list values =>
      if record.tag = amCrashTag then (parseAmCrash values).map .crash
      else if record.tag = amAnrTag then (parseAmAnr values).map .anr
      else if record.tag = amWtfTag then (parseAmWtf values).map .wtf
      else .error (.unexpectedTag record.tag)
  | _ => .error (.wrongEventType "activity event root".toList)

end Parse

def readActivity (target : Target) (bytes : List UInt8) : Option (LoggerEntry × ActivityEvent) :=
  match parseLoggerEntry target bytes with
  | .ok entry => match parseEventPayload target entry.payload with
    | .ok record => match parseActivityEvent record with
      | .ok event => some (entry, event)
      | .error _ => none
    | _ => none
  | _ => none

/-! How releases write the same event. -/

structure Release where
  pidFirst : Bool
  writesRecoverable : Bool

namespace Release
variable (release : Release)

def int (n : Int) : EventValue := .int (Int32.ofInt n)

def identity (userId pid : Int) : List EventValue :=
  if release.pidFirst then [int pid, int userId] else [int userId, int pid]

def flag (recoverable : Bool) : List EventValue :=
  if release.writesRecoverable then [int (if recoverable then 1 else 0)] else []

/-- The numbers show which of them is the user's. -/
def Tells (userId pid : Int) : Prop :=
  if release.pidFirst then userId = pid ∨ maxPlausibleUserId < pid ∧ 0 ≤ userId ∧ userId ≤ maxPlausibleUserId
  else ¬(maxPlausibleUserId < userId ∧ 0 ≤ pid ∧ pid ≤ maxPlausibleUserId)

def record : ActivityEvent → EventRecord
  | .crash event => {
      tag := amCrashTag
      value := .list (release.identity event.userId event.pid ++ ([.string event.processName, int event.flags,
        .string event.exceptionClass, .string event.message, .string event.file, int event.line] ++
          release.flag event.recoverable)) }
  | .anr event => {
      tag := amAnrTag
      value := .list (release.identity event.userId event.pid ++
        [.string event.processName, int event.flags, .string event.reason]) }
  | .wtf event => {
      tag := amWtfTag
      value := .list (release.identity event.userId event.pid ++
        [.string event.processName, int event.flags, .string event.tag, .string event.message]) }

end Release

end CrashCatcher.Logd

namespace CrashCatcher.Collect.ActivityEvent
open Lib Kotlinx Logd

def userId : ActivityEvent → Int
  | crash event => event.userId
  | anr event => event.userId
  | wtf event => event.userId

def pid : ActivityEvent → Int
  | crash event => event.pid
  | anr event => event.pid
  | wtf event => event.pid

def numbers : ActivityEvent → List Int
  | crash event => [event.flags, event.line]
  | anr event => [event.flags]
  | wtf event => [event.flags]

structure Written (event : ActivityEvent) (release : Release) : Prop where
  user : IsInt event.userId
  process : IsInt event.pid
  numbers : ∀ n ∈ event.numbers, IsInt n
  recoverable : ∀ crash, event = .crash crash → crash.recoverable = true → release.writesRecoverable = true

end CrashCatcher.Collect.ActivityEvent

namespace CrashCatcher.Logd
open Lib Checked LittleEndian ByteCursor Kotlinx Collect
variable {release : Release}

theorem intAt_int {values : List EventValue} {index : Nat} {n : Int} (field : Str)
    (there : values[index]? = some (Release.int n)) (int : IsInt n) : intAt values index field = .ok n := by
  have same : (Int32.ofInt n).toInt = n := Int32.toInt_ofInt_of_le int.1 int.2
  unfold intAt
  rw [there]
  exact congrArg Except.ok same

theorem stringAt_string {values : List EventValue} {index : Nat} {text : Str} (field : Str)
    (there : values[index]? = some (.string text)) : stringAt values index field = .ok text := by
  unfold stringAt
  rw [there]

theorem activityUserAndPid_identity {userId pid : Int} (user : IsInt userId) (process : IsInt pid)
    (more : List EventValue) :
    activityUserAndPid (release.identity userId pid ++ more) = .ok (userId, pid) ↔ release.Tells userId pid := by
  unfold activityUserAndPid Release.identity Release.Tells
  cases release.pidFirst with
  | false =>
      rw [if_neg (by decide), if_neg (by decide), intAt_int _ rfl user, intAt_int _ rfl process]
      simp only [bind, Except.bind]
      split
      next swapped =>
        refine iff_of_false (fun same => ?_) (not_not.mpr swapped)
        cases same
        omega
      next kept => exact iff_of_true rfl kept
  | true =>
      rw [if_pos rfl, if_pos rfl, intAt_int _ rfl process, intAt_int _ rfl user]
      simp only [bind, Except.bind]
      split
      next swapped => exact iff_of_true rfl (.inr swapped)
      next kept =>
        rw [or_iff_left kept]
        constructor
        · intro same
          cases same
          rfl
        · rintro rfl
          rfl

theorem identity_append (release : Release) (userId pid : Int) (more : List EventValue) :
    (∀ index, (release.identity userId pid ++ more)[index + 2]? = more[index]?) ∧
      (release.identity userId pid ++ more).length = more.length + 2 := by
  unfold Release.identity
  cases release.pidFirst with
  | false => exact ⟨fun _ => rfl, rfl⟩
  | true => exact ⟨fun _ => rfl, rfl⟩

theorem recoverableAt_flag {recoverable : Bool}
    (written : recoverable = true → release.writesRecoverable = true)
    {first : List EventValue} (eight : first.length = 8) :
    recoverableAt (first ++ release.flag recoverable) = .ok recoverable := by
  unfold recoverableAt Release.flag
  cases writes : release.writesRecoverable with
  | false =>
      have plain : recoverable = false := by
        cases recoverable with
        | false => rfl
        | true => exact absurd (written rfl) (by simp [writes])
      rw [if_neg Bool.false_ne_true, List.append_nil, if_neg (by simp [eight]), plain]
  | true =>
      have there : (first ++ [Release.int (if recoverable then 1 else 0)])[8]? =
          some (Release.int (if recoverable then 1 else 0)) := by
        rw [← eight]
        exact List.getElem?_concat_length
      rw [if_pos rfl, if_pos (by simp [eight]), intAt_int _ there (by cases recoverable <;> decide)]
      cases recoverable <;> rfl

theorem parseAmCrash_record {event : AmCrashEvent} (written : (ActivityEvent.crash event).Written release)
    (told : release.Tells event.userId event.pid) :
    parseAmCrash (release.identity event.userId event.pid ++
      ([.string event.processName, Release.int event.flags,
      .string event.exceptionClass, .string event.message, .string event.file, Release.int event.line] ++
        release.flag event.recoverable)) = .ok event := by
  have flags := written.numbers event.flags List.mem_cons_self
  have line := written.numbers event.line (List.mem_cons_of_mem _ List.mem_cons_self)
  obtain ⟨at', length⟩ := identity_append release event.userId event.pid
    ([.string event.processName, Release.int event.flags, .string event.exceptionClass, .string event.message,
      .string event.file, Release.int event.line] ++ release.flag event.recoverable)
  have identity := (@activityUserAndPid_identity release event.userId event.pid written.user written.process
    ([.string event.processName, Release.int event.flags, .string event.exceptionClass, .string event.message,
      .string event.file, Release.int event.line] ++ release.flag event.recoverable)).mpr told
  have count : (release.flag event.recoverable).length ≤ 1 := by
    unfold Release.flag
    split <;> simp
  have last := @recoverableAt_flag release event.recoverable (written.recoverable event rfl)
    (release.identity event.userId event.pid ++ [.string event.processName, Release.int event.flags,
      .string event.exceptionClass, .string event.message, .string event.file, Release.int event.line])
    (identity_append release event.userId event.pid _).2
  rw [List.append_assoc] at last
  unfold parseAmCrash
  rw [if_neg (by simp only [length, List.length_append, List.length_cons, List.length_nil]; omega), identity,
    stringAt_string _ (at' 0), intAt_int _ (at' 1) flags, stringAt_string _ (at' 2), stringAt_string _ (at' 3),
    stringAt_string _ (at' 4), intAt_int _ (at' 5) line, last]
  rfl

theorem parseAmAnr_record {event : AmAnrEvent} (written : (ActivityEvent.anr event).Written release)
    (told : release.Tells event.userId event.pid) :
    parseAmAnr (release.identity event.userId event.pid ++
      [.string event.processName, Release.int event.flags, .string event.reason]) = .ok event := by
  have flags := written.numbers event.flags List.mem_cons_self
  obtain ⟨at', length⟩ := identity_append release event.userId event.pid
    [.string event.processName, Release.int event.flags, .string event.reason]
  have identity := (@activityUserAndPid_identity release event.userId event.pid written.user written.process
    [.string event.processName, Release.int event.flags, .string event.reason]).mpr told
  unfold parseAmAnr
  rw [if_neg (by simp [length]), identity, stringAt_string _ (at' 0), intAt_int _ (at' 1) flags,
    stringAt_string _ (at' 2)]
  rfl

theorem parseAmWtf_record {event : AmWtfEvent} (written : (ActivityEvent.wtf event).Written release)
    (told : release.Tells event.userId event.pid) :
    parseAmWtf (release.identity event.userId event.pid ++
      [.string event.processName, Release.int event.flags, .string event.tag, .string event.message]) =
        .ok event := by
  have flags := written.numbers event.flags List.mem_cons_self
  obtain ⟨at', length⟩ := identity_append release event.userId event.pid
    [.string event.processName, Release.int event.flags, .string event.tag, .string event.message]
  have identity := (@activityUserAndPid_identity release event.userId event.pid written.user written.process
    [.string event.processName, Release.int event.flags, .string event.tag, .string event.message]).mpr told
  unfold parseAmWtf
  rw [if_neg (by simp [length]), identity, stringAt_string _ (at' 0), intAt_int _ (at' 1) flags,
    stringAt_string _ (at' 2), stringAt_string _ (at' 3)]
  rfl

theorem parseActivityEvent_record {event : ActivityEvent} (written : event.Written release)
    (told : release.Tells event.userId event.pid) : parseActivityEvent (release.record event) = .ok event := by
  cases event with
  | crash event =>
      show (parseAmCrash _).map ActivityEvent.crash = _
      rw [parseAmCrash_record written told]
      rfl
  | anr event =>
      show (parseAmAnr _).map ActivityEvent.anr = _
      rw [parseAmAnr_record written told]
      rfl
  | wtf event =>
      show (parseAmWtf _).map ActivityEvent.wtf = _
      rw [parseAmWtf_record written told]
      rfl

def IsScalar (value : EventValue) : Prop := (∃ n, value = .int n) ∨ ∃ text, value = .string text

theorem isScalar_int (n : Int) : IsScalar (Release.int n) := .inl ⟨_, rfl⟩

theorem isScalar_string (text : Str) : IsScalar (.string text) := .inr ⟨text, rfl⟩

theorem isScalar_identity (release : Release) (userId pid : Int) :
    ∀ value ∈ release.identity userId pid, IsScalar value := by
  intro value member
  unfold Release.identity at member
  split at member
  all_goals
    rcases List.mem_pair.mp member with rfl | rfl
    · exact isScalar_int _
    · exact isScalar_int _

theorem isScalar_flag (release : Release) (recoverable : Bool) :
    ∀ value ∈ release.flag recoverable, IsScalar value := by
  intro value member
  unfold Release.flag at member
  split at member
  · exact List.mem_singleton.mp member ▸ isScalar_int _
  · cases member

theorem record_scalars (release : Release) (event : ActivityEvent) : ∃ values,
    (release.record event).value = .list values ∧ values.length ≤ 9 ∧ ∀ value ∈ values, IsScalar value := by
  have identity := fun userId pid => isScalar_identity release userId pid
  have two : ∀ userId pid, (release.identity userId pid).length = 2 := fun userId pid => by
    unfold Release.identity
    split <;> rfl
  cases event with
  | crash event =>
      refine ⟨_, rfl, ?_, fun value member => ?_⟩
      · have one : (release.flag event.recoverable).length ≤ 1 := by
          unfold Release.flag
          split <;> simp
        simp only [List.length_append, List.length_cons, List.length_nil, two]
        omega
      · rcases List.mem_append.mp member with first | rest
        · exact identity _ _ value first
        rcases List.mem_append.mp rest with fields | last
        · simp only [List.mem_cons, List.not_mem_nil, or_false] at fields
          rcases fields with rfl | rfl | rfl | rfl | rfl | rfl
          · exact isScalar_string _
          · exact isScalar_int _
          · exact isScalar_string _
          · exact isScalar_string _
          · exact isScalar_string _
          · exact isScalar_int _
        · exact isScalar_flag release _ value last
  | anr event =>
      refine ⟨_, rfl, ?_, fun value member => ?_⟩
      · simp [two]
      · rcases List.mem_append.mp member with first | fields
        · exact identity _ _ value first
        simp only [List.mem_cons, List.not_mem_nil, or_false] at fields
        rcases fields with rfl | rfl | rfl
        · exact isScalar_string _
        · exact isScalar_int _
        · exact isScalar_string _
  | wtf event =>
      refine ⟨_, rfl, ?_, fun value member => ?_⟩
      · simp [two]
      · rcases List.mem_append.mp member with first | fields
        · exact identity _ _ value first
        simp only [List.mem_cons, List.not_mem_nil, or_false] at fields
        rcases fields with rfl | rfl | rfl | rfl
        · exact isScalar_string _
        · exact isScalar_int _
        · exact isScalar_string _
        · exact isScalar_string _

theorem length_encode_le {values : List EventValue} {value : EventValue} (member : value ∈ values) :
    value.encode.length ≤ (EventValue.encodeAll values).length := by
  rw [EventValue.encodeAll_eq]
  exact List.Sublist.length_le (List.sublist_flatten_of_mem (List.mem_map_of_mem member))

theorem withinLimits_record {event : ActivityEvent} (short : (release.record event).encode.length < 65536) :
    WithinLimits maxEventDepth (release.record event).value := by
  obtain ⟨values, same, few, scalars⟩ := record_scalars release event
  rw [EventRecord.encode, same, EventValue.encode, List.length_append, List.length_cons,
    List.length_cons] at short
  rw [same]
  refine .list (few.trans (by decide)) fun value member => ?_
  rcases scalars value member with ⟨n, rfl⟩ | ⟨text, rfl⟩
  · exact .int n
  · have inside := length_encode_le member
    simp only [EventValue.encode, List.length_append, List.length_cons, Utf8.length_encode] at inside
    refine .string ?_
    have most : maxEventStringBytes = 65536 := rfl
    omega

theorem activityUserAndPid_plausible {values : List EventValue} {userId pid : Int}
    (read : activityUserAndPid values = .ok (userId, pid)) :
    ¬(userId > maxPlausibleUserId ∧ 0 ≤ pid ∧ pid ≤ maxPlausibleUserId) := by
  unfold activityUserAndPid at read
  cases first : intAt values 0 "user_or_pid".toList with
  | error error =>
      rw [first] at read
      cases read
  | ok n =>
      cases second : intAt values 1 "pid_or_user".toList with
      | error error =>
          rw [first, second] at read
          cases read
      | ok m =>
          rw [first, second] at read
          simp only [bind, Except.bind] at read
          split at read
          next swapped =>
            cases read
            have most : maxPlausibleUserId = 999 := rfl
            omega
          next kept =>
            cases read
            exact kept

theorem bind_eq_ok' {ε α β : Type} {x : Except ε α} {f : α → Except ε β} {b : β} (ran : (x >>= f) = .ok b) :
    ∃ a, x = .ok a ∧ f a = .ok b := by
  cases x with
  | error error => cases ran
  | ok a => exact ⟨a, rfl, ran⟩

theorem parseAmCrash_identity {values : List EventValue} {event : AmCrashEvent}
    (ran : parseAmCrash values = .ok event) : activityUserAndPid values = .ok (event.userId, event.pid) := by
  unfold parseAmCrash at ran
  split at ran
  next => cases ran
  next =>
    obtain ⟨identity, read, ran⟩ := bind_eq_ok' ran
    obtain ⟨processName, -, ran⟩ := bind_eq_ok' ran
    obtain ⟨flags, -, ran⟩ := bind_eq_ok' ran
    obtain ⟨exceptionClass, -, ran⟩ := bind_eq_ok' ran
    obtain ⟨message, -, ran⟩ := bind_eq_ok' ran
    obtain ⟨file, -, ran⟩ := bind_eq_ok' ran
    obtain ⟨line, -, ran⟩ := bind_eq_ok' ran
    obtain ⟨recoverable, -, ran⟩ := bind_eq_ok' ran
    cases ran
    exact read

theorem parseAmAnr_identity {values : List EventValue} {event : AmAnrEvent}
    (ran : parseAmAnr values = .ok event) : activityUserAndPid values = .ok (event.userId, event.pid) := by
  unfold parseAmAnr at ran
  split at ran
  next => cases ran
  next =>
    obtain ⟨identity, read, ran⟩ := bind_eq_ok' ran
    obtain ⟨processName, -, ran⟩ := bind_eq_ok' ran
    obtain ⟨flags, -, ran⟩ := bind_eq_ok' ran
    obtain ⟨reason, -, ran⟩ := bind_eq_ok' ran
    cases ran
    exact read

theorem parseAmWtf_identity {values : List EventValue} {event : AmWtfEvent}
    (ran : parseAmWtf values = .ok event) : activityUserAndPid values = .ok (event.userId, event.pid) := by
  unfold parseAmWtf at ran
  split at ran
  next => cases ran
  next =>
    obtain ⟨identity, read, ran⟩ := bind_eq_ok' ran
    obtain ⟨processName, -, ran⟩ := bind_eq_ok' ran
    obtain ⟨flags, -, ran⟩ := bind_eq_ok' ran
    obtain ⟨tag, -, ran⟩ := bind_eq_ok' ran
    obtain ⟨message, -, ran⟩ := bind_eq_ok' ran
    cases ran
    exact read

theorem map_eq_ok' {ε α β : Type} {x : Except ε α} {f : α → β} {b : β} (ran : x.map f = .ok b) :
    ∃ a, x = .ok a ∧ f a = b := by
  cases x with
  | error error => cases ran
  | ok a => exact ⟨a, rfl, Except.ok.inj ran⟩

theorem parseActivityEvent_plausible {record : EventRecord} {event : ActivityEvent}
    (parsed : parseActivityEvent record = .ok event) :
    ¬(event.userId > maxPlausibleUserId ∧ 0 ≤ event.pid ∧ event.pid ≤ maxPlausibleUserId) := by
  unfold parseActivityEvent at parsed
  split at parsed
  next values same =>
    split at parsed
    next =>
      obtain ⟨crash, read, rfl⟩ := map_eq_ok' parsed
      exact activityUserAndPid_plausible (parseAmCrash_identity read)
    next =>
      split at parsed
      next =>
        obtain ⟨anr, read, rfl⟩ := map_eq_ok' parsed
        exact activityUserAndPid_plausible (parseAmAnr_identity read)
      next =>
        split at parsed
        next =>
          obtain ⟨wtf, read, rfl⟩ := map_eq_ok' parsed
          exact activityUserAndPid_plausible (parseAmWtf_identity read)
        next => cases parsed
  next => cases parsed

theorem parseActivityEvent_record_iff {event : ActivityEvent} (written : event.Written release) :
    parseActivityEvent (release.record event) = .ok event ↔ release.Tells event.userId event.pid := by
  refine ⟨fun parsed => ?_, parseActivityEvent_record written⟩
  cases event with
  | crash event =>
      obtain ⟨_, read, same⟩ := map_eq_ok' parsed
      cases same
      exact (activityUserAndPid_identity written.user written.process _).mp (parseAmCrash_identity read)
  | anr event =>
      obtain ⟨_, read, same⟩ := map_eq_ok' parsed
      cases same
      exact (activityUserAndPid_identity written.user written.process _).mp (parseAmAnr_identity read)
  | wtf event =>
      obtain ⟨_, read, same⟩ := map_eq_ok' parsed
      cases same
      exact (activityUserAndPid_identity written.user written.process _).mp (parseAmWtf_identity read)

theorem readActivity_eq_some {target : Target} {bytes : List UInt8} {entry : LoggerEntry}
    {event : ActivityEvent} :
    readActivity target bytes = some (entry, event) ↔ parseLoggerEntry target bytes = .ok entry ∧
      ∃ record, parseEventPayload target entry.payload = .ok record ∧
        parseActivityEvent record = .ok event := by
  unfold readActivity
  constructor
  · intro read
    split at read
    next entry' framed =>
      split at read
      next record payload =>
        split at read
        next event' parsed =>
          cases read
          exact ⟨framed, record, payload, parsed⟩
        next => cases read
      next => cases read
    next => cases read
  · rintro ⟨framed, record, payload, parsed⟩
    simp only [framed, payload, parsed]

/-- The events loop reads a crash the same way from every release that writes it: in either order of user and
process, with and without the newer fields, behind a header of any size and before any other bytes, exactly
where the numbers show which is the user's. What it reads of any other bytes never gives a user's number to a
process. -/
theorem activity_read_of_every_release (target : Target) :
    (∀ (release : Release) (event : ActivityEvent) (entry : LoggerEntry) (padding rest : List UInt8),
      event.Written release → entry.payload = (release.record event).encode → entry.Framed padding →
      (entry.encode padding ++ rest).length ≤ target.usizeMax →
        (readActivity target (entry.encode padding ++ rest) = some (entry, event) ↔
          release.Tells event.userId event.pid)) ∧
    ∀ bytes entry event, readActivity target bytes = some (entry, event) →
      ¬(event.userId > maxPlausibleUserId ∧ 0 ≤ event.pid ∧ event.pid ≤ maxPlausibleUserId) := by
  constructor
  · intro release event entry padding rest written payload framed addressable
    have short : entry.payload.length ≤ target.usizeMax :=
      (Nat.le_sub_one_of_lt (framed.payload.trans (by decide : 65536 < 2 ^ 32))).trans target.le_usizeMax
    have small : (release.record event).encode.length < 65536 := payload ▸ framed.payload
    have parsed : ∀ record, parseEventPayload target entry.payload = .ok record ↔ record = release.record event := by
      intro record
      have own : parseEventPayload target entry.payload = .ok (release.record event) :=
        ((parseEventPayload_exact _ short).1 _).mpr ⟨withinLimits_record small, by rw [payload]⟩
      rw [own]
      exact ⟨fun same => by cases same; rfl, fun same => by rw [same]⟩
    rw [readActivity_eq_some, ← parseActivityEvent_record_iff written]
    constructor
    · rintro ⟨-, record, payload, read⟩
      rwa [(parsed record).mp payload] at read
    · intro read
      exact ⟨((parseLoggerEntry_exact addressable).1 entry).mpr ⟨padding, framed, List.prefix_append _ _⟩,
        release.record event, (parsed _).mpr rfl, read⟩
  · intro bytes entry event read
    obtain ⟨-, record, -, parsed⟩ := readActivity_eq_some.mp read
    exact parseActivityEvent_plausible parsed

theorem activity_read_of_every_release_pidFirst :
    readActivity .aarch64 (LoggerEntry.encode {
        pid := 1200, tid := 1230, seconds := 1700000000, nanoseconds := 5, logId := some 2, uid := some 1000
        payload := (Release.record ⟨true, false⟩ (.wtf {
          userId := 10, pid := 4321, processName := "app".toList, flags := 0, tag := "T".toList
          message := "m".toList })).encode } [] ++ [0]) =
      some ({
        pid := 1200, tid := 1230, seconds := 1700000000, nanoseconds := 5, logId := some 2, uid := some 1000
        payload := (Release.record ⟨true, false⟩ (.wtf {
          userId := 10, pid := 4321, processName := "app".toList, flags := 0, tag := "T".toList
          message := "m".toList })).encode }, .wtf {
          userId := 10, pid := 4321, processName := "app".toList, flags := 0, tag := "T".toList
          message := "m".toList }) := by
  refine ((activity_read_of_every_release .aarch64).1 ⟨true, false⟩ _ _ [] [0] ?_ rfl ?_ (by decide +kernel)).mpr
    (.inr (by decide))
  · exact ⟨by decide, by decide, by decide, fun crash same => by cases same⟩
  · exact ⟨by decide +kernel, by decide +kernel, by decide, by decide⟩

end CrashCatcher.Logd
