import CrashCatcher.Collect.Activity

/-! What the log loops make of one entry of their buffer. -/

namespace CrashCatcher.Logd
open Lib Text

structure TextLogEntry where
  priority : UInt8
  tag : Str
  message : Str
deriving DecidableEq

def splitNul : List UInt8 → Option (List UInt8 × List UInt8)
  | [] => none
  | byte :: rest =>
      if byte = 0 then some ([], rest)
      else (splitNul rest).map fun (start, rest) => (byte :: start, rest)

def TextLogEntry.parse : List UInt8 → Except ParseError TextLogEntry
  | [] => .error (.truncated "priority".toList)
  | priority :: rest => do
      let (tag, rest) ← orError (.missingCrashField "tag terminator".toList) (splitNul rest)
      let tag ← orError (.invalidUtf8 "log tag".toList) (Utf8.fromUtf8 tag)
      -- the last NUL is missing when the message was cut
      let message := ((splitNul rest).map Prod.fst).getD rest
      let message ← orError (.invalidUtf8 "log message".toList) (Utf8.fromUtf8 message)
      return { priority, tag, message }

def LoggerEntry.header (self : LoggerEntry) : Collect.LoggerEntry where
  pid := self.pid.toInt
  tid := self.tid
  seconds := self.seconds
  nanoseconds := self.nanoseconds

end CrashCatcher.Logd

namespace CrashCatcher.Collect
open Lib Text Wire Logd Merge

inductive LogBuffer where
  | events
  | crash
deriving DecidableEq

inductive Notice where
  | screen (event : ScreenEvent)
  | crash (fragment : CrashFragment)

def eventsNotice (target : Target) (entry : Logd.LoggerEntry) : Option (Str × Notice) :=
  match parseEventPayload target entry.payload with
  | .ok record =>
      let sourceKey := entry.header.logSourceKey "events".toList (decimal record.tag.toInt)
      match parseScreenEvent record with
      | some event => some (sourceKey, .screen event)
      | none => match parseActivityEvent record with
        | .ok event => some (sourceKey, .crash
            { fragmentFromActivity event entry.header.atMs with sourceKey := some sourceKey })
        | .error _ => none
  | _ => none

def crashNotice (entry : Logd.LoggerEntry) : Option (Str × Notice) :=
  match TextLogEntry.parse entry.payload with
  | .ok text =>
      if text.tag ≠ "AndroidRuntime".toList ∨ contains "FATAL EXCEPTION:".toList text.message = false then none
      else match parseCrashBuffer text.message with
        | .ok report => some (entry.header.logSourceKey "crash".toList "fatal".toList,
            .crash (crashBufferFragment entry.header report))
        | .error _ => none
  | .error _ => none

namespace LogBuffer

def name : LogBuffer → Str
  | events => "events".toList
  | crash => "crash".toList

def notice (target : Target) : LogBuffer → Logd.LoggerEntry → Option (Str × Notice)
  | events => eventsNotice target
  | crash => crashNotice

theorem colon_notMem_name (buffer : LogBuffer) : ':' ∉ buffer.name := by
  cases buffer <;> decide

theorem name_injective : Function.Injective name := by
  intro buffer other same
  cases buffer <;> cases other <;> first | rfl | cases same

end LogBuffer

theorem colon_notMem_decimal (n : Int) : ':' ∉ decimal n := notMem_toString_int (by decide) (by decide) n

theorem logSourceKey_eq (entry : LoggerEntry) (buffer said : Str) : entry.logSourceKey buffer said =
    "logd:".toList ++ (buffer ++ ':' :: (decimal entry.seconds.toNat ++ ':' ::
      (decimal entry.nanoseconds.toNat ++
      ':' :: (decimal entry.pid ++ ':' :: (decimal entry.tid.toNat ++ ':' :: said))))) := by
  unfold LoggerEntry.logSourceKey
  generalize "logd:".toList = start
  simp only [List.append_assoc, List.cons_append]

theorem logSourceKey_inj {buffer buffer' : LogBuffer} {entry entry' : LoggerEntry} {said said' : Str}
    (same : entry.logSourceKey buffer.name said = entry'.logSourceKey buffer'.name said') :
    buffer = buffer' ∧ entry = entry' ∧ said = said' := by
  rw [logSourceKey_eq, logSourceKey_eq] at same
  have digits := colon_notMem_decimal
  have same := List.append_cancel_left same
  have part {a b s t : Str} (apart : ':' ∉ a) (apart' : ':' ∉ b) (same : a ++ ':' :: s = b ++ ':' :: t) :
      a = b ∧ s = t := by
    have split := congrArg (splitOnce ':') same
    simpa [splitOnce_append apart, splitOnce_append apart', splitOnce] using split
  obtain ⟨buffers, same⟩ := part buffer.colon_notMem_name buffer'.colon_notMem_name same
  obtain ⟨seconds, same⟩ := part (digits _) (digits _) same
  obtain ⟨nanoseconds, same⟩ := part (digits _) (digits _) same
  obtain ⟨pid, same⟩ := part (digits _) (digits _) same
  obtain ⟨tid, said⟩ := part (digits _) (digits _) same
  have word {n m : UInt32} (text : decimal n.toNat = decimal m.toNat) : n = m :=
    UInt32.toNat_inj.mp (Int.ofNat_inj.mp (Decimal.toString_int_injective text))
  refine ⟨LogBuffer.name_injective buffers, ?_, said⟩
  cases entry
  cases entry'
  congr
  · exact Decimal.toString_int_injective pid
  · exact word tid
  · exact word seconds
  · exact word nanoseconds

def OfScreen (said : Str) : Prop := said = decimal 70000 ∨ said = decimal 30067

instance (said : Str) : Decidable (OfScreen said) := inferInstanceAs (Decidable (_ ∨ _))

theorem parseScreenEvent_tag {record : EventRecord} {event : ScreenEvent}
    (parsed : parseScreenEvent record = some event) : OfScreen (decimal record.tag.toInt) := by
  unfold parseScreenEvent at parsed
  split at parsed
  next tag => exact .inl (congrArg (fun tag => decimal (Int32.toInt tag)) tag)
  next =>
    split at parsed
    next tag => exact .inr (congrArg (fun tag => decimal (Int32.toInt tag)) tag)
    next => cases parsed

theorem parseActivityEvent_tag {record : EventRecord} {event : ActivityEvent}
    (parsed : parseActivityEvent record = .ok event) : ¬OfScreen (decimal record.tag.toInt) := by
  have crash : ¬OfScreen (decimal Logd.amCrashTag.toInt) := by decide
  have anr : ¬OfScreen (decimal amAnrTag.toInt) := by decide
  have wtf : ¬OfScreen (decimal amWtfTag.toInt) := by decide
  unfold parseActivityEvent at parsed
  split at parsed
  next =>
    split at parsed
    next tag => rwa [tag]
    next =>
      split at parsed
      next tag => rwa [tag]
      next =>
        split at parsed
        next tag => rwa [tag]
        next => cases parsed
  next => cases parsed

def Notice.Keyed (key said : Str) : Notice → Prop
  | .screen _ => OfScreen said
  | .crash fragment => ¬OfScreen said ∧ fragment.sourceKey = some key

theorem eventsNotice_keyed {target : Target} {entry : Logd.LoggerEntry} {key : Str} {notice : Notice}
    (told : eventsNotice target entry = some (key, notice)) :
    ∃ said, key = entry.header.logSourceKey "events".toList said ∧ notice.Keyed key said := by
  unfold eventsNotice at told
  cases read : parseEventPayload target entry.payload with
  | ok record =>
      rw [read] at told
      refine ⟨decimal record.tag.toInt, ?_⟩
      cases screen : parseScreenEvent record with
      | some event =>
          simp only [screen, Option.some.injEq, Prod.mk.injEq] at told
          obtain ⟨rfl, rfl⟩ := told
          exact ⟨rfl, parseScreenEvent_tag screen⟩
      | none =>
          cases activity : parseActivityEvent record with
          | ok event =>
              simp only [screen, activity, Option.some.injEq, Prod.mk.injEq] at told
              obtain ⟨rfl, rfl⟩ := told
              exact ⟨rfl, parseActivityEvent_tag activity, rfl⟩
          | error error => simp [screen, activity] at told
  | error error => simp [read] at told
  | panicked => simp [read] at told
  | unfinished => simp [read] at told

theorem crashNotice_keyed {entry : Logd.LoggerEntry} {key : Str} {notice : Notice}
    (told : crashNotice entry = some (key, notice)) :
    ∃ said, key = entry.header.logSourceKey "crash".toList said ∧ notice.Keyed key said := by
  unfold crashNotice at told
  refine ⟨"fatal".toList, ?_⟩
  split at told
  next text _ =>
    split at told
    next => cases told
    next =>
      split at told
      next report _ =>
        cases told
        exact ⟨rfl, by decide, rfl⟩
      next => cases told
  next => cases told

theorem notice_keyed {target : Target} {buffer : LogBuffer} {entry : Logd.LoggerEntry} {key : Str}
    {notice : Notice} (told : buffer.notice target entry = some (key, notice)) :
    ∃ said, key = entry.header.logSourceKey buffer.name said ∧ notice.Keyed key said := by
  cases buffer with
  | events => exact eventsNotice_keyed told
  | crash => exact crashNotice_keyed told

end CrashCatcher.Collect
