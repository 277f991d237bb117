import CrashCatcher.Store.Schema
import CrashCatcher.Wire.Status

namespace CrashCatcher.Wire
open Lib Store

inductive Event where
  | crashRecorded (record : RecordSummary) (group : GroupSummary) (isNewGroup : Bool)
  | configChanged
  | moduleStatusChanged (status : ModuleStatus)
  | dropped (count : UInt64) (sinceMs : I64)
deriving DecidableEq

def Event.droppedCount : Event → Nat
  | dropped count _ => count.toNat
  | _ => 0

end CrashCatcher.Wire
