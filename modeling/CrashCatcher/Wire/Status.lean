import CrashCatcher.Lib.Int64
import CrashCatcher.Lib.Text

namespace CrashCatcher.Wire
open Lib

inductive CollectorSource where
  | events
  | crashBuffer
  | dropbox
  | tombstone
  | anrFile
deriving DecidableEq, Repr

structure CollectorHealth where
  source : CollectorSource
  enabled : Bool
  everReceived : Bool
  lastReceivedMs : Option I64
  detail : Option Str
deriving DecidableEq

structure DialogTakeoverStatus where
  requested : Bool
  effective : Bool
  anrShowBackgroundConflict : Bool
  unsupportedReason : Option Str
deriving DecidableEq

structure StorageStatus where
  groupCount : UInt64
  recordCount : UInt64
  payloadBytes : UInt64
  databaseBytes : UInt64
  evictedPayloadCount : UInt64
deriving DecidableEq

structure PackageIndexFacts where
  packageCount : UInt32
  systemFlagsKnown : Bool
deriving DecidableEq

structure BridgeFacts where
  connected : Bool
  version : Option Str
  androidSdk : Option UInt32
deriving DecidableEq

structure RuntimeFacts where
  pid : UInt32
  abi : Str
  androidSdk : UInt32
  selinux : Str
  storeSchemaVersion : I64
  debugLogging : Bool
  packageIndex : PackageIndexFacts
  bridge : BridgeFacts
  activeMutes : UInt32
deriving DecidableEq

structure ModuleStatus where
  daemonVersion : Str
  protocolVersion : UInt32
  uptimeMs : I64
  collectors : List CollectorHealth
  bridgeConnected : Bool
  dialogTakeover : DialogTakeoverStatus
  storage : StorageStatus
  runtime : RuntimeFacts
deriving DecidableEq

end CrashCatcher.Wire
