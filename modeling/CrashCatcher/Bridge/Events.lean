import CrashCatcher.Bridge.Broker
import CrashCatcher.Wire.Request

namespace CrashCatcher.Bridge
open Lib Lib.Json Serde Wire Daemon

/-! What the daemon reads of the bridge's frames. -/

def BridgeHello.deserialize : Json → Option BridgeHello :=
  struct ["android_sdk", "bridge_version"] fun androidSdk bridgeVersion => do
    return { androidSdk := ← required u32 androidSdk, bridgeVersion := ← required string bridgeVersion }

def packageInfo : Json → Option (Str × Int × BridgePackageInfo) :=
  struct ["package_name", "user_id", "version_name", "version_code", "target_sdk", "min_sdk", "primary_abi",
    "label", "is_system_app"] fun packageName userId versionName versionCode targetSdk minSdk primaryAbi label
        isSystemApp => do
    let packageName ← required string packageName
    let userId ← required i32 userId
    let versionName ← defaulted none (option string) versionName
    let versionCode ← defaulted none (option i64) versionCode
    let _ ← defaulted none (option u32) targetSdk
    let _ ← defaulted none (option u32) minSdk
    let _ ← defaulted none (option string) primaryAbi
    let _ ← defaulted none (option string) label
    let isSystemApp ← required bool isSystemApp
    return (packageName, userId, { versionName, versionCode := versionCode.map I64.val, isSystemApp })

def requestId (json : Json) : Option UInt64 := (u64 json).map UInt64.ofNat

namespace BridgeEvent

def variants : List (String × (List (Str × Json) → Option BridgeEvent)) := [
  ("hello", fields ["hello"] fun hello => do return .hello (← required BridgeHello.deserialize hello)),
  ("package_info_result", fields ["request_id", "package", "error"] fun request package error => do
      return .packageInfoResult (← required Bridge.requestId request)
          (← defaulted none (option packageInfo) package) (← defaulted none (option string) error)),
  ("activity_result", fields ["request_id", "launched", "error"] fun request launched error => do
      return .activityResult (← required Bridge.requestId request) (← required bool launched)
          (← defaulted none (option string) error)),
  ("notification_result", fields ["request_id", "posted", "error"] fun request posted error => do
      return .notificationResult (← required Bridge.requestId request) (← required bool posted)
          (← defaulted none (option string) error)),
  ("foreground_changed", fields ["package_name", "user_id"] fun packageName userId => do
      return .foregroundChanged (← defaulted none (option string) packageName)
          (← defaulted none (option i32) userId))]

def deserialize : Json → Option BridgeEvent := enum "type" variants

end BridgeEvent

theorem option_optional {α β : Type} {read : Json → Option β} {json : α → Json} {value : α → β}
    (values : ∀ a, json a ≠ .null) (reads : ∀ a, read (json a) = some (value a)) (a : Option α) :
    option read (Json.optional json a) = some (a.map value) := by
  cases a with
  | none => rfl
  | some a =>
      show option read (json a) = _
      rw [option_of_ne_null (values a), reads a]
      rfl

theorem option_string (text : Option Str) : option string (Json.optional .str text) = some text := by
  rw [@option_optional _ _ string Json.str id (fun _ => nofun) (fun _ => rfl), Option.map_id]
  rfl

theorem requestId_num (id : UInt64) : requestId (.num id.toNat) = some id := by
  have least : (0 : Int) ≤ id.toNat := Int.natCast_nonneg _
  have most : (id.toNat : Int) < UInt64.size := Int.ofNat_lt.mpr id.toNat_lt
  rw [requestId, u64, unsigned_num least most, Int.toNat_natCast, Option.map_some, UInt64.ofNat_toNat]

end CrashCatcher.Bridge
