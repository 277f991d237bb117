import CrashCatcher.Config.Store
import CrashCatcher.Merge.Pending
import CrashCatcher.Store.Atomic
import CrashCatcher.Store.Companion

namespace CrashCatcher.Daemon
open Lib Lib.Text Model Config Wire Store Fallible

/-- What the bridge answers about a package, as far as a crash is told from it. -/
structure BridgePackageInfo where
  versionName : Option Str
  versionCode : Option Int
  isSystemApp : Bool

structure PackageEntry where
  name : Str
  versionCode : Option Int
  isSystem : Bool

structure PackageIndex where
  entries : List PackageEntry
  systemFlagsKnown : Bool

namespace PackageIndex

def isEmpty (self : PackageIndex) : Bool := self.entries.isEmpty

/-- Of the entries of one name the last is kept. -/
def byName (self : PackageIndex) (name : Str) : Option PackageEntry :=
  self.entries.reverse.find? fun entry => entry.name = name

end PackageIndex

structure PackageOrigin where
  isSystemApp : Option Bool
  packageInstalled : Bool

/-- Whether a name belongs to an app, a system app or no app; an empty index cannot tell. -/
def classifyPackage (packages : PackageIndex) (name : Str) : Option PackageOrigin :=
  if packages.isEmpty then none
  else match packages.byName name with
    | some package => some {
        isSystemApp := if packages.systemFlagsKnown then some package.isSystem else none
        packageInstalled := true }
    | none => some { isSystemApp := some true, packageInstalled := false }

inductive BridgeAction where
  | openDetails
  | reopenApp
  | muteUntilUnlock

structure NotificationAction where
  title : Str
  action : BridgeAction

structure NotificationSpec where
  recordId : RecordId
  packageName : Str
  userId : Int
  title : Str
  body : Str
  actions : List NotificationAction

inductive Effect where
  | crashRecorded (inserted : Inserted)
  | configChanged
  | setDebug (debug : Bool)
  | startAlertActivity (recordId : RecordId) (packageName : Str) (userId : Int)
  | postNotification (notification : NotificationSpec)

abbrev Mutes := Std.ExtTreeMap Str MuteScope compare

structure CoreState where
  world : World
  disk : Disk
  packages : PackageIndex
  cachedPackage : Str → Int → Option BridgePackageInfo
  volatileMutes : Mutes
  effects : List Effect

namespace CoreState

def setWorld (state : CoreState) (world : World) : CoreState := { state with world }
def setDisk (state : CoreState) (disk : Disk) : CoreState := { state with disk }
def setMutes (state : CoreState) (volatileMutes : Mutes) : CoreState := { state with volatileMutes }
def setEffects (state : CoreState) (effects : List Effect) : CoreState := { state with effects }

end CoreState

inductive CoreError where
  | store (error : StoreError)
  | config (error : ConfigError)
  | request (error : WireError)

abbrev CoreM := Fallible CoreState CoreError

def onStore {α : Type} (m : StoreM α) : CoreM α :=
  Fallible.zoom CoreState.world (fun world state => state.setWorld world) .store m

def onDisk {α : Type} (m : ConfigM α) : CoreM α :=
  Fallible.zoom CoreState.disk (fun disk state => state.setDisk disk) .config m

def perform (effect : Effect) : CoreM Unit :=
  Fallible.update fun state => state.setEffects (state.effects ++ [effect])

structure DaemonCore where
  platform : Platform
  configStore : ConfigStore

def enrichRecord (state : CoreState) (record : CrashRecord) : CrashRecord :=
  match state.cachedPackage record.packageName record.userId with
  | some package =>
      { record with
        appVersionName := package.versionName
        appVersionCode := package.versionCode
        isSystemApp := package.isSystemApp
        packageInstalled := true }
  | none =>
      let record := match state.packages.byName record.packageName with
        | some package => { record with appVersionCode := record.appVersionCode.or package.versionCode }
        | none => record
      match classifyPackage state.packages record.packageName with
      | some origin =>
          { record with
            isSystemApp := origin.isSystemApp.getD record.isSystemApp
            packageInstalled := origin.packageInstalled }
      | none => record

def capturesKind (config : ConfigDocument) : CrashKind → Bool
  | .javaException => config.global.captureJava
  | .anr => config.global.captureAnr
  | .nativeCrash => config.global.captureNative
  | .wtf => config.global.captureWtf

def admits (config : ConfigDocument) (record : CrashRecord) : Bool :=
  capturesKind config record.kind &&
    config.shouldRecord record.packageName record.isSystemApp record.isMainProcess record.selfHandled

def companionWindowMs : CrashKind → I64
  | .javaException | .nativeCrash => Merge.defaultMergeWindowMs
  | .anr | .wtf => 0

def markAllIngested (clock : Nat → I64) : List Str → StoreM PUnit
  | [] => pure ()
  | sourceKey :: rest => do
      let _ ← markIngested sourceKey (clock 0)
      markAllIngested (fun reading => clock (reading + 1)) rest

def trySweep (nowMs : I64) (retention : RetentionPolicy) : StoreM Unit :=
  (do let _ ← sweep nowMs retention).recover fun _ => pure ()

def alertBody (record : CrashRecord) : Str :=
  (record.summary.text.or record.summary.className).getD record.kind.debug

def notify (record : CrashRecord) (inserted : Inserted) : NotifyMode → CoreM Unit
  | .nothing => pure ()
  | .dialog => perform (.startAlertActivity inserted.record.id record.packageName record.userId)
  | .notification | .toast => perform (.postNotification {
      recordId := inserted.record.id
      packageName := record.packageName
      userId := record.userId
      title := record.packageName ++ " 已崩溃".toList
      body := alertBody record
      actions := [
        { title := "查看详情".toList, action := .openDetails },
        { title := "重新打开".toList, action := .reopenApp },
        { title := "静音".toList, action := .muteUntilUnlock }] })

def isMuted (state : CoreState) (packageName : Str) : Bool := state.volatileMutes.contains packageName

def alert (config : ConfigDocument) (record : CrashRecord) (inserted : Inserted) : CoreM Unit := do
  let state ← Fallible.get
  if config.shouldNotify record.packageName record.isForeground && !isMuted state record.packageName then
    notify record inserted (config.effectiveNotifyMode record.packageName)
  else pure ()

def isSettingsKeyChar (c : Char) : Bool :=
  c.isAlphanum || ['.', '_', ':', '/', '@', '+', '-'].contains c

def isSafeSettingsKey (name : Str) : Bool :=
  !name.isEmpty && decide (Utf8.size name ≤ 255) && !Text.contains "..".toList name &&
    name.all isSettingsKeyChar

def validateSettingsKey (packageName : Str) : CoreM Unit :=
  if isSafeSettingsKey packageName then pure ()
  else Fallible.fail (.request (.invalidRequest "invalid settings key".toList))

structure MuteResult where
  packageName : Str
  scope : MuteScope
  mutedUntilMs : Option I64

structure AppConfigResult where
  packageName : Str
  config : AppConfig

def mutedUntil (scope : MuteScope) : Option I64 := if scope = .none then none else some I64.maxValue

namespace DaemonCore
variable (self : DaemonCore)

def loadConfig : CoreM ConfigDocument := onDisk self.configStore.load

def updateConfig (mutate : ConfigDocument → ConfigDocument) : CoreM ConfigDocument :=
  onDisk (self.configStore.update mutate)

def recordCrash (config : ConfigDocument) (record : CrashRecord) (sourceKeys : List Str)
    (clock : Nat → I64) : CoreM Inserted := do
  let inserted ← onStore
    (insertWithSources self.platform record config.global.retention sourceKeys (clock 0))
  onStore (trySweep (clock 1) config.global.retention)
  perform (.crashRecorded inserted)
  alert config record inserted
  pure inserted

/-- Stores a crash, folds it into the one it is another view of, or only marks the sources of one
that the configuration excludes. -/
def ingestWithSources (record : CrashRecord) (sourceKeys : List Str) (clock : Nat → I64) :
    CoreM (Option Inserted) := do
  let state ← Fallible.get
  let record := enrichRecord state record
  let config ← self.loadConfig
  if admits config record then
    match ← onStore (companionRecord record (companionWindowMs record.kind).val) with
    | some existing => do
        let _ ← onStore (foldIntoRecord self.platform existing record config.global.retention
          sourceKeys (clock 0))
        pure none
    | none => do
        let inserted ← self.recordCrash config record sourceKeys clock
        pure (some inserted)
  else
    onStore (markAllIngested clock sourceKeys)
    pure none

def forgetRow (forgets : MuteScope → Bool) (state : Mutes × List Str) (row : Str × MuteScope) :
    Mutes × List Str :=
  if forgets row.2 then
    (state.1.erase row.1, if state.2.contains row.1 then state.2 else state.2 ++ [row.1])
  else state

def forgetMutes (forgets : MuteScope → Bool) (mutes : Mutes) (cleared : List Str) : Mutes × List Str :=
  mutes.toList.foldl (forgetRow forgets) (mutes, cleared)

def clearMute (document : ConfigDocument) (package : Str) : ConfigDocument :=
  document.putApp package { document.app package with mute := .none }

def unmuteListed (cleared : List Str) : CoreM Nat :=
  if cleared.isEmpty then pure 0
  else do
    cleared.forM fun package => do
      let _ ← onStore (setPackageMute package none)
    let _ ← self.updateConfig fun document => cleared.foldl clearMute document
    perform .configChanged
    pure cleared.length

/-- Forgets the mutes that match, in memory, in the store and in the configuration. -/
def clearMutes (forgets : MuteScope → Bool) : CoreM Nat := do
  let config ← self.loadConfig
  let configured := (config.apps.toList.filter fun app => forgets app.2.mute).map Prod.fst
  let state ← Fallible.get
  let forgotten := forgetMutes forgets state.volatileMutes configured
  Fallible.update fun state => state.setMutes forgotten.1
  self.unmuteListed forgotten.2

/-- Called at start-up, which is what `untilRestart` means. -/
def clearVolatileMutes : CoreM Unit := do
  let _ ← self.clearMutes fun _ => true

def clearUnlockMutes : CoreM Nat := self.clearMutes fun scope => scope = .untilUnlock

def applyMute (packageName : Str) (scope : MuteScope) : CoreM Unit := do
  Fallible.update fun state => state.setMutes
    (if scope = .none then state.volatileMutes.erase packageName
      else state.volatileMutes.insert packageName scope)
  let _ ← onStore (setPackageMute packageName (mutedUntil scope))

def muteApp (packageName : Str) (scope : MuteScope) : CoreM MuteResult := do
  validateSettingsKey packageName
  applyMute packageName scope
  let _ ← self.updateConfig fun document =>
    document.putApp packageName { document.app packageName with mute := scope }
  perform .configChanged
  pure { packageName, scope, mutedUntilMs := mutedUntil scope }

def setAppConfig (packageName : Str) (patch : AppConfigPatch) : CoreM AppConfigResult := do
  validateSettingsKey packageName
  let stored ← self.updateConfig fun document =>
    document.putApp packageName (patch.apply (document.app packageName))
  let config := stored.app packageName
  applyMute packageName config.mute
  perform .configChanged
  pure { packageName, config }

def plain (serde : Serde) : DaemonCore where
  platform := plainPlatform
  configStore := { fileName := "config.json".toList, serde }

end DaemonCore

def CoreState.facing (state : CoreState) (storeFaults diskFaults : Nat → Option Nat) : CoreState :=
  (state.setWorld { state.world with faults := storeFaults }).setDisk
    { state.disk with faults := diskFaults }

def CoreState.fresh : CoreState where
  world := quiet .empty
  disk := .working fun _ => none
  packages := { entries := [], systemFlagsKnown := false }
  cachedPackage _ _ := none
  volatileMutes := ∅
  effects := []

end CrashCatcher.Daemon
