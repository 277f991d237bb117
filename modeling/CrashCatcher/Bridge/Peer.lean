import CrashCatcher.Bridge.Events
import CrashCatcher.Bridge.Session
import CrashCatcher.Lib.JavaString
import CrashCatcher.Lib.OrgJson

namespace CrashCatcher.Bridge
open Lib Lib.Json Lib.JavaString Model Wire Daemon

structure PendingIntent where
  userId : Int
  requestCode : Int
  recordId : Str
  bridgeAction : Str

structure Notification where
  contentTitle : Str
  contentText : Str
  contentIntent : PendingIntent
  actions : List (Str × PendingIntent)

structure Intent where
  action : Str
  packageName : Option Str
  className : Option (Str × Str)
  extras : List (Str × Str)

structure ApplicationInfo where
  targetSdkVersion : Int
  minSdkVersion : Int
  primaryCpuAbi : Option Str
  label : Except Str Str
  flagSystem : Bool

structure PackageInfo where
  versionName : Option Str
  longVersionCode : I64
  applicationInfo : Option ApplicationInfo

/-- Android as it answers while one command is handled; what it throws is given by its text. -/
structure Device where
  sdkInt : Int
  notificationManager : Bool
  createNotificationChannel : Except Str Unit
  contextAsUser : Int → Except Str Unit
  applicationLabel : Str → Int → Except Str (Option Str)
  getActivity : PendingIntent → Except Str Unit
  notify : Str → Int → Notification → Except Str Unit
  cancel : Str → Int → Except Str Unit
  getPackageInfo : Str → Int → Except Str PackageInfo
  startActivity : Intent → Int → Except Str Unit

namespace Device
variable (device : Device)

def managerIntent (recordId action : Str) (userId requestOffset : Int) : Except Str PendingIntent := do
  device.contextAsUser userId
  let intent : PendingIntent :=
    { userId, requestCode := wrapInt (31 * hashCode recordId + requestOffset), recordId, bridgeAction := action }
  device.getActivity intent
  return intent

def titleOf (packageName : Str) (userId : Int) (fallback : Str) : Str :=
  if packageName.isEmpty then fallback
  else
    let label : Except Str (Option Str) := do
      device.contextAsUser userId
      device.applicationLabel packageName userId
    match label with
    | .ok (some label) => if label.isEmpty then fallback else label ++ " 已崩溃".toList
    | _ => fallback

end Device

def unavailableManager : Str := "java.lang.IllegalStateException: NotificationManager unavailable".toList
def malformedComponent : Str := "java.lang.IllegalArgumentException: component must be package/class".toList
def frameTooLarge : Str := "java.io.IOException: frame too large".toList

/-- The class that a component names; the manifest's shorthand is written out. -/
def resolveComponent (component : Str) : Except Str (Str × Str) :=
  match component.idxOf? '/' with
  | none => .error malformedComponent
  | some separator =>
      if separator = 0 ∨ separator = component.length - 1 then .error malformedComponent
      else
        let owner := component.take separator
        let className := component.drop (separator + 1)
        .ok (owner, if className.head? = some '.' then owner ++ className else className)

namespace CrashCatcherBridge
variable (org : OrgJson) (device : Device)

def notificationTitle (spec : List (Str × Json)) (userId : Int) : Str :=
  device.titleOf (org.optString spec "package_name".toList []) userId (org.optString spec "title".toList [])

def addAction (recordId : Str) (userId : Int) (entry : Json × Nat) : Except Str (Str × PendingIntent) := do
  let action ← org.object (toString entry.2).toList entry.1
  let intent ← device.managerIntent recordId (← org.getString action "action".toList) userId (entry.2 + 1)
  return (← org.getString action "title".toList, intent)

def postNotification (spec : List (Str × Json)) : Except Str Unit := do
  if !device.notificationManager then throw unavailableManager
  if 26 ≤ device.sdkInt then device.createNotificationChannel
  let recordId ← org.getString spec "record_id".toList
  let userId ← org.getInt spec "user_id".toList
  let contentTitle := notificationTitle org device spec userId
  let contentText ← org.getString spec "body".toList
  let contentIntent ← device.managerIntent recordId "open_details".toList userId 0
  let actions ← match OrgJson.optJSONArray spec "actions".toList with
    | none => pure []
    | some actions => actions.zipIdx.mapM (addAction org device recordId userId)
  device.notify recordId (hashCode recordId) { contentTitle, contentText, contentIntent, actions }

def cancelNotification (recordId : Str) : Except Str Unit := do
  if device.notificationManager then device.cancel recordId (hashCode recordId)

def queryPackageInfo (packageName : Str) (userId : Int) : Except Str Json := do
  device.contextAsUser userId
  let info ← device.getPackageInfo packageName userId
  let label ← match info.applicationInfo with
    | none => pure .null
    | some application => Json.str <$> application.label
  let application := info.applicationInfo
  return .obj [("package_name".toList, .str packageName), ("user_id".toList, .num userId),
    ("version_name".toList, Json.optional .str info.versionName),
    ("version_code".toList, .num info.longVersionCode.val),
    ("target_sdk".toList, Json.optional (.num ·.targetSdkVersion) application),
    ("min_sdk".toList, Json.optional (.num ·.minSdkVersion) application),
    ("primary_abi".toList, Json.optional .str (application.bind (·.primaryCpuAbi))),
    ("label".toList, label),
    ("is_system_app".toList, .bool (application.any (·.flagSystem)))]

def startActivity (spec : List (Str × Json)) (userId : Int) : Except Str Unit := do
  let action ← org.getString spec "action".toList
  let packageName := org.nullableString spec "package_name".toList
  let className ← (org.nullableString spec "component".toList).mapM resolveComponent
  let extras ← match OrgJson.optJSONObject spec "extras".toList with
    | none => pure []
    | some extras => (OrgJson.keys extras).mapM fun key => do return (key, ← org.getString extras key)
  device.contextAsUser userId
  device.startActivity { action, packageName, className, extras } userId

def result (type : Str) (requestId : Int) (booleanField : Str) (value : Bool) (error : Option Str) : Json :=
  let members := [("type".toList, .str type), ("request_id".toList, .num requestId),
    (booleanField, .bool value), ("error".toList, Json.optional .str error)]
  .obj (if type = "package_info_result".toList then members ++ [("package".toList, .null)] else members)

/-- The frame goes out whole, or not at all. -/
def writeFrame (object : Json) : Except Str Json :=
  if org.size object > maxFrameBodyBytes then .error frameTooLarge else .ok object

def attempt (type : Str) (requestId : Int) (command : List (Str × Json)) : Except Str Json := do
  if type = "post_notification".toList then
    postNotification org device (← org.getJSONObject command "notification".toList)
    writeFrame org (result "notification_result".toList requestId "posted".toList true none)
  else if type = "cancel_notification".toList then
    cancelNotification device (← org.getString command "record_id".toList)
    writeFrame org (result "notification_result".toList requestId "posted".toList true none)
  else if type = "query_package_info".toList then
    let packageInfo ← queryPackageInfo device (← org.getString command "package_name".toList)
      (← org.getInt command "user_id".toList)
    writeFrame org (.obj [("type".toList, .str "package_info_result".toList),
      ("request_id".toList, .num requestId), ("package".toList, packageInfo), ("error".toList, .null)])
  else if type = "start_activity".toList then
    startActivity org device (← org.getJSONObject command "intent".toList)
      (← org.getInt command "user_id".toList)
    writeFrame org (result "activity_result".toList requestId "launched".toList true none)
  else throw ("java.lang.IllegalArgumentException: unknown bridge command: ".toList ++ type)

/-- The frame that answers a command; a refusal that does not fit a frame ends the connection. -/
def handle (command : List (Str × Json)) : Except Str Json :=
  let requestId := org.optLong command "request_id".toList 0
  let type := org.optString command "type".toList []
  match attempt org device type requestId command with
  | .ok frame => .ok frame
  | .error error =>
      let resultType :=
        if Text.contains "notification".toList type then "notification_result".toList
        else if type = "query_package_info".toList then "package_info_result".toList
        else "activity_result".toList
      let booleanField := if resultType = "notification_result".toList then "posted".toList
        else "launched".toList
      writeFrame org (result resultType requestId booleanField false (some error))

def serve (frame : Json) : Except Str Json := do handle org device (← org.object [] frame)

end CrashCatcherBridge

/-! What a command asks for, in the daemon's own terms. -/

namespace Device
variable (device : Device)

def addAction (notification : NotificationSpec) (entry : NotificationAction × Nat) :
    Except Str (Str × PendingIntent) := do
  let intent ← device.managerIntent notification.recordId.text (bridgeActionName entry.1.action)
    notification.userId (entry.2 + 1)
  return (entry.1.title, intent)

def post (notification : NotificationSpec) : Except Str Unit := do
  if !device.notificationManager then throw unavailableManager
  if 26 ≤ device.sdkInt then device.createNotificationChannel
  let contentIntent ← device.managerIntent notification.recordId.text "open_details".toList
    notification.userId 0
  let actions ← notification.actions.zipIdx.mapM (device.addAction notification)
  device.notify notification.recordId.text (hashCode notification.recordId.text)
    { contentTitle := device.titleOf notification.packageName notification.userId notification.title
      contentText := notification.body, contentIntent, actions }

def launch (intent : IntentSpec) (userId : Int) : Except Str Unit := do
  let className ← intent.component.mapM resolveComponent
  device.contextAsUser userId
  device.startActivity
    { action := intent.action, packageName := intent.packageName, className, extras := intent.extras } userId

def lookUp (packageName : Str) (userId : Int) : Except Str (PackageInfo × Option Str) := do
  device.contextAsUser userId
  let info ← device.getPackageInfo packageName userId
  let label ← info.applicationInfo.mapM (·.label)
  return (info, label)

end Device

inductive Done where
  | posted
  | found (packageName : Str) (userId : Int) (info : PackageInfo) (label : Option Str)
  | launched

def BridgeCommand.perform (device : Device) : BridgeCommand → Except Str Done
  | .postNotification _ notification => do
      device.post notification
      return .posted
  | .cancelNotification _ recordId => do
      if device.notificationManager then device.cancel recordId.text (hashCode recordId.text)
      return .posted
  | .queryPackageInfo _ packageName userId => do
      let (info, label) ← device.lookUp packageName userId
      return .found packageName userId info label
  | .startActivity _ intent userId => do
      device.launch intent userId
      return .launched

end CrashCatcher.Bridge
