import CrashCatcher.Bridge.Peer

namespace CrashCatcher.Bridge
open Lib Lib.Json Lib.JavaString Lib.Kotlinx Model Wire Daemon CrashCatcherBridge

namespace BridgeCommand

def requestId : BridgeCommand → UInt64
  | postNotification requestId _ | cancelNotification requestId _ | queryPackageInfo requestId _ _
  | startActivity requestId _ _ => requestId

def type : BridgeCommand → Str
  | postNotification .. => "post_notification".toList
  | cancelNotification .. => "cancel_notification".toList
  | queryPackageInfo .. => "query_package_info".toList
  | startActivity .. => "start_activity".toList

/-- What the daemon's types promise of a command. -/
def Typed : BridgeCommand → Prop
  | postNotification _ notification => IsInt notification.userId
  | cancelNotification _ _ => True
  | queryPackageInfo _ _ userId => IsInt userId
  | startActivity _ intent userId => (intent.extras.map Prod.fst).Nodup ∧ IsInt userId

end BridgeCommand

def PackageInfo.toJson (self : PackageInfo) (packageName : Str) (userId : Int) (label : Option Str) : Json :=
  .obj [("package_name".toList, .str packageName), ("user_id".toList, .num userId),
    ("version_name".toList, Json.optional .str self.versionName),
    ("version_code".toList, .num self.longVersionCode.val),
    ("target_sdk".toList, Json.optional (.num ·.targetSdkVersion) self.applicationInfo),
    ("min_sdk".toList, Json.optional (.num ·.minSdkVersion) self.applicationInfo),
    ("primary_abi".toList, Json.optional .str (self.applicationInfo.bind (·.primaryCpuAbi))),
    ("label".toList, Json.optional .str label),
    ("is_system_app".toList, .bool (self.applicationInfo.any (·.flagSystem)))]

def Done.toJson (requestId : Int) : Done → Json
  | posted => result "notification_result".toList requestId "posted".toList true none
  | found packageName userId info label =>
      .obj [("type".toList, .str "package_info_result".toList), ("request_id".toList, .num requestId),
        ("package".toList, info.toJson packageName userId label), ("error".toList, .null)]
  | launched => result "activity_result".toList requestId "launched".toList true none

def Done.Readable : Done → Prop
  | found _ _ info _ => ∀ application ∈ info.applicationInfo,
      (0 ≤ application.targetSdkVersion ∧ application.targetSdkVersion < 2 ^ 32) ∧
        0 ≤ application.minSdkVersion ∧ application.minSdkVersion < 2 ^ 32
  | _ => True

def ReadableOutcome : Except Str Done → Prop
  | .ok done => done.Readable
  | .error _ => True

instance (done : Done) : Decidable done.Readable := by
  cases done with
  | posted => exact inferInstanceAs (Decidable True)
  | launched => exact inferInstanceAs (Decidable True)
  | found packageName userId info label => exact inferInstanceAs (Decidable (∀ application ∈ _, _))

instance (outcome : Except Str Done) : Decidable (ReadableOutcome outcome) := by
  cases outcome with
  | ok done => exact inferInstanceAs (Decidable done.Readable)
  | error error => exact inferInstanceAs (Decidable True)

namespace BridgeCommand
variable (self : BridgeCommand)

def refusal (error : Str) : Json :=
  match self with
  | postNotification requestId _ | cancelNotification requestId _ =>
      result "notification_result".toList requestId.toNat "posted".toList false (some error)
  | queryPackageInfo requestId _ _ =>
      result "package_info_result".toList requestId.toNat "launched".toList false (some error)
  | startActivity requestId _ _ =>
      result "activity_result".toList requestId.toNat "launched".toList false (some error)

def outcome (org : OrgJson) (device : Device) : Except Str Done :=
  match self.perform device with
  | .ok done => if org.size (done.toJson self.requestId.toNat) > maxFrameBodyBytes then .error frameTooLarge
      else .ok done
  | .error error => .error error

def answer (org : OrgJson) : Except Str Done → Except Str Json
  | .ok done => .ok (done.toJson self.requestId.toNat)
  | .error error => writeFrame org (self.refusal error)

def event (outcome : Except Str Done) : BridgeEvent :=
  let error := match outcome with
    | .ok _ => none
    | .error error => some error
  match self with
  | postNotification requestId _ | cancelNotification requestId _ =>
      .notificationResult requestId outcome.isOk error
  | queryPackageInfo requestId _ _ =>
      let package := match outcome with
        | .ok (.found packageName userId info _) => some (packageName, userId,
            { versionName := info.versionName, versionCode := some info.longVersionCode.val,
              isSystemApp := info.applicationInfo.any (·.flagSystem) })
        | _ => none
      .packageInfoResult requestId package error
  | startActivity requestId _ _ => .activityResult requestId outcome.isOk error

end BridgeCommand

/-! The bridge carries out what the daemon asked for. -/

variable {org : OrgJson} {device : Device}

theorem addAction_json (notification : NotificationSpec) (entry : NotificationAction × Nat) :
    CrashCatcherBridge.addAction org device notification.recordId.text notification.userId
      (notificationActionJson entry.1, entry.2) = device.addAction notification entry := by
  obtain ⟨action, index⟩ := entry
  have text : org.getString [("title".toList, .str action.title),
      ("action".toList, .str (bridgeActionName action.action))] "action".toList =
        .ok (bridgeActionName action.action) := OrgJson.getString_last rfl
  have title : org.getString [("title".toList, .str action.title),
      ("action".toList, .str (bridgeActionName action.action))] "title".toList = .ok action.title :=
    OrgJson.getString_last rfl
  simp only [CrashCatcherBridge.addAction, notificationActionJson, OrgJson.object, text, title,
    Device.addAction, bind, Except.bind]

theorem actions_json (notification : NotificationSpec) :
    (notification.actions.map notificationActionJson).zipIdx.mapM
      (CrashCatcherBridge.addAction org device notification.recordId.text notification.userId) =
        notification.actions.zipIdx.mapM (device.addAction notification) := by
  rw [List.zipIdx_map, List.mapM_map]
  exact congrArg (fun add => List.mapM add notification.actions.zipIdx)
    (funext fun entry => addAction_json notification entry)

theorem postNotification_json {notification : NotificationSpec} (int : IsInt notification.userId)
    {spec : List (Str × Json)} (read : notificationJson notification = .obj spec) :
    postNotification org device spec = device.post notification := by
  have recordId : last spec "record_id".toList = some (.str notification.recordId.text) := by cases read; rfl
  have packageName : last spec "package_name".toList =
      some (.str notification.packageName) := by cases read; rfl
  have userId : last spec "user_id".toList = some (.num notification.userId) := by cases read; rfl
  have title : last spec "title".toList = some (.str notification.title) := by cases read; rfl
  have body : last spec "body".toList = some (.str notification.body) := by cases read; rfl
  have actions : OrgJson.optJSONArray spec "actions".toList =
      some (notification.actions.map notificationActionJson) := by cases read; rfl
  unfold postNotification notificationTitle Device.post
  simp only [OrgJson.getString_last recordId, OrgJson.getString_last body, OrgJson.getInt_last userId int,
    OrgJson.optString_last packageName, OrgJson.optString_last title, actions, actions_json, bind, Except.bind]

theorem startActivity_json {intent : IntentSpec} (distinct : (intent.extras.map Prod.fst).Nodup) (userId : Int)
    {spec : List (Str × Json)} (read : intent.toJson = .obj spec) :
    startActivity org device spec userId = device.launch intent userId := by
  have action : last spec "action".toList = some (.str intent.action) := by cases read; rfl
  have packageName : last spec "package_name".toList = some (Json.optional .str intent.packageName) := by
    cases read; rfl
  have component : last spec "component".toList =
      some (Json.optional .str intent.component) := by cases read; rfl
  have extras : OrgJson.optJSONObject spec "extras".toList =
      some (intent.extras.map fun extra => (extra.1, .str extra.2)) := by cases read; rfl
  have texts := @OrgJson.mapM_getString org _ distinct
  simp only [bind, Except.bind] at texts
  unfold startActivity Device.launch
  simp only [OrgJson.getString_last action, OrgJson.nullableString_last packageName,
    OrgJson.nullableString_last component, extras, texts, bind, Except.bind]

theorem queryPackageInfo_lookUp (packageName : Str) (userId : Int) :
    queryPackageInfo device packageName userId = (do
      let (info, label) ← device.lookUp packageName userId
      return info.toJson packageName userId label) := by
  unfold queryPackageInfo Device.lookUp
  cases device.contextAsUser userId with
  | error error => rfl
  | ok _ =>
      cases device.getPackageInfo packageName userId with
      | error error => rfl
      | ok info =>
          obtain ⟨versionName, longVersionCode, applicationInfo⟩ := info
          cases applicationInfo with
          | none => rfl
          | some application =>
              obtain ⟨targetSdkVersion, minSdkVersion, primaryCpuAbi, label, flagSystem⟩ := application
              cases label <;> rfl

theorem attempt_command {command : BridgeCommand} (typed : command.Typed) {members : List (Str × Json)}
    (read : command.toJson = .obj members) (requestId : Int) :
    attempt org device command.type requestId members = (do
      let done ← command.perform device
      writeFrame org (done.toJson requestId)) := by
  cases command with
  | postNotification id notification =>
      obtain ⟨spec, inner⟩ : ∃ spec, notificationJson notification = .obj spec := ⟨_, rfl⟩
      have notified : last members "notification".toList = some (.obj spec) := by cases read; cases inner; rfl
      have posts := @postNotification_json org device _ typed _ inner
      show attempt org device "post_notification".toList requestId members = _
      unfold attempt
      rw [if_pos rfl, OrgJson.getJSONObject_last notified]
      simp only [bind, Except.bind, posts, BridgeCommand.perform]
      cases device.post notification <;> rfl
  | cancelNotification id recordId =>
      have named : last members "record_id".toList = some (.str recordId.text) := by cases read; rfl
      show attempt org device "cancel_notification".toList requestId members = _
      unfold attempt
      rw [if_neg (by decide), if_pos rfl, OrgJson.getString_last named]
      simp only [bind, Except.bind, BridgeCommand.perform, cancelNotification]
      cases device.notificationManager with
      | false => rfl
      | true => cases device.cancel recordId.text (hashCode recordId.text) <;> rfl
  | queryPackageInfo id packageName userId =>
      have named : last members "package_name".toList = some (.str packageName) := by cases read; rfl
      have user : last members "user_id".toList = some (.num userId) := by cases read; rfl
      show attempt org device "query_package_info".toList requestId members = _
      unfold attempt
      rw [if_neg (by decide), if_neg (by decide), if_pos rfl, OrgJson.getString_last named,
        OrgJson.getInt_last user typed]
      simp only [bind, Except.bind, BridgeCommand.perform, queryPackageInfo_lookUp]
      cases device.lookUp packageName userId <;> rfl
  | startActivity id intent userId =>
      obtain ⟨distinct, int⟩ := typed
      obtain ⟨spec, inner⟩ : ∃ spec, intent.toJson = .obj spec := ⟨_, rfl⟩
      have intended : last members "intent".toList = some (.obj spec) := by cases read; cases inner; rfl
      have user : last members "user_id".toList = some (.num userId) := by cases read; rfl
      have starts := @startActivity_json org device _ distinct userId _ inner
      show attempt org device "start_activity".toList requestId members = _
      unfold attempt
      rw [if_neg (by decide), if_neg (by decide), if_neg (by decide), if_pos rfl,
        OrgJson.getJSONObject_last intended, OrgJson.getInt_last user int]
      simp only [bind, Except.bind, starts, BridgeCommand.perform]
      cases device.launch intent userId <;> rfl

theorem type_last {command : BridgeCommand} {members : List (Str × Json)}
    (read : command.toJson = .obj members) :
    last members "type".toList = some (.str command.type) := by
  cases command <;> cases read <;> rfl

theorem requestId_last {command : BridgeCommand} {members : List (Str × Json)}
    (read : command.toJson = .obj members) :
    last members "request_id".toList = some (.num command.requestId.toNat) := by
  cases command <;> cases read <;> rfl

theorem handle_of_attempt {command : BridgeCommand} {members : List (Str × Json)}
    (read : command.toJson = .obj members) (small : command.requestId.toNat < 2 ^ 63) :
    handle org device members = (match attempt org device command.type command.requestId.toNat members with
      | .ok frame => .ok frame
      | .error error => writeFrame org (command.refusal error)) := by
  have long : IsLong command.requestId.toNat := ⟨by omega, by omega⟩
  unfold handle
  simp only [OrgJson.optLong_last (requestId_last read) long, OrgJson.optString_last (type_last read)]
  cases attempt org device command.type command.requestId.toNat members with
  | ok frame => rfl
  | error error =>
      cases command with
      | postNotification id notification =>
          have resultType : Text.contains "notification".toList "post_notification".toList = true := by decide
          have type : (BridgeCommand.postNotification id notification).type = "post_notification".toList := rfl
          simp only [type, if_pos resultType]
          rfl
      | cancelNotification id recordId =>
          have resultType : Text.contains "notification".toList "cancel_notification".toList = true := by decide
          have type : (BridgeCommand.cancelNotification id recordId).type = "cancel_notification".toList := rfl
          simp only [type, if_pos resultType]
          rfl
      | queryPackageInfo id packageName userId =>
          have other : ¬ Text.contains "notification".toList "query_package_info".toList = true := by decide
          have type : (BridgeCommand.queryPackageInfo id packageName userId).type =
              "query_package_info".toList := rfl
          simp only [type, if_neg other]
          rfl
      | startActivity id intent userId =>
          have other : ¬ Text.contains "notification".toList "start_activity".toList = true := by decide
          have type : (BridgeCommand.startActivity id intent userId).type = "start_activity".toList := rfl
          simp only [type, if_neg other]
          rfl

theorem serve_command {command : BridgeCommand} (typed : command.Typed)
    (small : command.requestId.toNat < 2 ^ 63) :
    serve org device command.toJson = command.answer org (command.outcome org device) := by
  obtain ⟨members, read⟩ : ∃ members, command.toJson = .obj members := by cases command <;> exact ⟨_, rfl⟩
  have served : serve org device command.toJson = handle org device members := by rw [read]; rfl
  rw [served, handle_of_attempt read small, attempt_command typed read]
  unfold BridgeCommand.outcome
  cases command.perform device with
  | error error => rfl
  | ok done =>
      simp only [bind, Except.bind, writeFrame]
      by_cases large : org.size (done.toJson command.requestId.toNat) > maxFrameBodyBytes
      · simp only [if_pos large]
        rfl
      · simp only [if_neg large]
        rfl

/-! The daemon reads what the bridge reports. -/

theorem deserialize_reply {name first second third : String} {text : Str}
    {visit : Slots BridgeEvent [first, second, third]} {members : List (Str × Json)} {a b c : Option Json}
    (found : BridgeEvent.variants.find? (·.1.toList = text) = some (name, Serde.fields _ visit))
    (distinct : ("type".toList :: members.map Prod.fst).Nodup)
    (lasts : ([first, second, third].map String.toList).map (last members) = [a, b, c]) :
    BridgeEvent.deserialize (.obj (("type".toList, .str text) :: members)) = visit a b c := by
  obtain ⟨apart, distinct⟩ := List.nodup_cons.mp distinct
  refine (Serde.enum_cons apart found).trans ?_
  rw [Serde.fields_of_nodup visit distinct, lasts]
  rfl

theorem deserialize_posted (requestId : UInt64) (value : Bool) (error : Option Str) : BridgeEvent.deserialize
    (result "notification_result".toList requestId.toNat "posted".toList value error) =
      some (.notificationResult requestId value error) := by
  have distinct : ["type".toList, "request_id".toList, "posted".toList, "error".toList].Nodup := by decide
  rw [result, if_neg (by decide), @deserialize_reply "notification_result" "request_id" "posted" "error" _ _
    [("request_id".toList, .num requestId.toNat), ("posted".toList, .bool value),
      ("error".toList, Json.optional .str error)]
    (some (.num requestId.toNat)) (some (.bool value)) (some (Json.optional .str error)) rfl distinct rfl,
    Serde.required_some, requestId_num, Serde.defaulted_some, option_string]
  rfl

theorem deserialize_launched (requestId : UInt64) (value : Bool) (error : Option Str) : BridgeEvent.deserialize
    (result "activity_result".toList requestId.toNat "launched".toList value error) =
      some (.activityResult requestId value error) := by
  have distinct : ["type".toList, "request_id".toList, "launched".toList, "error".toList].Nodup := by decide
  rw [result, if_neg (by decide), @deserialize_reply "activity_result" "request_id" "launched" "error" _ _
    [("request_id".toList, .num requestId.toNat), ("launched".toList, .bool value),
      ("error".toList, Json.optional .str error)]
    (some (.num requestId.toNat)) (some (.bool value)) (some (Json.optional .str error)) rfl distinct rfl,
    Serde.required_some, requestId_num, Serde.defaulted_some, option_string]
  rfl

theorem deserialize_missing (requestId : UInt64) (error : Str) : BridgeEvent.deserialize
    (result "package_info_result".toList requestId.toNat "launched".toList false (some error)) =
      some (.packageInfoResult requestId none (some error)) := by
  have distinct : ["type".toList, "request_id".toList, "launched".toList, "error".toList,
      "package".toList].Nodup := by
    decide
  refine (@deserialize_reply "package_info_result" "request_id" "package" "error" _ _
    [("request_id".toList, .num requestId.toNat), ("launched".toList, .bool false),
      ("error".toList, .str error), ("package".toList, .null)]
    (some (.num requestId.toNat)) (some .null) (some (.str error)) rfl distinct rfl).trans ?_
  rw [Serde.required_some, requestId_num]
  rfl

theorem deserialize_found (requestId : UInt64) (package : Json) : BridgeEvent.deserialize
    (.obj [("type".toList, .str "package_info_result".toList), ("request_id".toList, .num requestId.toNat),
      ("package".toList, package), ("error".toList, .null)]) =
        (Serde.option packageInfo package).map fun package => .packageInfoResult requestId package none := by
  have distinct : ["type".toList, "request_id".toList, "package".toList, "error".toList].Nodup := by decide
  rw [@deserialize_reply "package_info_result" "request_id" "package" "error" _ _
    [("request_id".toList, .num requestId.toNat), ("package".toList, package), ("error".toList, .null)]
    (some (.num requestId.toNat)) (some package) (some .null) rfl distinct rfl,
    Serde.required_some, requestId_num, Serde.defaulted_some]
  cases Serde.option packageInfo package <;> rfl

theorem option_number {value : Option ApplicationInfo} (field : ApplicationInfo → Int) :
    Serde.option Serde.u32 (Json.optional (fun a => .num (field a)) value) =
      if ∀ a ∈ value, 0 ≤ field a ∧ field a <
        2 ^ 32 then some (value.map fun a => (field a).toNat) else none := by
  cases value with
  | none => simp [Json.optional, Serde.option]
  | some a =>
      have size : (UInt32.size : Int) = 2 ^ 32 := rfl
      show Serde.option Serde.u32 (.num (field a)) = _
      rw [Serde.option_of_ne_null (by simp), Serde.u32, Serde.unsigned, size]
      by_cases within : 0 ≤ field a ∧ field a < 2 ^ 32 <;> simp [within]

def PackageInfo.kept (self : PackageInfo) : BridgePackageInfo where
  versionName := self.versionName
  versionCode := some self.longVersionCode.val
  isSystemApp := self.applicationInfo.any (·.flagSystem)

theorem fields_package (info : PackageInfo) (packageName : Str) (userId : Int) (label : Option Str)
    {members : List (Str × Json)} (read : info.toJson packageName userId label = .obj members) {α : Type}
    (visit : Slots α ["package_name", "user_id", "version_name", "version_code", "target_sdk", "min_sdk",
      "primary_abi", "label", "is_system_app"]) : Serde.fields _ visit members =
        visit (some (.str packageName)) (some (.num userId)) (some (Json.optional .str info.versionName))
          (some (.num info.longVersionCode.val))
          (some (Json.optional (.num ·.targetSdkVersion) info.applicationInfo))
          (some (Json.optional (.num ·.minSdkVersion) info.applicationInfo))
          (some (Json.optional .str (info.applicationInfo.bind (·.primaryCpuAbi))))
          (some (Json.optional .str label)) (some (.bool (info.applicationInfo.any (·.flagSystem)))) := by
  have distinct : ["package_name".toList, "user_id".toList, "version_name".toList, "version_code".toList,
    "target_sdk".toList, "min_sdk".toList, "primary_abi".toList, "label".toList,
    "is_system_app".toList].Nodup := by decide
  have distinct : (members.map Prod.fst).Nodup := by
    cases read
    exact distinct
  rw [Serde.fields_of_nodup visit distinct]
  cases read
  rfl

theorem packageInfo_toJson (info : PackageInfo) (packageName : Str) {userId : Int} (int : IsInt userId)
    (label : Option Str) : packageInfo (info.toJson packageName userId label) =
      if (Done.found packageName userId info label).Readable then some
        (packageName, userId, info.kept) else none := by
  have name : Serde.string (.str packageName) = some packageName := rfl
  have user : Serde.i32 (.num userId) = some userId := if_pos int
  have code : Serde.option Serde.i64 (.num info.longVersionCode.val) = some (some info.longVersionCode) := by
    rw [Serde.option_of_ne_null (by simp), Serde.i64, I64.ofInt?_val, Option.map_some]
  obtain ⟨members, read⟩ : ∃ members, info.toJson packageName userId label = .obj members := ⟨_, rfl⟩
  rw [read, packageInfo, Serde.struct, fields_package info packageName userId label read]
  simp only [Serde.required_some, Serde.defaulted_some]
  rw [name, user, option_string, code, option_string, option_string, option_number, option_number]
  by_cases target : ∀ a ∈ info.applicationInfo, 0 ≤ a.targetSdkVersion ∧ a.targetSdkVersion < 2 ^ 32
  · by_cases least : ∀ a ∈ info.applicationInfo, 0 ≤ a.minSdkVersion ∧ a.minSdkVersion < 2 ^ 32
    · have readable : (Done.found packageName userId info label).Readable :=
        fun a there => ⟨target a there, least a there⟩
      rw [if_pos target, if_pos least, if_pos readable]
      rfl
    · have unreadable : ¬(Done.found packageName userId info label).Readable :=
        fun readable => least fun a there => (readable a there).2
      rw [if_pos target, if_neg least, if_neg unreadable]
      rfl
  · have unreadable : ¬(Done.found packageName userId info label).Readable :=
      fun readable => target fun a there => (readable a there).1
    rw [if_neg target, if_neg unreadable]
    rfl

theorem deserialize_refusal (command : BridgeCommand) (error : Str) :
    BridgeEvent.deserialize (command.refusal error) = some (command.event (.error error)) := by
  cases command with
  | postNotification requestId notification => exact deserialize_posted requestId false (some error)
  | cancelNotification requestId recordId => exact deserialize_posted requestId false (some error)
  | queryPackageInfo requestId packageName userId => exact deserialize_missing requestId error
  | startActivity requestId intent userId => exact deserialize_launched requestId false (some error)

theorem return_eq_ok {ε α β : Type} {first : Except ε α} {f : α → β} {b : β}
    (returned : (do return f (← first)) = Except.ok b) : ∃ a, first = .ok a ∧ f a = b := by
  cases first with
  | error error => cases returned
  | ok a => exact ⟨a, rfl, Except.ok.inj returned⟩

theorem deserialize_done {command : BridgeCommand} (typed : command.Typed) {done : Done}
    (performed : command.perform device = .ok done) :
    BridgeEvent.deserialize (done.toJson command.requestId.toNat) =
      if done.Readable then some (command.event (.ok done)) else none := by
  cases command with
  | postNotification requestId notification =>
      obtain ⟨-, -, rfl⟩ := return_eq_ok performed
      exact deserialize_posted requestId true none
  | cancelNotification requestId recordId =>
      have posted : done = .posted := by
        simp only [BridgeCommand.perform] at performed
        split at performed
        · obtain ⟨-, -, rfl⟩ := return_eq_ok performed
          rfl
        · exact (Except.ok.inj performed).symm
      rw [posted]
      exact deserialize_posted requestId true none
  | queryPackageInfo requestId packageName userId =>
      obtain ⟨⟨info, label⟩, -, rfl⟩ := return_eq_ok performed
      refine (deserialize_found requestId _).trans ?_
      rw [Serde.option_of_ne_null (by simp [PackageInfo.toJson]), packageInfo_toJson info packageName typed]
      by_cases readable : (Done.found packageName userId info label).Readable
      · rw [if_pos readable, if_pos readable]
        rfl
      · rw [if_neg readable, if_neg readable]
        rfl
  | startActivity requestId intent userId =>
      obtain ⟨-, -, rfl⟩ := return_eq_ok performed
      exact deserialize_launched requestId true none

theorem outcome_ok {command : BridgeCommand} {done : Done} (came : command.outcome org device = .ok done) :
    command.perform device = .ok done ∧ org.size (done.toJson command.requestId.toNat) ≤ maxFrameBodyBytes := by
  unfold BridgeCommand.outcome at came
  cases performed : command.perform device with
  | error error =>
      rw [performed] at came
      cases came
  | ok made =>
      rw [performed] at came
      simp only at came
      split at came
      next => cases came
      next fits =>
        cases came
        exact ⟨rfl, Nat.not_lt.mp fits⟩

theorem outcome_error {command : BridgeCommand} {error : Str}
    (came : command.outcome org device = .error error) :
    command.perform device = .error error ∨ error = frameTooLarge := by
  unfold BridgeCommand.outcome at came
  cases performed : command.perform device with
  | error thrown =>
      rw [performed] at came
      exact .inl came
  | ok made =>
      rw [performed] at came
      simp only at came
      split at came
      next => exact .inr (Except.error.inj came).symm
      next => cases came

theorem deserialize_answer {command : BridgeCommand} (typed : command.Typed) {frame : Json}
    (answered : command.answer org (command.outcome org device) = .ok frame) :
    org.size frame ≤ maxFrameBodyBytes ∧ BridgeEvent.deserialize frame =
      if ReadableOutcome (command.outcome org device) then some (command.event (command.outcome org device))
      else none := by
  cases came : command.outcome org device with
  | ok done =>
      rw [came] at answered
      obtain ⟨performed, fits⟩ := outcome_ok came
      cases answered
      exact ⟨fits, deserialize_done typed performed⟩
  | error error =>
      rw [came] at answered
      have answered : writeFrame org (command.refusal error) = .ok frame := answered
      unfold writeFrame at answered
      split at answered
      next => cases answered
      next fits =>
        cases answered
        exact ⟨Nat.not_lt.mp fits, deserialize_refusal command error⟩

theorem size_result (type : Str) (requestId : UInt64) (booleanField : Str) (error : Str) :
    Utf8.size (result type requestId.toNat booleanField false (some error)).compact ≤
      Json.escapedSize type + Json.escapedSize booleanField + Json.escapedSize error + 100 := by
  have number : Json.digits requestId.toNat ≤ 20 :=
    Json.digits_natCast_le (by decide) (Nat.lt_of_lt_of_le requestId.toNat_lt (by decide))
  have names : Json.escapedSize "type".toList = 4 ∧ Json.escapedSize "request_id".toList = 10 ∧
    Json.escapedSize "error".toList = 5 ∧ Json.escapedSize "package".toList = 7 := by decide
  obtain ⟨type', id', error', package'⟩ := names
  unfold result
  split
  · rw [size_compact_obj]
    simp only [List.map_cons, List.map_nil, List.cons_append, List.nil_append, frameSize, total,
      List.length_cons, List.length_nil, size_compact_str, size_compact_num, size_compact_bool, boolSize,
      size_compact_optional, optionalSize, size_compact_null, type', id', error', package', Bool.false_eq_true,
      if_false]
    omega
  · rw [size_compact_obj]
    simp only [List.map_cons, List.map_nil, frameSize, total, List.length_cons, List.length_nil,
      size_compact_str, size_compact_num, size_compact_bool, boolSize, size_compact_optional, optionalSize,
      type', id', error', Bool.false_eq_true, if_false]
    omega

theorem refusal_small (org : OrgJson) (command : BridgeCommand) {error : Str}
    (short : Json.escapedSize error ≤ 500000) : org.size (command.refusal error) ≤ maxFrameBodyBytes := by
  have within := org.size_le (command.refusal error)
  have most : maxFrameBodyBytes = 1048576 := rfl
  have types : Json.escapedSize "notification_result".toList ≤ 50 ∧
    Json.escapedSize "package_info_result".toList ≤ 50 ∧
      Json.escapedSize "activity_result".toList ≤ 50 := by decide
  have fields : Json.escapedSize "posted".toList ≤ 50 ∧ Json.escapedSize "launched".toList ≤ 50 := by decide
  suffices Utf8.size (command.refusal error).compact ≤ 500300 by omega
  cases command with
  | postNotification id notification =>
      exact (size_result "notification_result".toList id "posted".toList error).trans (by omega)
  | cancelNotification id recordId =>
      exact (size_result "notification_result".toList id "posted".toList error).trans (by omega)
  | queryPackageInfo id packageName userId =>
      exact (size_result "package_info_result".toList id "launched".toList error).trans (by omega)
  | startActivity id intent userId =>
      exact (size_result "activity_result".toList id "launched".toList error).trans (by omega)

theorem answer_error_iff {command : BridgeCommand} :
    (∃ error, command.answer org (command.outcome org device) = .error error) ↔
      ∃ error, command.perform device = .error error ∧
        maxFrameBodyBytes < org.size (command.refusal error) := by
  constructor
  · rintro ⟨failure, failed⟩
    cases came : command.outcome org device with
    | ok done =>
        rw [came] at failed
        cases failed
    | error error =>
        rw [came] at failed
        have failed : writeFrame org (command.refusal error) = .error failure := failed
        unfold writeFrame at failed
        split at failed
        next large =>
          rcases outcome_error came with thrown | rfl
          · exact ⟨error, thrown, large⟩
          · exact absurd (refusal_small org command (by decide)) (Nat.not_le.mpr large)
        next => cases failed
  · rintro ⟨error, thrown, large⟩
    refine ⟨frameTooLarge, ?_⟩
    have came : command.outcome org device = .error error := by
      unfold BridgeCommand.outcome
      rw [thrown]
    rw [came]
    exact if_pos large

/-- Whatever the daemon asks of the bridge, it learns what Android did about it: the frame that comes back is no
larger than it reads, carries the command's own id under the type the request waits for, and says what came of
the command; one that it cannot read stands for a package with a negative version of the system. -/
theorem bridge_reports (org : OrgJson) (device : Device) {command : BridgeCommand} (typed : command.Typed)
    (small : command.requestId.toNat < 2 ^ 63) :
    (∀ frame, serve org device command.toJson = .ok frame → org.size frame ≤ maxFrameBodyBytes ∧
      BridgeEvent.deserialize frame =
        if ReadableOutcome (command.outcome org device) then some (command.event (command.outcome org device))
        else none) ∧
    ((∃ error, serve org device command.toJson = .error error) ↔
      ∃ error, command.perform device = .error error ∧
        maxFrameBodyBytes < org.size (command.refusal error)) := by
  rw [serve_command typed small]
  exact ⟨fun frame answered => deserialize_answer typed answered, answer_error_iff⟩

def emptyDevice : Device where
  sdkInt := 35
  notificationManager := true
  createNotificationChannel := .ok ()
  contextAsUser _ := .ok ()
  applicationLabel _ _ := .ok none
  getActivity _ := .ok ()
  notify _ _ _ := .ok ()
  cancel _ _ := .ok ()
  getPackageInfo packageName _ :=
    .error ("android.content.pm.PackageManager$NameNotFoundException: ".toList ++ packageName)
  startActivity _ _ := .ok ()

theorem bridge_reports_missing_package :
    let command := BridgeCommand.queryPackageInfo 7 "app".toList 0
    (∀ frame, serve .plain emptyDevice command.toJson = .ok frame →
      OrgJson.plain.size frame ≤ maxFrameBodyBytes ∧ BridgeEvent.deserialize frame =
        if ReadableOutcome (command.outcome .plain emptyDevice) then
          some (command.event (command.outcome .plain emptyDevice))
        else none) ∧
    ((∃ error, serve .plain emptyDevice command.toJson = .error error) ↔
      ∃ error, command.perform emptyDevice = .error error ∧
        maxFrameBodyBytes < OrgJson.plain.size (command.refusal error)) :=
  bridge_reports .plain emptyDevice (show IsInt 0 by decide) (by decide)

end CrashCatcher.Bridge
