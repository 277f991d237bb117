import CrashCatcher.Daemon.Core

namespace CrashCatcher.Config
open Lib Lib.Utf8 Fallible

namespace ConfigStore
variable (self : ConfigStore)

def Readable (files : Str → Option (List UInt8)) : Prop :=
  ∀ bytes, files self.fileName = some bytes →
    ∃ text, fromUtf8 bytes = some text ∧ (self.serde.fromStr text).isSome

variable {self}

theorem parse_of_readable {files : Str → Option (List UInt8)} (readable : self.Readable files) :
    ∃ config, self.parse files = .ok config := by
  unfold parse
  cases content : files self.fileName with
  | none => exact ⟨{}, rfl⟩
  | some bytes =>
      obtain ⟨text, valid, decodes⟩ := readable bytes content
      obtain ⟨document, decoded⟩ := Option.isSome_iff_exists.mp decodes
      exact ⟨document.normalized, by simp only [valid, decoded]⟩

theorem readable_of_parse {files : Str → Option (List UInt8)} {config : ConfigDocument}
    (parsed : self.parse files = .ok config) : self.Readable files := by
  intro bytes content
  unfold parse at parsed
  rw [content] at parsed
  cases valid : fromUtf8 bytes with
  | none =>
      simp only [valid] at parsed
      cases parsed
  | some text =>
      refine ⟨text, rfl, ?_⟩
      cases decoded : self.serde.fromStr text with
      | none =>
          simp only [valid, decoded] at parsed
          cases parsed
      | some document => rfl

theorem load_working (files : Str → Option (List UInt8)) :
    self.load (.working files) = (self.parse files, .working files) := rfl

private theorem rename_working {files : Str → Option (List UInt8)} {source target : Str}
    {content : List UInt8} (present : files source = some content) :
    rename source target (.working files) =
      (.ok (), ((Disk.working files).put source none).put target (some content)) := by
  unfold rename
  have ready : (Disk.working files).files source = some content := present
  simp only [bind_run, Fallible.get, ready]
  rfl

theorem save_working (document : ConfigDocument) {json : Str} (files : Str → Option (List UInt8))
    (printed : self.serde.toStringPretty document.normalized = some json) :
    ∃ disk, self.save document (.working files) = (.ok (), disk) := by
  let bytes := encode (json ++ ['\n'])
  let written := Function.update (Function.update files self.tempName (some [])) self.tempName (some bytes)
  have present : written self.tempName = some bytes := Function.update_self _ _ _
  have created : createDirAll (.working files) = (.ok (), .working files) := rfl
  have opened : createFile self.tempName (.working files) =
      (.ok (), .working (Function.update files self.tempName (some []))) := rfl
  have wrote : writeAll self.tempName bytes (.working (Function.update files self.tempName (some []))) =
      (.ok (), .working written) := rfl
  have synced : syncAll (.working written) = (.ok (), .working written) := rfl
  refine ⟨((Disk.working written).put self.tempName none).put self.fileName (some bytes), ?_⟩
  unfold save
  rw [printed]
  exact (bind_of_ok created).trans ((bind_of_ok opened).trans ((bind_of_ok wrote).trans
    ((bind_of_ok synced).trans (rename_working present))))

theorem update_working {files : Str → Option (List UInt8)} (mutate : ConfigDocument → ConfigDocument)
    {config : ConfigDocument} (parsed : self.parse files = .ok config)
    (prints : (self.serde.toStringPretty (mutate config).normalized.normalized).isSome) :
    ∃ document disk, self.update mutate (.working files) = (.ok document, disk) := by
  have loaded : self.loadOrRecover (.working files) = (.ok config, .working files) := by
    unfold loadOrRecover Fallible.recover
    rw [load_working, parsed]
  obtain ⟨json, printed⟩ := Option.isSome_iff_exists.mp prints
  obtain ⟨disk, saved⟩ := save_working (mutate config).normalized files printed
  refine ⟨(mutate config).normalized, disk, ?_⟩
  unfold update
  rw [bind_of_ok loaded, bind_of_ok saved]
  rfl

end ConfigStore
end CrashCatcher.Config

namespace CrashCatcher.Daemon
open Lib Model Config Store Fallible

def FromStore (error : CoreError) : Prop := ∃ reason, error = .store reason

def FailsInStoreOnly {α : Type} (m : CoreM α) (state : CoreState) : Prop :=
  ∀ error after, m state = (.error error, after) → FromStore error

structure SurvivesConfig (core : DaemonCore) (files : Str → Option (List UInt8)) : Prop where
  starts : ∀ state, state.disk = .working files → FailsInStoreOnly core.clearVolatileMutes state
  records : ∀ state record sourceKeys clock, state.disk = .working files →
    FailsInStoreOnly (core.ingestWithSources record sourceKeys clock) state
  movesAside : ∀ state, state.disk = .working files → ¬ core.configStore.Readable files →
    (core.clearVolatileMutes state).2.disk.files core.configStore.corruptName =
      files core.configStore.fileName

section
variable {α β : Type} {disk : Disk}

def Sheltered (disk : Disk) (m : CoreM α) (after : Disk → Prop) : Prop :=
  Holds (fun state => state.disk = disk) m (fun _ state => after state.disk) fun error _ => FromStore error

theorem Sheltered.failsInStoreOnly {m : CoreM α} {after : Disk → Prop} (sheltered : Sheltered disk m after)
    {state : CoreState} (same : state.disk = disk) : FailsInStoreOnly m state :=
  fun _ _ failed => sheltered.error same failed

theorem Sheltered.bind {m : CoreM α} {f : α → CoreM β} {after : Disk → Prop}
    (first : Sheltered disk m (· = disk)) (next : ∀ a, Sheltered disk (f a) after) :
    Sheltered disk (m >>= f) after :=
  Holds.bind first next

theorem Sheltered.pure {after : Disk → Prop} (a : α) (same : after disk) :
    Sheltered disk (Pure.pure a : CoreM α) after :=
  Holds.pure fun _ here => here ▸ same

theorem Sheltered.get : Sheltered disk (Fallible.get : CoreM CoreState) (· = disk) :=
  Holds.get fun _ same => same

theorem Sheltered.update {f : CoreState → CoreState} (keeps : ∀ state, (f state).disk = state.disk) :
    Sheltered disk (Fallible.update f : CoreM Unit) (· = disk) :=
  Holds.update fun state same => (keeps state).trans same

theorem Sheltered.ite {p : Prop} [Decidable p] {m m' : CoreM α} {after : Disk → Prop}
    (yes : Sheltered disk m after) (no : Sheltered disk m' after) :
    Sheltered disk (if p then m else m') after := by
  split
  · exact yes
  · exact no

theorem Sheltered.onStore (m : StoreM α) : Sheltered disk (onStore m) (· = disk) := by
  intro state same
  unfold Daemon.onStore zoom
  rcases m state.world with ⟨result, world⟩
  cases result with
  | ok a => exact same
  | error error => exact ⟨error, rfl⟩

theorem Sheltered.onDisk {m : ConfigM α} {a : α} {next : Disk} (ran : m disk = (.ok a, next)) :
    Sheltered disk (onDisk m) (· = next) := by
  rintro state rfl
  unfold Daemon.onDisk zoom
  simp only [ran]
  rfl

theorem Sheltered.forM {items : List β} {body : β → CoreM PUnit}
    (step : ∀ item, Sheltered disk (body item) (· = disk)) : Sheltered disk (items.forM body) (· = disk) :=
  let unchanged (_ : List β) (state : CoreState) : Prop := state.disk = disk
  Holds.forM unchanged fun item _ => step item

theorem Sheltered.notify (record : CrashRecord) (inserted : Inserted) (mode : NotifyMode) :
    Sheltered disk (notify record inserted mode) (· = disk) := by
  cases mode with
  | nothing => exact .pure () rfl
  | dialog => exact .update fun _ => rfl
  | notification => exact .update fun _ => rfl
  | toast => exact .update fun _ => rfl

end

namespace DaemonCore
variable (self : DaemonCore) {files : Str → Option (List UInt8)} {config : ConfigDocument}

theorem recordCrash_sheltered (disk : Disk) (config : ConfigDocument) (record : CrashRecord)
    (sourceKeys : List Str) (clock : Nat → I64) :
    Sheltered disk (self.recordCrash config record sourceKeys clock) (· = disk) := by
  refine (Sheltered.onStore _).bind fun inserted => (Sheltered.onStore _).bind fun _ => ?_
  refine Sheltered.bind (Sheltered.update fun _ => rfl) fun _ => ?_
  have alerted : Sheltered disk (alert config record inserted) (· = disk) :=
    Sheltered.get.bind fun _ => .ite (.notify record inserted _) (.pure () rfl)
  exact alerted.bind fun _ => .pure inserted rfl

theorem ingest_sheltered (parsed : self.configStore.parse files = .ok config) (record : CrashRecord)
    (sourceKeys : List Str) (clock : Nat → I64) :
    Sheltered (.working files) (self.ingestWithSources record sourceKeys clock) (· = .working files) := by
  have loaded : self.configStore.load (.working files) = (.ok config, .working files) := by
    rw [ConfigStore.load_working, parsed]
  refine Sheltered.get.bind fun state => (Sheltered.onDisk loaded).bind fun _ => .ite ?_ ?_
  · refine (Sheltered.onStore _).bind fun found => ?_
    cases found with
    | some existing => exact (Sheltered.onStore _).bind fun _ => .pure _ rfl
    | none => exact (self.recordCrash_sheltered _ _ _ _ _).bind fun _ => .pure _ rfl
  · exact (Sheltered.onStore _).bind fun _ => .pure _ rfl

theorem unmuteListed_sheltered (prints : ∀ document, (self.configStore.serde.toStringPretty document).isSome)
    (parsed : self.configStore.parse files = .ok config) (cleared : List Str) :
    Sheltered (.working files) (self.unmuteListed cleared) fun _ => True := by
  refine Sheltered.ite (.pure 0 trivial) (Sheltered.bind ?_ fun _ => ?_)
  · exact Sheltered.forM fun package => (Sheltered.onStore _).bind fun _ => .pure _ rfl
  · obtain ⟨document, disk, updated⟩ := ConfigStore.update_working
      (fun document => cleared.foldl clearMute document) parsed (prints _)
    have reported : Sheltered disk (do perform .configChanged; pure cleared.length) fun _ => True :=
      Sheltered.bind (.update fun _ => rfl) fun _ => .pure _ trivial
    exact Holds.bind (Sheltered.onDisk updated) fun _ => reported

theorem clearMutes_sheltered (prints : ∀ document, (self.configStore.serde.toStringPretty document).isSome)
    (parsed : self.configStore.parse files = .ok config)
    (forgets : MuteScope → Bool) :
    Sheltered (.working files) (self.clearMutes forgets) fun _ => True := by
  have loaded : self.configStore.load (.working files) = (.ok config, .working files) := by
    rw [ConfigStore.load_working, parsed]
  refine (Sheltered.onDisk loaded).bind fun _ => Sheltered.get.bind fun state => ?_
  exact Sheltered.bind (Sheltered.update fun _ => rfl) fun _ => self.unmuteListed_sheltered prints parsed _

/-- With a JSON library that prints every document, the daemon survives a configuration file exactly
when it can read it. -/
theorem survives_iff_readable (prints : ∀ document, (self.configStore.serde.toStringPretty document).isSome)
    (files : Str → Option (List UInt8)) :
    SurvivesConfig self files ↔ self.configStore.Readable files := by
  constructor
  · intro survives
    cases parsed : self.configStore.parse files with
    | ok config => exact ConfigStore.readable_of_parse parsed
    | error error =>
        let state := CoreState.fresh.setDisk (.working files)
        have unread : self.configStore.load state.disk = (.error error, state.disk) := by
          rw [← parsed]
          rfl
        have loaded : self.loadConfig state = (.error (.config error), state) := by
          unfold loadConfig onDisk zoom
          simp only [unread]
          rfl
        have failed : self.clearVolatileMutes state = (.error (.config error), state) := by
          refine bind_of_error ?_
          exact bind_of_error loaded
        obtain ⟨_, impossible⟩ := survives.starts state rfl _ _ failed
        cases impossible
  · intro readable
    obtain ⟨config, parsed⟩ := ConfigStore.parse_of_readable readable
    refine ⟨fun state same => ?_, fun state record sourceKeys clock same => ?_, fun _ _ unread => ?_⟩
    · have cleared : Sheltered (.working files) self.clearVolatileMutes fun _ => True :=
        Holds.bind (self.clearMutes_sheltered prints parsed _) fun _ => Holds.pure fun _ _ => trivial
      exact cleared.failsInStoreOnly same
    · exact (self.ingest_sheltered parsed record sourceKeys clock).failsInStoreOnly same
    · exact absurd readable unread

theorem missing_config_is_survived : SurvivesConfig (plain .printing) fun _ => none :=
  ((plain .printing).survives_iff_readable (fun _ => rfl) fun _ => none).mpr nofun

def invalidConfig (name : Str) : Option (List UInt8) :=
  if name = "config.json".toList then some [0xFF] else none

/-- Invalid UTF-8 keeps the daemon from starting, however its JSON library reads a text. -/
theorem invalid_config_is_not_survived :
    ¬ ∃ fromStr, SurvivesConfig (plain { Serde.printing with fromStr }) invalidConfig := by
  rintro ⟨fromStr, survives⟩
  have readable := ((plain { Serde.printing with fromStr }).survives_iff_readable (fun _ => rfl)
    invalidConfig).mp survives
  obtain ⟨text, valid, -⟩ := readable [0xFF] rfl
  have invalid : Utf8.fromUtf8 [0xFF] = none := by decide
  rw [invalid] at valid
  cases valid

end DaemonCore
end CrashCatcher.Daemon
