import Mathlib.Logic.Function.Basic
import CrashCatcher.Config.Document
import CrashCatcher.Lib.Fallible
import CrashCatcher.Lib.Utf8

namespace CrashCatcher.Config
open Lib Lib.Utf8 Fallible

structure Serde where
  fromStr : Str → Option ConfigDocument
  toStringPretty : ConfigDocument → Option Str

def Serde.printing : Serde where
  fromStr _ := none
  toStringPretty document := some (Json.pretty 0 document.toJson)

inductive ConfigError where
  | io
  | parse
  | serialize
deriving DecidableEq

/-- The files beside the configuration, and which of the next steps on them fail: `some n` stops a
write after `n` bytes. -/
structure Disk where
  files : Str → Option (List UInt8)
  faults : Nat → Option Nat

namespace Disk

def popFault (disk : Disk) : Disk := { disk with faults := fun n => disk.faults (n + 1) }
def put (disk : Disk) (name : Str) (content : Option (List UInt8)) : Disk :=
  { disk with files := Function.update disk.files name content }

def working (files : Str → Option (List UInt8)) : Disk := { files, faults := fun _ => none }

end Disk

abbrev ConfigM := Fallible Disk ConfigError

def fileStep (step : Disk → Disk) (partway : Nat → Disk → Disk) : ConfigM Unit := fun disk =>
  match disk.faults 0 with
  | none => (.ok (), step disk.popFault)
  | some n => (.error .io, partway n disk.popFault)

def createDirAll : ConfigM Unit := fileStep id fun _ disk => disk
def createFile (name : Str) : ConfigM Unit := fileStep (·.put name (some [])) fun _ disk => disk
def syncAll : ConfigM Unit := fileStep id fun _ disk => disk

def writeAll (name : Str) (bytes : List UInt8) : ConfigM Unit :=
  fileStep (·.put name (some bytes)) fun n disk => disk.put name (some (bytes.take n))

def rename (source target : Str) : ConfigM Unit := do
  let disk ← Fallible.get
  match disk.files source with
  | none => Fallible.fail .io
  | some content =>
      fileStep (fun disk => (disk.put source none).put target (some content)) fun _ disk => disk

structure ConfigStore where
  fileName : Str
  serde : Serde

namespace ConfigStore
variable (self : ConfigStore)

def corruptName : Str := self.fileName ++ ".corrupt".toList
def tempName : Str := '.' :: self.fileName ++ ".tmp".toList

def parse (files : Str → Option (List UInt8)) : Except ConfigError ConfigDocument :=
  match files self.fileName with
  | none => .ok {}
  | some bytes => match fromUtf8 bytes with
    | none => .error .io
    | some text => match self.serde.fromStr text with
      | none => .error .parse
      | some document => .ok document.normalized

def load : ConfigM ConfigDocument := fun disk =>
  match disk.faults 0 with
  | some _ => (.error .io, disk.popFault)
  | none => (self.parse disk.files, disk.popFault)

def quarantine : ConfigM Unit :=
  (rename self.fileName self.corruptName).recover fun _ => pure ()

def loadOrRecover : ConfigM ConfigDocument :=
  self.load.recover fun _ => do
    self.quarantine
    pure {}

def save (document : ConfigDocument) : ConfigM Unit :=
  match self.serde.toStringPretty document.normalized with
  | none => Fallible.fail .serialize
  | some json => do
      createDirAll
      createFile self.tempName
      writeAll self.tempName (encode (json ++ ['\n']))
      syncAll
      rename self.tempName self.fileName

def update (mutate : ConfigDocument → ConfigDocument) : ConfigM ConfigDocument := do
  let document ← self.loadOrRecover
  let document := (mutate document).normalized
  self.save document
  pure document

def ReadsBack : Prop :=
  ∀ (document : ConfigDocument) (json : Str),
    self.serde.toStringPretty document.normalized = some json →
      self.serde.fromStr (json ++ ['\n']) = some document.normalized

variable {self}

theorem load_of_reads {disk : Disk} (reads : disk.faults 0 = none) :
    self.load disk = (self.parse disk.files, disk.popFault) := by
  unfold load
  rw [reads]

theorem load_ok {disk after : Disk} {config : ConfigDocument}
    (loaded : self.load disk = (.ok config, after)) :
    self.parse disk.files = .ok config ∧ after = disk.popFault := by
  unfold load at loaded
  cases fault : disk.faults 0 with
  | none =>
      rw [fault] at loaded
      injection loaded with parsed same
      exact ⟨parsed, same.symm⟩
  | some n =>
      rw [fault] at loaded
      cases loaded

theorem load_error {disk after : Disk} {error : ConfigError}
    (failed : self.load disk = (.error error, after)) : after = disk.popFault := by
  unfold load at failed
  cases fault : disk.faults 0 <;> rw [fault] at failed <;> injection failed with _ same <;> exact same.symm

private theorem fileStep_holds {pre : Disk → Prop} {step : Disk → Disk} {partway : Nat → Disk → Disk}
    {post : Disk → Prop} (done : ∀ disk, pre disk → post (step disk.popFault)) :
    Holds pre (fileStep step partway) (fun _ => post) fun _ _ => True := by
  intro disk holds
  unfold fileStep
  cases disk.faults 0 with
  | none => exact done disk holds
  | some n => trivial

private theorem rename_holds {source target : Str} {content : List UInt8} :
    Holds (fun disk => disk.files source = some content) (rename source target)
      (fun _ disk => disk.files target = some content) fun _ _ => True := by
  intro disk holds
  unfold rename
  simp only [bind_run, Fallible.get, holds]
  exact @fileStep_holds (fun _ => True) _ _ _ (fun _ _ => Function.update_self _ _ _) disk trivial

theorem save_holds (document : ConfigDocument) :
    Holds (fun _ => True) (self.save document)
      (fun _ disk => ∃ json, self.serde.toStringPretty document.normalized = some json ∧
        disk.files self.fileName = some (encode (json ++ ['\n']))) fun _ _ => True := by
  unfold save
  cases printed : self.serde.toStringPretty document.normalized with
  | none => exact Holds.fail fun _ _ => trivial
  | some json =>
      let bytes := encode (json ++ ['\n'])
      let anyDisk : Disk → Prop := fun _ => True
      let written : Disk → Prop := fun disk => disk.files self.tempName = some bytes
      have created : Holds anyDisk createDirAll (fun _ => anyDisk) fun _ _ => True :=
        fileStep_holds fun _ _ => trivial
      have opened : Holds anyDisk (createFile self.tempName) (fun _ => anyDisk) fun _ _ => True :=
        fileStep_holds fun _ _ => trivial
      have wrote : Holds anyDisk (writeAll self.tempName bytes) (fun _ => written) fun _ _ => True :=
        fileStep_holds fun _ _ => Function.update_self _ _ _
      have synced : Holds written syncAll (fun _ => written) fun _ _ => True :=
        fileStep_holds fun _ holds => holds
      refine created.bind fun _ => opened.bind fun _ => wrote.bind fun _ => synced.bind fun _ => ?_
      exact rename_holds.consequence (fun _ holds => holds) (fun _ _ renamed => ⟨json, rfl, renamed⟩)
        fun _ _ lost => lost

/-- An update starts from the stored configuration, or from the defaults when it fails to read it. -/
def StartsFrom (disk : Disk) (config start : ConfigDocument) : Prop :=
  start = config ∨ disk.faults 0 ≠ none ∧ start = {}

theorem loadOrRecover_ok {disk after : Disk} {config start : ConfigDocument}
    (parsed : self.parse disk.files = .ok config) (loaded : self.loadOrRecover disk = (.ok start, after)) :
    StartsFrom disk config start := by
  unfold loadOrRecover Fallible.recover at loaded
  cases fault : disk.faults 0 with
  | none =>
      rw [load_of_reads fault, parsed] at loaded
      cases loaded
      exact .inl rfl
  | some n =>
      have failed : self.load disk = (.error .io, disk.popFault) := by
        unfold load
        rw [fault]
      rw [failed] at loaded
      refine .inr ⟨by rw [fault]; exact nofun, ?_⟩
      rcases moved : self.quarantine disk.popFault with ⟨result, disk'⟩
      cases result with
      | error error =>
          simp only [bind_of_error moved] at loaded
          cases loaded
      | ok _ =>
          simp only [bind_of_ok moved] at loaded
          cases loaded
          rfl

theorem update_ok (readsBack : self.ReadsBack) {mutate : ConfigDocument → ConfigDocument}
    {disk after : Disk} {config document : ConfigDocument} (parsed : self.parse disk.files = .ok config)
    (updated : self.update mutate disk = (.ok document, after)) :
    ∃ start, StartsFrom disk config start ∧ document = (mutate start).normalized ∧
      self.parse after.files = .ok document := by
  unfold update at updated
  rcases loaded : self.loadOrRecover disk with ⟨result, disk'⟩
  cases result with
  | error error =>
      rw [bind_of_error loaded] at updated
      cases updated
  | ok start =>
      rw [bind_of_ok loaded] at updated
      refine ⟨start, loadOrRecover_ok parsed loaded, ?_⟩
      rcases saved : self.save (mutate start).normalized disk' with ⟨result, disk''⟩
      cases result with
      | error error =>
          rw [bind_of_error saved] at updated
          cases updated
      | ok _ =>
          rw [bind_of_ok saved] at updated
          injection updated with answered same
          cases answered
          cases same
          refine ⟨rfl, ?_⟩
          obtain ⟨json, printed, written⟩ := (save_holds _).ok trivial saved
          rw [ConfigDocument.normalized_normalized] at printed
          unfold parse
          simp only [written, fromUtf8_encode, readsBack (mutate start) json printed,
            ConfigDocument.normalized_normalized]

end ConfigStore
end CrashCatcher.Config
