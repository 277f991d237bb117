import CrashCatcher.Lib.Path
import CrashCatcher.Lib.Gather
import CrashCatcher.Lib.Utf8
import CrashCatcher.Watch.Discovery

namespace CrashCatcher.Watch
open Lib

inductive IoErrorKind where
  | notFound
  | wouldBlock
  | other
deriving DecidableEq

structure IoError where
  kind : IoErrorKind
  message : Str
deriving DecidableEq

inductive WatcherError where
  | io (path : Str) (source : IoError)
  | notAFile (path : Str)
  | invalidName (path : Str)
  | beforeUnixEpoch (path : Str)
  | registry (message : Str)
  | malformedEvent (message : Str)
  | inotify (source : IoError)
deriving DecidableEq

/-- What `stat` tells of a file; its time may lie before the epoch, or be unknown. -/
structure Metadata where
  isFile : Bool
  modified : Except IoError Int
  len : Nat

/-- What the file system answers. A name in a listing is any sequence of bytes. -/
structure FileSystem where
  readDir : Str → Except IoError (List (Except IoError (List UInt8)))
  metadata : Str → Except IoError Metadata

namespace FileSystem

def isFile (self : FileSystem) (path : Str) : Bool :=
  match self.metadata path with
  | .ok m => m.isFile
  | .error _ => false

def sourceIdentity (self : FileSystem) (kind : WatchKind) (path : Str) : Except WatcherError SourceIdentity :=
  match self.metadata path with
  | .error source => .error (.io path source)
  | .ok m =>
      if !m.isFile then .error (.notAFile path)
      else match m.modified with
        | .error source => .error (.io path source)
        | .ok ns =>
            if ns < 0 then .error (.beforeUnixEpoch path)
            else match Path.fileName path with
              | none => .error (.invalidName path)
              | some name => .ok (Watch.sourceIdentity kind ⟨0, name, m.len, ns.toNat⟩)

/-- The name of a tombstone has no extension, so that of its protobuf form is appended. -/
def discover (self : FileSystem) (kind : WatchKind) (path : Str) :
    Except WatcherError (Option DiscoveredSource) :=
  match self.sourceIdentity kind path with
  | .ok identity =>
      let proto := path ++ ".pb".toList
      let preferredPath := if kind = .tombstone && self.isFile proto then proto else path
      .ok (some { kind, path, preferredPath, identity })
  | .error (.io path source) => if source.kind = .notFound then .ok none else .error (.io path source)
  | .error e => .error e

def scanEntry (self : FileSystem) (contains : Str → Except Str Bool) (root : WatchRoot) :
    Except IoError (List UInt8) → Except WatcherError (List DiscoveredSource)
  | .error source => .error (.io root.path source)
  | .ok bytes => match Utf8.fromUtf8 bytes with
    | none => .ok []
    | some name =>
        if completedName root.kind name then
          match self.discover root.kind (Path.join root.path name) with
          | .error e => .error e
          | .ok none => .ok []
          | .ok (some source) => match contains source.identity.key with
            | .error message => .error (.registry message)
            | .ok true => .ok []
            | .ok false => .ok [source]
        else .ok []

def scanRoot (self : FileSystem) (contains : Str → Except Str Bool) (root : WatchRoot) :
    Except WatcherError (List DiscoveredSource) :=
  match self.readDir root.path with
  | .ok entries => gather (self.scanEntry contains root) entries
  | .error source => if source.kind = .notFound then .ok [] else .error (.io root.path source)

def startupScan (self : FileSystem) (roots : List WatchRoot) (contains : Str → Except Str Bool) :
    Except WatcherError (List DiscoveredSource) :=
  (gather (self.scanRoot contains) roots).map fun out =>
    out.mergeSort fun a b => a.identity.modifiedNs ≤ b.identity.modifiedNs

/-- There is something at the path that is no artefact: not a readable regular file with a name and a
time from the epoch on. -/
def Unusable (fs : FileSystem) (path : Str) : Prop :=
  match fs.metadata path with
  | .error source => source.kind ≠ .notFound
  | .ok m => m.isFile = false ∨ match m.modified with
    | .error source => source.kind ≠ .notFound
    | .ok ns => ns < 0 ∨ Path.fileName path = none

theorem discover_fails_iff (fs : FileSystem) (kind : WatchKind) (path : Str) :
    (∃ e, fs.discover kind path = .error e) ↔ fs.Unusable path := by
  unfold discover sourceIdentity Unusable
  cases fs.metadata path with
  | error source => by_cases gone : source.kind = .notFound <;> simp [gone]
  | ok m =>
      obtain ⟨isFile, modified, len⟩ := m
      cases isFile with
      | false => simp
      | true =>
          cases modified with
          | error source => by_cases gone : source.kind = .notFound <;> simp [gone]
          | ok ns =>
              by_cases early : ns < 0
              · simp [early]
              · cases Path.fileName path <;> simp [early]

section
variable (fs : FileSystem) (roots : List WatchRoot) (contains : Str → Except Str Bool)

def Lists (root : WatchRoot) (name : Str) : Prop :=
  ∃ entries bytes, fs.readDir root.path = .ok entries ∧ .ok bytes ∈ entries ∧
    Utf8.fromUtf8 bytes = some name ∧ completedName root.kind name = true

def Artefact (source : DiscoveredSource) : Prop :=
  ∃ root ∈ roots, ∃ name, fs.Lists root name ∧
    fs.discover root.kind (Path.join root.path name) = .ok (some source) ∧
    contains source.identity.key = .ok false

def BadEntry : Prop := ∃ root ∈ roots, ∃ name, fs.Lists root name ∧ fs.Unusable (Path.join root.path name)

def Obstructed : Prop :=
  (∃ root ∈ roots, ∃ source, fs.readDir root.path = .error source ∧ source.kind ≠ .notFound) ∨
  (∃ root ∈ roots, ∃ entries source, fs.readDir root.path = .ok entries ∧ .error source ∈ entries) ∨
  ∃ root ∈ roots, ∃ name source message, fs.Lists root name ∧
    fs.discover root.kind (Path.join root.path name) = .ok (some source) ∧
    contains source.identity.key = .error message

end

variable {fs : FileSystem} {roots : List WatchRoot} {contains : Str → Except Str Bool}

theorem scanEntry_mem {root : WatchRoot} {entry : Except IoError (List UInt8)} {part : List DiscoveredSource}
    (ok : fs.scanEntry contains root entry = .ok part) (source : DiscoveredSource) :
    source ∈ part ↔ ∃ bytes name, entry = .ok bytes ∧ Utf8.fromUtf8 bytes = some name ∧
      completedName root.kind name = true ∧
      fs.discover root.kind (Path.join root.path name) = .ok (some source) ∧
      contains source.identity.key = .ok false := by
  cases entry with
  | error source => simp [scanEntry] at ok
  | ok bytes =>
      simp only [scanEntry] at ok
      cases decoded : Utf8.fromUtf8 bytes with
      | none =>
          rw [decoded] at ok
          cases ok
          simp [decoded]
      | some name =>
          simp only [decoded] at ok
          by_cases completed : completedName root.kind name = true
          · rw [if_pos completed] at ok
            cases found : fs.discover root.kind (Path.join root.path name) with
            | error e => simp [found] at ok
            | ok discovered =>
                cases discovered with
                | none =>
                    rw [found] at ok
                    cases ok
                    simp [decoded, found]
                | some other =>
                    simp only [found] at ok
                    cases known : contains other.identity.key with
                    | error message => simp [known] at ok
                    | ok registered =>
                        have same : (∃ bytes' name, Except.ok bytes = Except.ok (ε := IoError) bytes' ∧
                            Utf8.fromUtf8 bytes' = some name ∧ completedName root.kind name = true ∧
                            fs.discover root.kind (Path.join root.path name) = .ok (some source) ∧
                            contains source.identity.key = .ok false) ↔
                            other = source ∧ contains source.identity.key = .ok false := by
                          simp [decoded, completed, found]
                        rw [same]
                        cases registered <;> rw [known] at ok <;> cases ok
                        · rw [List.mem_singleton]
                          exact ⟨fun here => ⟨here.symm, here ▸ known⟩, fun here => here.1.symm⟩
                        · refine iff_of_false List.not_mem_nil ?_
                          rintro ⟨rfl, fresh⟩
                          simp [known] at fresh
          · rw [if_neg completed] at ok
            cases ok
            simp [decoded, completed]

theorem scanEntry_fails_iff {root : WatchRoot} {entry : Except IoError (List UInt8)} :
    (∃ e, fs.scanEntry contains root entry = .error e) ↔ (∃ source, entry = .error source) ∨
      ∃ bytes name, entry = .ok bytes ∧ Utf8.fromUtf8 bytes = some name ∧
        completedName root.kind name = true ∧ (fs.Unusable (Path.join root.path name) ∨
          ∃ source message, fs.discover root.kind (Path.join root.path name) = .ok (some source) ∧
            contains source.identity.key = .error message) := by
  cases entry with
  | error source => simp [scanEntry]
  | ok bytes =>
      simp only [scanEntry]
      cases decoded : Utf8.fromUtf8 bytes with
      | none => simp [decoded]
      | some name =>
          by_cases completed : completedName root.kind name = true
          · have usable := fs.discover_fails_iff root.kind (Path.join root.path name)
            simp only [completed, if_true]
            cases found : fs.discover root.kind (Path.join root.path name) with
            | error e =>
                have unusable := usable.mp ⟨e, found⟩
                simp [decoded, completed, unusable]
            | ok discovered =>
                have fine : ¬ fs.Unusable (Path.join root.path name) := fun bad => by
                  obtain ⟨e, failed⟩ := usable.mpr bad
                  simp [found] at failed
                cases discovered with
                | none => simp [decoded, completed, fine, found]
                | some source =>
                    cases known : contains source.identity.key with
                    | error message => simp [decoded, completed, fine, found, known]
                    | ok registered => cases registered <;> simp [decoded, completed, fine, found, known]
          · simp [decoded, completed]

theorem scanRoot_mem {root : WatchRoot} {part : List DiscoveredSource}
    (ok : fs.scanRoot contains root = .ok part)
    (source : DiscoveredSource) : source ∈ part ↔ ∃ name, fs.Lists root name ∧
      fs.discover root.kind (Path.join root.path name) = .ok (some source) ∧
      contains source.identity.key = .ok false := by
  unfold Lists
  rw [scanRoot] at ok
  cases listed : fs.readDir root.path with
  | error failure =>
      simp only [listed] at ok
      split_ifs at ok
      cases ok
      simp
  | ok entries =>
      simp only [listed] at ok
      rw [gather_eq_ok ok]
      constructor
      · intro ⟨entry, member, part, scanned, here⟩
        obtain ⟨bytes, name, rfl, decoded, completed, found, fresh⟩ := (scanEntry_mem scanned source).mp here
        exact ⟨name, ⟨entries, bytes, rfl, member, decoded, completed⟩, found, fresh⟩
      · intro ⟨name, ⟨entries', bytes, same, member, decoded, completed⟩, found, fresh⟩
        cases same
        obtain ⟨part, scanned⟩ := gather_ok_iff.mp ⟨_, ok⟩ _ member
        exact ⟨_, member, part, scanned,
          (scanEntry_mem scanned source).mpr ⟨bytes, name, rfl, decoded, completed, found, fresh⟩⟩

theorem startupScan_mem {out : List DiscoveredSource} (ok : fs.startupScan roots contains = .ok out)
    (source : DiscoveredSource) : source ∈ out ↔ fs.Artefact roots contains source := by
  rw [startupScan] at ok
  cases gathered : gather (fs.scanRoot contains) roots with
  | error e => simp [gathered, Except.map] at ok
  | ok all =>
      rw [gathered] at ok
      cases ok
      rw [List.mem_mergeSort, gather_eq_ok gathered]
      constructor
      · intro ⟨root, member, part, scanned, here⟩
        exact ⟨root, member, (scanRoot_mem scanned source).mp here⟩
      · intro ⟨root, member, here⟩
        obtain ⟨part, scanned⟩ := gather_ok_iff.mp ⟨_, gathered⟩ root member
        exact ⟨root, member, part, scanned, (scanRoot_mem scanned source).mpr here⟩

theorem scanRoot_fails_iff {root : WatchRoot} : (∃ e, fs.scanRoot contains root = .error e) ↔
    (∃ source, fs.readDir root.path = .error source ∧ source.kind ≠ .notFound) ∨
    (∃ entries source, fs.readDir root.path = .ok entries ∧ .error source ∈ entries) ∨
    (∃ name source message, fs.Lists root name ∧
      fs.discover root.kind (Path.join root.path name) = .ok (some source) ∧
      contains source.identity.key = .error message) ∨
    ∃ name, fs.Lists root name ∧ fs.Unusable (Path.join root.path name) := by
  unfold Lists
  rw [scanRoot]
  cases listed : fs.readDir root.path with
  | error failure => by_cases gone : failure.kind = .notFound <;> simp [gone]
  | ok entries =>
      simp only
      rw [gather_fails_iff]
      constructor
      · intro ⟨entry, member, failed⟩
        rcases scanEntry_fails_iff.mp failed with
          ⟨source, rfl⟩ | ⟨bytes, name, rfl, decoded, completed, bad | ⟨source, message, found, refused⟩⟩
        · exact .inr (.inl ⟨entries, source, rfl, member⟩)
        · exact .inr (.inr (.inr ⟨name, ⟨entries, bytes, rfl, member, decoded, completed⟩, bad⟩))
        · exact .inr (.inr (.inl
            ⟨name, source, message, ⟨entries, bytes, rfl, member, decoded, completed⟩, found, refused⟩))
      · rintro (⟨source, same, -⟩ | ⟨entries', source, same, member⟩ |
          ⟨name, source, message, ⟨entries', bytes, same, member, decoded, completed⟩, found, refused⟩ |
          ⟨name, ⟨entries', bytes, same, member, decoded, completed⟩, bad⟩)
        · cases same
        · cases same
          exact ⟨_, member, scanEntry_fails_iff.mpr (.inl ⟨source, rfl⟩)⟩
        · cases same
          exact ⟨_, member, scanEntry_fails_iff.mpr
            (.inr ⟨bytes, name, rfl, decoded, completed, .inr ⟨source, message, found, refused⟩⟩)⟩
        · cases same
          exact ⟨_, member, scanEntry_fails_iff.mpr (.inr ⟨bytes, name, rfl, decoded, completed, .inl bad⟩)⟩

theorem startupScan_fails_iff : (∃ e, fs.startupScan roots contains = .error e) ↔
    fs.Obstructed roots contains ∨ fs.BadEntry roots := by
  have failed : (∃ e, fs.startupScan roots contains = .error e) ↔
      ∃ e, gather (fs.scanRoot contains) roots = .error e := by
    rw [startupScan]
    cases gather (fs.scanRoot contains) roots <;> simp [Except.map]
  rw [failed, gather_fails_iff]
  simp only [scanRoot_fails_iff, and_or_left, exists_or, Obstructed, BadEntry, or_assoc]

/-- When the directories can be listed and the registry answers, the scan returns every artefact
exactly when no entry is bad. -/
theorem startupScan_returns_iff (unobstructed : ¬ fs.Obstructed roots contains) :
    (∃ out, fs.startupScan roots contains = .ok out ∧ ∀ source, fs.Artefact roots contains source →
      source ∈ out) ↔
      ¬ fs.BadEntry roots := by
  constructor
  · intro ⟨out, ok, _⟩ bad
    obtain ⟨e, failed⟩ := startupScan_fails_iff.mpr (.inr bad)
    rw [ok] at failed
    cases failed
  · intro good
    cases scanned : fs.startupScan roots contains with
    | ok out => exact ⟨out, rfl, fun source => (startupScan_mem scanned source).mpr⟩
    | error e => exact ((startupScan_fails_iff.mp ⟨e, scanned⟩).elim unobstructed good).elim

end FileSystem
end CrashCatcher.Watch
