import CrashCatcher.Wire.Query

namespace CrashCatcher.Watch
open Lib Wire

def inCloseWriteMask : Nat := 0x8
def inMovedToMask : Nat := 0x80
def inDeleteMask : Nat := 0x200

inductive WatchKind where
  | dropbox
  | tombstone
  | anr
deriving DecidableEq

namespace WatchKind

def pre : WatchKind → Str
  | dropbox => "dropbox".toList
  | tombstone => "tombstone".toList
  | anr => "anr".toList

def watchMask : WatchKind → Nat
  | tombstone => inCloseWriteMask ||| inMovedToMask ||| inDeleteMask
  | dropbox => inMovedToMask
  | anr => inCloseWriteMask ||| inMovedToMask

end WatchKind

structure WatchRoot where
  kind : WatchKind
  path : Str
deriving DecidableEq

structure SourceIdentity where
  key : Str
  size : Nat
  modifiedNs : Nat
deriving DecidableEq

structure DiscoveredSource where
  kind : WatchKind
  path : Str
  preferredPath : Str
  identity : SourceIdentity
deriving DecidableEq

structure FileEntry where
  root : Nat
  name : Str
  size : Nat
  modifiedNs : Nat
deriving DecidableEq

def completedName (kind : WatchKind) (name : Str) : Bool :=
  match kind with
  | .tombstone => match List.isPrefixOf? "tombstone_".toList name with
    | some number => number.length == 2 && number.all Char.isDigit
    | none => false
  | .dropbox =>
      name.contains '@' && (".txt".toList.isSuffixOf name || ".txt.gz".toList.isSuffixOf name)
  | .anr => "anr_".toList.isPrefixOf name && !".tmp".toList.isSuffixOf name

def isCompletionEvent (kind : WatchKind) (name : Str) (mask : Nat) : Bool :=
  if mask &&& inDeleteMask ≠ 0 || !completedName kind name then false
  else match kind with
    | .tombstone => mask &&& (inCloseWriteMask ||| inMovedToMask) ≠ 0
    | .dropbox => mask &&& inMovedToMask ≠ 0
    | .anr => mask &&& (inCloseWriteMask ||| inMovedToMask) ≠ 0

def sourceIdentity (kind : WatchKind) (file : FileEntry) : SourceIdentity where
  key := kind.pre ++ ':' :: file.name ++ ':' :: decimal file.modifiedNs ++ ':' :: decimal file.size
  size := file.size
  modifiedNs := file.modifiedNs

def pathIn (root : WatchRoot) (name : Str) : Str := root.path ++ '/' :: name

def preferredName (files : List FileEntry) (kind : WatchKind) (root : Nat) (name : Str) : Str :=
  let proto := name ++ ".pb".toList
  if kind = .tombstone && files.any fun file => file.root == root && file.name == proto then proto
  else name

def discover (files : List FileEntry) (root : WatchRoot) (number : Nat) (name : Str) :
    Option DiscoveredSource :=
  (files.find? fun file => file.root = number && file.name = name).map fun file =>
    { kind := root.kind
      path := pathIn root name
      preferredPath := pathIn root (preferredName files root.kind number name)
      identity := sourceIdentity root.kind file }

def Apart (files : List FileEntry) : Prop :=
  ∀ a ∈ files, ∀ b ∈ files, a.root = b.root → a.name = b.name → a = b

theorem discover_of_mem {files : List FileEntry} (apart : Apart files) {file : FileEntry}
    (member : file ∈ files) (root : WatchRoot) :
    ∃ source, discover files root file.root file.name = some source ∧
      source.path = pathIn root file.name ∧ source.identity = sourceIdentity root.kind file := by
  obtain ⟨other, found⟩ : ∃ other, files.find? (fun other => other.root = file.root &&
      other.name = file.name) = some other := by
    refine Option.isSome_iff_exists.mp (List.find?_isSome.mpr ⟨file, member, ?_⟩)
    simp
  have place := List.find?_some found
  simp only [Bool.and_eq_true, decide_eq_true_eq] at place
  have same := apart other (List.mem_of_find?_eq_some found) file member place.1 place.2
  rw [same] at found
  refine ⟨_, congrArg _ found, rfl, rfl⟩

end CrashCatcher.Watch
