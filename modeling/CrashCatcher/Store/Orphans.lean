import CrashCatcher.Lib.Utf8Ascii
import CrashCatcher.Store.Chores

namespace CrashCatcher.Store
open Lib Model

/-- A name in a directory, in the bytes of the operating system. -/
abbrev OsName := List UInt8
abbrev OsPath := List OsName

/-- What a path names; a symbolic link holds the real path that it leads to. -/
inductive Node where
  | file (content : List UInt8)
  | directory
  | link (target : OsPath)
deriving DecidableEq

structure Disk where
  entries : Table (Prod.fst : OsPath × Node → OsPath)

namespace Disk

def node (disk : Disk) (path : OsPath) : Option Node := (disk.entries.find? path).map Prod.snd

def follow (disk : Disk) (path : OsPath) : OsPath :=
  match disk.node path with
  | some (.link target) => target
  | _ => path

def isDir (disk : Disk) (path : OsPath) : Bool := disk.node (disk.follow path) == some .directory

def readDir (disk : Disk) (path : OsPath) : Except StoreError (List OsName) :=
  if disk.isDir path then
    .ok (disk.entries.rows.filterMap fun entry =>
      if entry.1.dropLast = disk.follow path then entry.1.getLast? else none)
  else .error (.io [])

def removeFile (disk : Disk) (directory : OsPath) (name : OsName) : Option Disk :=
  let path := disk.follow directory ++ [name]
  match disk.node path with
  | none => none
  | some .directory => none
  | some _ => some { entries := disk.entries.delete fun entry => entry.1 = path }

end Disk

def relativeOf (shard name : OsName) : Str := Utf8.fromUtf8Lossy shard ++ '/' :: Utf8.fromUtf8Lossy name

def sweepShard (referenced : List Str) (root : OsPath) (shard : OsName) :
    List OsName → Nat → Disk → Nat × Disk
  | [], removed, disk => (removed, disk)
  | name :: names, removed, disk =>
      if referenced.contains (relativeOf shard name) then sweepShard referenced root shard names removed disk
      else match disk.removeFile (root ++ [shard]) name with
        | some disk => sweepShard referenced root shard names (removed + 1) disk
        | none => sweepShard referenced root shard names removed disk

def sweepShards (referenced : List Str) (root : OsPath) :
    List OsName → Nat → Disk → Except StoreError (Nat × Disk)
  | [], removed, disk => .ok (removed, disk)
  | shard :: shards, removed, disk =>
      if disk.isDir (root ++ [shard]) then do
        let names ← disk.readDir (root ++ [shard])
        let (removed, disk) := sweepShard referenced root shard names removed disk
        sweepShards referenced root shards removed disk
      else sweepShards referenced root shards removed disk

def removeOrphans (referenced : List Str) (root : OsPath) (disk : Disk) : Except StoreError (Nat × Disk) :=
  if (disk.node root).isNone then .ok (0, disk)
  else do
    let shards ← disk.readDir root
    sweepShards referenced root shards 0 disk

def Database.referencedPayloadPaths (db : Database) : List Str := db.records.rows.filterMap (·.payloadPath)

/-- Opens a store on what an earlier one left: its generator, and the disk after the sweep. -/
def openStore (root : OsPath) (db : Database) (disk : Disk) : Except StoreError (RecordIdGenerator × Disk) := do
  let ids := resumeIds (db.records.rows.map (·.id))
  let (_, disk) ← removeOrphans db.referencedPayloadPaths root disk
  pure (ids, disk)

def payloadFile (root : OsPath) (path : Str) : OsPath :=
  root ++ ((path.splitOn '/').filter fun part => !part.isEmpty && part != ['.']).map Utf8.encode

/-- A path one level below the payload root that names no directory and no payload of a record. -/
structure Orphan (db : Database) (root : OsPath) (disk : Disk) (path : OsPath) : Prop where
  below : ∃ shard name, path = root ++ [shard, name] ∧ disk.node root = some .directory ∧
    disk.node (root ++ [shard]) = some .directory
  file : disk.node path ≠ some .directory
  unreferenced : ∀ row ∈ db.records.rows, ∀ payload, row.payloadPath = some payload →
    payloadFile root payload ≠ path

namespace Disk
variable {disk : Disk} {path other : OsPath} {node : Node}

theorem node_eq_some_iff : disk.node path = some node ↔ (path, node) ∈ disk.entries.rows := by
  rw [Disk.node, Option.map_eq_some_iff]
  constructor
  · rintro ⟨entry, found, rfl⟩
    obtain ⟨member, rfl⟩ := (Table.find?_eq_some_iff _).mp found
    exact member
  · intro member
    exact ⟨(path, node), (Table.find?_eq_some_iff _).mpr ⟨member, rfl⟩, rfl⟩

theorem node_delete (path other : OsPath) :
    { entries := disk.entries.delete fun entry => entry.1 = path : Disk }.node other =
      if other = path then none else disk.node other := by
  apply Option.ext
  intro node
  rw [node_eq_some_iff, Table.mem_delete]
  by_cases same : other = path
  · simp [same]
  · rw [if_neg same, node_eq_some_iff]
    simp [same]

theorem follow_of_not_link (plain : ∀ target, disk.node path ≠ some (.link target)) :
    disk.follow path = path := by
  unfold follow
  split
  next target found => exact absurd found (plain target)
  · rfl

theorem isDir_of_not_link (plain : ∀ target, disk.node path ≠ some (.link target)) :
    disk.isDir path = (disk.node path == some .directory) := by
  rw [isDir, follow_of_not_link plain]

theorem readDir_of_directory (directory : disk.node path = some .directory) : ∃ names,
    disk.readDir path = .ok names ∧ ∀ name, name ∈ names ↔ (disk.node (path ++ [name])).isSome := by
  have plain : ∀ target, disk.node path ≠ some (.link target) := fun target => by
    rw [directory]
    simp
  have isDir : disk.isDir path = true := by
    rw [isDir_of_not_link plain, directory]
    rfl
  refine ⟨_, by rw [readDir, if_pos isDir], fun name => ?_⟩
  rw [follow_of_not_link plain, List.mem_filterMap, Option.isSome_iff_exists]
  constructor
  · rintro ⟨entry, member, last⟩
    split_ifs at last with below
    obtain ⟨front, whole⟩ := List.getLast?_eq_some_iff.mp last
    rw [whole, List.dropLast_concat] at below
    rw [below] at whole
    exact ⟨entry.2, node_eq_some_iff.mpr (whole ▸ member)⟩
  · rintro ⟨node, found⟩
    refine ⟨_, node_eq_some_iff.mp found, ?_⟩
    rw [if_pos List.dropLast_concat, List.getLast?_concat]

theorem removeFile_of_directory (directory : disk.node path = some .directory) (name : OsName) :
    disk.removeFile path name =
      if disk.node (path ++ [name]) = none ∨ disk.node (path ++ [name]) = some .directory then none
      else some { entries := disk.entries.delete fun entry => entry.1 = path ++ [name] } := by
  have plain : ∀ target, disk.node path ≠ some (.link target) := fun target => by
    rw [directory]
    simp
  rw [removeFile, follow_of_not_link plain]
  rcases disk.node (path ++ [name]) with _ | _ | _ | _
  · rfl
  · rfl
  · rfl
  · rfl

end Disk

structure Sweepable (referenced : List Str) (root : OsPath) (disk : Disk) (shard name : OsName) : Prop where
  rooted : disk.node root = some .directory
  directory : disk.node (root ++ [shard]) = some .directory
  file : disk.node (root ++ [shard, name]) ≠ some .directory
  unreferenced : relativeOf shard name ∉ referenced

structure Swept (referenced : List Str) (root : OsPath) (initial disk : Disk) : Prop where
  kept : ∀ path, (∀ shard name, path = root ++ [shard, name] → ¬ Sweepable referenced root initial shard name) →
    disk.node path = initial.node path
  rest : ∀ path, disk.node path = initial.node path ∨ disk.node path = none

section
variable {referenced : List Str} {root : OsPath} {initial disk : Disk}

theorem Swept.refl : Swept referenced root initial initial := ⟨fun _ _ => rfl, fun _ => .inl rfl⟩

theorem Swept.shard (swept : Swept referenced root initial disk) (shard : OsName) :
    disk.node (root ++ [shard]) = initial.node (root ++ [shard]) := by
  refine swept.kept _ fun shard' name same => ?_
  cases List.append_cancel_left same

theorem Swept.delete (swept : Swept referenced root initial disk) {shard name : OsName}
    (sweepable : Sweepable referenced root initial shard name) :
    Swept referenced root initial
      { entries := disk.entries.delete fun entry => entry.1 = root ++ [shard, name] } where
  kept path spared := by
    rw [Disk.node_delete, if_neg fun same => spared shard name same sweepable]
    exact swept.kept path spared
  rest path := by
    rw [Disk.node_delete]
    split_ifs
    · exact .inr rfl
    · exact swept.rest path

structure ShardDone (referenced : List Str) (root : OsPath) (initial : Disk) (shard : OsName)
    (names : List OsName) (before after : Disk) : Prop where
  swept : Swept referenced root initial after
  stays : ∀ path, before.node path = none → after.node path = none
  done : ∀ name ∈ names, Sweepable referenced root initial shard name →
    after.node (root ++ [shard, name]) = none

theorem sweepShard_done (rooted : initial.node root = some .directory) {shard : OsName}
    (directory : initial.node (root ++ [shard]) = some .directory)
    (names : List OsName) (removed : Nat) (swept : Swept referenced root initial disk) :
    ShardDone referenced root initial shard names disk
      (sweepShard referenced root shard names removed disk).2 := by
  induction names generalizing removed disk with
  | nil => exact ⟨swept, fun _ none => none, by simp⟩
  | cons name names ih =>
      have split : root ++ [shard] ++ [name] = root ++ [shard, name] := by simp
      rw [sweepShard]
      split_ifs with known
      · have rest := ih removed swept
        refine ⟨rest.swept, rest.stays, List.forall_mem_cons.mpr ⟨fun sweepable => ?_, rest.done⟩⟩
        exact absurd (List.contains_iff_mem.mp known) sweepable.unreferenced
      · rw [Disk.removeFile_of_directory ((swept.shard shard).trans directory), split]
        by_cases refused : disk.node (root ++ [shard, name]) = none ∨
            disk.node (root ++ [shard, name]) = some .directory
        · rw [if_pos refused]
          have rest := ih removed swept
          refine ⟨rest.swept, rest.stays, List.forall_mem_cons.mpr ⟨fun sweepable => ?_, rest.done⟩⟩
          rcases refused with none | inner
          · exact rest.stays _ none
          · rcases swept.rest (root ++ [shard, name]) with same | none
            · exact absurd (same.symm.trans inner) sweepable.file
            · exact rest.stays _ none
        · rw [if_neg refused]
          have sweepable : Sweepable referenced root initial shard name := by
            refine ⟨rooted, directory, fun inner => ?_, fun member => known (List.contains_iff_mem.mpr member)⟩
            rcases swept.rest (root ++ [shard, name]) with same | none
            · exact refused (.inr (same.trans inner))
            · exact refused (.inl none)
          have rest := ih (removed + 1) (swept.delete sweepable)
          refine ⟨rest.swept, fun path none => rest.stays path ?_,
            List.forall_mem_cons.mpr ⟨fun _ => rest.stays _ ?_, rest.done⟩⟩
          · rw [Disk.node_delete, none, ite_self]
          · rw [Disk.node_delete, if_pos rfl]

variable (plain : ∀ name target, initial.node (root ++ [name]) ≠ some (.link target))
include plain

theorem sweepShards_done (rooted : initial.node root = some .directory) (shards : List OsName) (removed : Nat)
    (swept : Swept referenced root initial disk) :
    ∃ result, sweepShards referenced root shards removed disk = .ok result ∧
      Swept referenced root initial result.2 ∧
      (∀ path, disk.node path = none → result.2.node path = none) ∧
      ∀ shard ∈ shards, ∀ name, Sweepable referenced root initial shard name →
        result.2.node (root ++ [shard, name]) = none := by
  induction shards generalizing removed disk with
  | nil => exact ⟨(removed, disk), rfl, swept, fun _ none => none, by simp⟩
  | cons shard shards ih =>
      have isDir : disk.isDir (root ++ [shard]) = (initial.node (root ++ [shard]) == some .directory) := by
        rw [Disk.isDir_of_not_link fun target => ?_, swept.shard]
        rw [swept.shard]
        exact plain shard target
      rw [sweepShards]
      split_ifs with directory
      · rw [isDir, beq_iff_eq] at directory
        obtain ⟨names, listed, complete⟩ := Disk.readDir_of_directory ((swept.shard shard).trans directory)
        have shardDone := sweepShard_done rooted directory names removed swept
        obtain ⟨result, ran, after, stays, done⟩ := ih
          (sweepShard referenced root shard names removed disk).1 shardDone.swept
        refine ⟨result, by rw [listed]; exact ran, after, fun path none => stays _ (shardDone.stays path none), ?_⟩
        refine List.forall_mem_cons.mpr ⟨fun name sweepable => stays _ ?_, done⟩
        by_cases there : name ∈ names
        · exact shardDone.done name there sweepable
        · rw [complete, Option.not_isSome_iff_eq_none] at there
          exact shardDone.stays _ (by simpa using there)
      · rw [isDir, beq_iff_eq] at directory
        obtain ⟨result, ran, after, stays, done⟩ := ih removed swept
        refine ⟨result, ran, after, stays, List.forall_mem_cons.mpr ⟨fun name sweepable => ?_, done⟩⟩
        exact absurd sweepable.directory directory

theorem removeOrphans_spec (rooted : initial.node root = none ∨ initial.node root = some .directory) :
    ∃ result, removeOrphans referenced root initial = .ok result ∧
      Swept referenced root initial result.2 ∧
      ∀ shard name, Sweepable referenced root initial shard name →
        result.2.node (root ++ [shard, name]) = none := by
  rw [removeOrphans]
  rcases rooted with none | directory
  · rw [if_pos (by rw [none]; rfl)]
    exact ⟨_, rfl, .refl, fun shard name sweepable => absurd (none.symm.trans sweepable.rooted) (by simp)⟩
  · rw [if_neg (by rw [directory]; exact Bool.false_ne_true)]
    obtain ⟨shards, listed, complete⟩ := Disk.readDir_of_directory directory
    obtain ⟨result, ran, swept, -, done⟩ := sweepShards_done plain directory shards 0 Swept.refl
    refine ⟨result, by rw [listed]; exact ran, swept, fun shard name sweepable => ?_⟩
    refine done shard ((complete shard).mpr ?_) name sweepable
    rw [sweepable.directory]
    rfl

end

theorem ascii_relativePathFor {id : RecordId} (h : id.WellFormed) :
    Utf8.Ascii (shardFor id) ∧ Utf8.Ascii (id.text ++ ".zst".toList) := by
  refine ⟨fun c member => (mem_text_apart h (List.mem_of_mem_take member)).2.2, fun c member => ?_⟩
  rcases List.mem_append.mp member with member | suffix
  · exact (mem_text_apart h member).2.2
  · have known : Utf8.Ascii ".zst".toList := by decide
    exact known c suffix

theorem payloadFile_relativePathFor (root : OsPath) {id : RecordId} (h : id.WellFormed) :
    payloadFile root (relativePathFor id) =
      root ++ [Utf8.encode (shardFor id), Utf8.encode (id.text ++ ".zst".toList)] := by
  obtain ⟨first, second, shard, -⟩ := shardFor_eq h
  have plain : ∀ part ∈ [shardFor id, id.text ++ ".zst".toList], (!part.isEmpty && part != ['.']) = true := by
    refine List.forall_mem_cons.mpr ⟨by simp [shard], List.forall_mem_singleton.mpr ?_⟩
    rw [Bool.and_eq_true, bne_iff_ne, Bool.not_eq_true', List.isEmpty_eq_false_iff]
    exact ⟨name_ne h [] (by decide), name_ne h ['.'] (by decide)⟩
  rw [payloadFile, splitOn_relativePathFor h, List.filter_eq_self.mpr plain]
  rfl

theorem relativeOf_eq_iff {id : RecordId} (h : id.WellFormed) (shard name : OsName) :
    relativeOf shard name = relativePathFor id ↔
      shard = Utf8.encode (shardFor id) ∧ name = Utf8.encode (id.text ++ ".zst".toList) := by
  obtain ⟨asciiShard, asciiName⟩ := ascii_relativePathFor h
  rw [← Utf8.fromUtf8Lossy_eq_iff asciiShard, ← Utf8.fromUtf8Lossy_eq_iff asciiName]
  constructor
  · intro same
    obtain ⟨noSlash, noSlash'⟩ := slash_apart h
    have once := congrArg (List.count '/') same
    simp only [relativeOf, relativePathFor, List.count_append, List.count_cons_self,
      List.count_eq_zero.mpr noSlash, List.count_eq_zero.mpr noSlash'] at once
    have apart : '/' ∉ Utf8.fromUtf8Lossy shard := List.count_eq_zero.mp (by omega)
    have apart' : '/' ∉ Utf8.fromUtf8Lossy name := List.count_eq_zero.mp (by omega)
    obtain ⟨sameShard, -, sameName⟩ := (List.append_cons_inj_of_notMem apart apart').mp same
    exact ⟨sameShard, sameName⟩
  · rintro ⟨sameShard, sameName⟩
    rw [relativeOf, sameShard, sameName, relativePathFor]

section
variable {db : Database} {root : OsPath} {disk : Disk}

theorem mem_referenced_iff (kept : WellKept db) (shard name : OsName) :
    relativeOf shard name ∈ db.referencedPayloadPaths ↔
      ∃ row ∈ db.records.rows, ∃ payload, row.payloadPath = some payload ∧
        payloadFile root payload = root ++ [shard, name] := by
  rw [Database.referencedPayloadPaths, List.mem_filterMap]
  refine exists_congr fun row => and_congr_right fun stored => ?_
  have wellFormed := (kept.rows row stored).issued.wellFormed
  constructor
  · intro written
    have path := (kept.rows row stored).pathed _ written
    obtain ⟨rfl, rfl⟩ := (relativeOf_eq_iff wellFormed shard name).mp path
    exact ⟨_, written, by rw [path, payloadFile_relativePathFor root wellFormed]⟩
  · rintro ⟨payload, written, located⟩
    have path := (kept.rows row stored).pathed payload written
    rw [path, payloadFile_relativePathFor root wellFormed] at located
    cases List.append_cancel_left located
    rw [written, path, (relativeOf_eq_iff wellFormed _ _).mpr ⟨rfl, rfl⟩]

theorem orphan_iff (kept : WellKept db) {path : OsPath} :
    Orphan db root disk path ↔ ∃ shard name, path = root ++ [shard, name] ∧
      Sweepable db.referencedPayloadPaths root disk shard name := by
  constructor
  · rintro ⟨⟨shard, name, rfl, rooted, directory⟩, file, unreferenced⟩
    refine ⟨shard, name, rfl, rooted, directory, file, fun member => ?_⟩
    obtain ⟨row, stored, payload, written, located⟩ := (mem_referenced_iff kept shard name).mp member
    exact unreferenced row stored payload written located
  · rintro ⟨shard, name, rfl, rooted, directory, file, unreferenced⟩
    refine ⟨⟨shard, name, rfl, rooted, directory⟩, file, fun row stored payload written located => ?_⟩
    exact unreferenced ((mem_referenced_iff kept shard name).mpr ⟨row, stored, payload, written, located⟩)

end

def oneCrash : StoreState := StoreState.empty.apply plainPlatform (.insert oneByteCrash {} [] 0) noFaults

def oneCrashShard : OsName := Utf8.encode "00".toList
def oneCrashName : OsName := Utf8.encode "00000000010000000000000000.zst".toList

def oneCrashDisk (other : OsName) (node : Node) (apart : other ≠ oneCrashShard) : Disk where
  entries := {
    rows := [
      ([], .directory),
      ([oneCrashShard], .directory),
      ([oneCrashShard, oneCrashName], .file [1]),
      ([other], node)]
    distinct := by simpa [oneCrashShard] using apart.symm }

/-- Beside the payload, a write that was not finished and the payload of a record that is gone. -/
def leftoverDisk : Disk where
  entries := {
    rows := [
      ([], .directory),
      ([oneCrashShard], .directory),
      ([oneCrashShard, oneCrashName], .file [1]),
      ([oneCrashShard, [46]], .file []),
      ([[1]], .directory),
      ([[1], [2]], .file [3])]
    distinct := by decide +kernel }

def linkedDisk : Disk := oneCrashDisk [1] (.link [oneCrashShard]) (by decide)

end CrashCatcher.Store
