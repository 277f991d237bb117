import CrashCatcher.Store.Schema

namespace CrashCatcher.Store
open Lib Model

/-- What the store relies on outside its own code: the files other programs left, and zstd. -/
structure Platform where
  readFile : Str → Option (List UInt8)
  encodeAll : List UInt8 → List UInt8
  sha256 : List UInt8 → List UInt8

structure WrittenPayload where
  relativePath : Str
  storedBytes : Nat
  textBytes : Nat
  codec : PayloadCodec
  state : PayloadState
deriving DecidableEq

def shardFor (id : RecordId) : Str := id.text.take 2

def relativePathFor (id : RecordId) : Str := shardFor id ++ '/' :: (id.text ++ ".zst".toList)

theorem relativePathFor_inj {id id' : RecordId} (h : id.WellFormed) (h' : id'.WellFormed)
    (same : relativePathFor id = relativePathFor id') : id = id' := by
  have shards : (shardFor id).length = (shardFor id').length := by
    rw [shardFor, shardFor, List.length_take, List.length_take, h.wide, h'.wide]
  have names := (List.append_inj same shards).2
  exact RecordId.ext (List.append_inj (List.cons_inj_right _ |>.mp names) (h.wide.trans h'.wide.symm)).1

def isCharBoundary (bytes : List UInt8) (index : Nat) : Bool :=
  match bytes[index]? with
  | none => index == bytes.length
  | some byte => decide (byte &&& 0xC0 ≠ 0x80)

def boundaryBelow (bytes : List UInt8) : Nat → Nat
  | 0 => 0
  | limit + 1 => if isCharBoundary bytes (limit + 1) then limit + 1 else boundaryBelow bytes limit

/-- At most `maxBytes` without splitting a character, unless that would leave nothing. -/
def truncateUtf8 (bytes : List UInt8) (maxBytes : Nat) : List UInt8 :=
  if bytes.length ≤ maxBytes then bytes
  else if boundaryBelow bytes maxBytes = 0 then bytes.take maxBytes
  else bytes.take (boundaryBelow bytes maxBytes)

namespace PayloadStore

def raw (platform : Platform) : PayloadSource → Except StoreError (List UInt8)
  | .none => .ok []
  | .inline bytes => .ok bytes
  | .file path => match platform.readFile path with
    | none => .error (.io path)
    | some bytes => .ok bytes

def capped (raw : List UInt8) (maxBytes : Nat) : List UInt8 × PayloadState :=
  if raw.length > maxBytes then (truncateUtf8 raw maxBytes, .truncated) else (raw, .present)

def createFile (path : Str) : StoreM Unit := do
  attempt (.io path)
  Fallible.update fun world =>
    world.setFiles (Function.update world.store.files path (some []))

def writeAll (path : Str) (bytes : List UInt8) : StoreM Unit := fun world =>
  match world.faults 0 with
  | none =>
      (.ok (), world.popFault.setFiles (Function.update world.store.files path (some bytes)))
  | some n =>
      (.error (.io path),
        world.popFault.setFiles (Function.update world.store.files path (some (bytes.take n))))

/-- Stores a payload under the path of `id`; nothing is written for an empty one. -/
def write (platform : Platform) (id : RecordId) (source : PayloadSource) (maxBytes : Nat) :
    StoreM (Option WrittenPayload) :=
  match raw platform source with
  | .error error => Fallible.fail error
  | .ok [] => pure none
  | .ok raw => do
      let (bytes, state) := capped raw maxBytes
      let path := relativePathFor id
      attempt (.io (shardFor id))
      attempt .compress
      let compressed := platform.encodeAll bytes
      createFile path
      writeAll path compressed
      pure (some {
        relativePath := path
        storedBytes := compressed.length
        textBytes := bytes.length
        codec := .zstd
        state })

/-- Only plain components below the payload root are opened. -/
def resolve (path : Str) : Bool :=
  let components := path.splitOn '/'
  path ≠ [] && path.head? ≠ some '/' && components.head? ≠ some ['.'] &&
    !components.contains ['.', '.']

end PayloadStore

theorem mem_text_apart {id : RecordId} (h : id.WellFormed) {c : Char} (member : c ∈ id.text) :
    c ≠ '/' ∧ c ≠ '.' ∧ c.toNat < 0x80 := by
  have known : alphabet.all fun c => c ≠ '/' ∧ c ≠ '.' ∧ c.toNat < 0x80 := by decide
  simpa using List.all_eq_true.mp known c (List.contains_iff_mem.mp (h.known c member))

theorem slash_apart {id : RecordId} (h : id.WellFormed) :
    '/' ∉ shardFor id ∧ '/' ∉ id.text ++ ".zst".toList := by
  refine ⟨fun member => (mem_text_apart h (List.mem_of_mem_take member)).1 rfl, fun member => ?_⟩
  rcases List.mem_append.mp member with member | suffix
  · exact (mem_text_apart h member).1 rfl
  · exact absurd suffix (by decide)

theorem splitOn_relativePathFor {id : RecordId} (h : id.WellFormed) :
    (relativePathFor id).splitOn '/' = [shardFor id, id.text ++ ".zst".toList] := by
  obtain ⟨shard, name⟩ := slash_apart h
  have apart : ∀ part : Str, '/' ∉ part → ∀ c ∈ part, (c == '/') = false := fun part absent c member =>
    beq_false_of_ne fun same => absent (same ▸ member)
  rw [List.splitOn_eq_splitOnP, relativePathFor,
    List.splitOnP_append_cons_of_forall_mem (apart _ shard) '/' (by decide),
    List.splitOnP_eq_singleton (apart _ name)]

theorem shardFor_eq {id : RecordId} (h : id.WellFormed) :
    ∃ first second, shardFor id = [first, second] ∧ first ∈ id.text := by
  have wide : id.text.length = 26 := h.wide
  rcases text : id.text with _ | ⟨first, _ | ⟨second, rest⟩⟩
  · simp [text] at wide
  · simp [text] at wide
  · exact ⟨first, second, by rw [shardFor, text]; rfl, List.mem_cons_self⟩

theorem name_ne {id : RecordId} (h : id.WellFormed) (short : Str) (few : short.length < 26) :
    id.text ++ ".zst".toList ≠ short := by
  intro same
  have wide : id.text.length = 26 := h.wide
  have length := congrArg List.length same
  rw [List.length_append, wide] at length
  omega

namespace PayloadStore

theorem resolve_relativePathFor {id : RecordId} (h : id.WellFormed) :
    resolve (relativePathFor id) := by
  obtain ⟨first, second, shard, member⟩ := shardFor_eq h
  have firstApart := mem_text_apart h member
  have named := name_ne h ['.', '.'] (by decide)
  unfold resolve
  rw [splitOn_relativePathFor h]
  simp [relativePathFor, shard, firstApart]
  exact ⟨.inl fun dot => firstApart.2.1 dot.symm, fun same => named same.symm⟩

def delete (path : Str) : StoreM Unit := do
  if resolve path then
    attempt (.io path)
    Fallible.update fun world =>
      world.setFiles (Function.update world.store.files path none)
  else Fallible.fail (.badPayloadPath path)

end PayloadStore
end CrashCatcher.Store
