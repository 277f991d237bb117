import CrashCatcher.Daemon.Replies
import CrashCatcher.Lib.Utf8Split

namespace CrashCatcher.Daemon
open Lib Model Wire Store Fallible Utf8

/-! Where `truncateUtf8` cuts. -/

theorem isCharBoundary_iff {bytes : List UInt8} {index : Nat} {b : UInt8} (there : bytes[index]? = some b) :
    isCharBoundary bytes index ↔ ¬ Continuation b := by
  simp [isCharBoundary, there, Continuation]

theorem boundaryBelow_cases (bytes : List UInt8) (limit : Nat) :
    (boundaryBelow bytes limit = 0 ∧ ∀ i < limit, ¬ isCharBoundary bytes (i + 1)) ∨
      (0 < boundaryBelow bytes limit ∧ boundaryBelow bytes limit ≤ limit ∧
        isCharBoundary bytes (boundaryBelow bytes limit)) := by
  induction limit with
  | zero => exact .inl ⟨rfl, fun i small => absurd small (Nat.not_lt_zero i)⟩
  | succ limit ih =>
      rw [boundaryBelow]
      by_cases here : isCharBoundary bytes (limit + 1)
      · rw [if_pos here]
        exact .inr ⟨Nat.succ_pos limit, le_refl _, here⟩
      · rw [if_neg here]
        rcases ih with ⟨none, before⟩ | ⟨found, below, boundary⟩
        · refine .inl ⟨none, fun i small => ?_⟩
          rcases Nat.lt_succ_iff_lt_or_eq.mp small with earlier | rfl
          · exact before i earlier
          · exact here
        · exact .inr ⟨found, below.trans (Nat.le_succ limit), boundary⟩

theorem cleanCut_raw {bytes : List UInt8} {limit : Nat} (longer : limit < bytes.length) (wide : 4 ≤ limit)
    (none : ∀ i < limit, ¬ isCharBoundary bytes (i + 1)) : CleanCut (bytes.take limit) (bytes.drop limit) := by
  cases bytes with
  | nil => cases longer
  | cons b rest =>
      obtain ⟨limit, rfl⟩ : ∃ n, limit = n + 1 := ⟨limit - 1, by omega⟩
      rw [List.length_cons] at longer
      refine .inr (feed_tails_start ?_ ?_)
      · intro c there
        obtain ⟨i, small, at_i⟩ := List.getElem_of_mem there
        rw [List.getElem_take] at at_i
        rw [List.length_take] at small
        have found : (b :: rest)[i + 1]? = some c := by
          rw [List.getElem?_cons_succ, List.getElem?_eq_getElem (by omega), at_i]
        by_contra apart
        exact none i (by omega) ((isCharBoundary_iff found).mpr apart)
      · rw [List.length_take]
        omega

theorem cleanCut_boundary {bytes : List UInt8} {index : Nat} (boundary : isCharBoundary bytes index) :
    CleanCut (bytes.take index) (bytes.drop index) := by
  refine .inl fun b first => ?_
  rw [List.head?_drop] at first
  exact (isCharBoundary_iff first).mp boundary

theorem fromUtf8Lossy_truncateUtf8 (bytes : List UInt8) {limit : Nat}
    (wide : bytes.length ≤ limit ∨ 4 ≤ limit) :
    fromUtf8Lossy bytes = fromUtf8Lossy (truncateUtf8 bytes limit) ++
      fromUtf8Lossy (bytes.drop (truncateUtf8 bytes limit).length) := by
  unfold truncateUtf8
  by_cases whole : bytes.length ≤ limit
  · rw [if_pos whole, List.drop_length]
    exact (List.append_nil _).symm
  · have longer : limit < bytes.length := Nat.lt_of_not_le whole
    rw [if_neg whole]
    rcases boundaryBelow_cases bytes limit with ⟨none, before⟩ | ⟨found, below, boundary⟩
    · have clean := cleanCut_raw longer (wide.resolve_left whole) before
      rw [if_pos none, List.length_take_of_le longer.le, ← fromUtf8Lossy_append clean, List.take_append_drop]
    · have clean := cleanCut_boundary boundary
      rw [if_neg found.ne', List.length_take_of_le (below.trans longer.le), ← fromUtf8Lossy_append clean,
        List.take_append_drop]

theorem fromUtf8Lossy_chunkOf (bytes : List UInt8) (offset : UInt64) {len : UInt32} (wide : 4 ≤ len.toNat) :
    fromUtf8Lossy (bytes.drop offset.toNat) = fromUtf8Lossy (PayloadStore.chunkOf bytes offset len) ++
      fromUtf8Lossy (bytes.drop (PayloadStore.nextOffset bytes offset len)) := by
  have from' : bytes.drop offset.toNat = bytes.drop (min offset.toNat bytes.length) := by
    by_cases past : offset.toNat ≤ bytes.length
    · rw [Nat.min_eq_left past]
    · rw [Nat.min_eq_right (by omega), List.drop_length, List.drop_eq_nil_iff]
      omega
  have cut : (bytes.drop (min offset.toNat bytes.length)).length ≤
        min (min offset.toNat bytes.length + len.toNat) bytes.length - min offset.toNat bytes.length ∨
      4 ≤ min (min offset.toNat bytes.length + len.toNat) bytes.length - min offset.toNat bytes.length := by
    rw [List.length_drop]
    omega
  rw [from', fromUtf8Lossy_truncateUtf8 _ cut, PayloadStore.nextOffset, ← List.drop_drop]
  rfl

/-! Chunk after chunk. -/

def Services.readOn (self : Services) (handle : UInt64) (len : UInt32) :
    Nat → UInt64 → StoreM (Option (List PayloadChunk))
  | 0, _ => pure none
  | fuel + 1, offset => do
      match ← self.readPayload handle offset len with
      | .payloadChunk chunk =>
          if chunk.eof then pure (some [chunk])
          else do
            let rest ← self.readOn handle len fuel (UInt64.ofNat chunk.nextOffset)
            pure (rest.map (chunk :: ·))
      | _ => pure none

section
variable {services : Services} {s : StoreState} {id : RecordId} {bytes : List UInt8} {handle : UInt64}
  {len : UInt32}

theorem servedLen_wide (wide : 4 ≤ len.toNat) : 4 ≤ (servedLen len).toNat := by
  rw [toNat_servedLen]
  exact le_min wide (by decide)

theorem readOn_rest (opened : services.payloadHandles handle = some id) (stored : Stores services s id bytes)
    (held : bytes.length < 2 ^ 64) (wide : 4 ≤ len.toNat) (fuel : Nat) (offset : UInt64)
    (enough : bytes.length - offset.toNat < fuel) :
    ∃ chunks, services.readOn handle len fuel offset (quiet s) = (.ok (some chunks), quiet s) ∧
      (∀ chunk ∈ chunks, chunk.eof ∨ chunk.offset.toNat < chunk.nextOffset) ∧
      chunks.flatMap (·.text) = fromUtf8Lossy (bytes.drop offset.toNat) := by
  induction fuel generalizing offset with
  | zero => exact absurd enough (Nat.not_lt_zero _)
  | succ fuel ih =>
      have some' : len ≠ 0 := by
        rintro rfl
        exact absurd wide (by decide)
      have served := servedLen_wide wide
      have answered := readPayload_stored services opened stored offset some'
      have text := fromUtf8Lossy_chunkOf bytes offset served
      have advances := nextOffset_advances bytes offset (lt_of_lt_of_le (by decide) served)
      unfold Services.readOn
      rw [bind_of_ok answered]
      by_cases last : PayloadStore.nextOffset bytes offset (servedLen len) ≥ bytes.length
      · refine ⟨[chunkAnswer bytes offset len], ?_, ?_, ?_⟩
        · simp only [chunkAnswer, last, decide_true, if_true]
          rfl
        · simp [chunkAnswer, last]
        · rw [text, List.drop_eq_nil_of_le last]
          simp [chunkAnswer, fromUtf8Lossy, lossyFrom]
      · have onward := advances.resolve_left last
        have next : (UInt64.ofNat (PayloadStore.nextOffset bytes offset (servedLen len))).toNat =
            PayloadStore.nextOffset bytes offset (servedLen len) :=
              UInt64.toNat_ofNat_of_lt' ((Nat.lt_of_not_le last).trans held)
        obtain ⟨chunks, ran, forward, read⟩ :=
          ih (.ofNat (PayloadStore.nextOffset bytes offset (servedLen len))) (by omega)
        refine ⟨chunkAnswer bytes offset len :: chunks, ?_, ?_, ?_⟩
        · simp only [chunkAnswer, last, decide_false, Bool.false_eq_true, if_false]
          rw [bind_of_ok ran]
          rfl
        · intro chunk there
          rcases List.mem_cons.mp there with rfl | later
          · exact .inr onward
          · exact forward chunk later
        · rw [List.flatMap_cons, read, next, text]
          rfl

/-- Reading on from the start ends, gets on with every chunk before the last, and gives the whole text. -/
theorem chunks_are_the_text (opened : services.payloadHandles handle = some id)
    (stored : Stores services s id bytes) (held : bytes.length < 2 ^ 64) (wide : 4 ≤ len.toNat) :
    ∃ chunks, services.readOn handle len (bytes.length + 1) 0 (quiet s) = (.ok (some chunks), quiet s) ∧
      (∀ chunk ∈ chunks, chunk.eof ∨ chunk.offset.toNat < chunk.nextOffset) ∧
      chunks.flatMap (·.text) = fromUtf8Lossy bytes ∧
      readPayloadText services.decodeAll id (quiet s) = (.ok (chunks.flatMap (·.text)), quiet s) := by
  obtain ⟨chunks, ran, forward, text⟩ := readOn_rest opened stored held wide (bytes.length + 1) 0 (by simp)
  have text : chunks.flatMap (·.text) = fromUtf8Lossy bytes := text
  refine ⟨chunks, ran, forward, text, ?_⟩
  rw [text]
  unfold readPayloadText
  rw [bind_of_ok stored]
  rfl

end

def strayBytes : List UInt8 := [0x61, 0x80, 0x80, 0x80, 0x80, 0x80]

theorem chunks_are_the_text_strayBytes :
    ∃ chunks, plainServices.readOn 1 4 7 0 (quiet (storeWith strayBytes)) =
        (.ok (some chunks), quiet (storeWith strayBytes)) ∧
      (∀ chunk ∈ chunks, chunk.eof ∨ chunk.offset.toNat < chunk.nextOffset) ∧
      chunks.flatMap (·.text) = fromUtf8Lossy strayBytes ∧
      readPayloadText plainServices.decodeAll firstId (quiet (storeWith strayBytes)) =
        (.ok (chunks.flatMap (·.text)), quiet (storeWith strayBytes)) :=
  have stored : Stores plainServices (storeWith strayBytes) firstId strayBytes :=
    stores_storeWith nofun (by decide)
  @chunks_are_the_text plainServices (storeWith strayBytes) firstId strayBytes 1 4 rfl stored (by decide)
    (by decide)

end CrashCatcher.Daemon
