import CrashCatcher.Lib.Utf8Chars
import CrashCatcher.Manager.Reader

namespace CrashCatcher.Manager.PayloadText
open Lib Utf8

section Model

def walkBack (bytes : List UInt8) : Nat → Nat → Nat
  | 0, index => index
  | steps + 1, index =>
    if 0 < index ∧ Continuation (bytes.getD (index - 1) 0) then walkBack bytes steps (index - 1) else index

def expectedOf (lead : UInt8) : Nat :=
  if lead < 0x80 then 1
  else if 0xC0 ≤ lead ∧ lead ≤ 0xDF then 2
  else if 0xE0 ≤ lead ∧ lead ≤ 0xEF then 3
  else if 0xF0 ≤ lead ∧ lead ≤ 0xF7 then 4
  else 1

def lastCharBoundary (bytes : List UInt8) : Nat :=
  let index := walkBack bytes 4 bytes.length
  if index = 0 then bytes.length
  else
    let available := bytes.length - (index - 1)
    if expectedOf (bytes.getD (index - 1) 0) ≤ available then bytes.length else index - 1

/-- What a read of the descriptor gives; the stream ends behind the last one. -/
inductive DescriptorRead where
  | bytes (chunk : List UInt8)
  | failed

/-- How the descriptor path ends; after `fallBack` the handle is read. -/
inductive DescriptorEnd where
  | completed
  | fallBack
  | threw
deriving DecidableEq

structure DescriptorState where
  carry : List UInt8 := []
  read : Nat := 0
  emitted : List PayloadChunkResult := []

variable (totalBytes : Nat)

def chunkResult (text : Str) (bytesRead : Nat) (eof : Bool) : PayloadChunkResult where
  text
  bytesRead
  totalBytes
  eof

def takeChunk (s : DescriptorState) (chunk : List UInt8) : DescriptorState :=
  let combined := s.carry ++ chunk
  let safeEnd := lastCharBoundary combined
  { carry := combined.drop safeEnd
    read := s.read + chunk.length
    emitted := s.emitted ++
      [chunkResult totalBytes (fromUtf8Lossy (combined.take safeEnd)) (s.read + chunk.length) false] }

def lastResults (s : DescriptorState) : List PayloadChunkResult :=
  (if s.carry.isEmpty then [] else [chunkResult totalBytes (fromUtf8Lossy s.carry) s.read false]) ++
    [chunkResult totalBytes [] s.read true]

def descriptorText : DescriptorState → List DescriptorRead → List PayloadChunkResult × DescriptorEnd
  | s, [] => (s.emitted ++ lastResults totalBytes s, .completed)
  | s, .bytes chunk :: rest =>
    if chunk.isEmpty then (s.emitted ++ lastResults totalBytes s, .completed)
    else descriptorText (takeChunk totalBytes s chunk) rest
  | s, .failed :: _ => (s.emitted, if s.emitted.isEmpty then .fallBack else .threw)

end Model

section Boundary
variable {front tails : List UInt8} {lead : UInt8}

theorem walkBack_tails {steps : Nat} (apart : ¬ Continuation lead) (continues : ∀ b ∈ tails, Continuation b)
    (enough : tails.length < steps) (more : List UInt8) :
    walkBack (front ++ lead :: (tails ++ more)) steps (front.length + 1 + tails.length) = front.length + 1 := by
  induction tails using List.reverseRecOn generalizing steps more with
  | nil =>
      obtain ⟨steps, rfl⟩ : ∃ n, steps = n + 1 := ⟨steps - 1, by rw [List.length_nil] at enough; omega⟩
      have here : (front ++ lead :: ([] ++ more)).getD front.length 0 = lead := by simp
      rw [walkBack, List.length_nil, Nat.add_zero, Nat.add_sub_cancel, here, if_neg fun both => apart both.2]
  | append_singleton tails b ih =>
      rw [List.length_append, List.length_singleton] at enough
      obtain ⟨steps, rfl⟩ : ∃ n, steps = n + 1 := ⟨steps - 1, by omega⟩
      obtain ⟨inner, last⟩ := List.forall_mem_append.mp continues
      have place : front.length + 1 + (tails ++ [b]).length - 1 = front.length + 1 + tails.length := by
        rw [List.length_append, List.length_singleton]
        omega
      have here : (front ++ lead :: (tails ++ [b] ++ more)).getD (front.length + 1 + tails.length) 0 = b := by
        have laid : front ++ lead :: (tails ++ [b] ++ more) = (front ++ lead :: tails) ++ b :: more := by simp
        have length : front.length + 1 + tails.length = (front ++ lead :: tails).length := by
          rw [List.length_append, List.length_cons]
          omega
        rw [laid, length, List.getD_eq_getElem?_getD, List.getElem?_append_right (Nat.le_refl _), Nat.sub_self]
        rfl
      rw [walkBack, place, here, if_pos ⟨by omega, last b (List.mem_singleton_self b)⟩, List.append_assoc]
      exact ih inner (by omega) ([b] ++ more)

theorem expectedOf_of_lead {size : Nat} (of : LeadOf lead size) : expectedOf lead = size + 1 := by
  unfold LeadOf at of
  simp only [expectedOf, UInt8.lt_iff_toNat_lt, UInt8.le_iff_toNat_le]
  have known : (0x80 : UInt8).toNat = 0x80 ∧ (0xC0 : UInt8).toNat = 0xC0 ∧ (0xDF : UInt8).toNat = 0xDF ∧
      (0xE0 : UInt8).toNat = 0xE0 ∧ (0xEF : UInt8).toNat = 0xEF ∧ (0xF0 : UInt8).toNat = 0xF0 ∧
      (0xF7 : UInt8).toNat = 0xF7 := ⟨rfl, rfl, rfl, rfl, rfl, rfl, rfl⟩
  split_ifs <;> omega

theorem lastCharBoundary_of_lead {size : Nat} (of : LeadOf lead size) (continues : ∀ b ∈ tails, Continuation b)
    (short : tails.length ≤ size) : lastCharBoundary (front ++ lead :: tails) =
      if tails.length = size then (front ++ lead :: tails).length else front.length := by
  have small : size ≤ 3 := by
    unfold LeadOf at of
    omega
  have length : (front ++ lead :: tails).length = front.length + 1 + tails.length := by
    rw [List.length_append, List.length_cons]
    omega
  have stops : walkBack (front ++ lead :: tails) 4 (front ++ lead :: tails).length = front.length + 1 := by
    have walked := @walkBack_tails front tails lead 4 of.not_continuation continues (by omega) []
    rw [List.append_nil] at walked
    rw [length]
    exact walked
  have first : (front ++ lead :: tails).getD front.length 0 = lead := by simp
  have available : (front ++ lead :: tails).length - front.length = tails.length + 1 := by omega
  rw [lastCharBoundary, stops, if_neg (Nat.succ_ne_zero _), Nat.add_sub_cancel, first, available,
    expectedOf_of_lead of]
  by_cases all : tails.length = size
  · rw [if_pos all, if_pos (by omega)]
  · rw [if_neg all, if_neg (by omega)]

theorem lastCharBoundary_of_begun {done left : Str} {part : List UInt8} (begun : Begun part left) :
    lastCharBoundary (encode done ++ part) = (encode done).length := by
  rcases begun with rfl | ⟨c, later, more, -, spelled, some, rest⟩
  · rw [List.append_nil]
    rcases List.eq_nil_or_concat done with rfl | ⟨start, c, rfl⟩
    · rfl
    · obtain ⟨lead, tails, bytes, of, continues⟩ := (spelling c).shape
      have text : encode (start.concat c) = encode start ++ lead :: tails := by
        rw [List.concat_eq_append, encode_append, encode_cons, bytes]
        exact congrArg _ (List.append_nil _)
      rw [text, lastCharBoundary_of_lead of continues (Nat.le_refl _), if_pos rfl]
  · obtain ⟨lead, tails, bytes, of, continues⟩ := (spelling c).shape
    rw [bytes] at spelled
    obtain ⟨first, part, rfl⟩ := List.exists_cons_of_ne_nil some
    obtain ⟨rfl, rfl⟩ := List.cons.inj spelled
    have shorter : part.length ≠ (part ++ more).length := by
      rw [List.length_append]
      have positive := List.length_pos_iff.mpr rest
      omega
    rw [lastCharBoundary_of_lead of (fun b member => continues b (List.mem_append_left _ member)) (by simp)]
    exact if_neg shorter

end Boundary

section Stream
variable {totalBytes : Nat}

/-- What has been read of a text: whole characters, which are emitted, and one that is begun. -/
structure ReadUpTo (text : Str) (rest : List UInt8) (s : DescriptorState) : Prop where
  begun : ∃ left, text = s.emitted.flatMap PayloadChunkResult.text ++ left ∧ s.carry ++ rest = encode left ∧
    Begun s.carry left
  counted : s.read + rest.length = (encode text).length

theorem takeChunk_readUpTo {text : Str} {chunk rest : List UInt8} {s : DescriptorState}
    (upTo : ReadUpTo text (chunk ++ rest) s) : ReadUpTo text rest (takeChunk totalBytes s chunk) := by
  obtain ⟨left, split, bytes, -⟩ := upTo.begun
  rw [← List.append_assoc] at bytes
  obtain ⟨done, later, part, rfl, front, back, begun⟩ := exists_cut bytes
  have boundary : lastCharBoundary (s.carry ++ chunk) = (encode done).length := by
    rw [front]
    exact lastCharBoundary_of_begun begun
  have taken : (s.carry ++ chunk).take (lastCharBoundary (s.carry ++ chunk)) = encode done := by
    rw [boundary, front, List.take_left]
  have kept : (s.carry ++ chunk).drop (lastCharBoundary (s.carry ++ chunk)) = part := by
    rw [boundary, front, List.drop_left]
  refine ⟨⟨later, ?_, ?_, ?_⟩, ?_⟩
  · have emitted : (takeChunk totalBytes s chunk).emitted.flatMap PayloadChunkResult.text =
        s.emitted.flatMap PayloadChunkResult.text ++ done := by
      rw [takeChunk, List.flatMap_append, List.flatMap_singleton, chunkResult, taken, fromUtf8Lossy_encode]
    rw [emitted, List.append_assoc, split]
  · rw [← back]
    exact congrArg (· ++ rest) kept
  · show Begun ((s.carry ++ chunk).drop _) later
    rw [kept]
    exact begun
  · have counted := upTo.counted
    rw [List.length_append] at counted
    rw [← counted]
    exact Nat.add_assoc _ _ _

theorem carry_of_readUpTo {text : Str} {s : DescriptorState} (upTo : ReadUpTo text [] s) :
    s.carry = [] ∧ text = s.emitted.flatMap PayloadChunkResult.text := by
  obtain ⟨left, split, bytes, begun⟩ := upTo.begun
  rw [List.append_nil] at bytes
  rcases begun with none | ⟨c, later, more, rfl, spelled, -, rest⟩
  · cases left with
    | nil => exact ⟨none, by rw [split, List.append_nil]⟩
    | cons c later =>
        rw [none, encode_cons] at bytes
        exact absurd (List.append_eq_nil_iff.mp bytes.symm).1 String.utf8EncodeChar_ne_nil
  · rw [encode_cons, spelled] at bytes
    have longer := congrArg List.length bytes
    have positive := List.length_pos_iff.mpr rest
    simp only [List.length_append] at longer
    omega

theorem descriptorText_readUpTo {text : Str} {reads : List (List UInt8)} {s : DescriptorState}
    (upTo : ReadUpTo text reads.flatten s) (some : ∀ chunk ∈ reads, chunk ≠ []) :
    ∃ before, descriptorText totalBytes s (reads.map .bytes) =
        (before ++ [chunkResult totalBytes [] (encode text).length true], .completed) ∧
      before.flatMap PayloadChunkResult.text = text := by
  induction reads generalizing s with
  | nil =>
      obtain ⟨none, whole⟩ := carry_of_readUpTo upTo
      refine ⟨s.emitted, ?_, whole.symm⟩
      have counted : s.read = (encode text).length := upTo.counted
      rw [List.map_nil, descriptorText, lastResults, none, ← counted]
      rfl
  | cons chunk reads ih =>
      obtain ⟨here, later⟩ := List.forall_mem_cons.mp some
      rw [List.map_cons, descriptorText, if_neg (by simpa using here)]
      exact ih (takeChunk_readUpTo upTo) later

end Stream

/-- However the bytes of a text are delivered, the texts that are emitted make it up, and the last
result tells how many bytes they were. -/
theorem descriptorText_streams (totalBytes : Nat) {bytes : List UInt8} {text : Str}
    (valid : fromUtf8 bytes = some text)
    {reads : List (List UInt8)} (delivered : reads.flatten = bytes) (nonempty : ∀ chunk ∈ reads, chunk ≠ []) :
    ∃ results, descriptorText totalBytes {} (reads.map .bytes) = (results, .completed) ∧
      results.flatMap PayloadChunkResult.text = fromUtf8Lossy bytes ∧ fromUtf8Lossy bytes = text ∧
      (∀ result ∈ results, replacement ∈ result.text → replacement ∈ text) ∧
      ∃ last, results.getLast? = some last ∧ last.bytesRead = bytes.length := by
  have encoded := fromUtf8_eq_some_iff.mp valid
  have decoded : fromUtf8Lossy bytes = text := by rw [encoded, fromUtf8Lossy_encode]
  have start : ReadUpTo text reads.flatten {} := by
    refine ⟨⟨text, rfl, ?_, .inl rfl⟩, ?_⟩
    · rw [delivered, encoded]
      rfl
    · rw [delivered, encoded]
      exact Nat.zero_add _
  obtain ⟨before, ran, whole⟩ := @descriptorText_readUpTo totalBytes text reads {} start nonempty
  have emitted : (before ++ [chunkResult totalBytes [] (encode text).length true]).flatMap
    PayloadChunkResult.text =
      text := by
    rw [List.flatMap_append, whole]
    exact List.append_nil text
  refine ⟨_, ran, emitted.trans decoded.symm, decoded, fun result member inside => ?_, _,
    List.getLast?_concat, ?_⟩
  · rw [← emitted]
    exact List.mem_flatMap.mpr ⟨result, member, inside⟩
  · rw [encoded]
    rfl

theorem descriptorText_streams_cut_character :
    ∃ results, descriptorText 3 {} [.bytes [0x61, 0xC3], .bytes [0xA9]] = (results, .completed) ∧
      results.flatMap PayloadChunkResult.text = fromUtf8Lossy [0x61, 0xC3, 0xA9] ∧
      fromUtf8Lossy [0x61, 0xC3, 0xA9] = ['a', 'é'] ∧
      (∀ result ∈ results, replacement ∈ result.text → replacement ∈ ['a', 'é']) ∧
      ∃ last, results.getLast? = some last ∧ last.bytesRead = 3 :=
  descriptorText_streams 3 (fromUtf8_eq_some_iff.mpr (by decide))
    (show [[0x61, 0xC3], [0xA9]].flatten = _ from rfl) (by decide)

end CrashCatcher.Manager.PayloadText
