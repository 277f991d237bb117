import CrashCatcher.Store.Ids
import Mathlib.Order.Bounds.Basic

namespace CrashCatcher.Store
open Lib Model RecordIdGenerator
namespace IdState

def Generated (id : RecordId) : Prop :=
  ∃ events : List IdEvent, id ∈ (events.foldl step empty).issued

theorem Tracks.step {state : IdState} {before : Nat} (tracks : state.Tracks before)
    (event : IdEvent) : (state.step event).Tracks (before + calls [event]) := by
  cases event with
  | next nowMs insert => exact tracks.next nowMs insert
  | delete gone => exact tracks.delete gone
  | reopen => exact (reopen_spec tracks).1

theorem Tracks.foldl {state : IdState} {before : Nat} (tracks : state.Tracks before)
    (events : List IdEvent) : (events.foldl IdState.step state).Tracks (before + calls events) := by
  induction events generalizing state before with
  | nil => exact tracks
  | cons event events ih =>
      have count : before + calls (event :: events) = before + calls [event] + calls events := by
        rw [calls, ← List.singleton_append, List.countP_append, ← Nat.add_assoc]
        rfl
      rw [List.foldl_cons, count]
      exact ih (tracks.step event)

theorem Generated.coded {id : RecordId} (generated : Generated id) : ∃ calls, Coded calls id := by
  obtain ⟨events, issued⟩ := generated
  exact ⟨_, (tracks_empty.foldl events).coded id (List.mem_append_right _ issued)⟩

theorem exists_coded {stored : List RecordId} (generated : ∀ id ∈ stored, Generated id) :
    ∃ calls, ∀ id ∈ stored, Coded calls id := by
  induction stored with
  | nil => exact ⟨0, fun id hid => by cases hid⟩
  | cons head tail ih =>
      obtain ⟨first, coded⟩ := (generated head List.mem_cons_self).coded
      obtain ⟨second, rest⟩ := ih fun id hid => generated id (List.mem_cons_of_mem _ hid)
      refine ⟨max first second, fun id hid => ?_⟩
      rcases List.mem_cons.mp hid with rfl | hid
      · exact coded.mono (Nat.le_max_left _ _)
      · exact (rest id hid).mono (Nat.le_max_right _ _)

theorem value_lt_advance_iff_of_small {generator : RecordIdGenerator} (fits : generator.Fits)
    {nowMs : Nat} (small : nowMs < 2 ^ 48) :
    generator.value < (generator.advance nowMs).value ↔
      generator.sequence + 1 < 2 ^ 80 ∨ generator.lastMs < nowMs := by
  have timestamp : generator.lastMs < 2 ^ 48 := fits.timestamp
  have sequence : generator.sequence < 2 ^ 80 := fits.sequence
  have stamp : generator.stamp nowMs = max nowMs generator.lastMs := by
    rw [stamp_eq, Nat.mod_eq_of_lt (max_lt small timestamp)]
  by_cases room : generator.sequence + 1 < 2 ^ 80
  · simp only [value_lt_advance_iff fits room, small, room, true_or]
  · rw [value_eq fits, value_eq (fits.advance nowMs)]
    rcases advance_cases fits nowMs with ⟨same, stepped⟩ | ⟨moved, stepped⟩
    · rw [stepped]
      show generator.lastMs * 2 ^ 80 + generator.sequence <
        generator.lastMs * 2 ^ 80 + (generator.sequence + 1) % 2 ^ 80 ↔ _
      omega
    · rw [stepped]
      show generator.lastMs * 2 ^ 80 + generator.sequence < generator.stamp nowMs * 2 ^ 80 + 0 ↔ _
      omega

theorem resumeIds_largest {stored : List RecordId} (generated : ∀ id ∈ stored, Generated id)
    (nonempty : stored ≠ []) :
    (resumeIds stored).Fits ∧ RecordId.encode (resumeIds stored).value ∈ stored ∧
      ∀ id ∈ stored, id ≤ RecordId.encode (resumeIds stored).value := by
  obtain ⟨calls, coded⟩ := exists_coded generated
  rcases resumeIds_cases coded with ⟨none, _⟩ | ⟨generator, same, fits, _, member, above⟩
  · exact absurd none nonempty
  · subst same
    exact ⟨fits, member, above⟩

def decoded (stored : List RecordId) : Set Nat := {v | ∃ id ∈ stored, id.decode = some v}

theorem isGreatest_resumed {stored : List RecordId} (generated : ∀ id ∈ stored, Generated id)
    (nonempty : stored ≠ []) : IsGreatest (decoded stored) (resumeIds stored).value := by
  obtain ⟨fits, member, above⟩ := resumeIds_largest generated nonempty
  refine ⟨⟨_, member, RecordId.decode_encode (value_lt fits)⟩, ?_⟩
  rintro v ⟨id, hid, hv⟩
  obtain ⟨calls, issuer, issuerFits, _, rfl⟩ := (generated id hid).coded
  rw [RecordId.decode_encode (value_lt issuerFits)] at hv
  cases hv
  apply not_lt.mp
  intro larger
  have later := RecordId.encode_lt_encode (value_lt issuerFits) larger
  exact (later.trans_le (above _ hid)).false

def SortsAfter (stored : List RecordId) (nowMs : UInt64) : Prop :=
  ∀ id ∈ stored, id.text < ((resumeIds stored).next nowMs.toNat).1.text

theorem sortsAfter_iff {stored : List RecordId} (generated : ∀ id ∈ stored, Generated id)
    (nonempty : stored ≠ []) {nowMs : UInt64} (small : nowMs.toNat < 2 ^ 48) :
    SortsAfter stored nowMs ↔
      (resumeIds stored).sequence + 1 < 2 ^ 80 ∨ (resumeIds stored).lastMs < nowMs.toNat := by
  obtain ⟨fits, member, above⟩ := resumeIds_largest generated nonempty
  have order : RecordId.encode (resumeIds stored).value < ((resumeIds stored).next nowMs.toNat).1 ↔
      (resumeIds stored).value < ((resumeIds stored).advance nowMs.toNat).value :=
    RecordId.encode_lt_encode_iff (value_lt fits) (value_lt (fits.advance _))
  rw [← value_lt_advance_iff_of_small fits small, ← order]
  constructor
  · intro after
    exact after _ member
  · intro larger id hid
    exact (above id hid).trans_lt larger

theorem parts_eq {generator : RecordIdGenerator} (fits : generator.Fits) :
    generator =
      { lastMs := generator.value / 2 ^ 80, sequence := generator.value % 2 ^ 80 } := by
  have parts := value_eq fits
  cases generator with
  | mk lastMs sequence =>
      have small : sequence < 2 ^ 80 := fits.sequence
      simp only [RecordIdGenerator.mk.injEq] at parts ⊢
      constructor
      · omega
      · omega

/-- Identifiers are ordered by the numbers they encode, a reopened store resumes from the largest,
and the next identifier sorts after all of them unless the sequence of its millisecond is used up. -/
theorem id_text_orders {stored : List RecordId} (generated : ∀ id ∈ stored, Generated id) :
    (∀ v : BitVec 128, (RecordId.encode v.toNat).decode = some v.toNat) ∧
      (∀ a b : BitVec 128,
        (RecordId.encode a.toNat).text < (RecordId.encode b.toNat).text ↔ a.toNat < b.toNat) ∧
      (stored ≠ [] → ∃ largest, IsGreatest (decoded stored) largest ∧
        resumeIds stored = { lastMs := largest / 2 ^ 80, sequence := largest % 2 ^ 80 }) ∧
      ∀ nowMs : UInt64, nowMs.toNat < 2 ^ 48 →
        (SortsAfter stored nowMs ↔ ∀ largest, IsGreatest (decoded stored) largest →
          largest % 2 ^ 80 + 1 < 2 ^ 80 ∨ largest / 2 ^ 80 < nowMs.toNat) := by
  refine ⟨fun v => RecordId.decode_encode v.isLt,
    fun a b => RecordId.encode_lt_encode_iff a.isLt b.isLt, fun nonempty => ?_, ?_⟩
  · exact ⟨_, isGreatest_resumed generated nonempty,
      parts_eq (resumeIds_largest generated nonempty).1⟩
  · intro nowMs small
    by_cases none : stored = []
    · subst none
      constructor
      · rintro _ largest ⟨⟨id, hid, _⟩, _⟩
        cases hid
      · intro _ id hid
        cases hid
    · have greatest := isGreatest_resumed generated none
      have parts := parts_eq (resumeIds_largest generated none).1
      rw [sortsAfter_iff generated none small]
      have sequence : (resumeIds stored).sequence = (resumeIds stored).value % 2 ^ 80 :=
        congrArg RecordIdGenerator.sequence parts
      have lastMs : (resumeIds stored).lastMs = (resumeIds stored).value / 2 ^ 80 :=
        congrArg RecordIdGenerator.lastMs parts
      constructor
      · intro later largest isLargest
        rw [isLargest.unique greatest, ← sequence, ← lastMs]
        exact later
      · intro later
        rw [sequence, lastMs]
        exact later _ greatest

/-- The clock goes back before the second identifier, and again before the store is reopened. -/
def turnedBack : List RecordId := ([.next 7 true, .next 3 true, .next 9 true].foldl step empty).issued

theorem id_text_orders_of_turned_back : turnedBack.Nodup ∧ turnedBack.length = 3 ∧
    (∃ largest, IsGreatest (decoded turnedBack) largest ∧
      resumeIds turnedBack = { lastMs := largest / 2 ^ 80, sequence := largest % 2 ^ 80 }) ∧
    SortsAfter turnedBack 4 := by
  obtain ⟨-, -, resumes, sorts⟩ := @id_text_orders turnedBack fun _ issued => ⟨_, issued⟩
  have room : ∀ id ∈ turnedBack, ∀ n ∈ id.decode, n % 2 ^ 80 + 1 < 2 ^ 80 := by decide +kernel
  refine ⟨by decide +kernel, by decide +kernel, resumes (by decide +kernel), ?_⟩
  refine (sorts 4 (by decide)).mpr fun largest greatest => .inl ?_
  obtain ⟨id, stored, named⟩ := greatest.1
  exact room id stored largest named

theorem counted_up (count : Nat) (few : count < 2 ^ 80) :
    ((List.replicate count (IdEvent.next 0 false)).foldl step empty).generator =
      { lastMs := 0, sequence := count } := by
  induction count with
  | zero => rfl
  | succ count ih =>
      rw [List.replicate_succ', List.foldl_append, List.foldl_cons, List.foldl_nil]
      show (((List.replicate count (IdEvent.next 0 false)).foldl step empty).generator.advance 0) = _
      rw [ih (by omega)]
      have fits : Fits { lastMs := 0, sequence := count } := ⟨Nat.two_pow_pos 48, Nat.lt_of_succ_lt few⟩
      rcases advance_cases fits 0 with ⟨_, stepped⟩ | ⟨moved, _⟩
      · rw [stepped]
        show RecordIdGenerator.mk 0 ((count + 1) % 2 ^ 80) = _
        rw [Nat.mod_eq_of_lt few]
      · exact absurd (stamp_eq _ 0) moved

theorem generated_in_millisecond_zero {count : Nat} (positive : 0 < count) (few : count < 2 ^ 80) :
    Generated (RecordId.encode (RecordIdGenerator.mk 0 count).value) := by
  obtain ⟨before, rfl⟩ := Nat.exists_eq_succ_of_ne_zero positive.ne'
  refine ⟨List.replicate (before + 1) (.next 0 false), ?_⟩
  rw [← counted_up (before + 1) few, List.replicate_succ', List.foldl_append]
  exact List.mem_cons_self

/-- After the last identifier of a millisecond the sequence wraps and the next one sorts first. -/
theorem wrapped_sequence_sorts_before :
    ∃ stored : List RecordId, (∀ id ∈ stored, Generated id) ∧
      ∃ nowMs : UInt64, nowMs.toNat < 2 ^ 48 ∧ ¬ SortsAfter stored nowMs := by
  let last : RecordIdGenerator := { lastMs := 0, sequence := 2 ^ 80 - 1 }
  have fits : last.Fits := ⟨by decide, by decide⟩
  have generated : ∀ id ∈ [RecordId.encode last.value], Generated id := fun id hid =>
    List.mem_singleton.mp hid ▸ generated_in_millisecond_zero (by decide) (by decide)
  refine ⟨[RecordId.encode last.value], generated, 0, by decide, ?_⟩
  obtain ⟨resumedFits, member, _⟩ := resumeIds_largest generated (List.cons_ne_nil _ _)
  have same := RecordId.encode_inj (value_lt resumedFits) (value_lt fits) (List.mem_singleton.mp member)
  have resumed := parts_eq resumedFits
  rw [same] at resumed
  rw [sortsAfter_iff generated (List.cons_ne_nil _ _) (by decide), resumed]
  decide +kernel

end IdState
end CrashCatcher.Store
