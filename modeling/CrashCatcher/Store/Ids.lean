import CrashCatcher.Lib.Run
import CrashCatcher.Model.Id

namespace CrashCatcher.Store
open Lib Lib.Run Model RecordIdGenerator

/-- Points a new generator past the largest stored identifier, as text. -/
def resumeIds (stored : List RecordId) : RecordIdGenerator :=
  match (stored.map RecordId.text).max? with
  | none => .new
  | some latest => match RecordId.parse latest with
    | none => .new
    | some id => RecordIdGenerator.new.resumeAfter id

inductive IdEvent where
  | next (nowMs : UInt64) (insert : Bool)
  | delete (gone : RecordId → Bool)
  | reopen

structure IdState where
  generator : RecordIdGenerator
  present : List RecordId
  issued : List RecordId
  stored : List RecordId
deriving DecidableEq

namespace IdState

def empty : IdState := { generator := .new, present := [], issued := [], stored := [] }

def insertId (id : RecordId) (stored : List RecordId) : List RecordId :=
  if id ∈ stored then stored else id :: stored

def step (state : IdState) : IdEvent → IdState
  | .next nowMs insert =>
      let (id, generator) := state.generator.next nowMs.toNat
      { state with
        generator
        issued := id :: state.issued
        stored := if insert then insertId id state.stored else state.stored }
  | .delete gone => { state with stored := state.stored.filter fun id => !gone id }
  | .reopen =>
      { generator := resumeIds state.stored
        present := state.stored
        issued := []
        stored := state.stored }

/-- The identifier issued by this step is above all before it, and no stored record has it. -/
def IssuesLargest (state : IdState) : IdEvent → Prop
  | .next nowMs _ =>
      (∀ old ∈ state.present ++ state.issued, old < (state.generator.next nowMs.toNat).1) ∧
        (state.generator.next nowMs.toNat).1 ∉ state.stored
  | _ => True

def ClockFits (state : IdState) : IdEvent → Prop
  | .next nowMs _ => nowMs.toNat < 2 ^ 48 ∨ state.generator.lastMs ≤ nowMs.toNat % 2 ^ 48
  | _ => True

instance (state : IdState) : ∀ event, Decidable (state.IssuesLargest event)
  | .next _ _ => inferInstanceAs (Decidable (_ ∧ _))
  | .delete _ => .isTrue trivial
  | .reopen => .isTrue trivial

instance (state : IdState) : ∀ event, Decidable (state.ClockFits event)
  | .next _ _ => inferInstanceAs (Decidable (_ ∨ _))
  | .delete _ => .isTrue trivial
  | .reopen => .isTrue trivial

def calls (events : List IdEvent) : Nat :=
  events.countP fun event => match event with | .next _ _ => true | _ => false

def Coded (calls : Nat) (id : RecordId) : Prop :=
  ∃ generator : RecordIdGenerator,
    generator.Fits ∧ generator.sequence ≤ calls ∧ id = RecordId.encode generator.value

structure Tracks (state : IdState) (calls : Nat) : Prop where
  fits : state.generator.Fits
  bounded : state.generator.sequence ≤ calls
  coded : ∀ id ∈ state.present ++ state.issued, Coded calls id
  held : state.stored ⊆ state.present ++ state.issued
  anchored : state.generator = .new ∨
    RecordId.encode state.generator.value ∈ state.present ++ state.issued

def Above (state : IdState) : Prop :=
  ∀ id ∈ state.present ++ state.issued, id ≤ RecordId.encode state.generator.value

theorem Coded.mono {before after : Nat} {id : RecordId} (h : before ≤ after)
    (coded : Coded before id) : Coded after id := by
  obtain ⟨generator, fits, bounded, same⟩ := coded
  exact ⟨generator, fits, bounded.trans h, same⟩

theorem advance_sequence_le {generator : RecordIdGenerator} (fits : generator.Fits) (nowMs : Nat) :
    (generator.advance nowMs).sequence ≤ generator.sequence + 1 := by
  rcases advance_cases fits nowMs with ⟨_, stepped⟩ | ⟨_, stepped⟩
  · rw [stepped]
    exact Nat.mod_le _ _
  · rw [stepped]
    exact Nat.zero_le _

theorem value_lt_advance_iff {generator : RecordIdGenerator} (fits : generator.Fits)
    (room : generator.sequence + 1 < 2 ^ 80) (nowMs : Nat) :
    generator.value < (generator.advance nowMs).value ↔
      nowMs < 2 ^ 48 ∨ generator.lastMs ≤ nowMs % 2 ^ 48 := by
  have timestamp : generator.lastMs < 2 ^ 48 := fits.timestamp
  have stamp := stamp_eq generator nowMs
  rw [value_eq fits, value_eq (fits.advance nowMs)]
  rcases advance_cases fits nowMs with ⟨same, stepped⟩ | ⟨moved, stepped⟩
  · rw [stepped]
    rw [same] at stamp
    show generator.lastMs * 2 ^ 80 + generator.sequence <
      generator.lastMs * 2 ^ 80 + (generator.sequence + 1) % 2 ^ 80 ↔ _
    rw [Nat.mod_eq_of_lt room]
    omega
  · rw [stepped]
    show generator.lastMs * 2 ^ 80 + generator.sequence < generator.stamp nowMs * 2 ^ 80 + 0 ↔ _
    omega

theorem next_lt_iff {generator : RecordIdGenerator} (fits : generator.Fits)
    (room : generator.sequence + 1 < 2 ^ 80) (nowMs : Nat) :
    RecordId.encode generator.value < (generator.next nowMs).1 ↔
      nowMs < 2 ^ 48 ∨ generator.lastMs ≤ nowMs % 2 ^ 48 := by
  show RecordId.encode generator.value < RecordId.encode (generator.advance nowMs).value ↔ _
  rw [RecordId.encode_lt_encode_iff (value_lt fits) (value_lt (fits.advance nowMs))]
  exact value_lt_advance_iff fits room nowMs

theorem resumeIds_cases {stored : List RecordId} {calls : Nat}
    (coded : ∀ id ∈ stored, Coded calls id) :
    stored = [] ∧ resumeIds stored = .new ∨
      ∃ generator : RecordIdGenerator, resumeIds stored = generator ∧ generator.Fits ∧
        generator.sequence ≤ calls ∧ RecordId.encode generator.value ∈ stored ∧
        ∀ id ∈ stored, id ≤ RecordId.encode generator.value := by
  cases largest : (stored.map RecordId.text).max? with
  | none =>
      rw [List.max?_eq_none_iff, List.map_eq_nil_iff] at largest
      subst largest
      exact Or.inl ⟨rfl, rfl⟩
  | some latest =>
      right
      obtain ⟨member, above⟩ := List.max?_eq_some_iff.mp largest
      obtain ⟨id, hid, rfl⟩ := List.mem_map.mp member
      obtain ⟨generator, fits, bounded, rfl⟩ := coded id hid
      refine ⟨generator, ?_, fits, bounded, hid, fun id hid => above _ (List.mem_map_of_mem hid)⟩
      rw [resumeIds, largest]
      simp only [RecordId.parse_encode (value_lt fits), resumeAfter_encode fits]

theorem tracks_empty : Tracks empty 0 where
  fits := fits_new
  bounded := Nat.le_refl 0
  coded id hid := by cases hid
  held id hid := hid
  anchored := Or.inl rfl

theorem mem_insertId {id old : RecordId} {stored : List RecordId} (h : old ∈ insertId id stored) :
    old = id ∨ old ∈ stored := by
  unfold insertId at h
  split at h
  · exact Or.inr h
  · exact List.mem_cons.mp h

theorem Tracks.next {state : IdState} {calls : Nat} (tracks : state.Tracks calls)
    (nowMs : UInt64) (insert : Bool) :
    (state.step (.next nowMs insert)).Tracks (calls + 1) where
  fits := tracks.fits.advance _
  bounded := (advance_sequence_le tracks.fits _).trans (Nat.succ_le_succ tracks.bounded)
  coded id hid := by
    rcases List.mem_append.mp hid with hid | hid
    · exact (tracks.coded id (List.mem_append_left _ hid)).mono (Nat.le_succ _)
    · cases hid with
      | head =>
          refine ⟨_, tracks.fits.advance _, ?_, rfl⟩
          exact (advance_sequence_le tracks.fits _).trans (Nat.succ_le_succ tracks.bounded)
      | tail _ hid => exact (tracks.coded id (List.mem_append_right _ hid)).mono (Nat.le_succ _)
  held := by
    have grown : state.present ++ state.issued ⊆
        state.present ++ (state.generator.next nowMs.toNat).1 :: state.issued := fun old hold => by
      rcases List.mem_append.mp hold with hold | hold
      · exact List.mem_append_left _ hold
      · exact List.mem_append_right _ (List.mem_cons_of_mem _ hold)
    intro old hold
    cases insert with
    | false => exact grown (tracks.held hold)
    | true =>
        rcases mem_insertId hold with rfl | hold
        · exact List.mem_append_right _ List.mem_cons_self
        · exact grown (tracks.held hold)
  anchored := Or.inr (List.mem_append_right _ List.mem_cons_self)

theorem Tracks.delete {state : IdState} {calls : Nat} (tracks : state.Tracks calls)
    (gone : RecordId → Bool) : (state.step (.delete gone)).Tracks calls :=
  { tracks with held := fun _ hid => tracks.held (List.mem_of_mem_filter hid) }

theorem reopen_spec {state : IdState} {calls : Nat} (tracks : state.Tracks calls) :
    (state.step .reopen).Tracks calls ∧ (state.step .reopen).Above := by
  have coded : ∀ id ∈ state.stored, Coded calls id := fun id hid => tracks.coded id (tracks.held hid)
  have whole : (state.step .reopen).present ++ (state.step .reopen).issued = state.stored :=
    List.append_nil _
  have held : (state.step .reopen).stored ⊆
      (state.step .reopen).present ++ (state.step .reopen).issued := by
    rw [whole]
    exact List.Subset.refl _
  have generator : (state.step .reopen).generator = resumeIds state.stored := rfl
  rcases resumeIds_cases coded with ⟨none, fresh⟩ | ⟨resumed, same, fits, bounded, member, above⟩
  · refine ⟨⟨?_, ?_, by rwa [whole], held, Or.inl ?_⟩, ?_⟩
    · rw [generator, fresh]
      exact fits_new
    · rw [generator, fresh]
      exact Nat.zero_le _
    · rw [generator, fresh]
    · unfold Above
      rw [whole, none]
      intro id hid
      cases hid
  · refine ⟨⟨?_, ?_, by rwa [whole], held, Or.inr ?_⟩, ?_⟩
    · rwa [generator, same]
    · rwa [generator, same]
    · rwa [whole, generator, same]
    · unfold Above
      rwa [whole, generator, same]

theorem issuesLargest_iff {state : IdState} {calls : Nat} (tracks : state.Tracks calls)
    (above : state.Above) (room : calls + 1 < 2 ^ 80) (nowMs : UInt64) (insert : Bool) :
    state.IssuesLargest (.next nowMs insert) ↔ state.ClockFits (.next nowMs insert) := by
  have order := next_lt_iff tracks.fits (Nat.lt_of_le_of_lt (Nat.succ_le_succ tracks.bounded) room)
    nowMs.toNat
  constructor
  · rintro ⟨largest, _⟩
    rcases tracks.anchored with fresh | anchor
    · right
      rw [fresh]
      exact Nat.zero_le _
    · exact order.mp (largest _ anchor)
  · intro clock
    have larger : ∀ old ∈ state.present ++ state.issued,
        old < (state.generator.next nowMs.toNat).1 := fun old hold =>
      (above old hold).trans_lt (order.mpr clock)
    exact ⟨larger, fun stored => (larger _ (tracks.held stored)).false⟩

theorem Above.next {state : IdState} {nowMs : UInt64} {insert : Bool}
    (largest : state.IssuesLargest (.next nowMs insert)) :
    (state.step (.next nowMs insert)).Above := by
  intro old hold
  rcases List.mem_append.mp hold with hold | hold
  · exact (largest.1 old (List.mem_append_left _ hold)).le
  · cases hold with
    | head => exact le_rfl
    | tail _ hold => exact (largest.1 old (List.mem_append_right _ hold)).le

theorem throughout_iff {state : IdState} {before : Nat} (tracks : state.Tracks before)
    (above : state.Above) (events : List IdEvent) (few : before + calls events < 2 ^ 80) :
    Throughout step IssuesLargest state events ↔ Throughout step ClockFits state events := by
  induction events generalizing state before with
  | nil => exact Iff.rfl
  | cons event events ih =>
      cases event with
      | next nowMs insert =>
          have count : calls (.next nowMs insert :: events) = calls events + 1 :=
            List.countP_cons_of_pos rfl
          rw [count] at few
          have head := issuesLargest_iff tracks above (by omega) nowMs insert
          rw [Throughout, Throughout, ← head]
          refine and_congr_right fun largest => ?_
          exact ih (tracks.next nowMs insert) (Above.next largest) (by omega)
      | delete gone => exact and_congr_right fun _ => ih (tracks.delete gone) above few
      | reopen =>
          have reopened := reopen_spec tracks
          exact and_congr_right fun _ => ih reopened.1 reopened.2 few

/-- Across any restarts, identifiers increase exactly while every clock reading fits 48 bits
or its low 48 bits do not fall behind the generator. -/
theorem increasing_iff_clocks_fit (events : List IdEvent) (few : calls events < 2 ^ 80) :
    Throughout step IssuesLargest empty events ↔ Throughout step ClockFits empty events :=
  throughout_iff tracks_empty (fun id hid => by cases hid) events (by omega)

theorem increasing_of_restart :
    Throughout step IssuesLargest empty [.next 7 true, .next 3 true, .reopen, .next 7 true] :=
  (increasing_iff_clocks_fit _ (by decide)).mpr (by decide +kernel)

/-- A reading past 48 bits wraps the timestamp and hands out a stored identifier again. -/
theorem wrapped_clock_repeats_an_id :
    (∃ events, calls events < 2 ^ 80 ∧ ¬ Throughout step IssuesLargest empty events) ∧
      let state := [.next 0 true, .next 5 true, .next 0x1000000000000 true].foldl step empty
      (state.generator.next (2 ^ 48)).1 ∈ state.stored := by
  refine ⟨⟨[.next 0 true, .next 5 true, .next 0x1000000000000 true], ?_⟩, ?_⟩
  · decide +kernel
  · decide +kernel

end IdState
end CrashCatcher.Store
