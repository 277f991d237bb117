import CrashCatcher.Store.Paging
import CrashCatcher.Store.Accounting

namespace CrashCatcher.Store
open Lib Lib.Run Model Wire

/-- What happens during a client's walk: it asks for its next page, or the store is written to. -/
inductive WalkEvent where
  | page (limit : Nat) (faults : Nat → Option Nat)
  | op (op : Op) (faults : Nat → Option Nat)

structure Walk (α : Type) where
  store : StoreState
  cursor : Option Cursor
  returned : List α
  finished : Bool

def Walk.view {α : Type} (walk : Walk α) : Keyset.Walk α PageKey where
  cursor := walk.cursor.map Cursor.key
  returned := walk.returned
  finished := walk.finished

namespace Listing

section
variable (platform : Platform) {α : Type} (listing : Listing α)

def start (s : StoreState) : Walk α := { store := s, cursor := none, returned := [], finished := false }

/-- Each page is requested with the cursor of the page before; a failed request is repeated. -/
def step (walk : Walk α) : WalkEvent → Walk α
  | .op op faults => { walk with store := walk.store.apply platform op faults }
  | .page limit faults =>
      if walk.finished then walk
      else match listing.fetch walk.cursor limit { store := walk.store, faults } with
        | (.ok page, world) =>
            { store := world.store
              cursor := page.nextCursor
              returned := walk.returned ++ page.items
              finished := page.nextCursor.isNone }
        | (.error _, world) => { walk with store := world.store }

def walk (s : StoreState) (events : List WalkEvent) : Walk α :=
  events.foldl (listing.step platform) (start s)

def Stays (k : PageKey) (walk : Walk α) (_ : WalkEvent) : Prop :=
  walk.finished ∨ ∃ row ∈ listing.rows walk.store.db, listing.key row = k

/-- A walk returns rows in strict order, each row that stays exactly once, and without writes the
whole list after enough pages. -/
structure Exact (s : StoreState) (events : List WalkEvent) : Prop where
  ordered : (listing.walk platform s events).returned.Pairwise fun a b =>
    Before listing.sort (listing.key a) (listing.key b)
  once : ∀ k, (listing.walk platform s events).finished →
    Throughout (listing.step platform) (listing.Stays k) (start s) events →
    (listing.walk platform s events).returned.countP (fun row => (listing.key row).2 = k.2) = 1
  whole : (listing.walk platform s events).finished →
    (∀ event ∈ events, ∃ limit faults, event = .page limit faults) →
    (listing.walk platform s events).returned =
      Keyset.ordered (Before listing.sort) listing.key (listing.rows s.db)
  ends : listing.accepted → (∀ event ∈ events, ∃ limit, event = .page limit noFaults) →
    (listing.rows s.db).length < events.length → (listing.walk platform s events).finished

end

section
variable {platform : Platform} {α : Type} {listing : Listing α} {current : Walk α}

structure Sound (platform : Platform) (listing : Listing α) (current : Walk α) : Prop where
  reachable : Reachable platform current.store
  valid : ∀ c ∈ current.cursor, c.validateFor listing.sort = .ok ()
  sorted : current.view.Sorted (Before listing.sort) listing.key

theorem Paged.keys (paged : listing.Paged) {db : Database} (kept : WellKept db) :
    ((listing.rows db).map listing.key).Nodup := by
  apply List.Nodup.of_map Prod.snd
  rw [List.map_map]
  exact paged.distinct kept

structure Turned (listing : Listing α) (current next : Walk α) : Prop where
  store : next.store = current.store
  valid : ∀ c ∈ next.cursor, c.validateFor listing.sort = .ok ()
  view : ∃ room, 0 < room ∧ next.view =
    current.view.turn (Before listing.sort) listing.key (listing.rows current.store.db) room

theorem turned_of_answer (paged : listing.Paged) (sound : Sound platform listing current)
    {limit : Nat} {faults : Nat → Option Nat} {page : Page α} {world : World}
    (going : current.finished = false)
    (answer : listing.fetch current.cursor limit { store := current.store, faults } =
      (.ok page, world)) :
    Turned listing current (listing.step platform current (.page limit faults)) := by
  have ends := paged.fetched current.cursor limit sound.reachable.kept.2 sound.valid
    { store := current.store, faults } rfl
  rw [answer] at ends
  obtain ⟨same, valid, room, positive, turned⟩ := ends
  have turned : Keyset.page (Before listing.sort) listing.key room current.view.cursor
      (listing.rows current.store.db) = (page.items, page.nextCursor.map Cursor.key) := turned.symm
  rw [step, if_neg (Bool.eq_false_iff.mp going), answer]
  refine ⟨same, valid, room, positive, ?_⟩
  unfold Keyset.Walk.turn
  rw [turned]
  show Keyset.Walk.mk _ _ _ = Keyset.Walk.mk _ _ _
  rw [Option.isNone_map]
  rfl

theorem step_page (paged : listing.Paged) (sound : Sound platform listing current) (limit : Nat)
    (faults : Nat → Option Nat) (going : current.finished = false) :
    listing.step platform current (.page limit faults) = current ∨
      Turned listing current (listing.step platform current (.page limit faults)) := by
  rcases fetched : listing.fetch current.cursor limit { store := current.store, faults }
    with ⟨_ | page, world⟩
  · left
    have ends := paged.fetched current.cursor limit sound.reachable.kept.2 sound.valid
      { store := current.store, faults } rfl
    rw [fetched] at ends
    have same : world.store = current.store := ends
    rw [step, if_neg (Bool.eq_false_iff.mp going), fetched]
    show { current with store := world.store } = current
    rw [same]
  · exact .inr (turned_of_answer paged sound going fetched)

theorem sound_start {s : StoreState} (reachable : Reachable platform s) :
    Sound platform listing (start s) where
  reachable := reachable
  valid _ h := by cases h
  sorted := Keyset.Walk.sorted_start

theorem step_finished (ended : current.finished) (limit : Nat) (faults : Nat → Option Nat) :
    listing.step platform current (.page limit faults) = current := if_pos ended

theorem step_sound (paged : listing.Paged) (sound : Sound platform listing current)
    (event : WalkEvent) : Sound platform listing (listing.step platform current event) := by
  cases event with
  | op op faults => exact ⟨.step op faults sound.reachable, sound.valid, sound.sorted⟩
  | page limit faults =>
      cases going : current.finished with
      | true => rwa [step_finished going]
      | false =>
          rcases step_page paged sound limit faults going with same | ⟨store, valid, room, positive, view⟩
          · rwa [same]
          · refine ⟨store ▸ sound.reachable, valid, ?_⟩
            rw [view]
            exact Keyset.Walk.turn_sorted sound.sorted (paged.keys sound.reachable.kept.2) positive going

theorem step_owes (paged : listing.Paged) (sound : Sound platform listing current) {k : PageKey}
    (event : WalkEvent) (stays : listing.Stays k current event) :
    (listing.step platform current event).returned.countP (fun row => (listing.key row).2 = k.2) +
        ((listing.step platform current event).view.owes (Before listing.sort) k).toNat =
      current.returned.countP (fun row => (listing.key row).2 = k.2) +
        (current.view.owes (Before listing.sort) k).toNat := by
  cases event with
  | op op faults => rfl
  | page limit faults =>
      cases going : current.finished with
      | true => rw [step_finished going]
      | false =>
          rcases step_page paged sound limit faults going with same | ⟨_, _, room, positive, view⟩
          · rw [same]
          · rcases stays with ended | ⟨row, member, keyed⟩
            · cases ended.symm.trans going
            have keeps : Keyset.Keeps listing.key (fun row => (listing.key row).2 = k.2) k
                (listing.rows current.store.db) := by
              refine ⟨⟨row, member, by simp [keyed]⟩, fun other member' same => ?_⟩
              have same := of_decide_eq_true same
              rw [← keyed] at same ⊢
              have distinct := paged.distinct sound.reachable.kept.2
              rw [List.inj_on_of_nodup_map distinct member' member same]
            have turned := Keyset.Walk.turn_countP (Before listing.sort) current.view
              (paged.keys sound.reachable.kept.2) keeps positive going
            rw [← view] at turned
            exact turned

theorem step_whole (paged : listing.Paged) (sound : Sound platform listing current) (limit : Nat)
    (faults : Nat → Option Nat) :
    (listing.step platform current (.page limit faults)).store = current.store ∧
      (listing.step platform current (.page limit faults)).returned ++
          (listing.step platform current (.page limit faults)).view.rest (Before listing.sort)
            listing.key (listing.rows current.store.db) =
        current.returned ++ current.view.rest (Before listing.sort) listing.key
          (listing.rows current.store.db) := by
  cases going : current.finished with
  | true =>
      rw [step_finished going]
      exact ⟨rfl, rfl⟩
  | false =>
      rcases step_page paged sound limit faults going with same | ⟨store, _, room, positive, view⟩
      · rw [same]
        exact ⟨rfl, rfl⟩
      · have turned := Keyset.Walk.turn_returned_rest (Before listing.sort) current.view
          (paged.keys sound.reachable.kept.2) positive going
        rw [← view] at turned
        exact ⟨store, turned⟩

theorem step_answered (paged : listing.Paged) (accepted : listing.accepted)
    (sound : Sound platform listing current) (limit : Nat) (going : current.finished = false) :
    (listing.step platform current (.page limit noFaults)).finished = true ∨
      ((listing.step platform current (.page limit noFaults)).view.rest (Before listing.sort)
          listing.key (listing.rows current.store.db)).length <
        (current.view.rest (Before listing.sort) listing.key (listing.rows current.store.db)).length := by
  obtain ⟨page, answered⟩ := paged.answered (s := current.store) limit accepted sound.valid
  obtain ⟨_, _, room, positive, view⟩ := turned_of_answer paged sound going answered
  have shrinks := Keyset.Walk.turn_rest_length (Before listing.sort) current.view
    (paged.keys sound.reachable.kept.2) positive going
  rwa [← view] at shrinks

theorem walk_sound (paged : listing.Paged) {s : StoreState} (reachable : Reachable platform s)
    (events : List WalkEvent) : Sound platform listing (listing.walk platform s events) :=
  List.foldlRecOn events _ (sound_start reachable) fun _ sound event _ => step_sound paged sound event

theorem finished_of_short (paged : listing.Paged) (accepted : listing.accepted)
    (sound : Sound platform listing current) {events : List WalkEvent}
    (pages : ∀ event ∈ events, ∃ limit, event = .page limit noFaults)
    (short : current.finished = true ∨ (current.view.rest (Before listing.sort) listing.key
      (listing.rows current.store.db)).length < events.length) :
    (events.foldl (listing.step platform) current).finished = true := by
  induction events generalizing current with
  | nil =>
      rcases short with ended | short
      · exact ended
      · exact absurd short (Nat.not_lt_zero _)
  | cons event events ih =>
      obtain ⟨limit, rfl⟩ := pages event List.mem_cons_self
      refine ih (step_sound paged sound _) (fun event h => pages event (List.mem_cons_of_mem _ h)) ?_
      cases going : current.finished with
      | true =>
          left
          rwa [step_finished going]
      | false =>
          rw [(step_whole paged sound limit noFaults).1]
          rcases step_answered paged accepted sound limit going with ended | shorter
          · exact .inl ended
          · rcases short with ended | short
            · cases ended.symm.trans going
            · rw [List.length_cons] at short
              exact .inr (by omega)

theorem Paged.exact (paged : listing.Paged) {s : StoreState} (reachable : Reachable platform s)
    (events : List WalkEvent) : listing.Exact platform s events where
  ordered := (walk_sound paged reachable events).sorted.pairwise
  once k ended stays := by
    have counted := stays.foldl (fun current => Sound platform listing current ∧
      current.returned.countP (fun row => (listing.key row).2 = k.2) +
        (current.view.owes (Before listing.sort) k).toNat = 1)
      (fun current event holds stays =>
        ⟨step_sound paged holds.1 event, (step_owes paged holds.1 event stays).trans holds.2⟩)
      ⟨sound_start reachable, rfl⟩
    have settled : (listing.walk platform s events).view.owes (Before listing.sort) k = false := by
      rw [Keyset.Walk.owes, Walk.view, ended]
      rfl
    have counted := counted.2
    rwa [← walk, settled] at counted
  whole ended pages := by
    have kept := List.foldlRecOn events (listing.step platform) (motive := fun current =>
        Sound platform listing current ∧ current.store = s ∧
          current.returned ++ current.view.rest (Before listing.sort) listing.key (listing.rows s.db) =
            Keyset.ordered (Before listing.sort) listing.key (listing.rows s.db))
      ⟨sound_start reachable, rfl, Keyset.past_none⟩ fun current holds event member => by
        obtain ⟨sound, rfl, whole⟩ := holds
        obtain ⟨limit, faults, rfl⟩ := pages event member
        have step := step_whole paged sound limit faults
        exact ⟨step_sound paged sound _, step.1, step.2.trans whole⟩
    have ended : (listing.walk platform s events).view.finished = true := ended
    have whole := kept.2.2
    rw [← walk, Keyset.Walk.rest, if_pos ended, List.append_nil] at whole
    exact whole
  ends accepted pages enough := by
    refine finished_of_short paged accepted (sound_start reachable) pages (.inr ?_)
    show (Keyset.past (Before listing.sort) listing.key none (listing.rows s.db)).length < _
    rwa [Keyset.past_none, Keyset.ordered, List.length_mergeSort]

end

end Listing

/-- Every walk through the groups or through the records of a group is exact. -/
theorem pagination_exact {platform : Platform} {s : StoreState} (reachable : Reachable platform s)
    (page : PageRequest) (events : List WalkEvent) :
    (Listing.groups page).Exact platform s events ∧
      ∀ groupId, (Listing.records groupId page).Exact platform s events :=
  ⟨(Listing.paged_groups page).exact reachable events,
    fun groupId => (Listing.paged_records groupId page).exact reachable events⟩

def crashBetweenPages : List WalkEvent :=
  [.op (.insert oneByteCrash {} [] 0) noFaults, .page 1 noFaults,
    .op (.insert { oneByteCrash with packageName := "other".toList } {} [] 0) noFaults,
    .page 1 noFaults]

theorem pagination_exact_between_pages :
    (Listing.groups {}).Exact plainPlatform .empty crashBetweenPages ∧
      ∀ groupId, (Listing.records groupId {}).Exact plainPlatform .empty crashBetweenPages :=
  pagination_exact .empty {} crashBetweenPages

example : ((Listing.groups {}).walk plainPlatform .empty crashBetweenPages).finished = true := by
  decide +kernel

end CrashCatcher.Store
