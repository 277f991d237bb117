import CrashCatcher.Merge.Sound
import Mathlib.Data.List.Flatten

/-! Where the source keys of received fragments are: with a pending occurrence, with a completed
record, or waiting to be confirmed because they were suppressed against one. -/

namespace CrashCatcher.Merge
open Lib Lib.Text Model
open scoped List

def sourceKeysOf (fragments : List CrashFragment) : List Str := fragments.filterMap (·.sourceKey)

@[simp] theorem sourceKeysOf_append (left right : List CrashFragment) :
    sourceKeysOf (left ++ right) = sourceKeysOf left ++ sourceKeysOf right :=
  List.filterMap_append

theorem Occurrence.sourceKeys_eq (o : Occurrence) (fresh : (sourceKeysOf o.fragments).Nodup) :
    o.pending.sourceKeys = sourceKeysOf o.fragments := by
  induction o using Occurrence.induction with
  | start f => cases carried : f.sourceKey <;> simp [sourceKeysOf, Pending.new, carried]
  | merge o f ih =>
      rw [fragments_merge, sourceKeysOf_append] at fresh ⊢
      rw [pending_merge, Pending.merge_sourceKeys, ih (List.nodup_append.mp fresh).1]
      cases carried : f.sourceKey with
      | none => simp [Pending.mergeSourceKeys, sourceKeysOf, carried]
      | some key =>
          have new : key ∉ sourceKeysOf o.fragments := by
            intro old
            exact (List.nodup_append.mp fresh).2.2 key old key (by simp [sourceKeysOf, carried]) rfl
          have absent : (sourceKeysOf o.fragments).contains key = false := by simpa using new
          have taken : sourceKeysOf [f] = [key] := by simp [sourceKeysOf, carried]
          simp only [Pending.mergeSourceKeys, absent, taken]
          rfl

namespace Account

def ownKeys (self : Account) : List Str := self.occurrence.pending.sourceKeys
def suppressedKeys (self : Account) : List Str := sourceKeysOf self.suppressed
def keys (self : Account) : List Str := self.ownKeys ++ self.suppressedKeys

/-- The keys that have been or must still be confirmed on behalf of the record. -/
def owed (self : Account) : List Str :=
  match self.stored with
  | none => self.suppressedKeys
  | some true => self.keys
  | some false => []

end Account

namespace Traced

/-- Every received fragment is part of exactly one pending or completed occurrence. -/
def Conserved (received : List CrashFragment) (t : Traced) : Prop :=
  received.Perm (t.pending.flatMap Occurrence.fragments ++ t.accounts.flatMap Account.fragments)

def waitingFor (t : Traced) (serial : Nat) : List Str :=
  (t.suppressedSourceKeys.filter fun entry => entry.2 = serial).map fun entry => entry.1.2

structure Ledger (settled : List Str) (t : Traced) : Prop where
  ids : ∀ (i : Nat) (a : Account), t.accounts[i]? = some a → a.completionId = .ofNat (i + 1)
  next : t.nextCompletionId = .ofNat (t.accounts.length + 1)
  serials : (t.recent.map Prod.snd).Nodup
  verdicts : ∀ entry ∈ t.recent, ∀ a : Account, t.accounts[entry.2]? = some a →
    a.stored = if entry.1.persisted then some true else none
  waiting : ∀ entry ∈ t.suppressedSourceKeys,
    entry.1.1 = .ofNat (entry.2 + 1) ∧ entry.2 ∈ t.recent.map Prod.snd
  undecided : ∀ (i : Nat) (a : Account), t.accounts[i]? = some a → a.stored = none →
    (t.waitingFor i).Perm a.suppressedKeys
  settled : (settled ++ t.suppressedSourceKeys.map fun entry => entry.1.2).Perm
    (t.accounts.flatMap Account.owed)

theorem Sound.serial_lt {received : List CrashFragment} {t : Traced} (sound : Sound received t)
    {serial : Nat} (member : serial ∈ t.recent.map Prod.snd) : serial < t.accounts.length := by
  obtain ⟨entry, found, rfl⟩ := List.mem_map.mp member
  obtain ⟨a, -, account, -⟩ := sound.recent entry found
  exact (List.getElem?_eq_some_iff.mp account).1

section Moves
variable {received : List CrashFragment} {settled : List Str} {t u : Traced} {action : Action}

theorem Conserved.fresh {f : CrashFragment} (conserved : Conserved received t)
    (fresh : (sourceKeysOf (received ++ [f])).Nodup) : t.holdsSourceKey f = false := by
  rw [← Bool.not_eq_true, holdsSourceKey_iff]
  rintro ⟨key, carried, o, member, held⟩
  obtain ⟨g, fragment, shared⟩ := o.mem_sourceKeys.mp held
  have old : g ∈ received := conserved.mem_iff.mpr
    (List.mem_append_left _ (List.mem_flatMap.mpr ⟨o, member, fragment⟩))
  rw [sourceKeysOf_append, List.nodup_append] at fresh
  exact fresh.2.2 key (List.mem_filterMap.mpr ⟨g, old, shared⟩) key (by simp [sourceKeysOf, carried]) rfl

theorem Conserved.allocate {o : Occurrence} {rest : List Occurrence}
    (conserved : Conserved received t) (head : t.pending = o :: rest) :
    Conserved received ((t.setPending rest).allocate o).2 := by
  rw [Conserved, head, List.flatMap_cons, List.append_assoc] at conserved
  have accounts : ((t.setPending rest).allocate o).2.accounts.flatMap Account.fragments =
      t.accounts.flatMap Account.fragments ++ o.fragments := by
    simp [Traced.allocate, setPending, Account.fragments]
  rw [Conserved, accounts, ← List.append_assoc]
  exact conserved.trans List.perm_append_comm

theorem Move.conserved (move : Move t action u) (sound : Sound received t)
    (fresh : (sourceKeysOf (received ++ action.received)).Nodup) (conserved : Conserved received t) :
    Conserved (received ++ action.received) u := by
  cases move with
  | expire =>
      rw [Action.received, List.append_nil]
      exact conserved
  | reorder order =>
      rw [Action.received, List.append_nil]
      exact List.Perm.trans conserved ((order.flatMap_right _).append_right _)
  | complete head =>
      rw [Action.received, List.append_nil]
      exact conserved.allocate head
  | repeated held =>
      rw [conserved.fresh fresh] at held
      cases held
  | @join f o rest _ head =>
      rw [Conserved, head, List.perm_iff_count] at conserved
      refine List.perm_iff_count.mpr fun g => ?_
      have before := conserved g
      simp only [Action.received, setPending, List.flatMap_cons, Occurrence.fragments_merge,
        List.count_append] at before ⊢
      omega
  | @suppress f recent serial _ _ member =>
      obtain ⟨a, -, found, -⟩ := sound.recent _ member
      obtain ⟨rest, before, after⟩ := perm_modify found (·.suppress f)
      rw [Conserved, List.perm_iff_count] at conserved
      refine List.perm_iff_count.mpr fun g => ?_
      have total := conserved g
      have old := (before.flatMap_right Account.fragments).count_eq g
      have new := (after.flatMap_right Account.fragments).count_eq g
      simp only [Action.received, Traced.suppress, List.flatMap_cons, Account.fragments,
        Account.suppress, List.count_append] at total old new ⊢
      omega
  | start => exact (List.Perm.append_right _ conserved).trans List.perm_append_comm
  | close head =>
      rw [Action.received, List.append_nil]
      exact conserved.allocate head

theorem Conserved.length_accounts (conserved : Conserved received t) :
    t.accounts.length ≤ received.length := by
  have one : ∀ accounts : List Account,
      accounts.length ≤ (accounts.flatMap Account.fragments).length := by
    intro accounts
    induction accounts with
    | nil => simp
    | cons a rest ih =>
        simp only [List.flatMap_cons, List.length_append, List.length_cons, Account.fragments,
          Occurrence.fragments]
        omega
  have total := conserved.length_eq
  rw [List.length_append] at total
  exact (one t.accounts).trans (by omega)

theorem Conserved.nodup_part (conserved : Conserved received t)
    (fresh : (sourceKeysOf received).Nodup) {part : List CrashFragment}
    (inside : part <+ t.pending.flatMap Occurrence.fragments ++ t.accounts.flatMap Account.fragments) :
    (sourceKeysOf part).Nodup :=
  ((List.Perm.filterMap _ conserved).nodup_iff.mp fresh).sublist (inside.filterMap _)

theorem Conserved.sourceKeys_pending (conserved : Conserved received t)
    (fresh : (sourceKeysOf received).Nodup) {o : Occurrence} (member : o ∈ t.pending) :
    o.pending.sourceKeys = sourceKeysOf o.fragments := by
  apply o.sourceKeys_eq
  apply conserved.nodup_part fresh
  have own := (List.singleton_sublist.mpr member).flatMap Occurrence.fragments
  rw [List.flatMap_singleton] at own
  exact own.trans (List.sublist_append_left ..)

theorem Conserved.keys_account (conserved : Conserved received t)
    (fresh : (sourceKeysOf received).Nodup) {a : Account} (member : a ∈ t.accounts) :
    a.keys = sourceKeysOf a.fragments := by
  have own := (List.singleton_sublist.mpr member).flatMap Account.fragments
  rw [List.flatMap_singleton] at own
  have merged : (sourceKeysOf a.occurrence.fragments).Nodup := by
    apply conserved.nodup_part fresh
    exact (List.sublist_append_left _ a.suppressed).trans (own.trans (List.sublist_append_right ..))
  rw [Account.keys, Account.ownKeys, a.occurrence.sourceKeys_eq merged, Account.fragments,
    sourceKeysOf_append]
  rfl

theorem getElem?_allocate {o : Occurrence} {i : Nat} {a : Account}
    (found : (t.allocate o).2.accounts[i]? = some a) :
    t.accounts[i]? = some a ∨ i = t.accounts.length ∧ a = ⟨t.nextCompletionId, o, [], none⟩ := by
  simp only [Traced.allocate, List.getElem?_append] at found
  split_ifs at found with inside
  · exact .inl found
  · rw [List.getElem?_singleton] at found
    split_ifs at found with last
    · exact .inr ⟨by omega, (Option.some.inj found).symm⟩

theorem Ledger.allocate (ledger : Ledger settled t) (sound : Sound received t) (o : Occurrence) :
    Ledger settled (t.allocate o).2 where
  ids i a found := by
    rcases getElem?_allocate found with old | ⟨rfl, rfl⟩
    · exact ledger.ids i a old
    · exact ledger.next
  next := by
    simp only [Traced.allocate, ledger.next, List.length_append, List.length_singleton]
    rw [UInt64.ofNat_add (t.accounts.length + 1) 1]
    rfl
  serials := ledger.serials
  verdicts entry member a found := by
    rcases getElem?_allocate found with old | ⟨last, -⟩
    · exact ledger.verdicts entry member a old
    · exact absurd (sound.serial_lt (List.mem_map_of_mem member)) (by omega)
  waiting := ledger.waiting
  undecided i a found := by
    rcases getElem?_allocate found with old | ⟨rfl, rfl⟩
    · exact ledger.undecided i a old
    · intro _
      have none : t.waitingFor t.accounts.length = [] := by
        rw [waitingFor, List.map_eq_nil_iff, List.filter_eq_nil_iff]
        intro entry member
        have inside := sound.serial_lt (ledger.waiting entry member).2
        simp only [decide_eq_true_eq]
        omega
      exact none ▸ .refl _
  settled := by
    simpa [Traced.allocate, Account.owed, Account.suppressedKeys, sourceKeysOf] using ledger.settled

theorem Ledger.complete (ledger : Ledger settled t) (sound : Sound received t) (o : Occurrence) :
    Ledger settled (t.complete o).2 := by
  have allocated := ledger.allocate sound o
  refine ⟨allocated.ids, allocated.next, ?_, ?_, ?_, allocated.undecided, allocated.settled⟩
  · rw [Traced.complete, List.map_append, List.nodup_append]
    refine ⟨ledger.serials, by simp, ?_⟩
    rintro old member new last rfl
    have inside := sound.serial_lt member
    obtain rfl : old = t.accounts.length := by simpa using last
    omega
  · intro entry member a found
    rcases List.mem_append.mp member with old | new
    · exact allocated.verdicts entry old a found
    · obtain rfl := List.mem_singleton.mp new
      rcases getElem?_allocate found with old | ⟨-, rfl⟩
      · exact absurd (List.getElem?_eq_some_iff.mp old).1 (by simp)
      · rfl
  · intro entry member
    obtain ⟨id, serial⟩ := ledger.waiting entry member
    exact ⟨id, by simp [Traced.complete, Traced.allocate, serial]⟩

theorem getElem?_suppress {id : UInt64} {serial i : Nat} {f : CrashFragment} {a : Account}
    (found : (t.suppress id serial f).accounts[i]? = some a) :
    ∃ b, t.accounts[i]? = some b ∧ a = if serial = i then b.suppress f else b := by
  simp only [Traced.suppress, List.getElem?_modify, Option.map_eq_map, Option.map_eq_some_iff] at found
  obtain ⟨b, old, rfl⟩ := found
  exact ⟨b, old, rfl⟩

theorem suppressedKeys_suppress (a : Account) (f : CrashFragment) :
    (a.suppress f).suppressedKeys = a.suppressedKeys ++ f.sourceKey.toList := by
  rw [Account.suppressedKeys, Account.suppress, sourceKeysOf_append]
  cases carried : f.sourceKey <;> simp [Account.suppressedKeys, sourceKeysOf, carried]

theorem waitingFor_suppress (id : UInt64) (serial i : Nat) (f : CrashFragment) :
    (t.suppress id serial f).waitingFor i =
      t.waitingFor i ++ if serial = i then f.sourceKey.toList else [] := by
  rw [waitingFor, waitingFor, Traced.suppress, List.filter_append, List.map_append]
  cases f.sourceKey with
  | none => simp
  | some key => by_cases same : serial = i <;> simp [same]

theorem Ledger.suppress (ledger : Ledger settled t) (sound : Sound received t) {recent : Recent}
    {serial : Nat} (member : (recent, serial) ∈ t.recent) (f : CrashFragment) :
    Ledger settled (t.suppress recent.completionId serial f) := by
  obtain ⟨a, persisted, account, linked⟩ := sound.recent _ member
  have id : recent.completionId = .ofNat (serial + 1) := by
    rw [← ledger.ids serial a account, show recent = _ from linked]
    rfl
  refine ⟨?_, ?_, ledger.serials, ?_, ?_, ?_, ?_⟩
  · intro i b found
    obtain ⟨c, old, rfl⟩ := getElem?_suppress found
    rw [← ledger.ids i c old]
    split_ifs <;> rfl
  · simpa [Traced.suppress] using ledger.next
  · intro entry inside b found
    obtain ⟨c, old, rfl⟩ := getElem?_suppress found
    rw [← ledger.verdicts entry inside c old]
    split_ifs <;> rfl
  · intro entry inside
    rcases List.mem_append.mp inside with old | new
    · exact ledger.waiting entry old
    · obtain ⟨key, -, rfl⟩ := List.mem_map.mp new
      exact ⟨id, List.mem_map_of_mem member⟩
  · intro i b found undecided
    obtain ⟨c, old, rfl⟩ := getElem?_suppress found
    rw [waitingFor_suppress]
    split_ifs at undecided ⊢ with same
    · rw [suppressedKeys_suppress]
      exact (ledger.undecided i c old undecided).append_right _
    · rw [List.append_nil]
      exact ledger.undecided i c old undecided
  · have owed : (a.suppress f).owed = a.owed ++ f.sourceKey.toList := by
      have verdict := ledger.verdicts _ member a account
      have stored : (a.suppress f).stored = a.stored := rfl
      rw [Account.owed, Account.owed, stored, verdict]
      split_ifs
      · simp only [Account.keys, suppressedKeys_suppress, List.append_assoc]
        rfl
      · exact suppressedKeys_suppress a f
    obtain ⟨rest, before, after⟩ := perm_modify account (·.suppress f)
    refine List.perm_iff_count.mpr fun key => ?_
    have total := ledger.settled.count_eq key
    have old := (before.flatMap_right Account.owed).count_eq key
    have new := (after.flatMap_right Account.owed).count_eq key
    have taken : (f.sourceKey.toList.map fun key => ((recent.completionId, key), serial)).map
        (fun entry => entry.1.2) = f.sourceKey.toList := by simp [Function.comp_def]
    simp only [Traced.suppress, List.map_append, taken, List.flatMap_cons, owed, List.count_append]
      at total old new ⊢
    omega

theorem Ledger.setPending (ledger : Ledger settled t) (pending : List Occurrence) :
    Ledger settled (t.setPending pending) :=
  ⟨ledger.ids, ledger.next, ledger.serials, ledger.verdicts, ledger.waiting, ledger.undecided,
    ledger.settled⟩

theorem Sound.tail (sound : Sound received t) {o : Occurrence} {rest : List Occurrence}
    (head : t.pending = o :: rest) : Sound received (t.setPending rest) :=
  ⟨fun other member => sound.pending other (by rw [head]; exact .tail _ member), sound.accounts,
    sound.recent⟩

theorem Move.ledger (move : Move t action u) (remembers : ∀ w, action ≠ .expire w)
    (sound : Sound received t) (ledger : Ledger settled t) : Ledger settled u := by
  cases move with
  | expire w => exact absurd rfl (remembers w)
  | reorder => exact ledger.setPending _
  | complete head => exact (ledger.setPending _).complete (sound.tail head) _
  | repeated => exact ledger
  | join => exact ledger.setPending _
  | suppress _ _ member => exact ledger.suppress sound member _
  | start => exact ledger.setPending _
  | close head => exact (ledger.setPending _).allocate (sound.tail head) _

theorem Ledger.expire (ledger : Ledger settled t) (idle : t.suppressedSourceKeys = [])
    (watermarkMs : I64) : Ledger settled (t.expireRecent watermarkMs) where
  ids := ledger.ids
  next := ledger.next
  serials := ledger.serials.sublist (List.filter_sublist.map _)
  verdicts entry member := ledger.verdicts entry (List.mem_filter.mp member).1
  waiting entry member := by simp [expireRecent, idle] at member
  undecided := ledger.undecided
  settled := ledger.settled

end Moves

section Settlement
variable {received : List CrashFragment} {settled : List Str} {t : Traced} {serial : Nat} {a : Account}

theorem completionId_injective {i j : Nat} (left : i < 2 ^ 64 - 1) (right : j < 2 ^ 64 - 1)
    (same : UInt64.ofNat (i + 1) = .ofNat (j + 1)) : i = j := by
  have value := congrArg UInt64.toNat same
  rw [UInt64.toNat_ofNat', UInt64.toNat_ofNat'] at value
  omega

theorem Ledger.completionId_recent (ledger : Ledger settled t) (sound : Sound received t)
    {entry : Recent × Nat} (member : entry ∈ t.recent) :
    entry.1.completionId = .ofNat (entry.2 + 1) := by
  obtain ⟨b, persisted, found, linked⟩ := sound.recent entry member
  rw [← ledger.ids entry.2 b found, linked]
  rfl

/-- As long as ids have not come round, a record's id finds the record itself. -/
theorem Ledger.same_id_iff (ledger : Ledger settled t) (sound : Sound received t)
    (bound : t.accounts.length < 2 ^ 64) (found : t.accounts[serial]? = some a)
    {other : Nat} (member : other ∈ t.recent.map Prod.snd) {id : UInt64}
    (numbered : id = .ofNat (other + 1)) : id = a.completionId ↔ other = serial := by
  have inside := sound.serial_lt member
  have own := (List.getElem?_eq_some_iff.mp found).1
  rw [numbered, ledger.ids serial a found]
  refine ⟨completionId_injective (by omega) (by omega), ?_⟩
  rintro rfl
  rfl

theorem getElem?_resolve {stored : Bool} {i : Nat} {b : Account}
    (found : (t.resolve serial stored).accounts[i]? = some b) :
    ∃ c, t.accounts[i]? = some c ∧ b = if serial = i then { c with stored := some stored } else c := by
  simp only [resolve, List.getElem?_modify, Option.map_eq_map, Option.map_eq_some_iff] at found
  obtain ⟨c, old, rfl⟩ := found
  exact ⟨c, old, rfl⟩

theorem Sound.resolve (sound : Sound received t) (stored : Bool) :
    Sound received (t.resolve serial stored) where
  pending := sound.pending
  accounts b member := by
    obtain ⟨i, found⟩ := List.mem_iff_getElem?.mp member
    obtain ⟨c, old, rfl⟩ := getElem?_resolve found
    have kept := sound.accounts c (List.mem_of_getElem? old)
    split_ifs <;> exact kept
  recent entry member := by
    obtain ⟨b, persisted, found, linked⟩ := sound.recent entry member
    refine ⟨if serial = entry.2 then { b with stored := some stored } else b, persisted, ?_, ?_⟩
    · simp only [Traced.resolve, List.getElem?_modify, found, Option.map_eq_map, Option.map_some]
    · rw [linked]
      split_ifs <;> rfl

theorem markPersisted_eq_map (id : UInt64) {recent : List (Recent × Nat)}
    (distinct : (recent.map fun entry => entry.1.completionId).Nodup) :
    markPersisted id recent = recent.map fun entry =>
      if entry.1.completionId = id then ({ entry.1 with persisted := true }, entry.2) else entry := by
  induction recent with
  | nil => rfl
  | cons entry rest ih =>
      rw [List.map_cons, List.nodup_cons] at distinct
      rw [markPersisted, List.map_cons]
      split_ifs with found
      · congr 1
        refine (List.map_id rest).symm.trans (List.map_congr_left fun other member => ?_)
        have differs : other.1.completionId ≠ id := by
          rintro rfl
          exact distinct.1 (found ▸ List.mem_map_of_mem member)
        rw [if_neg differs]
        rfl
      · rw [ih distinct.2]

theorem Ledger.distinct_ids (ledger : Ledger settled t) (sound : Sound received t)
    (bound : t.accounts.length < 2 ^ 64) :
    (t.recent.map fun entry => entry.1.completionId).Nodup := by
  have same : t.recent.map (fun entry => entry.1.completionId) =
      (t.recent.map Prod.snd).map fun serial => UInt64.ofNat (serial + 1) := by
    rw [List.map_map]
    exact List.map_congr_left fun entry member => ledger.completionId_recent sound member
  rw [same]
  refine ledger.serials.map_on fun i left j right => ?_
  have inside := sound.serial_lt left
  have inside' := sound.serial_lt right
  exact completionId_injective (by omega) (by omega)

theorem Sound.confirm (sound : Sound received t) (id : UInt64)
    (distinct : (t.recent.map fun entry => entry.1.completionId).Nodup) :
    Sound received (t.confirmPersisted id) where
  pending := sound.pending
  accounts := sound.accounts
  recent entry member := by
    rw [confirmPersisted, markPersisted_eq_map id distinct] at member
    obtain ⟨old, inside, rfl⟩ := List.mem_map.mp member
    obtain ⟨b, persisted, found, linked⟩ := sound.recent old inside
    split_ifs
    · exact ⟨b, true, found, by rw [linked]⟩
    · exact ⟨b, persisted, found, linked⟩

theorem Sound.reject (sound : Sound received t) (id : UInt64) :
    Sound received (t.rejectCompletion id) :=
  ⟨sound.pending, sound.accounts, fun entry member => sound.recent entry (List.mem_filter.mp member).1⟩

theorem Conserved.resolve (conserved : Conserved received t) (stored : Bool) :
    Conserved received (t.resolve serial stored) := by
  have same : ∀ b : Account, Account.fragments { b with stored := some stored } = b.fragments :=
    fun _ => rfl
  rw [Conserved, Traced.resolve, List.flatMap_def (l := List.modify ..), map_modify_eq same,
    ← List.flatMap_def]
  exact conserved

theorem Ledger.confirm (ledger : Ledger settled t) (sound : Sound received t)
    (bound : t.accounts.length < 2 ^ 64) (found : t.accounts[serial]? = some a)
    (undecided : a.stored = none) {grown : List Str} (acknowledged : grown.Perm (settled ++ a.ownKeys)) :
    Ledger grown ((t.confirmPersisted a.completionId).resolve serial true) := by
  have marked := markPersisted_eq_map a.completionId (ledger.distinct_ids sound bound)
  have serials : (markPersisted a.completionId t.recent).map Prod.snd = t.recent.map Prod.snd := by
    rw [marked, List.map_map]
    refine List.map_congr_left fun entry _ => ?_
    simp only [Function.comp_apply]
    split_ifs <;> rfl
  refine ⟨?_, ?_, ?_, ?_, ?_, ?_, ?_⟩
  · intro i b inside
    obtain ⟨c, old, rfl⟩ := getElem?_resolve inside
    rw [← ledger.ids i c old]
    split_ifs <;> rfl
  · simpa [Traced.resolve, confirmPersisted] using ledger.next
  · exact serials.symm ▸ ledger.serials
  · intro entry member b inside
    obtain ⟨c, old, rfl⟩ := getElem?_resolve inside
    have member' : entry ∈ markPersisted a.completionId t.recent := member
    rw [marked] at member'
    obtain ⟨before, among, rfl⟩ := List.mem_map.mp member'
    have owner := ledger.same_id_iff sound bound found (List.mem_map_of_mem among)
      (ledger.completionId_recent sound among)
    by_cases own : before.1.completionId = a.completionId
    · simp [own, owner.mp own]
    · have differs : ¬ serial = before.2 := fun same => own (owner.mpr same.symm)
      rw [if_neg own] at old ⊢
      rw [if_neg differs]
      exact ledger.verdicts before among c old
  · intro entry member
    obtain ⟨id, among⟩ := ledger.waiting entry member
    exact ⟨id, serials.symm ▸ among⟩
  · intro i b inside open'
    obtain ⟨c, old, rfl⟩ := getElem?_resolve inside
    split_ifs at open' ⊢
    · exact ledger.undecided i c old open'
  · obtain ⟨rest, before, after⟩ := perm_modify found fun b => { b with stored := some true }
    refine List.perm_iff_count.mpr fun key => ?_
    have total := ledger.settled.count_eq key
    have more := acknowledged.count_eq key
    have old := (before.flatMap_right Account.owed).count_eq key
    have new := (after.flatMap_right Account.owed).count_eq key
    have owed : a.owed = a.suppressedKeys := by rw [Account.owed, undecided]
    have owed' : Account.owed { a with stored := some true } = a.ownKeys ++ a.suppressedKeys := rfl
    simp only [Traced.resolve, confirmPersisted, List.flatMap_cons, owed, owed', List.count_append]
      at total more old new ⊢
    omega

theorem Ledger.reject (ledger : Ledger settled t) (sound : Sound received t)
    (bound : t.accounts.length < 2 ^ 64) (found : t.accounts[serial]? = some a)
    (undecided : a.stored = none) :
    Ledger settled ((t.rejectCompletion a.completionId).resolve serial false) := by
  have recent : ∀ entry ∈ t.recent, (entry.1.completionId = a.completionId ↔ entry.2 = serial) :=
    fun entry member => ledger.same_id_iff sound bound found (List.mem_map_of_mem member)
      (ledger.completionId_recent sound member)
  have waiting : ∀ entry ∈ t.suppressedSourceKeys,
      (entry.1.1 = a.completionId ↔ entry.2 = serial) := fun entry member =>
    ledger.same_id_iff sound bound found (ledger.waiting entry member).2 (ledger.waiting entry member).1
  have kept : t.suppressedSourceKeys.filter (fun entry => entry.1.1 ≠ a.completionId) =
      t.suppressedSourceKeys.filter fun entry => ¬ entry.2 = serial :=
    List.filter_congr fun entry member => by simp [waiting entry member]
  refine ⟨?_, ?_, ledger.serials.sublist (List.filter_sublist.map _), ?_, ?_, ?_, ?_⟩
  · intro i b inside
    obtain ⟨c, old, rfl⟩ := getElem?_resolve inside
    rw [← ledger.ids i c old]
    split_ifs <;> rfl
  · simpa [Traced.resolve, rejectCompletion] using ledger.next
  · intro entry member b inside
    obtain ⟨c, old, rfl⟩ := getElem?_resolve inside
    obtain ⟨among, other⟩ := List.mem_filter.mp member
    have differs : ¬ serial = entry.2 := by
      intro same
      simp [(recent entry among).mpr same.symm] at other
    rw [if_neg differs]
    exact ledger.verdicts entry among c old
  · intro entry member
    obtain ⟨among, other⟩ := List.mem_filter.mp member
    obtain ⟨id, linked⟩ := ledger.waiting entry among
    obtain ⟨owner, inside, same⟩ := List.mem_map.mp linked
    refine ⟨id, List.mem_map.mpr ⟨owner, List.mem_filter.mpr ⟨inside, ?_⟩, same⟩⟩
    have differs : ¬ entry.2 = serial := by
      intro same
      simp [(waiting entry among).mpr same] at other
    simpa [recent owner inside, same] using differs
  · intro i b inside open'
    obtain ⟨c, old, rfl⟩ := getElem?_resolve inside
    split_ifs at open' ⊢ with same
    have part : ((t.rejectCompletion a.completionId).resolve serial false).waitingFor i =
        t.waitingFor i := by
      simp only [waitingFor, Traced.resolve, rejectCompletion, kept, List.filter_filter]
      congr 1
      refine List.filter_congr fun entry _ => ?_
      by_cases here : entry.2 = i <;> simp [here, Ne.symm same]
    rw [part]
    exact ledger.undecided i c old open'
  · obtain ⟨rest, before, after⟩ := perm_modify found fun b => { b with stored := some false }
    refine List.perm_iff_count.mpr fun key => ?_
    have total := ledger.settled.count_eq key
    have old := (before.flatMap_right Account.owed).count_eq key
    have new := (after.flatMap_right Account.owed).count_eq key
    have open' := (ledger.undecided serial a found undecided).count_eq key
    have split := ((List.filter_append_perm (fun entry : (UInt64 × Str) × Nat =>
      decide (entry.2 = serial)) t.suppressedSourceKeys).map fun entry => entry.1.2).count_eq key
    have owed : a.owed = a.suppressedKeys := by rw [Account.owed, undecided]
    have owed' : Account.owed { a with stored := some false } = [] := rfl
    simp only [Traced.resolve, rejectCompletion, List.flatMap_cons, owed, owed', List.count_append,
      waitingFor, kept, List.map_append, List.count_nil] at total old new open' split ⊢
    simp only [decide_not] at split ⊢
    omega

theorem Ledger.takeConfirmed (ledger : Ledger settled t) (sound : Sound received t)
    (decided : ∀ b ∈ t.accounts, b.stored ≠ none) :
    t.takeConfirmedSuppressedSourceKeys =
      (t.suppressedSourceKeys.map fun entry => entry.1.2, { t with suppressedSourceKeys := [] }) := by
  have confirmed : ∀ entry ∈ t.suppressedSourceKeys, t.forget.isConfirmed entry.1.1 = true := by
    intro entry member
    obtain ⟨id, linked⟩ := ledger.waiting entry member
    obtain ⟨owner, inside, same⟩ := List.mem_map.mp linked
    obtain ⟨b, persisted, found, description⟩ := sound.recent owner inside
    have verdict := ledger.verdicts owner inside b found
    have stored : owner.1.persisted = true := by
      by_contra waiting
      rw [if_neg waiting] at verdict
      exact decided b (List.mem_of_getElem? found) verdict
    have numbered : owner.1.completionId = entry.1.1 := by
      rw [id, ledger.completionId_recent sound inside, same]
    simp only [CrashMerger.isConfirmed, forget, List.any_map, List.any_eq_true]
    exact ⟨owner, inside, by simp [numbered, stored]⟩
  have all := List.filter_eq_self.mpr confirmed
  have none : t.suppressedSourceKeys.filter (not ∘ fun entry => t.forget.isConfirmed entry.1.1) = [] :=
    List.filter_eq_nil_iff.mpr fun entry member => by simp [confirmed entry member]
  rw [takeConfirmedSuppressedSourceKeys, List.partition_eq_filter_filter, all, none]

theorem Ledger.taken (ledger : Ledger settled t) {grown : List Str}
    (queued : grown.Perm (settled ++ t.suppressedSourceKeys.map fun entry => entry.1.2))
    (decided : ∀ b ∈ t.accounts, b.stored ≠ none) :
    Ledger grown { t with suppressedSourceKeys := [] } where
  ids := ledger.ids
  next := ledger.next
  serials := ledger.serials
  verdicts := ledger.verdicts
  waiting := by simp
  undecided i b found undecided := absurd undecided (decided b (List.mem_of_getElem? found))
  settled := by simpa using queued.trans ledger.settled

end Settlement
end Traced
end CrashCatcher.Merge
