import CrashCatcher.Merge.Sound

/-! One crash reported by several collectors ends as one record, however its reports interleave. -/

namespace CrashCatcher.Merge
open Lib Lib.Text Model
open scoped List

structure SameCrash (windowMs : I64) (process : Str) (pid : Int) (crash : List CrashFragment) :
    Prop where
  process : ∀ f ∈ crash, f.processName = process
  pid : ∀ f ∈ crash, f.pid = pid
  kind : ∀ f ∈ crash, ∀ g ∈ crash, f.kind = g.kind
  user : ∀ f ∈ crash, ∀ g ∈ crash, ∀ left right,
    f.userId = some left → g.userId = some right → left = right
  single : ∀ f ∈ crash, f.source.IsSingle
  sources : crash.Pairwise fun f g => f.source ≠ g.source
  keys : crash.Pairwise fun f g => f.sourceKey = g.sourceKey → f.sourceKey = none
  time : ∀ f ∈ crash, ∀ g ∈ crash,
    (f.happenedAtMs.absDiff g.happenedAtMs : Int) ≤ min windowMs.val 2000

/-- The inputs deliver the crash, in some order, among flushes and other processes' fragments. -/
structure Delivers (windowMs : I64) (process : Str) (crash : List CrashFragment)
    (inputs : List Input) : Prop where
  delivered : ((inputs.flatMap Input.received).filter fun f => f.processName = process).Perm crash
  flushes : ∀ watermarkMs, .flush watermarkMs ∈ inputs →
    ∀ f ∈ crash, watermarkMs.val ≤ f.happenedAtMs.val + windowMs.val
  others : ∀ g, .ingest g ∈ inputs → g.processName ≠ process →
    ∀ f ∈ crash, g.happenedAtMs.val ≤ f.happenedAtMs.val + windowMs.val ∧
      (g.sourceKey = f.sourceKey → g.sourceKey = none)

section Library
variable {α : Type*}

theorem filter_singleton_of_perm {p : α → Bool} {l l' : List α} {a : α} (same : l.Perm l')
    (only : l.filter p = [a]) : l'.filter p = [a] :=
  List.perm_singleton.mp (only ▸ (same.filter p).symm)

theorem filter_nil_of_perm {p : α → Bool} {l l' : List α} (same : l.Perm l')
    (none : l.filter p = []) : l'.filter p = [] :=
  List.perm_nil.mp (none ▸ (same.filter p).symm)

end Library

namespace SameCrash
variable {windowMs : I64} {process : Str} {pid : Int} {crash : List CrashFragment}

theorem perm {other : List CrashFragment} (same : SameCrash windowMs process pid crash)
    (order : crash.Perm other) : SameCrash windowMs process pid other where
  process f member := same.process f (order.mem_iff.mpr member)
  pid f member := same.pid f (order.mem_iff.mpr member)
  kind f left g right := same.kind f (order.mem_iff.mpr left) g (order.mem_iff.mpr right)
  user f left g right := same.user f (order.mem_iff.mpr left) g (order.mem_iff.mpr right)
  single f member := same.single f (order.mem_iff.mpr member)
  sources := same.sources.perm order fun distinct => distinct.symm
  keys := same.keys.perm order fun distinct shared => shared ▸ distinct shared.symm
  time f left g right := same.time f (order.mem_iff.mpr left) g (order.mem_iff.mpr right)

theorem sublist {other : List CrashFragment} (same : SameCrash windowMs process pid crash)
    (part : other <+ crash) : SameCrash windowMs process pid other where
  process f member := same.process f (part.subset member)
  pid f member := same.pid f (part.subset member)
  kind f left g right := same.kind f (part.subset left) g (part.subset right)
  user f left g right := same.user f (part.subset left) g (part.subset right)
  single f member := same.single f (part.subset member)
  sources := same.sources.sublist part
  keys := same.keys.sublist part
  time f left g right := same.time f (part.subset left) g (part.subset right)

structure Companion (windowMs : I64) (pending : Pending) (f : CrashFragment) : Prop where
  source : pending.sources.contains f.source = false
  identity : occurrenceIdentityMatches pending.pid pending.userValue f.pid f.userId = true
  process : pending.process = f.processName
  kind : pending.kind.value = f.kind
  time : (pending.firstMs.absDiff f.happenedAtMs : Int) ≤ min windowMs.val 2000

theorem companion {f : CrashFragment} (same : SameCrash windowMs process pid (crash ++ [f]))
    (known : pid ≠ 0) {o : Occurrence} (coherent : o.Coherent) (part : o.fragments ⊆ crash) :
    Companion windowMs o.pending f := by
  have old : ∀ g ∈ o.fragments, g ∈ crash ++ [f] := fun g member => by simp [part member]
  have new : f ∈ crash ++ [f] := by simp
  have first : o.first ∈ o.fragments := by simp [Occurrence.fragments]
  refine ⟨?_, ?_, ?_, ?_, ?_⟩
  · rw [← Bool.not_eq_true, Occurrence.contains_sources_iff (same.single f new)]
    rintro ⟨g, member, repeated⟩
    rw [SourceMask.contains_single (same.single g (old g member)) (same.single f new)] at repeated
    exact (List.pairwise_append.mp same.sources).2.2 g (part member) f (by simp) repeated
  · obtain ⟨g, member, pidOf⟩ := o.exists_pid
    rw [← pidOf, same.pid g (old g member), same.pid f new]
    apply occurrenceIdentityMatches_of_pid known
    intro left right recorded incoming
    obtain ⟨other, found, user⟩ := o.exists_user recorded
    exact same.user other (old other found) f new left right user incoming
  · rw [← coherent.process _ first, same.process _ (old _ first), same.process f new]
  · rw [← coherent.kind _ first, same.kind _ (old _ first) f new]
  · obtain ⟨g, member, time⟩ := o.exists_firstMs
    rw [← time]
    exact same.time g (old g member) f new

end SameCrash

namespace Traced

theorem repeatedAnrFile_of_new {kind : CrashKind} {sources : SourceMask} {anrFile : Option Str}
    {f : CrashFragment} (new : sources.contains f.source = false) :
    Pending.repeatedAnrFile kind sources anrFile f = false := by
  unfold Pending.repeatedAnrFile
  by_cases file : f.source = .anrFile
  · have absent : sources.contains .anrFile = false := file ▸ new
    simp [absent]
  · simp [file]

theorem val_sourceSkewMs {t : Traced} (nonneg : 0 ≤ t.windowMs) :
    t.forget.sourceSkewMs.val = min t.windowMs.val 2000 := by
  have window : 0 ≤ t.windowMs.val := nonneg
  simp only [CrashMerger.sourceSkewMs, I64.val_max, I64.val_min, I64.val_zero, maxSourceSkewMs]
  change max 0 (min t.windowMs.val (max _ (min 2000 _))) = _
  omega

theorem le_skewLimit {distance : Nat} {skew : I64} (within : (distance : Int) ≤ skew.val) :
    distance ≤ Pending.skewLimit skew := by
  rw [Pending.skewLimit]
  split_ifs <;> omega

theorem matching_of_companion {t : Traced} (nonneg : 0 ≤ t.windowMs) {f : CrashFragment}
    {o : Occurrence} (companion : SameCrash.Companion t.windowMs o.pending f) :
    t.matching f o = true := by
  have close := le_skewLimit (companion.time.trans (val_sourceSkewMs nonneg).ge)
  simp [matching, Pending.matchesFragment, repeatedAnrFile_of_new companion.source,
    companion.source, companion.identity, companion.process, companion.kind, close]

theorem matchingRecent_of_companion {t : Traced} (nonneg : 0 ≤ t.windowMs) {f : CrashFragment}
    {p : Pending} {id : UInt64} {persisted : Bool} (companion : SameCrash.Companion t.windowMs p f) :
    t.matchingRecent f { Recent.fromPending id p with persisted := persisted } = true := by
  have close : ∀ wide : Bool, p.firstMs.absDiff f.happenedAtMs ≤
      Pending.skewLimit (if wide then t.windowMs else t.forget.sourceSkewMs) := by
    intro wide
    apply le_skewLimit
    cases wide
    · exact companion.time.trans (val_sourceSkewMs nonneg).ge
    · exact companion.time.trans (min_le_left _ _)
  have identity := companion.identity
  simp only [matchingRecent, Recent.matchesFragment, Recent.fromPending,
    repeatedAnrFile_of_new companion.source, companion.source, companion.identity,
    companion.process, companion.kind, Bool.false_or, Bool.not_false, Bool.and_true,
    decide_true]
  exact decide_eq_true (close _)

variable {windowMs : I64} {process : Str} {pid : Int}

def ofProcess (process : Str) (f : CrashFragment) : Bool := f.processName = process
def pendingOf (process : Str) (t : Traced) : List Occurrence :=
  t.pending.filter fun o => o.pending.process = process
def recentOf (process : Str) (t : Traced) : List (Recent × Nat) :=
  t.recent.filter fun entry => entry.1.process = process
def accountsOf (process : Str) (t : Traced) : List Account :=
  t.accounts.filter fun a => a.occurrence.pending.process = process

inductive Phase (process : Str) (mine : List CrashFragment) (t : Traced) : Prop
  | unseen : mine = [] → t.pendingOf process = [] → t.recentOf process = [] →
      t.accountsOf process = [] → Phase process mine t
  | waiting (o : Occurrence) : o.fragments = mine → t.pendingOf process = [o] →
      t.recentOf process = [] → t.accountsOf process = [] → Phase process mine t
  | completed (a : Account) (entry : Recent × Nat) : a.fragments = mine → t.pendingOf process = [] →
      t.recentOf process = [entry] → t.accountsOf process = [a] → Phase process mine t

structure Expected (windowMs : I64) (process : Str) (pid : Int) (all seen : List CrashFragment) :
    Prop where
  same : SameCrash windowMs process pid (seen.filter (ofProcess process))
  keys : ∀ g ∈ seen, g.processName ≠ process → ∀ f ∈ seen.filter (ofProcess process),
    g.sourceKey = f.sourceKey → g.sourceKey = none
  part : seen ⊆ all

theorem Expected.earlier {all seen later : List CrashFragment}
    (expected : Expected windowMs process pid all (seen ++ later)) :
    Expected windowMs process pid all seen where
  same := expected.same.sublist ((List.sublist_append_left seen later).filter _)
  keys g member other f found := expected.keys g (by simp [member]) other f
    (by rw [List.filter_append]; exact List.mem_append_left _ found)
  part g member := expected.part (by simp [member])

/-- A flush may not pass the crash's window, and the run does not end before its drain. -/
def Permits (windowMs : I64) (process : Str) (all : List CrashFragment) : Action → Prop
  | .expire watermarkMs => ∀ f ∈ all, f.processName = process →
      watermarkMs.val ≤ f.happenedAtMs.val + windowMs.val
  | .close => False
  | _ => True

section Steps
variable {all seen : List CrashFragment} {t : Traced}

theorem Expected.fresh {f : CrashFragment} (expected : Expected windowMs process pid all (seen ++ [f]))
    (own : f.processName = process) (sound : Sound seen t) : t.holdsSourceKey f = false := by
  rw [← Bool.not_eq_true, holdsSourceKey_iff]
  rintro ⟨key, carried, o, pending, held⟩
  obtain ⟨g, member, shared⟩ := (o.mem_sourceKeys).mp held
  have received := (sound.pending o pending).2 member
  have mine : f ∈ (seen ++ [f]).filter (ofProcess process) := by simp [ofProcess, own]
  by_cases theirs : g.processName = process
  · have pairs := expected.same.keys
    rw [List.filter_append, List.pairwise_append] at pairs
    have distinct := pairs.2.2 g (by simp [received, ofProcess, theirs]) f (by simp [ofProcess, own])
    rw [shared, carried] at distinct
    cases distinct rfl
  · have distinct := expected.keys g (by simp [received]) theirs f mine
    rw [shared, carried] at distinct
    cases distinct rfl

theorem Phase.reorder {mine : List CrashFragment} {pending : List Occurrence}
    (phase : Phase process mine t) (order : t.pending.Perm pending) :
    Phase process mine (t.setPending pending) := by
  cases phase with
  | unseen none noPending noRecent noAccount =>
      exact .unseen none (filter_nil_of_perm order noPending) noRecent noAccount
  | waiting o fragments only noRecent noAccount =>
      exact .waiting o fragments (filter_singleton_of_perm order only) noRecent noAccount
  | completed a entry fragments noPending recent account =>
      exact .completed a entry fragments (filter_nil_of_perm order noPending) recent account

theorem Phase.unaffected {mine : List CrashFragment} {u : Traced} (phase : Phase process mine t)
    (pending : u.pendingOf process = t.pendingOf process)
    (recent : u.recentOf process = t.recentOf process)
    (accounts : u.accountsOf process = t.accountsOf process) : Phase process mine u := by
  cases phase with
  | unseen none noPending noRecent noAccount =>
      exact .unseen none (pending.trans noPending) (recent.trans noRecent) (accounts.trans noAccount)
  | waiting o fragments only noRecent noAccount =>
      exact .waiting o fragments (pending.trans only) (recent.trans noRecent) (accounts.trans noAccount)
  | completed a entry fragments noPending only account =>
      exact .completed a entry fragments (pending.trans noPending) (recent.trans only)
        (accounts.trans account)

theorem pendingOf_cons (process : Str) {o : Occurrence} {rest : List Occurrence}
    (head : t.pending = o :: rest) :
    t.pendingOf process = if o.pending.process = process then o :: (t.setPending rest).pendingOf process
      else (t.setPending rest).pendingOf process := by
  simp [pendingOf, head, setPending, List.filter_cons]

theorem recentOf_complete (process : Str) (t : Traced) (o : Occurrence) : (t.complete o).2.recentOf process =
    t.recentOf process ++ if o.pending.process = process then
      [(.fromPending t.nextCompletionId o.pending, t.accounts.length)] else [] := by
  by_cases own : o.pending.process = process <;>
    simp [recentOf, complete, allocate, Recent.fromPending, own]

theorem accountsOf_allocate (process : Str) (t : Traced) (o : Occurrence) :
    (t.allocate o).2.accountsOf process =
    t.accountsOf process ++ if o.pending.process = process then
      [⟨t.nextCompletionId, o, [], none⟩] else [] := by
  by_cases own : o.pending.process = process <;> simp [accountsOf, allocate, own]

theorem Phase.complete {mine : List CrashFragment} {o : Occurrence} {rest : List Occurrence}
    (phase : Phase process mine t) (head : t.pending = o :: rest) :
    Phase process mine ((t.setPending rest).complete o).2 := by
  have split := pendingOf_cons process head
  have recent := recentOf_complete process (t.setPending rest) o
  have accounts := accountsOf_allocate process (t.setPending rest) o
  by_cases own : o.pending.process = process
  · rw [if_pos own] at split recent accounts
    cases phase with
    | unseen none noPending => simp [split] at noPending
    | waiting other fragments only noRecent noAccount =>
        rw [split, List.cons.injEq] at only
        obtain ⟨rfl, left⟩ := only
        have noRecent' : (t.setPending rest).recentOf process = [] := noRecent
        have noAccount' : (t.setPending rest).accountsOf process = [] := noAccount
        rw [noRecent', List.nil_append] at recent
        rw [noAccount', List.nil_append] at accounts
        exact .completed _ _ (by simpa [Account.fragments] using fragments) left recent accounts
    | completed a entry fragments noPending => simp [split] at noPending
  · rw [if_neg own, List.append_nil] at recent accounts
    rw [if_neg own] at split
    exact phase.unaffected split.symm recent accounts

theorem Phase.expire {watermarkMs : I64} (phase : Phase process (seen.filter (ofProcess process)) t)
    (sound : Sound seen t) (permitted : ∀ f ∈ seen, f.processName = process →
      watermarkMs.val ≤ f.happenedAtMs.val + t.windowMs.val) :
    Phase process (seen.filter (ofProcess process)) (t.expireRecent watermarkMs) := by
  have kept : (t.expireRecent watermarkMs).recentOf process = t.recentOf process := by
    simp only [recentOf, expireRecent, List.filter_filter]
    apply List.filter_congr
    intro entry member
    obtain ⟨a, persisted, found, same⟩ := sound.recent entry member
    obtain ⟨coherent, part⟩ := sound.accounts a (List.mem_of_getElem? found)
    by_cases own : entry.1.process = process
    · obtain ⟨g, fragment, time⟩ := a.occurrence.exists_firstMs
      have process : g.processName = process := by
        rw [coherent.process g fragment, ← own, same]
        rfl
      have inside := permitted g (part (List.mem_append_left _ fragment)) process
      have bound : watermarkMs ≤ entry.1.firstMs.saturatingAdd t.windowMs := by
        rw [same, Recent.fromPending, ← time]
        exact I64.le_saturatingAdd inside
      simp [own, bound]
    · simp [own]
  exact phase.unaffected rfl kept rfl

theorem Phase.append_other {mine : List CrashFragment} {f : CrashFragment}
    (phase : Phase process mine t) (other : f.processName ≠ process) :
    Phase process (mine ++ [f].filter (ofProcess process)) t := by
  simpa [ofProcess, other] using phase

theorem Phase.join {mine : List CrashFragment} {f : CrashFragment} {o : Occurrence}
    {rest : List Occurrence} (phase : Phase process mine t) (head : t.pending = o :: rest)
    (matching : t.matching f o = true) :
    Phase process (mine ++ [f].filter (ofProcess process)) (t.setPending (o.merge f :: rest)) := by
  have before := pendingOf_cons process head
  have after := pendingOf_cons process (t := t.setPending (o.merge f :: rest)) rfl
  have named : o.pending.process = f.processName := by
    simp only [Traced.matching, Pending.matchesFragment, Bool.and_eq_true, decide_eq_true_eq] at matching
    exact matching.1.1.2
  rw [Occurrence.pending_merge, Pending.merge_process] at after
  by_cases own : o.pending.process = process
  · rw [if_pos own] at before after
    have taken : [f].filter (ofProcess process) = [f] := by simp [ofProcess, ← named, own]
    rw [taken]
    cases phase with
    | unseen none noPending => simp [before] at noPending
    | waiting only fragments single noRecent noAccount =>
        rw [before, List.cons.injEq] at single
        obtain ⟨rfl, left⟩ := single
        refine .waiting (o.merge f) ?_ ?_ noRecent noAccount
        · rw [Occurrence.fragments_merge, fragments]
        · rw [after]
          exact congrArg _ left
    | completed a entry fragments noPending => simp [before] at noPending
  · rw [if_neg own] at before after
    exact (phase.unaffected (after.trans before.symm) rfl rfl).append_other (named ▸ own)

theorem matching_of_waiting {f : CrashFragment} {o : Occurrence} (nonneg : 0 ≤ t.windowMs)
    (known : pid ≠ 0) (expected : Expected t.windowMs process pid all (seen ++ [f]))
    (own : f.processName = process) (sound : Sound seen t)
    (fragments : o.fragments = seen.filter (ofProcess process)) (only : t.pendingOf process = [o]) :
    o ∈ t.pending ∧ t.matching f o = true := by
  have member : o ∈ t.pending := (List.mem_filter.mp (only ▸ List.mem_singleton_self o)).1
  have same := expected.same
  rw [List.filter_append, show [f].filter (ofProcess process) = [f] by simp [ofProcess, own]] at same
  exact ⟨member, matching_of_companion nonneg
    (same.companion known (sound.pending o member).1 fun _ => fragments ▸ id)⟩

theorem matching_of_completed {f : CrashFragment} {a : Account} {entry : Recent × Nat}
    (nonneg : 0 ≤ t.windowMs) (known : pid ≠ 0)
    (expected : Expected t.windowMs process pid all (seen ++ [f])) (own : f.processName = process)
    (sound : Sound seen t) (fragments : a.fragments = seen.filter (ofProcess process))
    (only : t.recentOf process = [entry]) (account : t.accountsOf process = [a]) :
    entry ∈ t.recent ∧ t.accounts[entry.2]? = some a ∧ t.matchingRecent f entry.1 = true := by
  obtain ⟨member, named⟩ := List.mem_filter.mp (only ▸ List.mem_singleton_self entry)
  obtain ⟨b, persisted, found, linked⟩ := sound.recent entry member
  have theirs : b ∈ t.accountsOf process := by
    refine List.mem_filter.mpr ⟨List.mem_of_getElem? found, ?_⟩
    rw [linked] at named
    exact named
  obtain rfl : b = a := by simpa [account] using theirs
  have same := expected.same
  rw [List.filter_append, show [f].filter (ofProcess process) = [f] by simp [ofProcess, own]] at same
  have part : b.occurrence.fragments ⊆ seen.filter (ofProcess process) := by
    rw [← fragments]
    exact List.subset_append_left ..
  have companion := same.companion known (sound.accounts b (List.mem_of_getElem? found)).1 part
  exact ⟨member, found, linked ▸ matchingRecent_of_companion nonneg companion⟩

theorem Phase.suppress {f : CrashFragment} {recent : Recent} {serial : Nat}
    (phase : Phase process (seen.filter (ofProcess process)) t) (nonneg : 0 ≤ t.windowMs)
    (known : pid ≠ 0) (expected : Expected t.windowMs process pid all (seen ++ [f]))
    (sound : Sound seen t) (alone : ∀ o ∈ t.pending, t.matching f o = false)
    (member : (recent, serial) ∈ t.recent) (matching : t.matchingRecent f recent = true) :
    Phase process (seen.filter (ofProcess process) ++ [f].filter (ofProcess process))
      (t.suppress recent.completionId serial f) := by
  obtain ⟨a, persisted, found, linked⟩ := sound.recent _ member
  have named : recent.process = f.processName := by
    simp only [Traced.matchingRecent, Recent.matchesFragment, Bool.and_eq_true, decide_eq_true_eq]
      at matching
    exact matching.1.1.2
  have theirs : a.occurrence.pending.process = f.processName := by
    rw [← named, show recent = _ from linked]
    rfl
  by_cases own : f.processName = process
  · have taken : [f].filter (ofProcess process) = [f] := by simp [ofProcess, own]
    have among : (recent, serial) ∈ t.recentOf process := by simp [recentOf, member, named, own]
    rw [taken]
    cases phase with
    | unseen none noPending noRecent => simp [noRecent] at among
    | waiting o fragments only =>
        obtain ⟨held, found⟩ := matching_of_waiting nonneg known expected own sound fragments only
        simp [alone o held] at found
    | completed b entry fragments noPending only account =>
        have inAccounts : a ∈ t.accountsOf process := by
          simp [accountsOf, List.mem_of_getElem? found, theirs, own]
        obtain rfl : a = b := by simpa [account] using inAccounts
        obtain ⟨rest, before, after⟩ := perm_modify found (·.suppress f)
        have alone := filter_singleton_of_perm before account
        refine .completed (a.suppress f) entry ?_ noPending only ?_
        · rw [← fragments]
          exact (List.append_assoc ..).symm
        · apply filter_singleton_of_perm after.symm
          have still : (a.suppress f).occurrence.pending.process = process := theirs.trans own
          rw [List.filter_cons_of_pos (by simp [theirs, own])] at alone
          rw [List.filter_cons_of_pos (by simp [still])]
          exact congrArg _ (List.cons.inj alone).2
  · have differs : ¬ a.occurrence.pending.process = process := theirs ▸ own
    have accounts : (t.suppress recent.completionId serial f).accountsOf process =
        t.accountsOf process :=
      filter_modify_of_not found (decide_eq_false differs) (decide_eq_false differs)
    exact (phase.unaffected (u := t.suppress ..) rfl rfl accounts).append_other own

theorem Phase.start {f : CrashFragment}
    (phase : Phase process (seen.filter (ofProcess process)) t) (nonneg : 0 ≤ t.windowMs)
    (known : pid ≠ 0) (expected : Expected t.windowMs process pid all (seen ++ [f]))
    (sound : Sound seen t) (alone : ∀ o ∈ t.pending, t.matching f o = false)
    (forgotten : ∀ entry ∈ t.recent, t.matchingRecent f entry.1 = false) :
    Phase process (seen.filter (ofProcess process) ++ [f].filter (ofProcess process))
      (t.setPending (.start f :: t.pending)) := by
  have after := pendingOf_cons process (t := t.setPending (.start f :: t.pending)) rfl
  have named : (Occurrence.start f).pending.process = f.processName := rfl
  by_cases own : f.processName = process
  · have taken : [f].filter (ofProcess process) = [f] := by simp [ofProcess, own]
    rw [if_pos (named.trans own)] at after
    rw [taken]
    cases phase with
    | unseen none noPending noRecent noAccount =>
        refine .waiting (.start f) ?_ ?_ noRecent noAccount
        · rw [none]
          rfl
        · rw [after]
          exact congrArg _ noPending
    | waiting o fragments only =>
        obtain ⟨held, found⟩ := matching_of_waiting nonneg known expected own sound fragments only
        simp [alone o held] at found
    | completed a entry fragments noPending only account =>
        obtain ⟨held, -, found⟩ :=
          matching_of_completed nonneg known expected own sound fragments only account
        simp [forgotten entry held] at found
  · rw [if_neg (named ▸ own)] at after
    exact (phase.unaffected (u := t.setPending (.start f :: t.pending)) after rfl rfl).append_other own

theorem Move.phase {u : Traced} {a : Action} (move : Move t a u) (nonneg : 0 ≤ t.windowMs)
    (known : pid ≠ 0) (permitted : Permits t.windowMs process all a)
    (expected : Expected t.windowMs process pid all (seen ++ a.received)) (sound : Sound seen t)
    (phase : Phase process (seen.filter (ofProcess process)) t) :
    Phase process ((seen ++ a.received).filter (ofProcess process)) u := by
  rw [List.filter_append]
  cases move with
  | expire watermarkMs =>
      have kept := phase.expire sound fun f member => permitted f (expected.earlier.part member)
      simpa [Action.received] using kept
  | reorder order => simpa [Action.received] using phase.reorder order
  | complete head => simpa [Action.received] using phase.complete head
  | @repeated f held =>
      by_cases own : f.processName = process
      · rw [expected.fresh own sound] at held
        cases held
      · exact phase.append_other own
  | join _ head matching => exact phase.join head matching
  | suppress _ alone member matching =>
      exact phase.suppress nonneg known expected sound alone member matching
  | start _ alone forgotten => exact phase.start nonneg known expected sound alone forgotten
  | close => cases permitted

theorem Move.window_eq {u : Traced} {a : Action} (move : Move t a u) : u.windowMs = t.windowMs := by
  cases move <;> rfl

end Steps

theorem run_phase (nonneg : 0 ≤ windowMs) (known : pid ≠ 0) {crash : List CrashFragment}
    (same : SameCrash windowMs process pid crash) {inputs : List Input}
    (delivers : Delivers windowMs process crash inputs) :
    let t := (run inputs (new windowMs)).2
    let received := inputs.flatMap Input.received
    Sound received t ∧ Phase process (received.filter (ofProcess process)) t := by
  let received := inputs.flatMap Input.received
  obtain ⟨actions, noClose, receives, expiry, moves⟩ := run_moves inputs (new windowMs)
  have mine : ∀ f ∈ received, f.processName = process → f ∈ crash := by
    intro f member own
    exact delivers.delivered.mem_iff.mp (List.mem_filter.mpr ⟨member, by simp [own]⟩)
  have permitted : ∀ a ∈ actions, Permits windowMs process received a := by
    intro a member
    cases a with
    | expire watermarkMs =>
        intro f seen own
        obtain ⟨input, among, rfl⟩ := expiry watermarkMs member
        cases input with
        | flush watermarkMs => exact delivers.flushes _ among f (mine f seen own)
        | ingest g =>
            by_cases ours : g.processName = process
            · have close := same.time g (mine g (List.mem_flatMap.mpr ⟨_, among, by simp [Input.received]⟩)
                ours) f (mine f seen own)
              simp only [I64.absDiff, Input.watermarkMs] at close ⊢
              omega
            · exact (delivers.others g among ours f (mine f seen own)).1
    | close => exact noClose member
    | reorder => trivial
    | complete => trivial
    | receive f => trivial
  have start : (new windowMs).windowMs = windowMs ∧ Sound [] (new windowMs) ∧
      (Expected windowMs process pid received [] → Phase process [] (new windowMs)) :=
    ⟨rfl, sound_new windowMs, fun _ => .unseen rfl rfl rfl rfl⟩
  have reached := moves.preserves
    (fun seen t => t.windowMs = windowMs ∧ Sound seen t ∧
      (Expected windowMs process pid received seen → Phase process (seen.filter (ofProcess process)) t))
    (Permits windowMs process received)
    (by
      rintro seen t a u permitted move ⟨rfl, sound, phase⟩
      exact ⟨move.window_eq, move.sound sound, fun expected =>
        move.phase nonneg known permitted expected sound (phase expected.earlier)⟩)
    permitted start
  rw [List.nil_append, receives] at reached
  refine ⟨reached.2.1, reached.2.2 ⟨same.perm delivers.delivered.symm, ?_, List.Subset.refl _⟩⟩
  intro g member other f own
  have inside : f ∈ crash := delivers.delivered.mem_iff.mp own
  obtain ⟨input, among, carries⟩ := List.mem_flatMap.mp member
  cases input with
  | flush => simp [Input.received] at carries
  | ingest h =>
      obtain rfl : g = h := by simpa [Input.received] using carries
      exact (delivers.others g among other f inside).2

def holdings (process : Str) (t : Traced) : List (List CrashFragment) :=
  (t.pendingOf process).map Occurrence.fragments ++ (t.accountsOf process).map Account.fragments

theorem holdings_drainFrom (process : Str) (occurrences : List Occurrence) (t : Traced)
    (all : t.pending = occurrences) :
    (holdings process t).Perm (holdings process (drainFrom occurrences (t.setPending [])).2) := by
  induction occurrences generalizing t with
  | nil =>
      obtain ⟨windowMs, pending, recent, suppressed, next, accounts⟩ := t
      obtain rfl : pending = [] := all
      exact .refl _
  | cons o rest ih =>
      refine .trans ?_ (ih ((t.setPending rest).allocate o).2 rfl)
      have pending := pendingOf_cons process all
      have accounts := accountsOf_allocate process (t.setPending rest) o
      have left : ((t.setPending rest).allocate o).2.pendingOf process =
        (t.setPending rest).pendingOf process := rfl
      have before : (t.setPending rest).accountsOf process = t.accountsOf process := rfl
      rw [holdings, holdings, pending, accounts, left, before]
      by_cases own : o.pending.process = process
      · rw [if_pos own, if_pos own, List.map_append, ← List.append_assoc, List.map_singleton,
          Account.fragments, List.append_nil]
        exact (List.perm_append_singleton _ _).symm
      · rw [if_neg own, if_neg own, List.append_nil]

end Traced

open Traced in
/-- Whatever the order of delivery, one crash ends as one record with all its fragments. -/
theorem one_record_of_one_crash {windowMs : I64} (nonneg : 0 ≤ windowMs) {process : Str} {pid : Int}
    (known : pid ≠ 0) {crash : List CrashFragment} (nonempty : crash ≠ [])
    (same : SameCrash windowMs process pid crash) {inputs : List Input}
    (delivers : Delivers windowMs process crash inputs) :
    ∃ account ∈ (history windowMs inputs).accounts,
      ((CrashMerger.runAndDrain inputs (.new windowMs)).filter fun merged =>
        merged.record.processName = process ∧ merged.record.pid = pid) = [account.merged] ∧
      account.fragments.Perm crash := by
  obtain ⟨sound, phase⟩ := run_phase nonneg known same delivers
  let t := (run inputs (new windowMs)).2
  let mine := (inputs.flatMap Input.received).filter (ofProcess process)
  have held : holdings process t = [mine] := by
    cases phase with
    | unseen none => exact absurd (List.perm_nil.mp (none ▸ delivers.delivered.symm)) nonempty
    | waiting o fragments only noRecent noAccount => simp [holdings, t, only, noAccount, fragments, mine]
    | completed a entry fragments noPending only account =>
        simp [holdings, t, noPending, account, fragments, mine]
  have drained : t.drain.2.pendingOf process = [] := by
    rw [pendingOf, pending_drain]
    rfl
  have accounts : ((history windowMs inputs).accountsOf process).map Account.fragments = [mine] := by
    have order := holdings_drainFrom process t.pending t rfl
    have only : holdings process t.drain.2 = [mine] := List.perm_singleton.mp (held ▸ order.symm)
    rwa [holdings, drained, List.map_nil, List.nil_append] at only
  obtain ⟨a, only, fragments⟩ := List.map_eq_singleton_iff.mp accounts
  have inside : a ∈ (history windowMs inputs).accountsOf process := only ▸ List.mem_singleton_self a
  obtain ⟨member, named⟩ := List.mem_filter.mp inside
  have matched : a.fragments.Perm crash := fragments ▸ delivers.delivered
  have numbered : a.merged.record.pid = pid := by
    obtain ⟨g, found, same'⟩ := a.occurrence.exists_pid
    have inCrash : g ∈ crash := matched.mem_iff.mp (List.mem_append_left _ found)
    exact same'.symm.trans (same.pid g inCrash)
  refine ⟨a, member, ?_, matched⟩
  have emitted := (runAndDrain_perm windowMs inputs).filter fun merged =>
    merged.record.processName = process ∧ merged.record.pid = pid
  have chosen : ((history windowMs inputs).accounts.map Account.merged).filter (fun merged =>
      merged.record.processName = process ∧ merged.record.pid = pid) = [a.merged] := by
    have both : (fun merged : MergedCrash => decide (merged.record.processName = process ∧
        merged.record.pid = pid)) ∘ Account.merged = fun b : Account =>
          decide (b.occurrence.pending.process = process) && decide (b.merged.record.pid = pid) := by
      funext b
      exact Bool.decide_and ..
    rw [List.filter_map, both]
    rw [accountsOf] at only
    rw [← List.filter_filter, List.filter_comm, only]
    simp [numbered]
  exact List.perm_singleton.mp (chosen ▸ emitted)

def javaReport (source : SourceMask) (happenedAtMs : I64) : CrashFragment :=
  { CrashFragment.new source .text .javaException "app".toList 7 happenedAtMs with userId := some 0 }

/-- The event and the crash buffer complete the record; the DropBox entry comes too late for it. -/
theorem one_record_of_three_reports :
    let crash := [javaReport .events 1000, javaReport .crashBuffer 1100, javaReport .dropbox 1200]
    let inputs := [.ingest (javaReport .crashBuffer 1100), .flush 500,
      .ingest (javaReport .events 1000), .ingest (.new .events .text .wtf "other".toList 9 3000),
      .ingest (javaReport .dropbox 1200)]
    ∃ account ∈ (Traced.history 10000 inputs).accounts,
      ((CrashMerger.runAndDrain inputs (.new 10000)).filter fun merged =>
        merged.record.processName = "app".toList ∧ merged.record.pid = 7) = [account.merged] ∧
      account.fragments.Perm crash := by
  intro crash inputs
  apply one_record_of_one_crash (by decide) (by decide) (by decide)
  · refine ⟨by decide, by decide, by decide, ?_, ?_, by decide, by decide, by decide⟩
    · simp [crash, javaReport, CrashFragment.new]
    · simp only [crash, List.mem_cons, List.not_mem_nil, or_false, forall_eq_or_imp, forall_eq]
      exact ⟨⟨0, by decide, rfl⟩, ⟨1, by decide, rfl⟩, ⟨2, by decide, rfl⟩⟩
  · refine ⟨by decide, ?_, ?_⟩
    · simp only [inputs, List.mem_cons, List.not_mem_nil, reduceCtorEq, false_or, or_false,
        Input.flush.injEq, forall_eq]
      decide
    · simp only [inputs, List.mem_cons, List.not_mem_nil, reduceCtorEq, false_or, or_false,
        Input.ingest.injEq, forall_eq_or_imp, forall_eq]
      decide

end CrashCatcher.Merge
