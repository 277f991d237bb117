import CrashCatcher.Merge.Identity

namespace CrashCatcher.Merge
open Lib Lib.Run Model

namespace Occurrence

theorem le_lastMs (o : Occurrence) : ∀ g ∈ o.fragments, g.happenedAtMs ≤ o.pending.lastMs := by
  induction o using induction with
  | start f => simp [Pending.new]
  | merge o f ih =>
      intro g member
      rw [fragments_merge] at member
      rw [pending_merge, Pending.merge_lastMs]
      rcases List.mem_append.mp member with old | new
      · exact (ih g old).trans (le_max_left _ _)
      · rw [List.mem_singleton.mp new]
        exact le_max_right _ _

theorem exists_lastMs (o : Occurrence) : ∃ g ∈ o.fragments, g.happenedAtMs = o.pending.lastMs := by
  induction o using induction with
  | start f => exact ⟨f, by simp, rfl⟩
  | merge o f ih =>
      obtain ⟨g, member, time⟩ := ih
      rw [pending_merge, Pending.merge_lastMs]
      rcases max_choice o.pending.lastMs f.happenedAtMs with old | new
      · exact ⟨g, by simp [member], time.trans old.symm⟩
      · exact ⟨f, by simp, new.symm⟩

end Occurrence

def WithinSkew (skewMs : I64) (fragments : List CrashFragment) : Prop :=
  ∀ f ∈ fragments, ∀ g ∈ fragments, (f.happenedAtMs.absDiff g.happenedAtMs : Int) ≤ skewMs.val

instance (skewMs : I64) (fragments : List CrashFragment) : Decidable (WithinSkew skewMs fragments) :=
  inferInstanceAs (Decidable (∀ f ∈ fragments, _))

theorem WithinSkew.subset {skewMs : I64} {fragments part : List CrashFragment}
    (within : WithinSkew skewMs fragments) (subset : part ⊆ fragments) : WithinSkew skewMs part :=
  fun f member g member' => within f (subset member) g (subset member')

theorem withinSkew_singleton {skewMs : I64} (nonneg : 0 ≤ skewMs) (f : CrashFragment) :
    WithinSkew skewMs [f] := by
  intro g member h member'
  rw [List.mem_singleton.mp member, List.mem_singleton.mp member']
  have bound : 0 ≤ skewMs.val := nonneg
  simpa [I64.absDiff] using bound

theorem Occurrence.withinSkew_merge_iff {skewMs : I64} {o : Occurrence} {f : CrashFragment}
    (within : WithinSkew skewMs o.fragments)
    (close : (o.pending.firstMs.absDiff f.happenedAtMs : Int) ≤ skewMs.val) :
    WithinSkew skewMs (o.merge f).fragments ↔
      o.pending.lastMs.val ≤ f.happenedAtMs.val + skewMs.val := by
  constructor
  · intro within'
    obtain ⟨g, member, time⟩ := o.exists_lastMs
    have apart := within' g (by simp [member]) f (by simp)
    rw [time, I64.absDiff] at apart
    omega
  · intro near
    have both : ∀ g ∈ o.fragments, (g.happenedAtMs.absDiff f.happenedAtMs : Int) ≤ skewMs.val := by
      intro g member
      have after := I64.le_def.mp (o.firstMs_le g member)
      have before := I64.le_def.mp (o.le_lastMs g member)
      simp only [I64.absDiff] at close ⊢
      omega
    intro g member h member'
    rw [fragments_merge, List.mem_append, List.mem_singleton] at member member'
    rcases member with old | rfl <;> rcases member' with old' | rfl
    · exact within g old h old'
    · exact both g old
    · have symmetric := both h old'
      simp only [I64.absDiff] at symmetric ⊢
      omega
    · have bound : 0 ≤ skewMs.val := by omega
      simpa [I64.absDiff] using bound

namespace Traced

theorem sourceSkewMs_nonneg (merger : CrashMerger) : 0 ≤ merger.sourceSkewMs := le_max_left _ _

def afterCall (self : Traced) (c : Call) : Traced := (self.call c).2

theorem afterCalls_eq_foldl (windowMs : I64) (calls : List Call) :
    afterCalls windowMs calls = calls.foldl afterCall (new windowMs) := collect_snd calls _

theorem Move.windowMs {t u : Traced} {a : Action} (move : Move t a u) : u.windowMs = t.windowMs := by
  cases move <;> rfl

theorem Moves.windowMs {t u : Traced} {actions : List Action} (moves : Moves t actions u) :
    u.windowMs = t.windowMs := by
  induction moves with
  | refl => rfl
  | step move _ ih => exact ih.trans move.windowMs

theorem flushBefore_windowMs (t : Traced) (watermarkMs : I64) :
    (t.flushBefore watermarkMs).2.windowMs = t.windowMs := by
  obtain ⟨n, moves⟩ := t.flushBefore_moves watermarkMs
  exact moves.windowMs

theorem afterCall_windowMs (t : Traced) (c : Call) : (t.afterCall c).windowMs = t.windowMs := by
  cases c with
  | ingest f =>
      obtain ⟨before, after, -, moves⟩ := t.ingest_moves f
      exact moves.windowMs
  | flushBefore watermarkMs => exact t.flushBefore_windowMs watermarkMs
  | drain => exact t.drain_moves.windowMs

theorem foldl_afterCall_windowMs (calls : List Call) (t : Traced) :
    (calls.foldl afterCall t).windowMs = t.windowMs := by
  induction calls generalizing t with
  | nil => rfl
  | cons c calls ih => exact (ih (t.afterCall c)).trans (t.afterCall_windowMs c)

def Tight (t : Traced) (o : Occurrence) : Prop :=
  o.pending.kind.value ≠ .anr → WithinSkew t.forget.sourceSkewMs o.fragments

structure AllTight (t : Traced) : Prop where
  pending : ∀ o ∈ t.pending, t.Tight o
  completed : ∀ a ∈ t.accounts, t.Tight a.occurrence

theorem tight_of_windowMs {t u : Traced} (same : u.windowMs = t.windowMs) (o : Occurrence) :
    u.Tight o ↔ t.Tight o := by
  have skew : u.forget.sourceSkewMs = t.forget.sourceSkewMs := by
    simp only [CrashMerger.sourceSkewMs, forget, same]
  rw [Tight, Tight, skew]

theorem tight_start (t : Traced) (f : CrashFragment) : t.Tight (.start f) :=
  fun _ => withinSkew_singleton (sourceSkewMs_nonneg _) f

theorem allTight_reorder {t : Traced} {pending : List Occurrence} (order : t.pending.Perm pending) :
    (t.setPending pending).AllTight ↔ t.AllTight := by
  constructor
  · exact fun tight => ⟨fun o member => tight.pending o (order.mem_iff.mp member), tight.completed⟩
  · exact fun tight => ⟨fun o member => tight.pending o (order.mem_iff.mpr member), tight.completed⟩

theorem allTight_allocate {t : Traced} {o : Occurrence} {rest : List Occurrence}
    (head : t.pending = o :: rest) : ((t.setPending rest).allocate o).2.AllTight ↔ t.AllTight := by
  constructor
  · intro tight
    refine ⟨fun other member => ?_, fun a member => tight.completed a (List.mem_append_left _ member)⟩
    rw [head] at member
    rcases List.mem_cons.mp member with rfl | member
    · exact tight.completed _ (List.mem_append_right _ (.head _))
    · exact tight.pending other member
  · intro tight
    refine ⟨fun other member => tight.pending other (by rw [head]; exact .tail _ member), ?_⟩
    intro a member
    rcases List.mem_append.mp member with old | new
    · exact tight.completed a old
    · rw [List.mem_singleton.mp new]
      exact tight.pending o (by simp [head])

theorem allTight_complete {t : Traced} {o : Occurrence} {rest : List Occurrence}
    (head : t.pending = o :: rest) : ((t.setPending rest).complete o).2.AllTight ↔ t.AllTight := by
  have same : ((t.setPending rest).complete o).2.AllTight ↔
      ((t.setPending rest).allocate o).2.AllTight :=
    ⟨fun tight => ⟨tight.pending, tight.completed⟩, fun tight => ⟨tight.pending, tight.completed⟩⟩
  exact same.trans (allTight_allocate head)

theorem Moves.internal_allTight {t u : Traced} {actions : List Action} (moves : Moves t actions u)
    (internal : ∀ a ∈ actions, a.Internal) : u.AllTight ↔ t.AllTight := by
  induction moves with
  | refl => exact Iff.rfl
  | @step t u v action actions move _ ih =>
      refine (ih fun a member => internal a (by simp [member])).trans ?_
      rcases internal action (by simp) with rfl | rfl
      · cases move with
        | reorder order => exact allTight_reorder order
      · cases move with
        | complete head => exact allTight_complete head

theorem flushBefore_allTight (t : Traced) (watermarkMs : I64) :
    (t.flushBefore watermarkMs).2.AllTight ↔ t.AllTight := by
  obtain ⟨n, moves⟩ := t.flushBefore_moves watermarkMs
  refine (moves.internal_allTight (by simp [Action.Internal, List.mem_replicate])).trans ?_
  exact ⟨fun tight => ⟨tight.pending, tight.completed⟩, fun tight => ⟨tight.pending, tight.completed⟩⟩

theorem drain_allTight (t : Traced) : t.drain.2.AllTight ↔ t.AllTight := by
  have closes : ∀ {t u : Traced} {actions : List Action}, Moves t actions u →
      (∀ a ∈ actions, a = .close) → (u.AllTight ↔ t.AllTight) := by
    intro t u actions moves
    induction moves with
    | refl => exact fun _ => Iff.rfl
    | @step t u v action actions move _ ih =>
        intro closing
        refine (ih fun a member => closing a (by simp [member])).trans ?_
        obtain rfl := closing action (by simp)
        cases move with
        | close head => exact allTight_allocate head
  exact closes t.drain_moves fun a member => (List.mem_replicate.mp member).2

/-- The fragment does not precede the latest fragment of the occurrence it is merged into by more
than the skew; `matchesFragment` itself measures from the earliest one. -/
def JoinsNear (t : Traced) : Call → Prop
  | .ingest f =>
    let flushed := (t.flushBefore f.happenedAtMs).2
    flushed.holdsSourceKey f = false → f.kind ≠ .anr → ∀ o index,
      flushed.pendingMatch f = some (o, index) →
        o.pending.lastMs.val ≤ f.happenedAtMs.val + flushed.forget.sourceSkewMs.val
  | .flushBefore _ => True
  | .drain => True

theorem matching_kind {t : Traced} {f : CrashFragment} {o : Occurrence}
    (matching : t.matching f o = true) : o.pending.kind.value = f.kind := by
  simp only [Traced.matching, Pending.matchesFragment, Bool.and_eq_true, decide_eq_true_eq] at matching
  exact matching.1.2

theorem matching_close {t : Traced} {f : CrashFragment} {o : Occurrence}
    (matching : t.matching f o = true) (other : f.kind ≠ .anr) :
    (o.pending.firstMs.absDiff f.happenedAtMs : Int) ≤ t.forget.sourceSkewMs.val := by
  have nonneg : 0 ≤ t.forget.sourceSkewMs.val := sourceSkewMs_nonneg _
  simp only [Traced.matching, Pending.matchesFragment, other, decide_false, Bool.false_and,
    Bool.false_eq_true, if_false, Bool.and_eq_true, decide_eq_true_eq] at matching
  have within := matching.2
  rw [Pending.skewLimit, if_pos nonneg] at within
  omega

theorem tight_merge_iff {t : Traced} {f : CrashFragment} {o : Occurrence}
    (matching : t.matching f o = true) :
    t.Tight (o.merge f) ↔ t.Tight o ∧
      (f.kind ≠ .anr → o.pending.lastMs.val ≤ f.happenedAtMs.val + t.forget.sourceSkewMs.val) := by
  have kind := matching_kind matching
  have kind' : (o.merge f).pending.kind.value = f.kind := by
    rw [Occurrence.pending_merge, Pending.merge_kind, Ranked.replace]
    split_ifs
    · rfl
    · exact kind
  unfold Tight
  rw [kind, kind']
  constructor
  · intro tight
    have before : f.kind ≠ .anr → WithinSkew t.forget.sourceSkewMs o.fragments :=
      fun other => (tight other).subset (by simp)
    exact ⟨before, fun other =>
      (Occurrence.withinSkew_merge_iff (before other) (matching_close matching other)).mp (tight other)⟩
  · rintro ⟨tight, near⟩ other
    exact (Occurrence.withinSkew_merge_iff (tight other) (matching_close matching other)).mpr (near other)

theorem allTight_cons {t : Traced} {o : Occurrence} {rest : List Occurrence} :
    (t.setPending (o :: rest)).AllTight ↔ t.Tight o ∧ (t.setPending rest).AllTight := by
  constructor
  · intro tight
    exact ⟨tight.pending o (.head _), fun other member => tight.pending other (.tail _ member),
      tight.completed⟩
  · intro ⟨first, others⟩
    refine ⟨fun other member => ?_, others.completed⟩
    rcases List.mem_cons.mp member with rfl | member
    · exact first
    · exact others.pending other member

theorem allTight_suppress (t : Traced) (completionId : UInt64) (serial : Nat) (f : CrashFragment) :
    (t.suppress completionId serial f).AllTight ↔ t.AllTight := by
  have same : (t.suppress completionId serial f).accounts.map Account.occurrence =
      t.accounts.map Account.occurrence := 
    map_modify_eq (g := fun a : Account => a.suppress f) (fun _ => rfl) _ _
  have completed : (∀ a ∈ (t.suppress completionId serial f).accounts, t.Tight a.occurrence) ↔
      ∀ a ∈ t.accounts, t.Tight a.occurrence := by
    rw [← List.forall_mem_map (f := Account.occurrence), same, List.forall_mem_map]
  exact ⟨fun tight => ⟨tight.pending, completed.mp tight.completed⟩,
    fun tight => ⟨tight.pending, completed.mpr tight.completed⟩⟩

theorem allTight_extend {t : Traced} {f : CrashFragment} {o : Occurrence} {index : Nat}
    (found : t.pending[index]? = some o) (matching : t.matching f o = true) :
    (t.setPending (t.pending.set index (o.merge f))).AllTight ↔ t.AllTight ∧
      (f.kind ≠ .anr → o.pending.lastMs.val ≤ f.happenedAtMs.val + t.forget.sourceSkewMs.val) := by
  obtain ⟨inside, rfl⟩ := List.getElem?_eq_some_iff.mp found
  have front := (List.getElem_cons_eraseIdx_perm inside).symm
  have back := List.set_perm_cons_eraseIdx inside (t.pending[index].merge f)
  calc
    _ ↔ (t.setPending (t.pending[index].merge f :: t.pending.eraseIdx index)).AllTight :=
        (allTight_reorder (t := t.setPending _) back).symm
    _ ↔ t.Tight (t.pending[index].merge f) ∧ (t.setPending (t.pending.eraseIdx index)).AllTight :=
        allTight_cons
    _ ↔ (t.Tight t.pending[index] ∧ _) ∧ (t.setPending (t.pending.eraseIdx index)).AllTight := by
        rw [tight_merge_iff matching]
    _ ↔ (t.Tight t.pending[index] ∧ (t.setPending (t.pending.eraseIdx index)).AllTight) ∧ _ :=
        and_right_comm
    _ ↔ (t.setPending (t.pending[index] :: t.pending.eraseIdx index)).AllTight ∧ _ := by
        rw [allTight_cons]
    _ ↔ t.AllTight ∧ _ := by rw [allTight_reorder front]

theorem receive_allTight (t : Traced) (completed : List (Nat × MergedCrash)) (f : CrashFragment) :
    (t.receive completed f).2.AllTight ↔ t.AllTight ∧ (t.holdsSourceKey f = false → f.kind ≠ .anr →
      ∀ o index, t.pendingMatch f = some (o, index) →
        o.pending.lastMs.val ≤ f.happenedAtMs.val + t.forget.sourceSkewMs.val) := by
  rw [receive]
  by_cases held : t.holdsSourceKey f
  · simp [held]
  rw [if_neg held]
  rw [Bool.not_eq_true] at held
  cases candidate : t.pendingMatch f with
  | some entry =>
      obtain ⟨o, index⟩ := entry
      obtain ⟨found, matching⟩ := pendingMatch_some candidate
      obtain ⟨inside, -⟩ := List.getElem?_eq_some_iff.mp found
      obtain ⟨actions, internal, moves⟩ := finishSettled_moves
        (t.setPending (t.pending.set index (o.merge f))) completed (List.getElem?_set_self inside)
      refine (moves.internal_allTight internal).trans ((allTight_extend found matching).trans ?_)
      simp [held]
  | none =>
      cases remembered : t.recentMatch f with
      | some entry =>
          obtain ⟨recent, serial⟩ := entry
          simpa using allTight_suppress t recent.completionId serial f
      | none =>
          obtain ⟨actions, internal, moves⟩ := finishSettled_moves
            (t.setPending (t.pending ++ [.start f])) completed (List.getElem?_concat_length ..)
          refine (moves.internal_allTight internal).trans ?_
          have opened : (t.setPending (t.pending ++ [.start f])).AllTight ↔ t.AllTight := by
            have order := List.perm_append_singleton (Occurrence.start f) t.pending
            rw [← allTight_reorder (t := t.setPending _) order]
            exact allTight_cons.trans (and_iff_right (t.tight_start f))
          simpa using opened

theorem afterCall_allTight (t : Traced) (c : Call) :
    (t.afterCall c).AllTight ↔ t.AllTight ∧ t.JoinsNear c := by
  cases c with
  | ingest f =>
      exact (receive_allTight _ _ f).trans (and_congr_left' (t.flushBefore_allTight f.happenedAtMs))
  | flushBefore watermarkMs =>
      exact (t.flushBefore_allTight watermarkMs).trans (and_iff_left trivial).symm
  | drain => exact t.drain_allTight.trans (and_iff_left trivial).symm

end Traced

/-- Over any calls of the merger and a last drain, each record that is handed out has an account, and
the fragments of every completed record other than
an ANR lie within the skew of each other exactly when no call merged a fragment that precedes the
latest one of its occurrence by more than the skew. -/
theorem completed_within_skew_iff (windowMs : I64) (calls : List Call) :
    (collect CrashMerger.call (calls ++ [.drain]) (.new windowMs)).1.Perm
        ((Traced.afterCalls windowMs (calls ++ [.drain])).accounts.map Account.merged) ∧
      ((∀ a ∈ (Traced.afterCalls windowMs (calls ++ [.drain])).accounts, a.merged.record.kind ≠ .anr →
          WithinSkew (CrashMerger.new windowMs).sourceSkewMs a.occurrence.fragments) ↔
        Throughout Traced.afterCall Traced.JoinsNear (.new windowMs) calls) := by
  refine ⟨Traced.collect_call_perm windowMs _, ?_⟩
  let reached := calls.foldl Traced.afterCall (.new windowMs)
  have last : Traced.afterCalls windowMs (calls ++ [.drain]) = reached.drain.2 := by
    rw [Traced.afterCalls_eq_foldl, List.foldl_append]
    rfl
  have window : reached.drain.2.windowMs = (Traced.new windowMs).windowMs :=
    reached.drain_moves.windowMs.trans (Traced.foldl_afterCall_windowMs calls _)
  have run : reached.AllTight ↔ (Traced.new windowMs).AllTight ∧
      Throughout Traced.afterCall Traced.JoinsNear (.new windowMs) calls :=
    foldl_iff_throughout (fun _ => True) Traced.AllTight (fun t c _ => t.afterCall_allTight c)
      (fun _ _ _ => trivial) trivial
  rw [last]
  calc
    _ ↔ reached.drain.2.AllTight := by
      constructor
      · intro within
        refine ⟨by simp [Traced.pending_drain], fun a member => ?_⟩
        exact (Traced.tight_of_windowMs window a.occurrence).mpr (within a member)
      · exact fun tight a member =>
          (Traced.tight_of_windowMs window a.occurrence).mp (tight.completed a member)
    _ ↔ (Traced.new windowMs).AllTight ∧ Throughout Traced.afterCall Traced.JoinsNear (.new windowMs) calls :=
      (Traced.drain_allTight reached).trans run
    _ ↔ _ := and_iff_right ⟨by simp [Traced.new], by simp [Traced.new]⟩

/-- Evidence of one Java crash of process 42: in the crash buffer at 10 s, in DropBox at 12 s, and
last, in the events buffer, at 8 s. -/
def stretchedCrash : List Call :=
  let report (source : SourceMask) (happenedAtMs : I64) : Call :=
    .ingest { CrashFragment.new source .structured .javaException "com.example".toList 42 happenedAtMs with
      userId := some 0 }
  [report .crashBuffer 10000, report .dropbox 12000, report .events 8000]

theorem skew_doubled :
    ¬ ∀ a ∈ (Traced.afterCalls defaultMergeWindowMs (stretchedCrash ++ [.drain])).accounts,
      a.merged.record.kind ≠ .anr →
        WithinSkew (CrashMerger.new defaultMergeWindowMs).sourceSkewMs a.occurrence.fragments := by
  decide +kernel

end CrashCatcher.Merge
