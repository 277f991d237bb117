import CrashCatcher.Merge.Traced

/-! The merger's operations as sequences of elementary moves. An invariant need only be shown
preserved by each move. -/

namespace CrashCatcher.Merge
open Lib Lib.Text Model

inductive Action where
  | expire (watermarkMs : I64)
  | reorder
  | complete
  | receive (f : CrashFragment)
  | close

@[simp] def Action.received : Action → List CrashFragment
  | receive f => [f]
  | expire _ => []
  | reorder => []
  | complete => []
  | close => []

def Action.Internal (a : Action) : Prop := a = .reorder ∨ a = .complete

namespace Traced

inductive Move (t : Traced) : Action → Traced → Prop
  | expire (watermarkMs : I64) : Move t (.expire watermarkMs) (t.expireRecent watermarkMs)
  | reorder {pending : List Occurrence} :
      t.pending.Perm pending → Move t .reorder (t.setPending pending)
  | complete {o : Occurrence} {rest : List Occurrence} :
      t.pending = o :: rest → Move t .complete ((t.setPending rest).complete o).2
  | repeated {f : CrashFragment} : t.holdsSourceKey f = true → Move t (.receive f) t
  | join {f : CrashFragment} {o : Occurrence} {rest : List Occurrence} :
      t.holdsSourceKey f = false → t.pending = o :: rest → t.matching f o = true →
      Move t (.receive f) (t.setPending (o.merge f :: rest))
  | suppress {f : CrashFragment} {recent : Recent} {serial : Nat} :
      t.holdsSourceKey f = false → (∀ o ∈ t.pending, t.matching f o = false) →
      (recent, serial) ∈ t.recent → t.matchingRecent f recent = true →
      Move t (.receive f) (t.suppress recent.completionId serial f)
  | start {f : CrashFragment} :
      t.holdsSourceKey f = false → (∀ o ∈ t.pending, t.matching f o = false) →
      (∀ entry ∈ t.recent, t.matchingRecent f entry.1 = false) →
      Move t (.receive f) (t.setPending (.start f :: t.pending))
  | close {o : Occurrence} {rest : List Occurrence} :
      t.pending = o :: rest → Move t .close ((t.setPending rest).allocate o).2

inductive Moves : Traced → List Action → Traced → Prop
  | refl (t : Traced) : Moves t [] t
  | step {t u v : Traced} {a : Action} {actions : List Action} :
      Move t a u → Moves u actions v → Moves t (a :: actions) v

theorem Move.single {t u : Traced} {a : Action} (move : Move t a u) : Moves t [a] u :=
  .step move (.refl u)

theorem Moves.append {t u v : Traced} {first second : List Action} (start : Moves t first u)
    (continued : Moves u second v) : Moves t (first ++ second) v := by
  induction start with
  | refl => exact continued
  | step move _ ih => exact .step move (ih continued)

/-- An invariant that may mention the fragments received so far. -/
theorem Moves.preserves (Inv : List CrashFragment → Traced → Prop) (Allowed : Action → Prop)
    (step : ∀ {seen t a u}, Allowed a → Move t a u → Inv seen t → Inv (seen ++ a.received) u)
    {t u : Traced} {actions : List Action} (moves : Moves t actions u)
    (allowed : ∀ a ∈ actions, Allowed a) {seen : List CrashFragment} (holds : Inv seen t) :
    Inv (seen ++ actions.flatMap Action.received) u := by
  induction moves generalizing seen with
  | refl => simpa using holds
  | step move _ ih =>
      rw [List.flatMap_cons, ← List.append_assoc]
      exact ih (fun a member => allowed a (by simp [member])) (step (allowed _ (by simp)) move holds)

theorem completeAll_moves (due left : List Occurrence) (t : Traced)
    (split : t.pending = due ++ left) :
    Moves t (.replicate due.length .complete) (completeAll due (t.setPending left)).2 := by
  induction due generalizing t with
  | nil =>
      obtain ⟨windowMs, pending, recent, suppressed, next, accounts⟩ := t
      obtain rfl : pending = left := split
      exact .refl _
  | cons o due ih =>
      refine .step (.complete split) ?_
      have rest := ih ((t.setPending (due ++ left)).complete o).2 rfl
      rwa [completeAll_setPending t due (due ++ left) left]

theorem flushBefore_moves (t : Traced) (watermarkMs : I64) :
    ∃ n, Moves (t.expireRecent watermarkMs) (.reorder :: .replicate n .complete)
      (t.flushBefore watermarkMs).2 := by
  let expired := t.expireRecent watermarkMs
  let parts := extract (expired.isDue watermarkMs) expired.pending
  have completions := completeAll_moves parts.1 parts.2 (expired.setPending (parts.1 ++ parts.2)) rfl
  exact ⟨parts.1.length, .step (.reorder (extract_perm _ _).symm) completions⟩

theorem finishSettled_moves (t : Traced) (completed : List (Nat × MergedCrash)) {index : Nat}
    {o : Occurrence} (found : t.pending[index]? = some o) :
    ∃ actions, (∀ a ∈ actions, a.Internal) ∧
      Moves t actions (t.finishSettled completed index o).2 := by
  rw [finishSettled]
  split_ifs with settled
  · obtain ⟨inside, rfl⟩ := List.getElem?_eq_some_iff.mp found
    exact ⟨[.reorder, .complete], by simp [Action.Internal], .step (.reorder (perm_swapRemove inside))
      (Move.complete rfl).single⟩
  · exact ⟨[], by simp, .refl t⟩

theorem pendingMatch_some {t : Traced} {f : CrashFragment} {o : Occurrence} {index : Nat}
    (found : t.pendingMatch f = some (o, index)) :
    t.pending[index]? = some o ∧ t.matching f o = true := by
  have member := List.mem_filter.mp (List.argmin_mem found)
  exact ⟨by simpa [List.mem_zipIdx_iff_getElem?] using member.1, member.2⟩

theorem pendingMatch_none {t : Traced} {f : CrashFragment} (absent : t.pendingMatch f = none) :
    ∀ o ∈ t.pending, t.matching f o = false := by
  intro o member
  obtain ⟨index, found⟩ := List.mem_iff_getElem?.mp member
  rw [pendingMatch, List.argmin_eq_none, List.filter_eq_nil_iff] at absent
  simpa using absent (o, index) (by simpa [List.mem_zipIdx_iff_getElem?] using found)

theorem recentMatch_some {t : Traced} {f : CrashFragment} {recent : Recent} {serial : Nat}
    (found : t.recentMatch f = some (recent, serial)) :
    (recent, serial) ∈ t.recent ∧ t.matchingRecent f recent = true := by
  simpa using List.mem_filter.mp (List.argmin_mem found)

theorem recentMatch_none {t : Traced} {f : CrashFragment} (absent : t.recentMatch f = none) :
    ∀ entry ∈ t.recent, t.matchingRecent f entry.1 = false := by
  rw [recentMatch, List.argmin_eq_none, List.filter_eq_nil_iff] at absent
  simpa using absent

theorem holdsSourceKey_iff {t : Traced} {f : CrashFragment} : t.holdsSourceKey f = true ↔
    ∃ key, f.sourceKey = some key ∧ ∃ o ∈ t.pending, key ∈ o.pending.sourceKeys := by
  cases carried : f.sourceKey <;>
    simp [holdsSourceKey, CrashMerger.holdsSourceKey, forget, carried]

theorem holdsSourceKey_reorder {t : Traced} {pending : List Occurrence}
    (same : t.pending.Perm pending) (f : CrashFragment) :
    (t.setPending pending).holdsSourceKey f = t.holdsSourceKey f := by
  rw [Bool.eq_iff_iff, holdsSourceKey_iff, holdsSourceKey_iff]
  simp only [setPending, same.mem_iff]

theorem receive_moves (t : Traced) (completed : List (Nat × MergedCrash)) (f : CrashFragment) :
    ∃ before after, (∀ a ∈ before ++ after, a.Internal) ∧
      Moves t (before ++ .receive f :: after) (t.receive completed f).2 := by
  rw [receive]
  by_cases held : t.holdsSourceKey f
  · rw [if_pos held]
    exact ⟨[], [], by simp, (Move.repeated held).single⟩
  · rw [if_neg held]
    rw [Bool.not_eq_true] at held
    cases candidate : t.pendingMatch f with
    | some entry =>
        obtain ⟨o, index⟩ := entry
        obtain ⟨found, matching⟩ := pendingMatch_some candidate
        obtain ⟨inside, rfl⟩ := List.getElem?_eq_some_iff.mp found
        obtain ⟨after, internal, moves⟩ := finishSettled_moves
          (t.setPending (t.pending.set index (t.pending[index].merge f))) completed
          (List.getElem?_set_self inside)
        have front := (List.getElem_cons_eraseIdx_perm inside).symm
        have back := (List.set_perm_cons_eraseIdx inside (t.pending[index].merge f)).symm
        refine ⟨[.reorder], .reorder :: after, ?_, ?_⟩
        · simpa [Action.Internal] using internal
        · exact .step (.reorder front)
            (.step (.join ((holdsSourceKey_reorder front f).trans held) rfl matching)
              (.step (.reorder back) moves))
    | none =>
        have alone := pendingMatch_none candidate
        cases remembered : t.recentMatch f with
        | some entry =>
            obtain ⟨recent, serial⟩ := entry
            obtain ⟨member, matching⟩ := recentMatch_some remembered
            exact ⟨[], [], by simp, (Move.suppress held alone member matching).single⟩
        | none =>
            obtain ⟨after, internal, moves⟩ := finishSettled_moves
              (t.setPending (t.pending ++ [.start f])) completed (List.getElem?_concat_length ..)
            refine ⟨[], .reorder :: after, by simpa [Action.Internal] using internal, ?_⟩
            exact .step (.start held alone (recentMatch_none remembered))
              (.step (.reorder (List.perm_append_singleton _ _).symm) moves)

theorem ingest_moves (t : Traced) (f : CrashFragment) :
    ∃ before after, (∀ a ∈ before ++ after, a.Internal) ∧
      Moves (t.expireRecent f.happenedAtMs) (before ++ .receive f :: after) (t.ingest f).2 := by
  obtain ⟨n, flushed⟩ := t.flushBefore_moves f.happenedAtMs
  obtain ⟨before, after, internal, received⟩ :=
    (t.flushBefore f.happenedAtMs).2.receive_moves (t.flushBefore f.happenedAtMs).1 f
  refine ⟨(.reorder :: .replicate n .complete) ++ before, after, ?_, ?_⟩
  · intro a member
    simp only [List.cons_append, List.append_assoc, List.mem_cons, List.mem_append,
      List.mem_replicate] at member
    rcases member with rfl | ⟨_, rfl⟩ | member
    · exact .inl rfl
    · exact .inr rfl
    · exact internal a (List.mem_append.mpr member)
  · rw [List.append_assoc]
    exact flushed.append received

theorem drainFrom_moves (occurrences : List Occurrence) (t : Traced)
    (all : t.pending = occurrences) :
    Moves t (.replicate occurrences.length .close) (drainFrom occurrences (t.setPending [])).2 := by
  induction occurrences generalizing t with
  | nil =>
      obtain ⟨windowMs, pending, recent, suppressed, next, accounts⟩ := t
      obtain rfl : pending = [] := all
      exact .refl _
  | cons o rest ih => exact .step (.close all) (ih ((t.setPending rest).allocate o).2 rfl)

theorem drain_moves (t : Traced) :
    Moves t (.replicate t.pending.length .close) t.drain.2 := drainFrom_moves t.pending t rfl

end Traced
end CrashCatcher.Merge
