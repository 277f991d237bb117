import CrashCatcher.Daemon.KeyAccounting

/-! Whatever keys the fragments carry, the ingest loop confirms none that it has not received. -/

namespace CrashCatcher.Daemon
open Lib Lib.Text Model Merge Wire

structure Sourced (received : List CrashFragment) (t : Traced) : Prop where
  pending : ∀ o ∈ t.pending, o.fragments ⊆ received
  accounts : ∀ a ∈ t.accounts, a.occurrence.fragments ⊆ received
  suppressed : ∀ entry ∈ t.suppressedSourceKeys, entry.1.2 ∈ sourceKeysOf received

section Merger
variable {received : List CrashFragment} {t u : Traced}

theorem sourced_new : Sourced [] (.new defaultMergeWindowMs) where
  pending := by simp [Traced.new]
  accounts := by simp [Traced.new]
  suppressed := by simp [Traced.new]

theorem Sourced.weaken (sourced : Sourced received t) (more : List CrashFragment) :
    Sourced (received ++ more) t where
  pending o member := List.subset_append_of_subset_left _ (sourced.pending o member)
  accounts a member := List.subset_append_of_subset_left _ (sourced.accounts a member)
  suppressed entry member := by
    rw [sourceKeysOf_append]
    exact List.mem_append_left _ (sourced.suppressed entry member)

theorem Sourced.allocate (sourced : Sourced received t) {o : Occurrence} {rest : List Occurrence}
    (head : t.pending = o :: rest) : Sourced received ((t.setPending rest).allocate o).2 where
  pending other member := sourced.pending other (by rw [head]; exact .tail _ member)
  accounts a member := by
    rcases List.mem_append.mp member with old | new
    · exact sourced.accounts a old
    · rw [List.mem_singleton.mp new]
      exact sourced.pending o (by simp [head])
  suppressed := sourced.suppressed

theorem Sourced.modify (sourced : Sourced received t) (serial : Nat) {f : Account → Account}
    (same : ∀ a, (f a).occurrence = a.occurrence) :
    ∀ a ∈ t.accounts.modify serial f, a.occurrence.fragments ⊆ received := by
  intro a member
  obtain ⟨i, found⟩ := List.mem_iff_getElem?.mp member
  simp only [List.getElem?_modify, Option.map_eq_map, Option.map_eq_some_iff] at found
  obtain ⟨before, old, rfl⟩ := found
  have known := sourced.accounts before (List.mem_of_getElem? old)
  split_ifs
  · rwa [same]
  · exact known

theorem sourced_move {action : Action} (move : Traced.Move t action u) (sourced : Sourced received t) :
    Sourced (received ++ action.received) u := by
  have kept := sourced.weaken action.received
  cases move with
  | expire => exact ⟨kept.pending, kept.accounts, kept.suppressed⟩
  | reorder order =>
      exact ⟨fun o member => kept.pending o (order.mem_iff.mpr member), kept.accounts, kept.suppressed⟩
  | complete head =>
      have closed := kept.allocate head
      exact ⟨closed.pending, closed.accounts, closed.suppressed⟩
  | repeated => exact kept
  | @join f o rest _ head =>
      refine ⟨fun other member => ?_, kept.accounts, kept.suppressed⟩
      rcases List.mem_cons.mp member with rfl | old
      · rw [Occurrence.fragments_merge]
        exact List.append_subset.mpr ⟨kept.pending o (by simp [head]), List.subset_append_right ..⟩
      · exact kept.pending other (by simp [head, old])
  | @suppress f =>
      refine ⟨kept.pending, kept.modify _ fun _ => rfl, fun entry member => ?_⟩
      rcases List.mem_append.mp member with old | new
      · exact kept.suppressed entry old
      · obtain ⟨key, carried, rfl⟩ := List.mem_map.mp new
        rw [sourceKeysOf_append]
        exact List.mem_append_right _ (List.mem_filterMap.mpr ⟨f, by simp, Option.mem_toList.mp carried⟩)
  | start =>
      refine ⟨fun other member => ?_, kept.accounts, kept.suppressed⟩
      rcases List.mem_cons.mp member with rfl | old
      · exact List.subset_append_right ..
      · exact kept.pending other old
  | close head => exact kept.allocate head

theorem sourced_moves {actions : List Action} (moves : Traced.Moves t actions u)
    (sourced : Sourced received t) :
    Sourced (received ++ actions.flatMap Action.received) u :=
  moves.preserves Sourced (fun _ => True) (fun _ move sourced => sourced_move move sourced)
    (fun _ _ => trivial) sourced

theorem Sourced.step (sourced : Sourced received t) (input : Input) :
    Sourced (received ++ input.received) (t.step input).2 := by
  obtain ⟨actions, -, -, receives, moves⟩ := t.step_moves input
  have expired : Sourced received (t.expireRecent input.watermarkMs) :=
    ⟨sourced.pending, sourced.accounts, sourced.suppressed⟩
  have reached := sourced_moves moves expired
  rwa [receives] at reached

theorem Sourced.drain (sourced : Sourced received t) : Sourced received t.drain.2 := by
  have closed := sourced_moves t.drain_moves sourced
  have silent : (List.replicate t.pending.length Action.close).flatMap Action.received = [] := by
    simp [List.flatMap_replicate]
  rwa [silent, List.append_nil] at closed

theorem Sourced.ownKeys (sourced : Sourced received t) {a : Account} (member : a ∈ t.accounts) {key : Str}
    (own : key ∈ a.merged.sourceKeys) : key ∈ sourceKeysOf received := by
  obtain ⟨g, fragment, carried⟩ := a.occurrence.mem_sourceKeys.mp own
  exact List.mem_filterMap.mpr ⟨g, sourced.accounts a member fragment, carried⟩

end Merger

/-- What a loop has confirmed, or still has to, was received. -/
structure Confirms (received : List CrashFragment) (loop : TracedLoop) : Prop where
  merger : Sourced received loop.merger
  waiting : ∀ entry ∈ loop.pendingConfirmations, entry.2 ∈ sourceKeysOf received
  acknowledged : ∀ key ∈ TracedLoop.acknowledged loop.calls, key ∈ sourceKeysOf received

section Loop
variable {received : List CrashFragment} {loop : TracedLoop}

theorem Confirms.persist (confirms : Confirms received loop) {entry : Nat × MergedCrash}
    (own : ∀ key ∈ entry.2.sourceKeys, key ∈ sourceKeysOf received) (outcome : Outcome)
    (source : Option CollectorSource) : Confirms received (loop.persist outcome source entry) := by
  have merger := confirms.merger
  cases answer : outcome loop.calls with
  | true =>
      rw [persist_stored loop entry source answer]
      refine ⟨⟨merger.pending, merger.modify _ fun _ => rfl, merger.suppressed⟩, confirms.waiting, ?_⟩
      intro key member
      rw [acknowledged_append] at member
      rcases List.mem_append.mp member with old | new
      · exact confirms.acknowledged key old
      · exact own key (by simpa [TracedLoop.acknowledged, CoreCall.acknowledges] using new)
  | false =>
      rw [persist_failed loop entry source answer]
      refine ⟨⟨merger.pending, merger.modify _ fun _ => rfl, fun entry member =>
        merger.suppressed entry (List.mem_filter.mp member).1⟩, confirms.waiting, ?_⟩
      intro key member
      rw [acknowledged_append] at member
      rcases List.mem_append.mp member with old | new
      · exact confirms.acknowledged key old
      · have none : key ∈ TracedLoop.acknowledged (reportError source) := new
        rw [acknowledged_reportError] at none
        cases none

theorem mem_takeConfirmed {t : Traced} {key : Str} (taken : key ∈ t.takeConfirmedSuppressedSourceKeys.1) :
    ∃ entry ∈ t.suppressedSourceKeys, entry.1.2 = key := by
  simp only [Traced.takeConfirmedSuppressedSourceKeys, List.partition_eq_filter_filter, List.mem_map] at taken
  obtain ⟨entry, inside, same⟩ := taken
  exact ⟨entry, (List.mem_filter.mp inside).1, same⟩

theorem Confirms.confirmSuppressed (confirms : Confirms received loop) (outcome : Outcome)
    (source : Option CollectorSource) : Confirms received (loop.confirmSuppressed outcome source) := by
  have merger := confirms.merger
  have places := markSourceKeys_perm outcome (loop.pendingConfirmations ++
    loop.merger.takeConfirmedSuppressedSourceKeys.1.map fun key => (source, key)) loop.calls
  have known : ∀ key, key ∈ TracedLoop.acknowledged loop.calls ++ (loop.pendingConfirmations ++
      loop.merger.takeConfirmedSuppressedSourceKeys.1.map fun key => (source, key)).map Prod.snd →
        key ∈ sourceKeysOf received := by
    intro key member
    rw [List.map_append, List.map_map] at member
    rcases List.mem_append.mp member with acknowledged | queued
    · exact confirms.acknowledged key acknowledged
    rcases List.mem_append.mp queued with waiting | taken
    · obtain ⟨entry, inside, rfl⟩ := List.mem_map.mp waiting
      exact confirms.waiting entry inside
    · obtain ⟨key, inside, rfl⟩ := List.mem_map.mp taken
      obtain ⟨entry, suppressed, rfl⟩ := mem_takeConfirmed inside
      exact merger.suppressed entry suppressed
  refine ⟨⟨merger.pending, merger.accounts, fun entry member => ?_⟩, fun entry member => ?_,
    fun key member => ?_⟩
  · simp only [TracedLoop.confirmSuppressed, Traced.takeConfirmedSuppressedSourceKeys,
      List.partition_eq_filter_filter] at member
    exact merger.suppressed entry (List.mem_filter.mp member).1
  · exact known _ (places.mem_iff.mp (List.mem_append_right _ (List.mem_map_of_mem member)))
  · exact known _ (places.mem_iff.mp (List.mem_append_left _ member))

theorem Confirms.completed {completed : List (Nat × MergedCrash)} (confirms : Confirms received loop)
    (own : ∀ entry ∈ completed, ∀ key ∈ entry.2.sourceKeys, key ∈ sourceKeysOf received) (outcome : Outcome)
    (source : Option CollectorSource) :
    Confirms received (TracedLoop.persistCompleted outcome source completed loop) := by
  refine Confirms.confirmSuppressed ?_ outcome source
  induction completed generalizing loop with
  | nil => exact confirms
  | cons entry rest ih =>
      exact ih (confirms.persist (own entry (.head _)) outcome source) fun other member =>
        own other (.tail _ member)

theorem Sourced.completed {t u : Traced} {out : List (Nat × MergedCrash)} (sourced : Sourced received u)
    (order : (t.numbered ++ out).Perm u.numbered) :
    ∀ entry ∈ out, ∀ key ∈ entry.2.sourceKeys, key ∈ sourceKeysOf received := by
  intro entry member key own
  obtain ⟨a, found, same⟩ := mem_numbered.mp (order.mem_iff.mp (List.mem_append_right _ member))
  rw [same] at own
  exact sourced.ownKeys (List.mem_of_getElem? found) own

theorem Confirms.round (confirms : Confirms received loop) (input : Input) (outcome : Outcome) :
    Confirms (received ++ input.received) (loop.round outcome input) := by
  have merger := confirms.merger.step input
  have own := merger.completed (loop.merger.numbered_step input)
  have kept : ∀ key, key ∈ sourceKeysOf received → key ∈ sourceKeysOf (received ++ input.received) := by
    intro key member
    rw [sourceKeysOf_append]
    exact List.mem_append_left _ member
  have waiting := fun entry member => kept _ (confirms.waiting entry member)
  have acknowledged := fun key member => kept key (confirms.acknowledged key member)
  cases input with
  | ingest f =>
      have ready : Confirms (received ++ [f]) (⟨(loop.merger.step (.ingest f)).2, loop.pendingConfirmations,
          loop.calls ++ [.markCollectorReceived (collectorFromMask f.source) f.happenedAtMs]⟩
            : TracedLoop) := by
        refine ⟨merger, waiting, fun key member => acknowledged key ?_⟩
        rw [acknowledged_append] at member
        simpa [TracedLoop.acknowledged, CoreCall.acknowledges] using member
      exact ready.completed own outcome _
  | flush nowMs =>
      have ready : Confirms (received ++ []) (⟨(loop.merger.step (.flush nowMs)).2, loop.pendingConfirmations,
          loop.calls⟩ : TracedLoop) := ⟨merger, waiting, acknowledged⟩
      exact ready.completed own outcome none

theorem Confirms.finish (confirms : Confirms received loop) (outcome : Outcome) :
    Confirms received (loop.finish outcome) := by
  have drained := confirms.merger.drain
  have ready : Confirms received (⟨loop.merger.drain.2, loop.pendingConfirmations, loop.calls⟩ : TracedLoop) :=
    ⟨drained, confirms.waiting, confirms.acknowledged⟩
  exact ready.completed (drained.completed loop.merger.numbered_drain) outcome none

theorem confirms_new : Confirms [] .new := ⟨sourced_new, by simp [TracedLoop.new], by
  simp [TracedLoop.new, TracedLoop.acknowledged]⟩

end Loop
end CrashCatcher.Daemon
