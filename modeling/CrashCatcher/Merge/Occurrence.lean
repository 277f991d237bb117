import CrashCatcher.Merge.Pending
import Mathlib.Data.List.Basic

namespace CrashCatcher.Merge
open Lib Lib.Text Model

structure Occurrence where
  first : CrashFragment
  rest : List CrashFragment

namespace Occurrence

def start (f : CrashFragment) : Occurrence := ⟨f, []⟩
def merge (self : Occurrence) (f : CrashFragment) : Occurrence := ⟨self.first, self.rest ++ [f]⟩
def fragments (self : Occurrence) : List CrashFragment := self.first :: self.rest
def pending (self : Occurrence) : Pending := .ofFragments self.first self.rest

@[simp] theorem fragments_start (f : CrashFragment) : (start f).fragments = [f] := rfl
@[simp] theorem fragments_merge (self : Occurrence) (f : CrashFragment) :
    (self.merge f).fragments = self.fragments ++ [f] := rfl
@[simp] theorem pending_start (f : CrashFragment) : (start f).pending = .new f := rfl
@[simp] theorem pending_merge (self : Occurrence) (f : CrashFragment) :
    (self.merge f).pending = self.pending.merge f := by
  simp [pending, merge, Pending.ofFragments]

@[elab_as_elim] theorem induction {motive : Occurrence → Prop} (start : ∀ f, motive (.start f))
    (merge : ∀ o f, motive o → motive (o.merge f)) (o : Occurrence) : motive o := by
  obtain ⟨first, rest⟩ := o
  induction rest using List.reverseRecOn with
  | nil => exact start first
  | append_singleton rest f ih => exact merge ⟨first, rest⟩ f ih

theorem contains_sources_iff {c : SourceMask} (single : c.IsSingle) (o : Occurrence) :
    o.pending.sources.contains c = true ↔ ∃ g ∈ o.fragments, g.source.contains c = true := by
  induction o using induction with
  | start f => simp [Pending.new]
  | merge o f ih => simp [SourceMask.contains_union_of_single single, ih, or_and_right, exists_or]

theorem mem_sourceKeys {key : Str} (o : Occurrence) :
    key ∈ o.pending.sourceKeys ↔ ∃ g ∈ o.fragments, g.sourceKey = some key := by
  induction o using induction with
  | start f => simp [Pending.new, Option.mem_toList]
  | merge o f ih =>
      simp only [pending_merge, Pending.merge_sourceKeys, fragments_merge, List.mem_append,
        List.mem_singleton, or_and_right, exists_or, exists_eq_left, ← ih]
      cases carried : f.sourceKey with
      | none => simp [Pending.mergeSourceKeys]
      | some other =>
          simp only [Pending.mergeSourceKeys, Option.some.injEq]
          split_ifs with held
          · have member : other ∈ o.pending.sourceKeys := by simpa using held
            exact ⟨.inl, Or.rec id fun same => same ▸ member⟩
          · simp [eq_comm]

theorem firstMs_le (o : Occurrence) : ∀ g ∈ o.fragments, o.pending.firstMs ≤ g.happenedAtMs := by
  induction o using induction with
  | start f => simp [Pending.new]
  | merge o f ih =>
      intro g member
      rw [fragments_merge] at member
      rw [pending_merge, Pending.merge_firstMs]
      rcases List.mem_append.mp member with old | new
      · exact (min_le_left _ _).trans (ih g old)
      · rw [List.mem_singleton.mp new]
        exact min_le_right _ _

theorem exists_firstMs (o : Occurrence) : ∃ g ∈ o.fragments, g.happenedAtMs = o.pending.firstMs := by
  induction o using induction with
  | start f => exact ⟨f, by simp, rfl⟩
  | merge o f ih =>
      obtain ⟨g, member, time⟩ := ih
      rw [pending_merge, Pending.merge_firstMs]
      rcases min_choice o.pending.firstMs f.happenedAtMs with old | new
      · exact ⟨g, by simp [member], time.trans old.symm⟩
      · exact ⟨f, by simp, new.symm⟩

theorem exists_pid (o : Occurrence) : ∃ g ∈ o.fragments, g.pid = o.pending.pid := by
  induction o using induction with
  | start f => exact ⟨f, by simp, rfl⟩
  | merge o f ih =>
      obtain ⟨g, member, pid⟩ := ih
      rw [pending_merge, Pending.merge_pid]
      split_ifs
      · exact ⟨f, by simp, rfl⟩
      · exact ⟨g, by simp [member], pid⟩

theorem exists_user (o : Occurrence) {user : Int} (known : o.pending.userValue = some user) :
    ∃ g ∈ o.fragments, g.userId = some user := by
  induction o using induction with
  | start f =>
      exact ⟨f, by simp, (Pending.new_userValue f).symm.trans known⟩
  | merge o f ih =>
      rw [pending_merge] at known
      rcases o.pending.merge_userValue f with new | old
      · exact ⟨f, by simp, new.symm.trans known⟩
      · obtain ⟨g, member, user⟩ := ih (old.symm.trans known)
        exact ⟨g, by simp [member], user⟩

/-- No fragment contradicts the identity the occurrence is recorded under. -/
structure Coherent (o : Occurrence) : Prop where
  process : ∀ g ∈ o.fragments, g.processName = o.pending.process
  kind : ∀ g ∈ o.fragments, g.kind = o.pending.kind.value
  pid : ∀ g ∈ o.fragments, g.pid = 0 ∨ g.pid = o.pending.pid
  user : ∀ g ∈ o.fragments, g.userId = none ∨ g.userId = o.pending.userValue

theorem coherent_start (f : CrashFragment) : (start f).Coherent := by
  refine ⟨?_, ?_, ?_, ?_⟩ <;> intro g member <;> rw [List.mem_singleton.mp member]
  · rfl
  · rfl
  · exact .inr rfl
  · exact .inr (Pending.new_userValue f).symm

theorem Coherent.merge {o : Occurrence} {f : CrashFragment} {sourceSkewMs mergeWindowMs : I64}
    (coherent : o.Coherent) (found : o.pending.matchesFragment f sourceSkewMs mergeWindowMs = true) :
    (o.merge f).Coherent := by
  simp only [Pending.matchesFragment, Bool.and_eq_true, decide_eq_true_eq] at found
  obtain ⟨⟨⟨⟨-, identity⟩, process⟩, kind⟩, -⟩ := found
  have sameKind : (o.merge f).pending.kind.value = o.pending.kind.value := by
    rw [pending_merge, Pending.merge_kind, Ranked.replace]
    split_ifs
    · exact kind.symm
    · rfl
  refine ⟨?_, ?_, ?_, ?_⟩ <;> intro g member <;> rw [fragments_merge, List.mem_append,
    List.mem_singleton] at member <;> rcases member with old | rfl
  · rw [coherent.process g old, pending_merge, Pending.merge_process]
  · rw [pending_merge, Pending.merge_process, process]
  · rw [coherent.kind g old, sameKind]
  · rw [sameKind, kind]
  · rw [pending_merge, Pending.merge_pid]
    rcases coherent.pid g old with zero | same
    · exact .inl zero
    · split_ifs with unknown
      · exact .inl (same.trans unknown.1)
      · exact .inr same
  · rw [pending_merge, Pending.merge_pid]
    split_ifs with unknown
    · exact .inr rfl
    · by_cases zero : g.pid = 0
      · exact .inl zero
      · have known : o.pending.pid ≠ 0 := fun h => unknown ⟨h, zero⟩
        exact .inr (occurrenceIdentityMatches_pid identity known zero).symm
  · rcases coherent.user g old with absent | same
    · exact .inl absent
    · cases carried : g.userId with
      | none => exact .inl rfl
      | some user =>
          rw [pending_merge, Pending.merge_userValue_kept (same.symm.trans carried) identity]
          exact .inr rfl
  · cases carried : g.userId with
    | none => exact .inl rfl
    | some user =>
        rw [pending_merge, Pending.merge_userValue_new carried identity]
        exact .inr rfl

end Occurrence
end CrashCatcher.Merge
