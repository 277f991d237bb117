import Mathlib.Algebra.BigOperators.Group.List.Lemmas
import Mathlib.Algebra.GroupWithZero.Nat
import Mathlib.Data.List.Sort

namespace CrashCatcher.Lib
variable {κ : Type*} [DecidableEq κ] {le : κ → κ → Bool} {keys : List κ}

def tally (le : κ → κ → Bool) (keys : List κ) : List (κ × Nat) :=
  (keys.dedup.mergeSort le).map fun key => (key, keys.count key)

theorem map_fst_tally : (tally le keys).map Prod.fst = keys.dedup.mergeSort le := by
  rw [tally, List.map_map]
  exact List.map_id _

theorem mem_tally {entry : κ × Nat} :
    entry ∈ tally le keys ↔ entry.1 ∈ keys ∧ entry.2 = keys.count entry.1 := by
  rw [tally, List.mem_map]
  constructor
  · rintro ⟨key, member, rfl⟩
    exact ⟨List.mem_dedup.mp (List.mem_mergeSort.mp member), rfl⟩
  · rintro ⟨member, count⟩
    exact ⟨entry.1, List.mem_mergeSort.mpr (List.mem_dedup.mpr member), Prod.ext rfl count.symm⟩

theorem sum_tally : ((tally le keys).map Prod.snd).sum = keys.length := by
  have counts : (tally le keys).map Prod.snd = (keys.dedup.mergeSort le).map fun key => keys.count key := by
    rw [tally, List.map_map]
    rfl
  rw [counts, ((List.mergeSort_perm _ _).map _).sum_eq]
  exact List.sum_map_count_dedup_eq_length keys

theorem nodup_tally : ((tally le keys).map Prod.fst).Nodup := by
  rw [map_fst_tally]
  exact (List.mergeSort_perm _ _).nodup_iff.mpr (List.nodup_dedup keys)

theorem sorted_tally (trans : ∀ a b c, le a b → le b c → le a c) (total : ∀ a b, le a b || le b a) :
    ((tally le keys).map Prod.fst).Pairwise fun a b => le a b := by
  rw [map_fst_tally]
  exact List.pairwise_mergeSort trans total _

end CrashCatcher.Lib
