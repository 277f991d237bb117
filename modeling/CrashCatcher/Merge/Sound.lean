import CrashCatcher.Merge.Run

namespace CrashCatcher.Merge.Traced
open Lib Lib.Text Model

def Linked (t : Traced) (entry : Recent × Nat) : Prop :=
  ∃ a persisted, t.accounts[entry.2]? = some a ∧
    entry.1 = { Recent.fromPending a.completionId a.occurrence.pending with persisted := persisted }

structure Sound (received : List CrashFragment) (t : Traced) : Prop where
  pending : ∀ o ∈ t.pending, o.Coherent ∧ o.fragments ⊆ received
  accounts : ∀ a ∈ t.accounts, a.occurrence.Coherent ∧ a.fragments ⊆ received
  recent : ∀ entry ∈ t.recent, t.Linked entry

theorem sound_new (windowMs : I64) : Sound [] (new windowMs) where
  pending := by simp [new]
  accounts := by simp [new]
  recent := by simp [new]

theorem Linked.allocate {t : Traced} {entry : Recent × Nat} (linked : t.Linked entry)
    (o : Occurrence) : (t.allocate o).2.Linked entry := by
  obtain ⟨a, persisted, found, same⟩ := linked
  have inside := (List.getElem?_eq_some_iff.mp found).1
  exact ⟨a, persisted, (List.getElem?_append_left inside).trans found, same⟩

theorem Linked.suppress {t : Traced} {entry : Recent × Nat} (linked : t.Linked entry) (id : UInt64)
    (serial : Nat) (f : CrashFragment) : (t.suppress id serial f).Linked entry := by
  obtain ⟨a, persisted, found, same⟩ := linked
  refine ⟨if serial = entry.2 then a.suppress f else a, persisted, ?_, ?_⟩
  · simp only [Traced.suppress, List.getElem?_modify, found, Option.map_eq_map, Option.map_some]
  · rw [same]
    split_ifs <;> rfl

theorem linked_complete (t : Traced) (o : Occurrence) :
    (t.complete o).2.Linked (.fromPending t.nextCompletionId o.pending, t.accounts.length) :=
  ⟨⟨t.nextCompletionId, o, [], none⟩, false, List.getElem?_concat_length .., rfl⟩

theorem Sound.weaken {received more : List CrashFragment} {t : Traced} (sound : Sound received t) :
    Sound (received ++ more) t where
  pending o member := (sound.pending o member).imp_right (List.subset_append_of_subset_left _)
  accounts a member := (sound.accounts a member).imp_right (List.subset_append_of_subset_left _)
  recent := sound.recent

theorem Sound.allocate {received : List CrashFragment} {t : Traced} (sound : Sound received t)
    {o : Occurrence} {rest : List Occurrence} (head : t.pending = o :: rest) :
    Sound received ((t.setPending rest).allocate o).2 where
  pending other member := sound.pending other (by rw [head]; exact .tail _ member)
  accounts a member := by
    rcases List.mem_append.mp member with old | new
    · exact sound.accounts a old
    · rw [List.mem_singleton.mp new]
      simpa [Account.fragments] using sound.pending o (by simp [head])
  recent entry member := Linked.allocate (t := t.setPending rest) (sound.recent entry member) o

theorem Sound.suppress {received : List CrashFragment} {t : Traced} {f : CrashFragment}
    (sound : Sound (received ++ [f]) t) (id : UInt64) (serial : Nat) :
    Sound (received ++ [f]) (t.suppress id serial f) where
  pending := sound.pending
  accounts a member := by
    obtain ⟨i, found⟩ := List.mem_iff_getElem?.mp member
    simp only [Traced.suppress, List.getElem?_modify, Option.map_eq_map, Option.map_eq_some_iff]
      at found
    obtain ⟨before, old, rfl⟩ := found
    obtain ⟨coherent, part⟩ := sound.accounts before (List.mem_of_getElem? old)
    split_ifs
    · refine ⟨coherent, ?_⟩
      rw [Account.fragments, Account.suppress, ← List.append_assoc]
      exact List.append_subset.mpr ⟨part, List.subset_append_right ..⟩
    · exact ⟨coherent, part⟩
  recent entry member := (sound.recent entry member).suppress id serial f

theorem Move.sound {received : List CrashFragment} {t u : Traced} {a : Action} (move : Move t a u)
    (sound : Sound received t) : Sound (received ++ a.received) u := by
  have kept : Sound (received ++ a.received) t := sound.weaken
  cases move with
  | expire watermarkMs =>
      exact ⟨kept.pending, kept.accounts, fun entry member => kept.recent entry (List.mem_filter.mp member).1⟩
  | reorder order =>
      exact ⟨fun o member => kept.pending o (order.mem_iff.mpr member), kept.accounts, kept.recent⟩
  | @complete o rest head =>
      have closed := kept.allocate head
      refine ⟨closed.pending, closed.accounts, ?_⟩
      intro entry member
      rcases List.mem_append.mp member with old | new
      · exact closed.recent entry old
      · rw [List.mem_singleton.mp new]
        exact (t.setPending rest).linked_complete o
  | repeated => exact kept
  | @join f o rest _ head matching =>
      refine ⟨?_, kept.accounts, kept.recent⟩
      intro other member
      rcases List.mem_cons.mp member with rfl | old
      · obtain ⟨coherent, part⟩ := kept.pending o (by simp [head])
        refine ⟨coherent.merge matching, ?_⟩
        rw [Occurrence.fragments_merge]
        exact List.append_subset.mpr ⟨part, List.subset_append_right ..⟩
      · exact kept.pending other (by simp [head, old])
  | suppress => exact kept.suppress ..
  | start =>
      refine ⟨?_, kept.accounts, kept.recent⟩
      intro other member
      rcases List.mem_cons.mp member with rfl | old
      · exact ⟨Occurrence.coherent_start _, List.subset_append_right ..⟩
      · exact kept.pending other old
  | close head => exact kept.allocate head

theorem Moves.sound {received : List CrashFragment} {t u : Traced} {actions : List Action}
    (moves : Moves t actions u) (sound : Sound received t) :
    Sound (received ++ actions.flatMap Action.received) u :=
  moves.preserves Sound (fun _ => True) (fun _ move sound => move.sound sound) (fun _ _ => trivial) sound

theorem Sound.step {received : List CrashFragment} {t : Traced} (sound : Sound received t)
    (input : Input) : Sound (received ++ input.received) (t.step input).2 := by
  obtain ⟨actions, -, -, receives, moves⟩ := t.step_moves input
  have expired : Sound received (t.expireRecent input.watermarkMs) := by
    simpa using (Move.expire input.watermarkMs).sound sound
  have reached := moves.sound expired
  rwa [receives] at reached

theorem Sound.drain {received : List CrashFragment} {t : Traced} (sound : Sound received t) :
    Sound received t.drain.2 := by
  have closed := t.drain_moves.sound sound
  have silent : (List.replicate t.pending.length Action.close).flatMap Action.received = [] := by
    simp [List.flatMap_replicate]
  rwa [silent, List.append_nil] at closed

end CrashCatcher.Merge.Traced
