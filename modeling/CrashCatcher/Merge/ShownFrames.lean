import CrashCatcher.Merge.Occurrence

namespace CrashCatcher.Merge
open Lib Model

def CrashFragment.Alike (f f' : CrashFragment) : Prop :=
  { f' with frames := f.frames, payload := f.payload } = f

theorem CrashFragment.Alike.refl (f : CrashFragment) : f.Alike f := rfl

theorem CrashFragment.Alike.quality {f f' : CrashFragment} (alike : f.Alike f') : f'.quality = f.quality := by
  rw [← show _ = f from alike]

def Pending.Alike (p p' : Pending) : Prop := { p' with frames := p.frames, payload := p.payload } = p

namespace Pending
variable {f f' : CrashFragment} {p p' : Pending}

theorem Alike.new (alike : f.Alike f') : Alike (new f) (new f') := by
  rw [Alike, ← show _ = f from alike]
  rfl

theorem Alike.merge (alike : p.Alike p') (incoming : f.Alike f') : Alike (p.merge f) (p'.merge f') := by
  rw [Alike, ← show _ = p from alike, ← show _ = f from incoming]
  rfl

theorem Alike.foldl {fragments fragments' : List CrashFragment}
    (incoming : List.Forall₂ CrashFragment.Alike fragments fragments') (alike : p.Alike p') :
    Alike (fragments.foldl Pending.merge p) (fragments'.foldl Pending.merge p') := by
  induction incoming generalizing p p' with
  | nil => exact alike
  | cons one _ ih => exact ih (alike.merge one)

theorem frames_foldl (fragments : List CrashFragment) (p : Pending) :
    (fragments.foldl Pending.merge p).frames =
      fragments.foldl (fun slot f => mergeFrames slot f.quality f.frames) p.frames := by
  induction fragments generalizing p with
  | nil => rfl
  | cons f fragments ih => exact ih (p.merge f)

theorem kind_foldl {kind : CrashKind} {fragments : List CrashFragment} (kinds : ∀ f ∈ fragments, f.kind = kind)
    (known : p.kind.value = kind) : (fragments.foldl Pending.merge p).kind.value = kind := by
  induction fragments generalizing p with
  | nil => exact known
  | cons f fragments ih =>
      obtain ⟨first, rest⟩ := List.forall_mem_cons.mp kinds
      refine ih rest ?_
      rw [merge_kind, Ranked.replace]
      split_ifs
      · exact first
      · exact known

end Pending

section
open Pending (mergeFrames_eq)
variable {slot slot' : Ranked (List Str)} {later : List CrashFragment}

theorem foldl_mergeFrames_kept (worse : ∀ f ∈ later, f.frames ≠ [] → f.quality < slot.quality) :
    later.foldl (fun slot f => Pending.mergeFrames slot f.quality f.frames) slot = slot := by
  induction later with
  | nil => rfl
  | cons f later ih =>
      obtain ⟨first, rest⟩ := List.forall_mem_cons.mp worse
      have kept : Pending.mergeFrames slot f.quality f.frames = slot := by
        rw [mergeFrames_eq, if_neg]
        exact fun taken => absurd (first taken.1) (not_lt_of_ge taken.2)
      rw [List.foldl_cons, kept, ih rest]

theorem foldl_mergeFrames_replaced (quality : slot.quality = slot'.quality)
    (better : ¬ ∀ f ∈ later, f.frames ≠ [] → f.quality < slot.quality) :
    later.foldl (fun slot f => Pending.mergeFrames slot f.quality f.frames) slot =
      later.foldl (fun slot f => Pending.mergeFrames slot f.quality f.frames) slot' := by
  induction later with
  | nil => exact absurd (fun f member => nomatch member) better
  | cons f later ih =>
      rw [List.foldl_cons, List.foldl_cons, mergeFrames_eq, mergeFrames_eq, ← quality]
      by_cases taken : f.frames ≠ [] ∧ slot.quality ≤ f.quality
      · rw [if_pos taken, if_pos taken]
      · rw [if_neg taken, if_neg taken]
        refine ih fun worse => better (List.forall_mem_cons.mpr ⟨fun some => ?_, worse⟩)
        exact lt_of_not_ge fun no => taken ⟨some, no⟩

end

/-- The occurrence of `f`, with what was merged before and after it. -/
def Occurrence.around (before : List CrashFragment) (f : CrashFragment) (after : List CrashFragment) :
    Occurrence :=
  match before with
  | [] => ⟨f, after⟩
  | first :: before => ⟨first, before ++ f :: after⟩

/-- The frames of an occurrence are those of a fragment of this quality: it is no worse than what came
before it, and better than what came after it. -/
def TakesFrames (before after : List CrashFragment) (quality : EvidenceQuality) : Prop :=
  (∀ first rest, before = first :: rest → (Pending.ofFragments first rest).frames.quality ≤ quality) ∧
    ∀ f ∈ after, f.frames ≠ [] → f.quality < quality

def shown (kind : CrashKind) (raw : List Str) : List Str := (Fingerprint.fromRawFrames kind [] raw).frames

namespace Occurrence
variable {before after : List CrashFragment} {f f' : CrashFragment}

theorem alike_around (alike : f.Alike f') :
    (around before f after).pending.Alike (around before f' after).pending := by
  have same : ∀ fragments : List CrashFragment, List.Forall₂ CrashFragment.Alike fragments fragments :=
    fun fragments => List.forall₂_same.mpr fun g _ => .refl g
  cases before with
  | nil => exact Pending.Alike.foldl (same after) (.new alike)
  | cons first before =>
      exact Pending.Alike.foldl (List.rel_append (same before) (.cons alike (same after))) (.new (.refl first))

theorem kind_around {kind : CrashKind} (own : f.kind = kind) (others : ∀ g ∈ before ++ after, g.kind = kind) :
    (around before f after).pending.kind.value = kind := by
  cases before with
  | nil => exact Pending.kind_foldl others own
  | cons first before =>
      obtain ⟨opened, rest⟩ := List.forall_mem_cons.mp others
      obtain ⟨early, late⟩ := List.forall_mem_append.mp rest
      exact Pending.kind_foldl (List.forall_mem_append.mpr ⟨early, List.forall_mem_cons.mpr ⟨own, late⟩⟩) opened

theorem frames_around_cons (first : CrashFragment) (before : List CrashFragment) (f : CrashFragment)
    (after : List CrashFragment) : (around (first :: before) f after).pending.frames =
      after.foldl (fun slot g => Pending.mergeFrames slot g.quality g.frames)
        (Pending.mergeFrames (Pending.ofFragments first before).frames f.quality f.frames) := by
  show ((before ++ f :: after).foldl Pending.merge (Pending.new first)).frames = _
  rw [List.foldl_append, List.foldl_cons, Pending.frames_foldl]
  rfl

theorem frames_around_taken (some : f.frames ≠ []) (takes : TakesFrames before after f.quality) :
    (around before f after).pending.frames.value = f.frames := by
  obtain ⟨early, late⟩ := takes
  cases before with
  | nil =>
      show (after.foldl Pending.merge (Pending.new f)).frames.value = _
      rw [Pending.frames_foldl, foldl_mergeFrames_kept late]
      rfl
  | cons first before =>
      rw [frames_around_cons, Pending.mergeFrames_eq, if_pos ⟨some, early first before rfl⟩, foldl_mergeFrames_kept late]

theorem frames_around_kept (quality : f'.quality = f.quality) (some : f.frames = [] ↔ f'.frames = [])
    (other : ¬ TakesFrames before after f.quality ∨ f.frames = []) :
    (around before f after).pending.frames.value = (around before f' after).pending.frames.value := by
  have same : ∀ slot slot' : Ranked (List Str), slot.quality = slot'.quality →
      (slot.value = slot'.value ∨ ¬ ∀ g ∈ after, g.frames ≠ [] → g.quality < slot.quality) →
      (after.foldl (fun slot g => Pending.mergeFrames slot g.quality g.frames) slot).value =
        (after.foldl (fun slot g => Pending.mergeFrames slot g.quality g.frames) slot').value := by
    rintro ⟨q, value⟩ ⟨q', value'⟩ quality (equal | replaced)
    · obtain rfl : q = q' := quality
      obtain rfl : value = value' := equal
      rfl
    · rw [foldl_mergeFrames_replaced quality replaced]
  cases before with
  | nil =>
      show (after.foldl Pending.merge (Pending.new f)).frames.value =
        (after.foldl Pending.merge (Pending.new f')).frames.value
      rw [Pending.frames_foldl, Pending.frames_foldl]
      refine same _ _ quality.symm ?_
      rcases other with not | none
      · exact .inr fun late => not ⟨fun _ _ none => (List.cons_ne_nil _ _ none.symm).elim, late⟩
      · exact .inl (none.trans (some.mp none).symm)
  | cons first before =>
      rw [frames_around_cons, frames_around_cons, Pending.mergeFrames_eq, Pending.mergeFrames_eq, quality]
      by_cases taken : f.frames ≠ [] ∧ (Pending.ofFragments first before).frames.quality ≤ f.quality
      · rw [if_pos taken, if_pos ⟨fun none => taken.1 (some.mpr none), taken.2⟩]
        refine same _ _ rfl (.inr fun late => ?_)
        rcases other with not | none
        · refine not ⟨fun _ _ split => ?_, late⟩
          cases split
          exact taken.2
        · exact taken.1 none
      · rw [if_neg taken, if_neg fun taken' => taken ⟨fun none => taken'.1 (some.mp none), taken'.2⟩]

/-- Two occurrences that only the frames of one fragment tell apart have one fingerprint, unless they take
these frames and show that they differ. -/
theorem fingerprint_around_iff {kind : CrashKind} (alike : f.Alike f') (some : f.frames = [] ↔ f'.frames = [])
    (own : f.kind = kind) (others : ∀ g ∈ before ++ after, g.kind = kind) (completionId : UInt64) :
    ((around before f after).pending.finish completionId).record.fingerprint =
        ((around before f' after).pending.finish completionId).record.fingerprint ↔
      (TakesFrames before after f.quality → shown kind f.frames = shown kind f'.frames) := by
  have own' : f'.kind = kind := by rw [← own, ← show _ = f from alike]
  have pendings : (around before f after).pending.Alike (around before f' after).pending := alike_around alike
  have values : ((around before f after).pending.finish completionId).record.fingerprint =
        ((around before f' after).pending.finish completionId).record.fingerprint ↔
      shown kind (around before f after).pending.frames.value =
        shown kind (around before f' after).pending.frames.value := by
    have known := kind_around own others
    have known' := kind_around own' others
    generalize (around before f after).pending = p at pendings known
    generalize (around before f' after).pending = p' at pendings known'
    have same : { p' with frames := p.frames, payload := p.payload } = p := pendings
    have className : p'.className = p.className := by rw [← same]
    have text : p'.text = p.text := by rw [← same]
    simp only [Pending.finish, known, known', className, text, Fingerprint.fromRawFrames, shown,
      Fingerprint.mk.injEq, true_and]
  rw [values]
  by_cases none : f.frames = []
  · rw [frames_around_kept alike.quality some (.inr none), none, some.mp none]
    exact iff_of_true rfl fun _ => rfl
  · by_cases takes : TakesFrames before after f.quality
    · have takes' : TakesFrames before after f'.quality := alike.quality ▸ takes
      rw [frames_around_taken none takes, frames_around_taken (fun none' => none (some.mpr none')) takes']
      exact ⟨fun same _ => same, fun same => same takes⟩
    · rw [frames_around_kept alike.quality some (.inl takes)]
      exact iff_of_true rfl fun taken => absurd taken takes

end Occurrence
end CrashCatcher.Merge
