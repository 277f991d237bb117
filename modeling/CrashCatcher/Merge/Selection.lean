import CrashCatcher.Lib.Selection
import CrashCatcher.Merge.Pending

namespace CrashCatcher.Merge
open Lib Lib.Selection Model

def CrashFragment.hasPayload (f : CrashFragment) : Bool := !f.payload.isNone
def CrashFragment.hasFrames (f : CrashFragment) : Bool := !f.frames.isEmpty

def supplier (carries : CrashFragment → Bool) (fragments : List CrashFragment) :
    Option CrashFragment :=
  lastBest CrashFragment.quality (fragments.filter carries)

def selectedPayload (fragments : List CrashFragment) : FragmentPayload :=
  ((supplier CrashFragment.hasPayload fragments).map (·.payload)).getD .none

def selectedFrames (fragments : List CrashFragment) : List Str :=
  ((supplier CrashFragment.hasFrames fragments).map (·.frames)).getD []

theorem supplier_spec {carries : CrashFragment → Bool} {fragments : List CrashFragment}
    {f : CrashFragment} (h : supplier carries fragments = some f) :
    carries f ∧ (∀ g ∈ fragments, carries g → g.quality ≤ f.quality) ∧
      ∃ earlier later, fragments.filter carries = earlier ++ f :: later ∧
        ∀ g ∈ later, g.quality < f.quality := by
  refine ⟨(List.mem_filter.mp (lastBest_mem h)).2, ?_, lastBest_split h⟩
  intro g member carried
  exact le_of_lastBest h (List.mem_filter.mpr ⟨member, carried⟩)

theorem supplier_eq_none {carries : CrashFragment → Bool} {fragments : List CrashFragment} :
    supplier carries fragments = none ↔ ∀ f ∈ fragments, carries f = false := by
  simp [supplier, List.filter_eq_nil_iff]

section Cell
variable {β : Type} (carries : CrashFragment → Bool) (field : CrashFragment → β)

/-- How a merge treats one ranked field: a carrier of at least the cell's quality replaces it. -/
def cellStep (cell : Ranked β) (f : CrashFragment) : Ranked β :=
  if carries f then cell.replace f.quality (field f) else cell

theorem foldl_cellStep (first : CrashFragment) (rest : List CrashFragment) :
    ∃ f, lastBest CrashFragment.quality (first :: rest.filter carries) = some f ∧
      rest.foldl (cellStep carries field) ⟨first.quality, field first⟩ = ⟨f.quality, field f⟩ := by
  refine ⟨(rest.filter carries).foldl (keep CrashFragment.quality) first,
    (foldl_keep _ _ _).symm, ?_⟩
  induction rest generalizing first with
  | nil => rfl
  | cons g rest ih =>
      by_cases carried : carries g = true
      · rw [List.filter_cons_of_pos carried, List.foldl_cons, List.foldl_cons, ← ih]
        congr 1
        simp only [cellStep, carried, Ranked.replace, keep, if_true]
        split_ifs <;> rfl
      · rw [List.filter_cons_of_neg carried, List.foldl_cons, ← ih]
        simp [cellStep, carried]

/-- The first fragment supplies the field, or it keeps no later fragment from supplying it. -/
def FirstYields (first : CrashFragment) (rest : List CrashFragment) : Prop :=
  carries first ∨ (∀ f ∈ rest, carries f = false) ∨
    ∃ f ∈ rest, carries f ∧ first.quality ≤ f.quality

theorem cell_of_yields (absent : β) (absent_iff : ∀ f, field f = absent ↔ carries f = false)
    {first : CrashFragment} {rest : List CrashFragment} (yields : FirstYields carries first rest) :
    (rest.foldl (cellStep carries field) ⟨first.quality, field first⟩).value =
      ((supplier carries (first :: rest)).map field).getD absent := by
  obtain ⟨f, selected, cell⟩ := foldl_cellStep carries field first rest
  rw [cell, supplier]
  by_cases carried : carries first = true
  · simp [List.filter_cons_of_pos carried, selected]
  rw [List.filter_cons_of_neg carried]
  rcases yields with h | nobody | ⟨g, member, carriedG, le⟩
  · exact absurd h carried
  · have none_left : rest.filter carries = [] := by simpa using nobody
    rw [none_left] at selected ⊢
    obtain rfl : first = f := by simpa [lastBest_cons] using selected
    exact (absent_iff first).mpr (by simpa using carried)
  · rw [lastBest_cons_eq ⟨g, List.mem_filter.mpr ⟨member, carriedG⟩, le⟩] at selected
    simp [selected]

theorem cell_of_not_yields (absent : β) (absent_iff : ∀ f, field f = absent ↔ carries f = false)
    {first : CrashFragment} {rest : List CrashFragment} (shut : ¬ FirstYields carries first rest) :
    (rest.foldl (cellStep carries field) ⟨first.quality, field first⟩).value = absent ∧
      ((supplier carries (first :: rest)).map field).getD absent ≠ absent := by
  simp only [FirstYields, not_or, not_exists, not_and, not_le, not_forall] at shut
  obtain ⟨carried, ⟨g, member, carriedG⟩, low⟩ := shut
  obtain ⟨f, selected, cell⟩ := foldl_cellStep carries field first rest
  rw [lastBest_cons_self] at selected
  · obtain rfl : first = f := by simpa using selected
    refine ⟨by rw [cell]; exact (absent_iff first).mpr (by simpa using carried), ?_⟩
    cases best : supplier carries (first :: rest) with
    | none =>
        have silent := supplier_eq_none.mp best g (List.mem_cons_of_mem _ member)
        exact absurd silent carriedG
    | some h => simpa [absent_iff] using (supplier_spec best).1
  · intro h memberH
    exact low h (List.mem_filter.mp memberH).1 (List.mem_filter.mp memberH).2

theorem cell_iff (absent : β) (absent_iff : ∀ f, field f = absent ↔ carries f = false)
    (first : CrashFragment) (rest : List CrashFragment) :
    (rest.foldl (cellStep carries field) ⟨first.quality, field first⟩).value =
      ((supplier carries (first :: rest)).map field).getD absent ↔
    FirstYields carries first rest := by
  refine ⟨fun same => ?_, cell_of_yields carries field absent absent_iff⟩
  by_contra shut
  have empty := cell_of_not_yields carries field absent absent_iff shut
  exact empty.2 (same ▸ empty.1)

end Cell

namespace Pending

theorem mergePayload_cell (self : Ranked FragmentPayload) (f : CrashFragment) :
    mergePayload self f.quality f.payload =
      cellStep CrashFragment.hasPayload (·.payload) self f :=
  guarded_replace ..

theorem mergeFrames_cell (self : Ranked (List Str)) (f : CrashFragment) :
    mergeFrames self f.quality f.frames = cellStep CrashFragment.hasFrames (·.frames) self f :=
  guarded_replace ..

theorem ofFragments_payload (first : CrashFragment) (rest : List CrashFragment) :
    (ofFragments first rest).payload =
      rest.foldl (cellStep CrashFragment.hasPayload (·.payload)) ⟨first.quality, first.payload⟩ := by
  unfold ofFragments
  induction rest using List.reverseRecOn with
  | nil => rfl
  | append_singleton rest f ih => simp only [List.foldl_concat, merge_payload, ih, mergePayload_cell]

theorem ofFragments_frames (first : CrashFragment) (rest : List CrashFragment) :
    (ofFragments first rest).frames =
      rest.foldl (cellStep CrashFragment.hasFrames (·.frames)) ⟨first.quality, first.frames⟩ := by
  unfold ofFragments
  induction rest using List.reverseRecOn with
  | nil => rfl
  | append_singleton rest f ih => simp only [List.foldl_concat, merge_frames, ih, mergeFrames_cell]

end Pending

/-- The finished record shows the payload and the frames of their best suppliers. -/
def ShowsBestEvidence (first : CrashFragment) (rest : List CrashFragment) (id : UInt64) : Prop :=
  let record := ((Pending.ofFragments first rest).finish id).record
  record.payload = (selectedPayload (first :: rest)).intoModel ∧
    record.fingerprint = .fromRawFrames record.kind record.fingerprint.primary
      (selectedFrames (first :: rest))

instance (first : CrashFragment) (rest : List CrashFragment) (id : UInt64) :
    Decidable (ShowsBestEvidence first rest id) := by
  unfold ShowsBestEvidence
  infer_instance

private theorem intoModel_injective : Function.Injective FragmentPayload.intoModel := by
  intro a b h
  cases a <;> cases b <;> simp_all [FragmentPayload.intoModel]

private theorem hasPayload_absent (f : CrashFragment) :
    f.payload = .none ↔ f.hasPayload = false := by
  simp [CrashFragment.hasPayload, FragmentPayload.isNone]

private theorem hasFrames_absent (f : CrashFragment) : f.frames = [] ↔ f.hasFrames = false := by
  simp [CrashFragment.hasFrames]

theorem finish_payload_iff (first : CrashFragment) (rest : List CrashFragment) (id : UInt64) :
    ((Pending.ofFragments first rest).finish id).record.payload =
      (selectedPayload (first :: rest)).intoModel ↔
    FirstYields CrashFragment.hasPayload first rest := by
  rw [← cell_iff _ (·.payload) .none hasPayload_absent, ← Pending.ofFragments_payload]
  exact intoModel_injective.eq_iff

theorem finish_fingerprint_iff (first : CrashFragment) (rest : List CrashFragment) (id : UInt64) :
    ((Pending.ofFragments first rest).finish id).record.fingerprint =
      .fromRawFrames ((Pending.ofFragments first rest).finish id).record.kind
        ((Pending.ofFragments first rest).finish id).record.fingerprint.primary
        (selectedFrames (first :: rest)) ↔
    FirstYields CrashFragment.hasFrames first rest := by
  constructor
  · intro same
    by_contra shut
    have empty := cell_of_not_yields _ (·.frames) [] hasFrames_absent shut
    rw [← Pending.ofFragments_frames] at empty
    have frames : ((Pending.ofFragments first rest).finish id).record.fingerprint.frames = [] :=
      Fingerprint.fromRawFrames_frames_eq_nil.mpr empty.1
    rw [same, Fingerprint.fromRawFrames_frames_eq_nil] at frames
    exact empty.2 frames
  · intro yields
    have same := cell_of_yields _ (·.frames) [] hasFrames_absent yields
    rw [← Pending.ofFragments_frames] at same
    simp only [Pending.finish, Fingerprint.fromRawFrames_primary, same]
    rfl

theorem showsBestEvidence_iff (first : CrashFragment) (rest : List CrashFragment) (id : UInt64) :
    ShowsBestEvidence first rest id ↔
      FirstYields CrashFragment.hasPayload first rest ∧
        FirstYields CrashFragment.hasFrames first rest :=
  and_congr (finish_payload_iff first rest id) (finish_fingerprint_iff first rest id)

def eventThenReport : CrashFragment × CrashFragment :=
  let process := "com.example".toList
  ({ CrashFragment.new .events .structured .javaException process 42 1000 with
      frames := ["Main.kt:9".toList] },
   { CrashFragment.new .crashBuffer .text .javaException process 42 1004 with
      frames := ["com.example.Main.run".toList]
      payload := .inline [0x46] })

theorem event_shuts_out_report : ¬ ShowsBestEvidence eventThenReport.1 [eventThenReport.2] 1 := by
  decide

end CrashCatcher.Merge
