import Mathlib.Init

namespace CrashCatcher.Lib.Run
variable {σ ι : Type*} (step : σ → ι → σ)

def Throughout (property : σ → ι → Prop) : σ → List ι → Prop
  | _, [] => True
  | state, input :: inputs => property state input ∧ Throughout property (step state input) inputs

instance (property : σ → ι → Prop) [∀ s i, Decidable (property s i)] :
    ∀ state inputs, Decidable (Throughout step property state inputs)
  | _, [] => .isTrue trivial
  | state, input :: inputs =>
      have := instDecidableThroughout property (step state input) inputs
      inferInstanceAs (Decidable (_ ∧ _))

variable {step} {property condition : σ → ι → Prop}

theorem Throughout.foldl {state : σ} {inputs : List ι} (inv : σ → Prop)
    (keeps : ∀ s i, inv s → property s i → inv (step s i)) (start : inv state)
    (holds : Throughout step property state inputs) : inv (inputs.foldl step state) := by
  induction inputs generalizing state with
  | nil => exact start
  | cons input inputs ih => exact ih (keeps state input start holds.1) holds.2

theorem throughout_iff {state : σ} {inputs : List ι} (inv : σ → Prop)
    (agree : ∀ s i, inv s → (property s i ↔ condition s i))
    (keeps : ∀ s i, inv s → property s i → inv (step s i)) (start : inv state) :
    Throughout step property state inputs ↔ Throughout step condition state inputs := by
  induction inputs generalizing state with
  | nil => exact Iff.rfl
  | cons input inputs ih =>
      rw [Throughout, Throughout, ← agree state input start]
      exact and_congr_right fun holds => ih (keeps state input start holds)

/-- When a step reaches a good state exactly from a good state and under its condition, a run does so
exactly when every step met its condition. -/
theorem foldl_iff_throughout {state : σ} {inputs : List ι} (inv good : σ → Prop)
    (exactly : ∀ s i, inv s → (good (step s i) ↔ good s ∧ condition s i))
    (keeps : ∀ s i, inv s → inv (step s i)) (start : inv state) :
    good (inputs.foldl step state) ↔ good state ∧ Throughout step condition state inputs := by
  induction inputs generalizing state with
  | nil => simp [Throughout]
  | cons input inputs ih =>
      rw [List.foldl_cons, ih (keeps state input start), exactly state input start, Throughout, and_assoc]

section Collect
variable {τ ο π : Type*} {step : σ → ι → List ο × σ} {step' : τ → ι → List π × τ}

def collect (step : σ → ι → List ο × σ) : List ι → σ → List ο × σ
  | [], state => ([], state)
  | input :: inputs, state =>
      let (out, state) := step state input
      let (later, state) := collect step inputs state
      (out ++ later, state)

theorem collect_snd (inputs : List ι) (state : σ) :
    (collect step inputs state).2 = inputs.foldl (fun state input => (step state input).2) state := by
  induction inputs generalizing state with
  | nil => rfl
  | cons input inputs ih => exact ih (step state input).2

theorem collect_fst {out : ι → List ο} (given : ∀ s i, (step s i).1 = out i) (inputs : List ι) (state : σ) :
    (collect step inputs state).1 = inputs.flatMap out := by
  induction inputs generalizing state with
  | nil => rfl
  | cons input inputs ih => simp only [collect, given, ih, List.flatMap_cons]

theorem collect_append (inputs more : List ι) (state : σ) :
    collect step (inputs ++ more) state =
      ((collect step inputs state).1 ++ (collect step more (collect step inputs state).2).1,
        (collect step more (collect step inputs state).2).2) := by
  induction inputs generalizing state with
  | nil => rfl
  | cons input inputs ih => simp [collect, ih]

theorem collect_simulates {forget : σ → τ} {view : ο → π}
    (simulates : ∀ s i, step' (forget s) i = ((step s i).1.map view, forget (step s i).2))
    (inputs : List ι) (state : σ) :
    collect step' inputs (forget state) =
      ((collect step inputs state).1.map view, forget (collect step inputs state).2) := by
  induction inputs generalizing state with
  | nil => rfl
  | cons input inputs ih => simp only [collect, simulates, ih, List.map_append]

theorem collect_recorded {recorded : σ → List ο}
    (records : ∀ s i, (recorded s ++ (step s i).1).Perm (recorded (step s i).2))
    (inputs : List ι) (state : σ) :
    (recorded state ++ (collect step inputs state).1).Perm (recorded (collect step inputs state).2) := by
  induction inputs generalizing state with
  | nil => rw [collect, List.append_nil]
  | cons input inputs ih =>
      rw [collect, ← List.append_assoc]
      exact ((records state input).append_right _).trans (ih _)

/-- An invariant that may mention the inputs so far. -/
theorem collect_preserves {inv : List ι → σ → Prop}
    (preserves : ∀ seen s i, inv seen s → inv (seen ++ [i]) (step s i).2)
    (inputs : List ι) {seen : List ι} {state : σ} (start : inv seen state) :
    inv (seen ++ inputs) (collect step inputs state).2 := by
  induction inputs generalizing seen state with
  | nil => rwa [List.append_nil]
  | cons input inputs ih =>
      have next := ih (preserves seen state input start)
      rwa [List.append_assoc] at next

theorem collect_keeps {inv : σ → List ο → Prop}
    (keeps : ∀ {s given}, inv s given → ∀ i, inv (step s i).2 (given ++ (step s i).1))
    (inputs : List ι) {state : σ} {given : List ο} (start : inv state given) :
    inv (collect step inputs state).2 (given ++ (collect step inputs state).1) := by
  induction inputs generalizing state given with
  | nil => rwa [collect, List.append_nil]
  | cons input inputs ih =>
      have next := ih (keeps start input)
      rwa [List.append_assoc] at next

end Collect
end CrashCatcher.Lib.Run
