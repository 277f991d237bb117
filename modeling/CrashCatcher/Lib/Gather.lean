import Mathlib.Init

namespace CrashCatcher.Lib
variable {α β ε : Type*}

/-- A loop that gathers what its rounds give and stops at the first round that fails. -/
def gather (f : α → Except ε (List β)) : List α → Except ε (List β)
  | [] => .ok []
  | a :: rest => match f a with
    | .error e => .error e
    | .ok part => match gather f rest with
      | .error e => .error e
      | .ok out => .ok (part ++ out)

variable {f : α → Except ε (List β)} {l : List α}

theorem gather_eq_ok {out : List β} (ok : gather f l = .ok out) :
    ∀ b, b ∈ out ↔ ∃ a ∈ l, ∃ part, f a = .ok part ∧ b ∈ part := by
  induction l generalizing out with
  | nil =>
      cases ok
      simp
  | cons a rest ih =>
      rw [gather] at ok
      cases first : f a with
      | error e => simp [first] at ok
      | ok part =>
          cases later : gather f rest with
          | error e => simp [first, later] at ok
          | ok more =>
              rw [first, later] at ok
              cases ok
              simp [ih later, first]

theorem gather_ok_iff : (∃ out, gather f l = .ok out) ↔ ∀ a ∈ l, ∃ part, f a = .ok part := by
  induction l with
  | nil => simp [gather]
  | cons a rest ih =>
      rw [gather, List.forall_mem_cons, ← ih]
      cases f a with
      | error e => simp
      | ok part => cases gather f rest <;> simp

theorem gather_fails_iff : (∃ e, gather f l = .error e) ↔ ∃ a ∈ l, ∃ e, f a = .error e := by
  induction l with
  | nil => simp [gather]
  | cons a rest ih =>
      have split : (∃ b ∈ a :: rest, ∃ e, f b = .error e) ↔
          (∃ e, f a = .error e) ∨ ∃ b ∈ rest, ∃ e, f b = .error e := by simp
      rw [split, ← ih, gather]
      cases f a with
      | error e => simp
      | ok part => cases gather f rest <;> simp

end CrashCatcher.Lib
