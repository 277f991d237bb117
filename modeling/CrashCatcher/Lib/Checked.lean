import Mathlib.Algebra.Group.Nat.Defs
import Mathlib.Data.List.Basic
import Mathlib.Data.Nat.Basic

namespace CrashCatcher.Lib

/-- How checked code ends: with a value, with an error it returns, in a panic of an index, a slice or
an arithmetic operation, or not at all where a loop outlasts its bound. -/
inductive Checked (ε α : Type) where
  | ok (value : α)
  | error (e : ε)
  | panicked
  | unfinished
deriving DecidableEq

/-- The integers a pointer-sized word can hold on the supported targets. -/
inductive Target where
  | armv7
  | aarch64
deriving DecidableEq

def Target.usizeMax : Target → Nat
  | .armv7 => 2 ^ 32 - 1
  | .aarch64 => 2 ^ 64 - 1

theorem Target.le_usizeMax (target : Target) : 2 ^ 32 - 1 ≤ target.usizeMax := by
  cases target <;> decide

namespace Checked
variable {ε α β : Type}

protected def bind (x : Checked ε α) (f : α → Checked ε β) : Checked ε β :=
  match x with
  | .ok a => f a
  | .error e => .error e
  | .panicked => .panicked
  | .unfinished => .unfinished

instance : Monad (Checked ε) where
  pure := .ok
  bind := Checked.bind

@[simp] theorem pure_eq (a : α) : (pure a : Checked ε α) = .ok a := rfl
@[simp] theorem ok_bind (a : α) (f : α → Checked ε β) : (Checked.ok a >>= f) = f a := rfl
@[simp] theorem error_bind (e : ε) (f : α → Checked ε β) : (Checked.error e >>= f) = .error e := rfl
@[simp] theorem panicked_bind (f : α → Checked ε β) : (Checked.panicked >>= f) = .panicked := rfl
@[simp] theorem unfinished_bind (f : α → Checked ε β) : (Checked.unfinished >>= f) = .unfinished := rfl

theorem bind_assoc {γ : Type} (x : Checked ε α) (f : α → Checked ε β) (g : β → Checked ε γ) :
    (x >>= f) >>= g = x >>= fun a => f a >>= g := by
  cases x <;> rfl

theorem bind_eq_ok {x : Checked ε α} {f : α → Checked ε β} {b : β} :
    (x >>= f) = .ok b ↔ ∃ a, x = .ok a ∧ f a = .ok b := by
  cases x <;> simp

def Returns : Checked ε α → Prop
  | .ok _ => True
  | .error _ => True
  | .panicked => False
  | .unfinished => False

@[simp] theorem returns_ok (a : α) : (Checked.ok a : Checked ε α).Returns := trivial
@[simp] theorem returns_error (e : ε) : (Checked.error e : Checked ε α).Returns := trivial

theorem Returns.bind {x : Checked ε α} {f : α → Checked ε β} (hx : x.Returns)
    (hf : ∀ a, x = .ok a → (f a).Returns) : (x >>= f).Returns := by
  cases x with
  | ok a => exact hf a rfl
  | error e => trivial
  | panicked => cases hx
  | unfinished => cases hx

theorem Returns.cases {x : Checked ε α} (returns : x.Returns) :
    (∃ a, x = .ok a) ∨ ∃ e, x = .error e := by
  cases x with
  | ok a => exact .inl ⟨a, rfl⟩
  | error e => exact .inr ⟨e, rfl⟩
  | panicked => cases returns
  | unfinished => cases returns

/-- The code comes back, and a value it comes back with is as promised. -/
def Ensures (x : Checked ε α) (post : α → Prop) : Prop := x.Returns ∧ ∀ a, x = .ok a → post a

theorem Ensures.ok {a : α} {post : α → Prop} (holds : post a) : (Checked.ok a : Checked ε α).Ensures post :=
  ⟨trivial, fun _ same => by cases same; exact holds⟩

theorem Ensures.error (e : ε) (post : α → Prop) : (Checked.error e : Checked ε α).Ensures post :=
  ⟨trivial, fun _ same => by cases same⟩

theorem Ensures.bind {x : Checked ε α} {f : α → Checked ε β} {post : α → Prop} {post' : β → Prop}
    (hx : x.Ensures post) (hf : ∀ a, post a → (f a).Ensures post') : (x >>= f).Ensures post' := by
  refine ⟨hx.1.bind fun a ran => (hf a (hx.2 a ran)).1, fun b ran => ?_⟩
  obtain ⟨a, ranFirst, ranNext⟩ := bind_eq_ok.mp ran
  exact (hf a (hx.2 a ranFirst)).2 b ranNext

theorem Ensures.mono {x : Checked ε α} {post post' : α → Prop} (hx : x.Ensures post)
    (weaker : ∀ a, post a → post' a) : x.Ensures post' :=
  ⟨hx.1, fun a ran => weaker a (hx.2 a ran)⟩

theorem Ensures.cases {x : Checked ε α} {post : α → Prop} (hx : x.Ensures post) :
    (∃ a, post a ∧ x = .ok a) ∨ ∃ e, x = .error e := by
  rcases hx.1.cases with ⟨a, ran⟩ | failed
  · exact .inl ⟨a, hx.2 a ran, ran⟩
  · exact .inr failed

def okOr (e : ε) : Option α → Checked ε α
  | some a => .ok a
  | none => .error e

@[simp] theorem okOr_some (e : ε) (a : α) : okOr e (some a) = .ok a := rfl
@[simp] theorem okOr_none (e : ε) : (okOr e none : Checked ε α) = .error e := rfl

@[simp] theorem returns_okOr (e : ε) (value : Option α) : (okOr e value).Returns := by
  cases value <;> trivial

theorem ensures_okOr {e : ε} {value : Option α} {post : α → Prop} (holds : ∀ a, value = some a → post a) :
    (okOr e value).Ensures post := by
  cases value with
  | none => exact .error e post
  | some a => exact .ok (holds a rfl)

def add (max a b : Nat) : Checked ε Nat := if a + b ≤ max then .ok (a + b) else .panicked

def sub (a b : Nat) : Checked ε Nat := if b ≤ a then .ok (a - b) else .panicked

/-- `&items[low..high]`. -/
def slice (items : List α) (low high : Nat) : Checked ε (List α) :=
  if low ≤ high ∧ high ≤ items.length then .ok ((items.drop low).take (high - low)) else .panicked

theorem add_of_le {max a b : Nat} (fits : a + b ≤ max) : (add max a b : Checked ε Nat) = .ok (a + b) :=
  if_pos fits

theorem sub_of_le {a b : Nat} (fits : b ≤ a) : (sub a b : Checked ε Nat) = .ok (a - b) := if_pos fits

theorem slice_of_le {items : List α} {low high : Nat} (ordered : low ≤ high) (inside : high ≤ items.length) :
    (slice items low high : Checked ε (List α)) = .ok ((items.drop low).take (high - low)) :=
  if_pos ⟨ordered, inside⟩

end Checked
end CrashCatcher.Lib
