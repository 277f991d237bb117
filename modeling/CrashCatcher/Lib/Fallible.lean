import Mathlib.Init

namespace CrashCatcher.Lib

/-- A computation that may fail; what it did to the state before failing stays done. -/
def Fallible (σ ε α : Type) := σ → Except ε α × σ

namespace Fallible
variable {σ ε α β : Type}

instance : Monad (Fallible σ ε) where
  pure a s := (.ok a, s)
  bind m f s := match m s with
    | (.ok a, s) => f a s
    | (.error e, s) => (.error e, s)

def fail (e : ε) : Fallible σ ε α := fun s => (.error e, s)
def get : Fallible σ ε σ := fun s => (.ok s, s)
def update (f : σ → σ) : Fallible σ ε Unit := fun s => (.ok (), f s)

def onError (m : Fallible σ ε α) (handler : Fallible σ ε Unit) : Fallible σ ε α := fun s =>
  match m s with
  | (.ok a, s) => (.ok a, s)
  | (.error e, s) => (.error e, (handler s).2)

/-- Undoes a failed computation, given the states before and after it. -/
def undoing (undo : σ → σ → σ) (m : Fallible σ ε α) : Fallible σ ε α := fun s =>
  match m s with
  | (.ok a, s') => (.ok a, s')
  | (.error e, s') => (.error e, undo s s')

def recover (m : Fallible σ ε α) (handler : ε → Fallible σ ε α) : Fallible σ ε α := fun s =>
  match m s with
  | (.ok a, s) => (.ok a, s)
  | (.error e, s) => handler e s

def zoom {τ ε' : Type} (part : σ → τ) (put : τ → σ → σ) (wrap : ε' → ε) (m : Fallible τ ε' α) :
    Fallible σ ε α := fun s =>
  match m (part s) with
  | (.ok a, t) => (.ok a, put t s)
  | (.error e, t) => (.error (wrap e), put t s)

theorem bind_run (m : Fallible σ ε α) (f : α → Fallible σ ε β) (s : σ) :
    (m >>= f) s = match m s with
      | (.ok a, s) => f a s
      | (.error e, s) => (.error e, s) := rfl

theorem bind_of_ok {m : Fallible σ ε α} {f : α → Fallible σ ε β} {a : α} {s s' : σ}
    (ran : m s = (.ok a, s')) : (m >>= f) s = f a s' := by
  rw [bind_run, ran]

theorem bind_of_error {m : Fallible σ ε α} {f : α → Fallible σ ε β} {e : ε} {s s' : σ}
    (ran : m s = (.error e, s')) : (m >>= f) s = (.error e, s') := by
  rw [bind_run, ran]

theorem onError_of_ok {m : Fallible σ ε α} {handler : Fallible σ ε Unit} {a : α} {s s' : σ}
    (ran : m s = (.ok a, s')) : m.onError handler s = (.ok a, s') := by
  unfold onError
  rw [ran]

/-- From `pre`, the computation ends in `post` when it succeeds and in `failed` otherwise. -/
def Holds (pre : σ → Prop) (m : Fallible σ ε α) (post : α → σ → Prop) (failed : ε → σ → Prop) :
    Prop :=
  ∀ s, pre s → match m s with
    | (.ok a, s) => post a s
    | (.error e, s) => failed e s

variable {pre pre' : σ → Prop} {post post' : α → σ → Prop} {failed failed' : ε → σ → Prop}
variable {m : Fallible σ ε α}

theorem Holds.ok (h : Holds pre m post failed) {s s' : σ} {a : α} (hs : pre s)
    (run : m s = (.ok a, s')) : post a s' := by
  simpa only [run] using h s hs

theorem Holds.error (h : Holds pre m post failed) {s s' : σ} {e : ε} (hs : pre s)
    (run : m s = (.error e, s')) : failed e s' := by
  simpa only [run] using h s hs

theorem Holds.pure {a : α} (h : ∀ s, pre s → post a s) :
    Holds pre (Pure.pure a : Fallible σ ε α) post failed := h

theorem Holds.fail {e : ε} (h : ∀ s, pre s → failed e s) :
    Holds pre (Fallible.fail e : Fallible σ ε α) post failed := h

theorem Holds.get {post : σ → σ → Prop} (h : ∀ s, pre s → post s s) :
    Holds pre (Fallible.get : Fallible σ ε σ) post failed := h

theorem Holds.update {f : σ → σ} {post : Unit → σ → Prop} (h : ∀ s, pre s → post () (f s)) :
    Holds pre (Fallible.update f : Fallible σ ε Unit) post failed := h

theorem Holds.consequence (h : Holds pre m post failed) (hpre : ∀ s, pre' s → pre s)
    (hpost : ∀ a s, post a s → post' a s) (hfailed : ∀ e s, failed e s → failed' e s) :
    Holds pre' m post' failed' := by
  intro s hs
  have ends := h s (hpre s hs)
  rcases run : m s with ⟨result, s'⟩
  rw [run] at ends
  cases result with
  | ok a => exact hpost a s' ends
  | error e => exact hfailed e s' ends

theorem Holds.bind {middle : α → σ → Prop} {post : β → σ → Prop} {f : α → Fallible σ ε β}
    (first : Holds pre m middle failed) (next : ∀ a, Holds (middle a) (f a) post failed) :
    Holds pre (m >>= f) post failed := by
  intro s hs
  have ends := first s hs
  rcases run : m s with ⟨result, s'⟩
  rw [run] at ends
  simp only [bind_run, run]
  cases result with
  | ok a => exact next a s' ends
  | error e => exact ends

theorem Holds.onError {handler : Fallible σ ε Unit} (h : Holds pre m post failed')
    (handles : ∀ e s, failed' e s → failed e (handler s).2) : Holds pre (m.onError handler) post failed := by
  intro s hs
  have ends := h s hs
  unfold Fallible.onError
  rcases run : m s with ⟨result, s'⟩
  rw [run] at ends
  cases result with
  | ok a => exact ends
  | error e => exact handles e s' ends

theorem Holds.undoing {undo : σ → σ → σ}
    (h : ∀ before, pre before → Holds (· = before) m post fun e after =>
      failed e (undo before after)) :
    Holds pre (m.undoing undo) post failed := by
  intro s hs
  have ends := h s hs s rfl
  unfold Fallible.undoing
  rcases run : m s with ⟨result, s'⟩
  rw [run] at ends
  cases result with
  | ok a => exact ends
  | error e => exact ends

theorem Holds.recover {handler : ε → Fallible σ ε α} (h : Holds pre m post failed')
    (handles : ∀ e, Holds (failed' e) (handler e) post failed) :
    Holds pre (m.recover handler) post failed := by
  intro s hs
  have ends := h s hs
  unfold Fallible.recover
  rcases run : m s with ⟨result, s'⟩
  rw [run] at ends
  cases result with
  | ok a => exact ends
  | error e => exact handles e s' ends

theorem Holds.forM {items : List β} {body : β → Fallible σ ε PUnit} (inv : List β → σ → Prop)
    (step : ∀ item rest, Holds (inv (item :: rest)) (body item) (fun _ => inv rest) failed) :
    Holds (inv items) (items.forM body) (fun _ => inv []) failed := by
  induction items with
  | nil => exact Holds.pure fun _ hs => hs
  | cons item rest ih => exact Holds.bind (step item rest) fun _ => ih

end Fallible
end CrashCatcher.Lib
