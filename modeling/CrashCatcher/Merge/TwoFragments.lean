import CrashCatcher.Merge.Run

/-! What becomes of two fragments that a new merger receives, whatever flushes come between and after. -/

namespace CrashCatcher.Merge
open Lib Model

inductive Known where
  | waiting
  | remembered
  | forgotten
deriving DecidableEq

namespace Known
variable (windowMs : I64) (first : CrashFragment)

def received : Known :=
  if (Pending.new first).completionDelayMs windowMs = 0 then remembered else waiting

def flush (watermarkMs : I64) : Known → Known
  | waiting => if (CrashMerger.new windowMs).isDue watermarkMs (.new first) then remembered else waiting
  | remembered =>
      if watermarkMs ≤ first.happenedAtMs.saturatingAdd windowMs then remembered else forgotten
  | forgotten => forgotten

def after (watermarks : List I64) : Known :=
  watermarks.foldl (fun known watermarkMs => known.flush windowMs first watermarkMs) (received windowMs first)

end Known

inductive Meeting where
  | joined
  | absorbed
  | apart
deriving DecidableEq

def Meeting.occurrences (first second : CrashFragment) : Meeting → List Occurrence
  | joined => [(Occurrence.start first).merge second]
  | absorbed => [.start first]
  | apart => [.start first, .start second]

def Known.meet (windowMs : I64) (first second : CrashFragment) : Known → Meeting
  | waiting =>
      if (Pending.new first).matchesFragment second
        (CrashMerger.new windowMs).sourceSkewMs windowMs then .joined
      else .apart
  | remembered =>
      if (Recent.fromPending 1 (.new first)).matchesFragment second
        (CrashMerger.new windowMs).sourceSkewMs windowMs
      then .absorbed else .apart
  | forgotten => .apart

def meeting (windowMs : I64) (first second : CrashFragment) (between : List I64) : Meeting :=
  (Known.after windowMs first (between ++ [second.happenedAtMs])).meet windowMs first second

def deliveries (first second : CrashFragment) (between later : List I64) : List Input :=
  .ingest first :: (between.map Input.flush ++ .ingest second :: later.map Input.flush)

namespace Traced
variable {windowMs : I64} {first second : CrashFragment} {t : Traced}

def Knows (windowMs : I64) (first : CrashFragment) : Known → Traced → Prop
  | .waiting, t => t.windowMs = windowMs ∧ t.pending = [.start first] ∧ t.recent = [] ∧ t.accounts = [] ∧
      t.nextCompletionId = 1
  | .remembered, t => t.windowMs = windowMs ∧ t.pending = [] ∧
      (∃ serial, t.recent = [(.fromPending 1 (.new first), serial)]) ∧
        t.accounts.map Account.occurrence = [.start first]
  | .forgotten, t => t.windowMs = windowMs ∧ t.pending = [] ∧ t.recent = [] ∧
      t.accounts.map Account.occurrence = [.start first]

theorem extract_single {α : Type} (p : α → Bool) (a : α) :
    extract p [a] = if p a = true then ([a], []) else ([], [a]) := by
  by_cases taken : p a = true <;> simp [extract, extractFrom, swapRemove, taken]

theorem flushBefore_nothing (none : t.pending = []) (watermarkMs : I64) :
    (t.flushBefore watermarkMs).2 = t.expireRecent watermarkMs := by
  obtain ⟨windowMs, pending, recent, suppressed, next, accounts⟩ := t
  obtain rfl : pending = [] := none
  rfl

theorem flushBefore_single {o : Occurrence} (one : t.pending = [o]) (watermarkMs : I64) :
    (t.flushBefore watermarkMs).2 =
      if t.isDue watermarkMs o = true then (((t.expireRecent watermarkMs).setPending []).complete o).2
      else t.expireRecent watermarkMs := by
  have due : (t.expireRecent watermarkMs).isDue watermarkMs o = t.isDue watermarkMs o := rfl
  have pending : (t.expireRecent watermarkMs).pending = [o] := one
  simp only [flushBefore, pending, extract_single, due]
  split_ifs
  · rfl
  · rw [completeAll, setPending, ← pending]

theorem Knows.flush {known : Known} (knows : Knows windowMs first known t) (watermarkMs : I64) :
    Knows windowMs first (known.flush windowMs first watermarkMs) (t.flushBefore watermarkMs).2 := by
  cases known with
  | waiting =>
      obtain ⟨rfl, pending, recent, accounts, next⟩ := knows
      have due : t.isDue watermarkMs (.start first) =
          (CrashMerger.new t.windowMs).isDue watermarkMs (.new first) := rfl
      rw [flushBefore_single pending, due, Known.flush]
      split_ifs
      · refine ⟨rfl, rfl, ⟨t.accounts.length, ?_⟩, ?_⟩
        · simp [complete, allocate, setPending, expireRecent, recent, next]
        · simp [complete, allocate, setPending, expireRecent, accounts]
      · exact ⟨rfl, pending, by rw [expireRecent, recent]; rfl, accounts, next⟩
  | remembered =>
      obtain ⟨rfl, pending, ⟨serial, recent⟩, accounts⟩ := knows
      rw [flushBefore_nothing pending, Known.flush]
      have time : (Recent.fromPending 1 (.new first)).firstMs = first.happenedAtMs := rfl
      split_ifs with inside
      · exact ⟨rfl, pending, ⟨serial, by simp [expireRecent, recent, time, inside]⟩, accounts⟩
      · exact ⟨rfl, pending, by simp [expireRecent, recent, time, inside], accounts⟩
  | forgotten =>
      obtain ⟨rfl, pending, recent, accounts⟩ := knows
      rw [flushBefore_nothing pending]
      exact ⟨rfl, pending, by rw [expireRecent, recent]; rfl, accounts⟩

theorem knows_received (windowMs : I64) (first : CrashFragment) :
    Knows windowMs first (Known.received windowMs first) ((new windowMs).ingest first).2 := by
  have nothing : ((new windowMs).flushBefore first.happenedAtMs).2 = new windowMs := rfl
  have held : (new windowMs).holdsSourceKey first = false := by
    rw [holdsSourceKey, CrashMerger.holdsSourceKey]
    cases first.sourceKey <;> rfl
  have delay : (Occurrence.start first).pending = .new first := rfl
  have window : (new windowMs).windowMs = windowMs := rfl
  have opened : ((new windowMs).ingest first).2 = (((new windowMs).setPending [.start first]).finishSettled
      ((new windowMs).flushBefore first.happenedAtMs).1 0 (.start first)).2 := by
    simp only [ingest, nothing, receive, held]
    rfl
  rw [opened, finishSettled, Known.received]
  simp only [delay, setPending, window]
  split_ifs
  · exact ⟨rfl, rfl, ⟨0, rfl⟩, rfl⟩
  · exact ⟨rfl, rfl, rfl, rfl, rfl⟩

theorem Knows.flushes {known : Known} (knows : Knows windowMs first known t) (watermarks : List I64) :
    Knows windowMs first
      (watermarks.foldl (fun known watermarkMs => known.flush windowMs first watermarkMs) known)
      (run (watermarks.map .flush) t).2 := by
  induction watermarks generalizing known t with
  | nil => exact knows
  | cons watermarkMs watermarks ih => exact ih (knows.flush watermarkMs)

def held (t : Traced) : List Occurrence := t.accounts.map Account.occurrence ++ t.pending

theorem Move.held {u : Traced} {a : Action} (move : Move t a u) (quiet : a.received = []) :
    u.held.Perm t.held := by
  cases move with
  | expire watermarkMs => exact .refl _
  | reorder order => exact order.symm.append_left _
  | complete pending =>
      simp [Traced.held, Traced.complete, allocate, setPending, pending]
  | close pending =>
      simp [Traced.held, allocate, setPending, pending]
  | repeated => cases quiet
  | join => cases quiet
  | suppress => cases quiet
  | start => cases quiet

theorem Moves.held {u : Traced} {actions : List Action} (moves : Moves t actions u)
    (quiet : ∀ a ∈ actions, a.received = []) : u.held.Perm t.held := by
  induction moves with
  | refl => exact .refl _
  | step move _ ih =>
      obtain ⟨here, later⟩ := List.forall_mem_cons.mp quiet
      exact (ih later).trans (move.held here)

theorem held_finishSettled (completed : List (Nat × MergedCrash)) {index : Nat} {o : Occurrence}
    (found : t.pending[index]? = some o) : (t.finishSettled completed index o).2.held.Perm t.held := by
  obtain ⟨actions, internal, moves⟩ := t.finishSettled_moves completed found
  refine moves.held fun a member => ?_
  rcases internal a member with rfl | rfl <;> rfl

theorem pendingMatch_nothing (none : t.pending = []) (f : CrashFragment) : t.pendingMatch f = .none := by
  rw [pendingMatch, none]
  rfl

theorem pendingMatch_single {o : Occurrence} (one : t.pending = [o]) (f : CrashFragment) :
    t.pendingMatch f = if t.matching f o = true then some (o, 0) else none := by
  rw [pendingMatch, one]
  by_cases found : t.matching f o = true <;> simp [found]

theorem recentMatch_nothing (none : t.recent = []) (f : CrashFragment) : t.recentMatch f = .none := by
  rw [recentMatch, none]
  rfl

theorem recentMatch_single {entry : Recent × Nat} (one : t.recent = [entry]) (f : CrashFragment) :
    t.recentMatch f = if t.matchingRecent f entry.1 = true then some entry else none := by
  rw [recentMatch, one]
  by_cases found : t.matchingRecent f entry.1 = true <;> simp [found]

theorem held_suppress (t : Traced) (completionId : UInt64) (serial : Nat) (f : CrashFragment) :
    (t.suppress completionId serial f).held = t.held := by
  have same : ∀ a : Account, (a.suppress f).occurrence = a.occurrence := fun _ => rfl
  simp only [held, suppress, map_modify_eq same]

theorem Knows.accounts_pending {known : Known} (knows : Knows windowMs first known t) :
    t.windowMs = windowMs ∧ t.held = [.start first] ∧ (t.pending = [.start first] ∨ t.pending = []) := by
  cases known with
  | waiting =>
      obtain ⟨window, pending, _, accounts, _⟩ := knows
      exact ⟨window, by simp [held, pending, accounts], .inl pending⟩
  | remembered =>
      obtain ⟨window, pending, _, accounts⟩ := knows
      exact ⟨window, by simp [held, pending, accounts], .inr pending⟩
  | forgotten =>
      obtain ⟨window, pending, _, accounts⟩ := knows
      exact ⟨window, by simp [held, pending, accounts], .inr pending⟩

theorem Knows.receive {known : Known} (knows : Knows windowMs first known t)
    (keys : ∀ key, first.sourceKey = some key → second.sourceKey ≠ some key)
    (completed : List (Nat × MergedCrash)) :
    (t.receive completed second).2.held.Perm ((known.meet windowMs first second).occurrences first second) := by
  obtain ⟨window, all, pending⟩ := knows.accounts_pending
  have fresh : t.holdsSourceKey second = false := by
    rw [Bool.eq_false_iff, ne_eq, holdsSourceKey_iff]
    rintro ⟨key, carried, o, member, holds⟩
    rcases pending with pending | pending <;> rw [pending] at member
    · rw [List.mem_singleton.mp member] at holds
      exact keys key (by simpa [Pending.new] using holds) carried
    · cases member
  have opened : ((t.setPending (t.pending ++ [.start second])).finishSettled completed t.pending.length
      (.start second)).2.held.Perm [.start first, .start second] := by
    refine (held_finishSettled completed List.getElem?_concat_length).trans (List.Perm.of_eq ?_)
    rw [held, setPending, ← List.append_assoc]
    exact congrArg (· ++ [Occurrence.start second]) all
  rw [Traced.receive, if_neg (by rw [fresh]; simp)]
  cases known with
  | waiting =>
      obtain ⟨_, pending, recent, accounts, _⟩ := knows
      have same : t.matching second (.start first) =
          (Pending.new first).matchesFragment second (CrashMerger.new windowMs).sourceSkewMs windowMs := by
        rw [← window]
        rfl
      rw [pendingMatch_single pending, recentMatch_nothing recent, same, Known.meet]
      split_ifs
      · refine (held_finishSettled completed ?_).trans (List.Perm.of_eq ?_)
        · rw [setPending, pending]
          rfl
        · rw [held, setPending, pending, accounts]
          rfl
      · exact opened
  | remembered =>
      obtain ⟨_, none, ⟨serial, recent⟩, _⟩ := knows
      have same : t.matchingRecent second (Recent.fromPending 1 (.new first)) =
          (Recent.fromPending 1 (.new first)).matchesFragment second (CrashMerger.new windowMs).sourceSkewMs
            windowMs := by
        rw [← window]
        rfl
      rw [pendingMatch_nothing none, recentMatch_single recent, same, Known.meet]
      split_ifs
      · rw [held_suppress, all]
        exact .refl _
      · exact opened
  | forgotten =>
      obtain ⟨_, none, recent, _⟩ := knows
      rw [pendingMatch_nothing none, recentMatch_nothing recent]
      exact opened

theorem held_flushes (t : Traced) (watermarks : List I64) :
    (run (watermarks.map .flush) t).2.held.Perm t.held := by
  obtain ⟨actions, _, received, _, moves⟩ := t.run_moves (watermarks.map .flush)
  refine moves.held fun a member => ?_
  have none : (watermarks.map Input.flush).flatMap Input.received = [] := by simp [Input.received]
  rw [none, List.flatMap_eq_nil_iff] at received
  exact received a member

theorem accounts_drain (t : Traced) : (t.drain.2.accounts.map Account.occurrence).Perm t.held := by
  have moved := t.drain_moves.held fun a member => by
    rw [List.eq_of_mem_replicate member]
    rfl
  rwa [held, pending_drain, List.append_nil] at moved

theorem run_append (inputs more : List Input) (t : Traced) :
    (run (inputs ++ more) t).2 = (run more (run inputs t).2).2 := by
  induction inputs generalizing t with
  | nil => rfl
  | cons input inputs ih => exact ih (t.step input).2

theorem history_deliveries (windowMs : I64) (between later : List I64)
    (keys : ∀ key, first.sourceKey = some key → second.sourceKey ≠ some key) :
    ((history windowMs (deliveries first second between later)).accounts.map Account.occurrence).Perm
      ((meeting windowMs first second between).occurrences first second) := by
  have started := knows_received windowMs first
  have waited := started.flushes between
  have flushed := waited.flush second.happenedAtMs
  let t := (run (between.map .flush) ((new windowMs).ingest first).2).2
  have received := flushed.receive keys (t.flushBefore second.happenedAtMs).1
  have shape : (run (deliveries first second between later) (new windowMs)).2 =
      (run (later.map .flush) (t.ingest second).2).2 := run_append _ _ _
  rw [history, shape, meeting, Known.after, List.foldl_concat]
  exact (accounts_drain _).trans ((held_flushes _ later).trans received)

end Traced

/-- The records of two fragments: how the second meets the first says which. -/
theorem two_fragments_recorded (windowMs : I64) {first second : CrashFragment} (between later : List I64)
    (keys : ∀ key, first.sourceKey = some key → second.sourceKey ≠ some key) :
    ((CrashMerger.runAndDrain (deliveries first second between later) (.new windowMs)).map
      MergedCrash.record).Perm
      (((meeting windowMs first second between).occurrences first second).map fun o =>
        (o.pending.finish 0).record) := by
  have recorded := (Traced.runAndDrain_perm windowMs (deliveries first second between later)).map
    MergedCrash.record
  have held := (Traced.history_deliveries windowMs between later keys).map fun o => (o.pending.finish 0).record
  rw [List.map_map] at recorded held
  exact recorded.trans held

end CrashCatcher.Merge
