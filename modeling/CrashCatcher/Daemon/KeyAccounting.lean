import CrashCatcher.Daemon.IngestLoop
import CrashCatcher.Merge.Ledger

/-! Every source key the ingest loop receives is held by one pending occurrence, confirmed because
its record was stored, or released because it was not. -/

namespace CrashCatcher.Daemon
open Lib Lib.Text Model Merge Wire

structure TracedLoop where
  merger : Traced
  pendingConfirmations : List PendingSourceConfirmation
  calls : List CoreCall

namespace TracedLoop

def forget (self : TracedLoop) : IngestLoop :=
  ⟨self.merger.forget, self.pendingConfirmations, self.calls⟩

def new : TracedLoop := ⟨.new defaultMergeWindowMs, [], []⟩

def persist (outcome : Outcome) (source : Option CollectorSource) (self : TracedLoop)
    (entry : Nat × MergedCrash) : TracedLoop :=
  let stored := outcome self.calls
  let calls := self.calls ++ [.ingestWithSources entry.2.record entry.2.sourceKeys stored]
  if stored then
    { self with
      merger := (self.merger.confirmPersisted entry.2.completionId).resolve entry.1 true
      calls := calls }
  else
    { self with
      merger := (self.merger.rejectCompletion entry.2.completionId).resolve entry.1 false
      calls := calls ++ reportError source }

def confirmSuppressed (outcome : Outcome) (source : Option CollectorSource) (self : TracedLoop) :
    TracedLoop :=
  let (keys, merger) := self.merger.takeConfirmedSuppressedSourceKeys
  let waiting := self.pendingConfirmations ++ keys.map fun key => (source, key)
  let (failed, calls) := markSourceKeys outcome waiting self.calls
  ⟨merger, failed, calls⟩

def persistCompleted (outcome : Outcome) (source : Option CollectorSource)
    (completed : List (Nat × MergedCrash)) (self : TracedLoop) : TracedLoop :=
  (completed.foldl (persist outcome source) self).confirmSuppressed outcome source

def round (outcome : Outcome) (self : TracedLoop) : Input → TracedLoop
  | .ingest f =>
    let source := collectorFromMask f.source
    let calls := self.calls ++ [.markCollectorReceived source f.happenedAtMs]
    let (completed, merger) := self.merger.ingest f
    persistCompleted outcome (some source) completed { self with merger := merger, calls := calls }
  | .flush nowMs =>
    let (completed, merger) := self.merger.flushBefore nowMs
    persistCompleted outcome none completed { self with merger := merger }

def finish (outcome : Outcome) (self : TracedLoop) : TracedLoop :=
  let (completed, merger) := self.merger.drain
  persistCompleted outcome none completed { self with merger := merger }

def run (outcome : Outcome) (inputs : List Input) : TracedLoop := inputs.foldl (round outcome) new

section Forget
variable (outcome : Outcome) (source : Option CollectorSource)

theorem persist_forget (self : TracedLoop) (entry : Nat × MergedCrash) :
    self.forget.persist outcome source entry.2 = (self.persist outcome source entry).forget := by
  simp only [IngestLoop.persist, persist, forget, Traced.confirmPersisted_forget _ _ entry.1 true,
    Traced.rejectCompletion_forget _ _ entry.1 false]
  cases outcome self.calls <;> rfl

theorem persistCompleted_forget (completed : List (Nat × MergedCrash)) (self : TracedLoop) :
    IngestLoop.persistCompleted outcome source (completed.map Prod.snd) self.forget =
      (persistCompleted outcome source completed self).forget := by
  have folded : (completed.map Prod.snd).foldl (IngestLoop.persist outcome source) self.forget =
      (completed.foldl (persist outcome source) self).forget := by
    induction completed generalizing self with
    | nil => rfl
    | cons entry rest ih => rw [List.map_cons, List.foldl_cons, List.foldl_cons, persist_forget, ih]
  rw [IngestLoop.persistCompleted, persistCompleted, folded]
  simp only [IngestLoop.confirmSuppressed, confirmSuppressed, forget, Traced.takeConfirmed_forget]

theorem round_forget (self : TracedLoop) (input : Input) :
    self.forget.round outcome input = (self.round outcome input).forget := by
  cases input with
  | ingest f =>
      simp only [IngestLoop.round, round, ← persistCompleted_forget]
      rw [show self.forget.merger = self.merger.forget from rfl, Traced.ingest_forget]
      rfl
  | flush nowMs =>
      simp only [IngestLoop.round, round, ← persistCompleted_forget]
      rw [show self.forget.merger = self.merger.forget from rfl, Traced.flushBefore_forget]
      rfl

theorem finish_forget (self : TracedLoop) :
    self.forget.finish outcome = (self.finish outcome).forget := by
  simp only [IngestLoop.finish, finish, ← persistCompleted_forget]
  rw [show self.forget.merger = self.merger.forget from rfl, Traced.drain_forget]
  rfl

theorem run_forget (inputs : List Input) : (run outcome inputs).forget = IngestLoop.run outcome inputs := by
  have folded : ∀ self : TracedLoop, (inputs.foldl (round outcome) self).forget =
      inputs.foldl (IngestLoop.round outcome) self.forget := by
    induction inputs with
    | nil => intro self; rfl
    | cons input rest ih =>
        intro self
        rw [List.foldl_cons, List.foldl_cons, ih, round_forget]
  exact folded new

end Forget

def keysOf (stored : Bool) (t : Traced) : List Str :=
  (t.accounts.filter fun a => a.stored = some stored).flatMap Account.keys

def heldKeys (t : Traced) : List Str := t.pending.flatMap fun o => o.pending.sourceKeys

def acknowledged (calls : List CoreCall) : List Str := calls.flatMap CoreCall.acknowledges
def settled (self : TracedLoop) : List Str :=
  acknowledged self.calls ++ self.pendingConfirmations.map Prod.snd

end TracedLoop

open TracedLoop in
/-- Where the source keys of the received fragments are, between two rounds of the loop. -/
structure Accounted (received : List CrashFragment) (history : Traced) (loop : IngestLoop) :
    Prop where
  explains : history.forget = loop.merger
  places : (sourceKeysOf received).Perm (heldKeys history ++ keysOf true history ++ keysOf false history)
  confirmed : (acknowledged loop.calls ++ loop.pendingConfirmations.map Prod.snd).Perm
    (keysOf true history)
  decided : ∀ a ∈ history.accounts, ∃ stored, a.stored = some stored ∧
    .ingestWithSources a.merged.record a.merged.sourceKeys stored ∈ loop.calls
  waiting : loop.merger.suppressedSourceKeys = []

def DecidedBefore (n : Nat) (t : Traced) : Prop :=
  n ≤ t.accounts.length ∧
    ∀ (i : Nat) (a : Account), t.accounts[i]? = some a → (a.stored = none ↔ n ≤ i)

def Called (calls : List CoreCall) (t : Traced) : Prop :=
  ∀ a ∈ t.accounts, ∀ stored, a.stored = some stored →
    .ingestWithSources a.merged.record a.merged.sourceKeys stored ∈ calls

section Moves
variable {n : Nat} {calls : List CoreCall} {t u : Traced} {action : Action}

theorem DecidedBefore.allocate (decided : DecidedBefore n t) (o : Occurrence) :
    DecidedBefore n (t.allocate o).2 := by
  refine ⟨by simpa [Traced.allocate] using Nat.le_succ_of_le decided.1, ?_⟩
  intro i a found
  rcases Traced.getElem?_allocate found with old | ⟨rfl, rfl⟩
  · exact decided.2 i a old
  · exact iff_of_true rfl decided.1

theorem decidedBefore_move (move : Traced.Move t action u) (decided : DecidedBefore n t) :
    DecidedBefore n u := by
  cases move with
  | complete => exact DecidedBefore.allocate (t := t.setPending _) decided _
  | close => exact DecidedBefore.allocate (t := t.setPending _) decided _
  | suppress =>
      refine ⟨by simpa [Traced.suppress] using decided.1, ?_⟩
      intro i a found
      obtain ⟨b, old, rfl⟩ := Traced.getElem?_suppress found
      rw [← decided.2 i b old]
      split_ifs <;> rfl
  | expire => exact decided
  | reorder => exact decided
  | repeated => exact decided
  | join => exact decided
  | start => exact decided

theorem Called.allocate (called : Called calls t) (o : Occurrence) : Called calls (t.allocate o).2 := by
  intro a member stored verdict
  rcases List.mem_append.mp member with old | new
  · exact called a old stored verdict
  · rw [List.mem_singleton.mp new] at verdict
    cases verdict

theorem called_move (move : Traced.Move t action u) (called : Called calls t) : Called calls u := by
  cases move with
  | complete => exact Called.allocate (t := t.setPending _) called _
  | close => exact Called.allocate (t := t.setPending _) called _
  | suppress =>
      intro a member stored verdict
      obtain ⟨i, found⟩ := List.mem_iff_getElem?.mp member
      obtain ⟨b, old, rfl⟩ := Traced.getElem?_suppress found
      have earlier := called b (List.mem_of_getElem? old) stored
      split_ifs at verdict ⊢ <;> exact earlier verdict
  | expire => exact called
  | reorder => exact called
  | repeated => exact called
  | join => exact called
  | start => exact called

end Moves

structure Kept (received : List CrashFragment) (loop : TracedLoop) : Prop where
  sound : loop.merger.Sound received
  conserved : loop.merger.Conserved received
  ledger : loop.merger.Ledger loop.settled
  called : Called loop.calls loop.merger

structure Todo (todo : List (Nat × MergedCrash)) (t : Traced) : Prop where
  distinct : (todo.map Prod.fst).Nodup
  undecided : ∀ entry ∈ todo, ∃ a : Account, t.accounts[entry.1]? = some a ∧ a.stored = none ∧
    entry.2 = a.merged
  complete : ∀ (i : Nat) (a : Account), t.accounts[i]? = some a → a.stored = none →
    i ∈ todo.map Prod.fst

theorem acknowledged_append (left right : List CoreCall) : TracedLoop.acknowledged (left ++ right) =
    TracedLoop.acknowledged left ++ TracedLoop.acknowledged right := List.flatMap_append ..

theorem acknowledged_reportError (source : Option CollectorSource) :
    TracedLoop.acknowledged (reportError source) = [] := by
  cases source <;> rfl

section Persist
variable {received : List CrashFragment} {loop : TracedLoop} {todo : List (Nat × MergedCrash)}
  {entry : Nat × MergedCrash}

theorem Todo.of_accounts {t u : Traced} (rest : Todo todo t) (same : u.accounts = t.accounts) :
    Todo todo u :=
  ⟨rest.distinct, same ▸ rest.undecided, same ▸ rest.complete⟩

theorem Todo.resolve {t : Traced} (rest : Todo (entry :: todo) t) (stored : Bool) :
    Todo todo (t.resolve entry.1 stored) := by
  obtain ⟨fresh, distinct⟩ := List.nodup_cons.mp rest.distinct
  refine ⟨distinct, ?_, ?_⟩
  · intro other member
    obtain ⟨a, found, undecided, same⟩ := rest.undecided other (.tail _ member)
    have differs : ¬ entry.1 = other.1 := fun equal => fresh (equal ▸ List.mem_map_of_mem member)
    refine ⟨a, ?_, undecided, same⟩
    simp [Traced.resolve, found, differs]
  · intro i a found undecided
    obtain ⟨b, old, rfl⟩ := Traced.getElem?_resolve found
    split_ifs at undecided with same
    rcases List.mem_cons.mp (rest.complete i b old undecided) with head | tail
    · exact absurd head.symm same
    · exact tail

theorem Called.resolve {calls more : List CoreCall} {t : Traced} (called : Called calls t) {a : Account}
    (found : t.accounts[entry.1]? = some a) (same : entry.2 = a.merged) (stored : Bool) :
    Called (calls ++ .ingestWithSources entry.2.record entry.2.sourceKeys stored :: more)
      (t.resolve entry.1 stored) := by
  intro b member verdict decided
  obtain ⟨i, inside⟩ := List.mem_iff_getElem?.mp member
  obtain ⟨c, old, rfl⟩ := Traced.getElem?_resolve inside
  split_ifs at decided ⊢ with own
  · subst own
    obtain rfl : a = c := Option.some.inj (found.symm.trans old)
    obtain rfl : stored = verdict := Option.some.inj decided
    rw [same]
    exact List.mem_append_right _ (.head _)
  · exact List.mem_append_left _ (called c (List.mem_of_getElem? old) verdict decided)

theorem persist_stored (loop : TracedLoop) (entry : Nat × MergedCrash) {outcome : Outcome}
    (source : Option CollectorSource)
    (stored : outcome loop.calls = true) : loop.persist outcome source entry =
      ⟨(loop.merger.confirmPersisted entry.2.completionId).resolve entry.1 true,
        loop.pendingConfirmations,
        loop.calls ++ [.ingestWithSources entry.2.record entry.2.sourceKeys true]⟩ := by
  simp [TracedLoop.persist, stored]

theorem persist_failed (loop : TracedLoop) (entry : Nat × MergedCrash) {outcome : Outcome}
    (source : Option CollectorSource)
    (failed : outcome loop.calls = false) : loop.persist outcome source entry =
      ⟨(loop.merger.rejectCompletion entry.2.completionId).resolve entry.1 false,
        loop.pendingConfirmations,
        loop.calls ++ .ingestWithSources entry.2.record entry.2.sourceKeys false ::
          reportError source⟩ := by
  simp [TracedLoop.persist, failed]

theorem Kept.persist (kept : Kept received loop) (rest : Todo (entry :: todo) loop.merger)
    (bound : received.length < 2 ^ 64) (outcome : Outcome) (source : Option CollectorSource) :
    Kept received (loop.persist outcome source entry) ∧
      Todo todo (loop.persist outcome source entry).merger := by
  obtain ⟨a, found, undecided, same⟩ := rest.undecided entry (.head _)
  have few : loop.merger.accounts.length < 2 ^ 64 :=
    kept.conserved.length_accounts.trans_lt bound
  have id : entry.2.completionId = a.completionId := by rw [same]; rfl
  have own : entry.2.sourceKeys = a.ownKeys := by rw [same]; rfl
  have distinct := kept.ledger.distinct_ids kept.sound few
  cases answer : outcome loop.calls with
  | true =>
      rw [persist_stored loop entry source answer]
      refine ⟨⟨(kept.sound.confirm _ distinct).resolve _, kept.conserved.resolve _, ?_,
        kept.called.resolve found same true⟩, (rest.resolve true).of_accounts rfl⟩
      rw [id]
      apply kept.ledger.confirm kept.sound few found undecided
      refine List.perm_iff_count.mpr fun key => ?_
      have call : TracedLoop.acknowledged [.ingestWithSources entry.2.record entry.2.sourceKeys true] =
          a.ownKeys := by
        rw [TracedLoop.acknowledged, List.flatMap_singleton, ← own]
        rfl
      simp only [TracedLoop.settled, acknowledged_append, call, List.count_append]
      omega
  | false =>
      rw [persist_failed loop entry source answer]
      refine ⟨⟨(kept.sound.reject _).resolve _, kept.conserved.resolve _, ?_,
        kept.called.resolve found same false⟩, (rest.resolve false).of_accounts rfl⟩
      rw [id]
      have call : TracedLoop.acknowledged (.ingestWithSources entry.2.record entry.2.sourceKeys false ::
          reportError source) = [] := acknowledged_reportError source
      rw [TracedLoop.settled, acknowledged_append, call, List.append_nil]
      exact kept.ledger.reject kept.sound few found undecided

theorem Kept.persistAll (bound : received.length < 2 ^ 64) (outcome : Outcome)
    (source : Option CollectorSource) (kept : Kept received loop) (rest : Todo todo loop.merger) :
    Kept received (todo.foldl (TracedLoop.persist outcome source) loop) ∧
      Todo [] (todo.foldl (TracedLoop.persist outcome source) loop).merger := by
  induction todo generalizing loop with
  | nil => exact ⟨kept, rest⟩
  | cons entry todo ih =>
      obtain ⟨persisted, remaining⟩ := kept.persist rest bound outcome source
      exact ih persisted remaining

theorem markSourceKeys_perm (outcome : Outcome) (queue : List PendingSourceConfirmation)
    (calls : List CoreCall) :
    (TracedLoop.acknowledged (markSourceKeys outcome queue calls).2 ++
      (markSourceKeys outcome queue calls).1.map Prod.snd).Perm
    (TracedLoop.acknowledged calls ++ queue.map Prod.snd) := by
  induction queue generalizing calls with
  | nil => exact .refl _
  | cons entry rest ih =>
      obtain ⟨source, key⟩ := entry
      refine List.perm_iff_count.mpr fun other => ?_
      cases answer : outcome calls with
      | true =>
          have later := (ih (calls ++ [.markSourceIngested key true])).count_eq other
          have call : TracedLoop.acknowledged [.markSourceIngested key true] = [key] := rfl
          simp only [markSourceKeys, answer, if_true, acknowledged_append, call, List.map_cons,
            List.count_append, List.count_cons, List.count_nil] at later ⊢
          omega
      | false =>
          have later := (ih (calls ++ [.markSourceIngested key false] ++ reportError source)).count_eq other
          have call : TracedLoop.acknowledged [.markSourceIngested key false] = [] := rfl
          simp only [markSourceKeys, answer, Bool.false_eq_true, if_false, acknowledged_append, call,
            acknowledged_reportError, List.map_cons, List.count_append, List.count_cons,
            List.count_nil] at later ⊢
          omega

theorem markSourceKeys_calls (outcome : Outcome) (queue : List PendingSourceConfirmation)
    (calls : List CoreCall) : calls ⊆ (markSourceKeys outcome queue calls).2 := by
  induction queue generalizing calls with
  | nil => exact List.Subset.refl _
  | cons entry rest ih =>
      obtain ⟨source, key⟩ := entry
      intro call member
      rw [markSourceKeys]
      split
      · exact ih _ (List.mem_append_left _ member)
      · exact ih _ (List.mem_append_left _ (List.mem_append_left _ member))

/-- What holds at every boundary of the loop: nothing is undecided and no key waits. -/
structure Settled (received : List CrashFragment) (loop : TracedLoop) : Prop where
  kept : Kept received loop
  decided : ∀ a ∈ loop.merger.accounts, a.stored ≠ none
  waiting : loop.merger.suppressedSourceKeys = []

theorem Kept.confirmSuppressed (kept : Kept received loop) (rest : Todo [] loop.merger)
    (outcome : Outcome) (source : Option CollectorSource) :
    Settled received (loop.confirmSuppressed outcome source) := by
  have decided : ∀ a ∈ loop.merger.accounts, a.stored ≠ none := by
    intro a member undecided
    obtain ⟨i, found⟩ := List.mem_iff_getElem?.mp member
    simpa using rest.complete i a found undecided
  have taken := kept.ledger.takeConfirmed kept.sound decided
  simp only [TracedLoop.confirmSuppressed, taken]
  refine ⟨⟨⟨kept.sound.1, kept.sound.2, kept.sound.3⟩, kept.conserved, ?_, ?_⟩, decided, rfl⟩
  · apply kept.ledger.taken ?_ decided
    refine (markSourceKeys_perm ..).trans ?_
    rw [TracedLoop.settled, List.map_append, List.map_map, List.append_assoc]
    simp [Function.comp_def]
  · intro a member stored verdict
    exact markSourceKeys_calls _ _ _ (kept.called a member stored verdict)

theorem Settled.completed {merger : Traced} {calls : List CoreCall}
    (kept : Kept received ⟨merger, loop.pendingConfirmations, calls⟩) (rest : Todo todo merger)
    (bound : received.length < 2 ^ 64) (outcome : Outcome) (source : Option CollectorSource) :
    Settled received (TracedLoop.persistCompleted outcome source todo
      ⟨merger, loop.pendingConfirmations, calls⟩) := by
  obtain ⟨persisted, done⟩ := Kept.persistAll bound outcome source kept rest
  exact persisted.confirmSuppressed done outcome source

end Persist

section Round
variable {received more : List CrashFragment} {loop : TracedLoop} {out : List (Nat × MergedCrash)}

theorem mem_numbered {t : Traced} {entry : Nat × MergedCrash} :
    entry ∈ t.numbered ↔ ∃ a, t.accounts[entry.1]? = some a ∧ entry.2 = a.merged := by
  obtain ⟨serial, merged⟩ := entry
  simp [Traced.numbered, List.mem_zipIdx_iff_getElem?, eq_comm]

theorem todo_of_numbered {t u : Traced} (decided : DecidedBefore t.accounts.length u)
    (order : (t.numbered ++ out).Perm u.numbered) : Todo out u := by
  have serials : ∀ t : Traced, t.numbered.map Prod.fst = List.range t.accounts.length := by
    intro t
    simp [Traced.numbered, List.range_eq_range', List.zipIdx_map_snd, Function.comp_def]
  have distinct : ((t.numbered ++ out).map Prod.fst).Nodup := by
    rw [(order.map Prod.fst).nodup_iff, serials]
    exact List.nodup_range
  rw [List.map_append, serials, List.nodup_append] at distinct
  refine ⟨distinct.2.1, ?_, ?_⟩
  · intro entry member
    obtain ⟨a, found, same⟩ := mem_numbered.mp (order.mem_iff.mp (List.mem_append_right _ member))
    refine ⟨a, found, (decided.2 _ _ found).mpr ?_, same⟩
    by_contra early
    exact distinct.2.2 entry.1 (List.mem_range.mpr (by omega)) entry.1 (List.mem_map_of_mem member) rfl
  · intro i a found undecided
    have late := (decided.2 i a found).mp undecided
    have listed : (i, a.merged) ∈ t.numbered ++ out := order.mem_iff.mpr (mem_numbered.mpr ⟨a, found, rfl⟩)
    rcases List.mem_append.mp listed with old | new
    · have inside : i ∈ List.range t.accounts.length := serials t ▸ List.mem_map_of_mem old
      rw [List.mem_range] at inside
      omega
    · exact List.mem_map_of_mem new

theorem Kept.moves {n : Nat} {t u : Traced} {actions : List Action} {keys : List Str}
    {calls : List CoreCall} (moves : Traced.Moves t actions u) (remembers : ∀ w, .expire w ∉ actions)
    (fresh : (sourceKeysOf (received ++ actions.flatMap Action.received)).Nodup)
    (sound : t.Sound received) (conserved : t.Conserved received) (ledger : t.Ledger keys)
    (called : Called calls t) (decided : DecidedBefore n t) :
    u.Sound (received ++ actions.flatMap Action.received) ∧
      u.Conserved (received ++ actions.flatMap Action.received) ∧ u.Ledger keys ∧
      Called calls u ∧ DecidedBefore n u := by
  induction moves generalizing received with
  | refl => simpa using ⟨sound, conserved, ledger, called, decided⟩
  | @step t v u action rest move _ ih =>
      rw [List.flatMap_cons, ← List.append_assoc] at fresh ⊢
      have early : (sourceKeysOf (received ++ action.received)).Nodup := by
        rw [sourceKeysOf_append] at fresh
        exact (List.nodup_append.mp fresh).1
      have first : ∀ w, action ≠ .expire w := fun w same => remembers w (by simp [same])
      exact ih (fun w member => remembers w (.tail _ member)) fresh (move.sound sound)
        (move.conserved sound early conserved) (move.ledger first sound ledger)
        (called_move move called) (decidedBefore_move move decided)

theorem Settled.decidedBefore (settled : Settled received loop) :
    DecidedBefore loop.merger.accounts.length loop.merger := by
  refine ⟨le_rfl, fun i a found => ?_⟩
  have inside := (List.getElem?_eq_some_iff.mp found).1
  exact iff_of_false (settled.decided a (List.mem_of_getElem? found)) (by omega)

theorem Settled.step (settled : Settled received loop) (input : Input) {calls : List CoreCall}
    (same : TracedLoop.acknowledged calls = TracedLoop.acknowledged loop.calls)
    (more : loop.calls ⊆ calls) (fresh : (sourceKeysOf (received ++ input.received)).Nodup)
    (bound : (received ++ input.received).length < 2 ^ 64) (outcome : Outcome)
    (source : Option CollectorSource) :
    Settled (received ++ input.received) (TracedLoop.persistCompleted outcome source
      (loop.merger.step input).1 ⟨(loop.merger.step input).2, loop.pendingConfirmations, calls⟩) := by
  obtain ⟨actions, remembers, -, receives, moves⟩ := loop.merger.step_moves input
  rw [← receives] at fresh bound ⊢
  have expired := (Traced.Move.expire (t := loop.merger) input.watermarkMs).sound settled.kept.sound
  rw [Action.received, List.append_nil] at expired
  have known : Called calls loop.merger := fun a member stored verdict =>
    more (settled.kept.called a member stored verdict)
  obtain ⟨sound, conserved, ledger, called, decided⟩ := Kept.moves moves remembers fresh expired
    settled.kept.conserved (settled.kept.ledger.expire settled.waiting _) known settled.decidedBefore
  refine Settled.completed ⟨sound, conserved, ?_, called⟩ ?_ bound outcome source
  · rw [TracedLoop.settled, same]
    exact ledger
  · exact todo_of_numbered decided (loop.merger.numbered_step input)

theorem Settled.round (settled : Settled received loop) (input : Input)
    (fresh : (sourceKeysOf (received ++ input.received)).Nodup)
    (bound : (received ++ input.received).length < 2 ^ 64) (outcome : Outcome) :
    Settled (received ++ input.received) (loop.round outcome input) := by
  cases input with
  | ingest f =>
      refine settled.step (.ingest f) ?_ (List.subset_append_left ..) fresh bound outcome _
      rw [acknowledged_append]
      exact List.append_nil _
  | flush nowMs =>
      exact settled.step (.flush nowMs) rfl (List.Subset.refl _) fresh bound outcome none

theorem Settled.finish (settled : Settled received loop) (fresh : (sourceKeysOf received).Nodup)
    (bound : received.length < 2 ^ 64) (outcome : Outcome) :
    Settled received (loop.finish outcome) := by
  have silent : (List.replicate loop.merger.pending.length Action.close).flatMap Action.received = [] := by
    simp [List.flatMap_replicate]
  obtain ⟨sound, conserved, ledger, called, decided⟩ := Kept.moves
    loop.merger.drain_moves (by simp [List.mem_replicate])
    (by rwa [silent, List.append_nil]) settled.kept.sound settled.kept.conserved settled.kept.ledger
    settled.kept.called settled.decidedBefore
  rw [silent, List.append_nil] at sound conserved
  exact Settled.completed ⟨sound, conserved, ledger, called⟩
    (todo_of_numbered decided loop.merger.numbered_drain) bound outcome none

theorem settled_new : Settled [] .new where
  kept := {
    sound := Traced.sound_new _
    conserved := .refl _
    ledger := {
      ids := by simp [TracedLoop.new, Traced.new]
      next := rfl
      serials := by simp [TracedLoop.new, Traced.new]
      verdicts := by simp [TracedLoop.new, Traced.new]
      waiting := by simp [TracedLoop.new, Traced.new]
      undecided := by simp [TracedLoop.new, Traced.new]
      settled := .refl _ }
    called := by simp [Called, TracedLoop.new, Traced.new] }
  decided := by simp [TracedLoop.new, Traced.new]
  waiting := rfl

theorem settled_run (outcome : Outcome) (inputs : List Input)
    (fresh : (sourceKeysOf (inputs.flatMap Input.received)).Nodup)
    (bound : (inputs.flatMap Input.received).length < 2 ^ 64) :
    Settled (inputs.flatMap Input.received) (.run outcome inputs) := by
  induction inputs using List.reverseRecOn with
  | nil => exact settled_new
  | append_singleton inputs input ih =>
      rw [List.flatMap_append, List.flatMap_singleton] at fresh bound ⊢
      rw [sourceKeysOf_append] at fresh
      rw [List.length_append] at bound
      have earlier := ih (List.nodup_append.mp fresh).1 (by omega)
      rw [TracedLoop.run, List.foldl_concat]
      exact earlier.round input (by rwa [sourceKeysOf_append]) (by rwa [List.length_append]) outcome

theorem owed_eq_keysOf {accounts : List Account} (decided : ∀ a ∈ accounts, a.stored ≠ none) :
    accounts.flatMap Account.owed =
      (accounts.filter fun a => a.stored = some true).flatMap Account.keys := by
  induction accounts with
  | nil => rfl
  | cons a rest ih =>
      have later := ih fun b member => decided b (.tail _ member)
      have own := decided a (.head _)
      rw [List.flatMap_cons, later, List.filter_cons, Account.owed]
      cases verdict : a.stored with
      | none => exact absurd verdict own
      | some stored => cases stored <;> simp

theorem keysOf_split {t : Traced} (decided : ∀ a ∈ t.accounts, a.stored ≠ none) :
    (t.accounts.flatMap Account.keys).Perm
      (TracedLoop.keysOf true t ++ TracedLoop.keysOf false t) := by
  have rest : t.accounts.filter (fun a => !decide (a.stored = some true)) =
      t.accounts.filter fun a => a.stored = some false := by
    refine List.filter_congr fun a member => ?_
    have own := decided a member
    cases verdict : a.stored with
    | none => exact absurd verdict own
    | some stored => cases stored <;> rfl
  have split := List.filter_append_perm (fun a => decide (a.stored = some true)) t.accounts
  rw [rest] at split
  rw [TracedLoop.keysOf, TracedLoop.keysOf, ← List.flatMap_append]
  exact (split.flatMap_right _).symm

theorem Settled.accounted (settled : Settled received loop) (fresh : (sourceKeysOf received).Nodup) :
    Accounted received loop.merger loop.forget := by
  have conserved := settled.kept.conserved
  have pending : loop.merger.pending.flatMap (fun o => sourceKeysOf o.fragments) =
      TracedLoop.heldKeys loop.merger :=
    List.flatMap_congr fun o member => (conserved.sourceKeys_pending fresh member).symm
  have accounts : loop.merger.accounts.flatMap (fun a => sourceKeysOf a.fragments) =
      loop.merger.accounts.flatMap Account.keys :=
    List.flatMap_congr fun a member => (conserved.keys_account fresh member).symm
  refine ⟨rfl, ?_, ?_, ?_, ?_⟩
  · refine (List.Perm.filterMap _ conserved).trans ?_
    rw [List.filterMap_append, List.filterMap_flatMap, List.filterMap_flatMap]
    simp only [sourceKeysOf] at pending accounts
    rw [pending, accounts, List.append_assoc]
    exact (keysOf_split settled.decided).append_left _
  · have balance := settled.kept.ledger.settled
    rw [settled.waiting, owed_eq_keysOf settled.decided] at balance
    simpa [TracedLoop.keysOf, TracedLoop.settled, TracedLoop.forget] using balance
  · intro a member
    cases verdict : a.stored with
    | none => exact absurd verdict (settled.decided a member)
    | some stored => exact ⟨stored, rfl, settled.kept.called a member stored verdict⟩
  · simp [TracedLoop.forget, Traced.forget, settled.waiting]

end Round

theorem pending_persistCompleted (outcome : Outcome) (source : Option CollectorSource)
    (todo : List (Nat × MergedCrash)) (loop : TracedLoop) :
    (TracedLoop.persistCompleted outcome source todo loop).merger.pending = loop.merger.pending := by
  have folded : (todo.foldl (TracedLoop.persist outcome source) loop).merger.pending =
      loop.merger.pending := by
    induction todo generalizing loop with
    | nil => rfl
    | cons entry todo ih =>
        rw [List.foldl_cons, ih]
        cases answer : outcome loop.calls with
        | true => rw [persist_stored loop entry source answer]; rfl
        | false => rw [persist_failed loop entry source answer]; rfl
  exact folded

/-- At every boundary of the loop, and after its end, each received key is in exactly one place. -/
theorem source_keys_accounted (outcome : Outcome) (inputs : List Input)
    (fresh : (sourceKeysOf (inputs.flatMap Input.received)).Nodup)
    (bound : (inputs.flatMap Input.received).length < 2 ^ 64) :
    let received := inputs.flatMap Input.received
    let loop := IngestLoop.run outcome inputs
    let history := TracedLoop.run outcome inputs
    Accounted received history.merger loop ∧
      Accounted received (history.finish outcome).merger (loop.finish outcome) ∧
      (loop.finish outcome).merger.pending = [] := by
  have reached := settled_run outcome inputs fresh bound
  have finished := reached.finish fresh bound outcome
  simp only [← TracedLoop.run_forget, TracedLoop.finish_forget]
  refine ⟨reached.accounted fresh, finished.accounted fresh, ?_⟩
  simp [TracedLoop.finish, TracedLoop.forget, Traced.forget, pending_persistCompleted,
    Traced.pending_drain]

section Runs

def keyedReport (key process : Str) (pid : Int) (source : SourceMask) (kind : CrashKind)
    (happenedAtMs : I64) : CrashFragment :=
  { CrashFragment.new source .text kind process pid happenedAtMs with sourceKey := some key }

def storedReport : CrashFragment := keyedReport "k".toList "p".toList 1 .events .wtf 300
def lateReport : CrashFragment := keyedReport "f".toList "p".toList 1 .crashBuffer .wtf 300
def waitingReport : CrashFragment :=
  { keyedReport "d".toList "j".toList 2 .dropbox .javaException 0 with userId := some 0 }
def rejectedReport (i : Nat) : CrashFragment :=
  keyedReport (List.replicate (i + 2) 'w') "q".toList 3 .events .wtf 0

theorem source_keys_accounted_of_two_reports :
    let inputs : List Input := [.ingest storedReport, .ingest lateReport, .flush 20000]
    let received := inputs.flatMap Input.received
    let loop := IngestLoop.run (fun _ => true) inputs
    let history := TracedLoop.run (fun _ => true) inputs
    Accounted received history.merger loop ∧
      Accounted received (history.finish fun _ => true).merger (loop.finish fun _ => true) ∧
      (loop.finish fun _ => true).merger.pending = [] :=
  source_keys_accounted _ _ (by decide) (by decide)

def onlyFirst : Outcome := fun calls => calls.length ≤ 1

def storedAccount : Account := ⟨1, .start storedReport, [], some true⟩

def beforeWrap (next : UInt64) (rest : List Account) (calls : List CoreCall) : TracedLoop :=
  ⟨{ windowMs := defaultMergeWindowMs
     pending := [.start waitingReport]
     recent := [({ Recent.fromPending 1 (.new storedReport) with persisted := true }, 0)]
     suppressedSourceKeys := []
     nextCompletionId := next
     accounts := storedAccount :: rest }, [], calls⟩

theorem ingest_rejectedReport (next : UInt64) (rest : List Account) (calls : List CoreCall)
    (i : Nat) : (beforeWrap next rest calls).merger.ingest (rejectedReport i) =
      ((beforeWrap next rest calls).merger.complete (.start (rejectedReport i))).map
        (fun entry => [entry]) id := by
  have pending : (beforeWrap next rest calls).merger.pendingMatch (rejectedReport i) = none := by
    rw [Traced.pendingMatch, List.argmin_eq_none, List.filter_eq_nil_iff]
    intro entry member
    obtain rfl := List.mem_singleton.mp member
    exact (by decide : ¬ (Pending.new waitingReport).matchesFragment (rejectedReport 0)
      (CrashMerger.new defaultMergeWindowMs).sourceSkewMs defaultMergeWindowMs = true)
  have recent : (beforeWrap next rest calls).merger.recentMatch (rejectedReport i) = none := by
    rw [Traced.recentMatch, List.argmin_eq_none, List.filter_eq_nil_iff]
    intro entry member
    obtain rfl := List.mem_singleton.mp member
    exact (by decide : ¬ (Recent.fromPending 1 (.new storedReport)).matchesFragment (rejectedReport 0)
      (CrashMerger.new defaultMergeWindowMs).sourceSkewMs defaultMergeWindowMs = true)
  have flushed : (beforeWrap next rest calls).merger.flushBefore (rejectedReport i).happenedAtMs =
      ([], (beforeWrap next rest calls).merger) := rfl
  have new : (beforeWrap next rest calls).merger.holdsSourceKey (rejectedReport i) = false := rfl
  have settled : (Occurrence.start (rejectedReport i)).pending.completionDelayMs defaultMergeWindowMs = 0 :=
    (by decide : (Pending.new (rejectedReport 0)).completionDelayMs defaultMergeWindowMs = 0)
  rw [Traced.ingest, flushed]
  simp only [Traced.receive, new, pending, recent, Bool.false_eq_true, if_false]
  rw [Traced.finishSettled]
  exact if_pos settled

theorem round_rejectedReport {next : UInt64} (other : next ≠ 1) (rest : List Account)
    (calls : List CoreCall) (late : 1 < calls.length) (i : Nat) :
    ∃ rest' calls', (beforeWrap next rest calls).round onlyFirst (.ingest (rejectedReport i)) =
        beforeWrap (next + 1) rest' calls' ∧
      TracedLoop.acknowledged calls' = TracedLoop.acknowledged calls ∧ 1 < calls'.length := by
  let source := some (collectorFromMask .events)
  let f := rejectedReport i
  let merger := ((beforeWrap next rest calls).merger.complete (.start f)).2
  let received := calls ++ [.markCollectorReceived (collectorFromMask .events) 0]
  have failed : onlyFirst received = false := by
    simp only [onlyFirst, received, List.length_append, List.length_singleton, decide_eq_false_iff_not]
    omega
  have different : (1 : UInt64) ≠ next := other.symm
  have rejected : (merger.rejectCompletion next).resolve (rest.length + 1) false =
      (beforeWrap (next + 1) (rest ++ [⟨next, .start f, [], some false⟩]) calls).merger := by
    have recent : merger.recent.filter (fun entry => entry.1.completionId ≠ next) =
        (beforeWrap next rest calls).merger.recent := by
      simp [merger, beforeWrap, Traced.complete, Traced.allocate, Recent.fromPending, different]
    have accounts : merger.accounts.modify (rest.length + 1) (fun a => { a with stored := some false }) =
        storedAccount :: (rest ++ [⟨next, .start f, [], some false⟩]) := by
      simp [merger, beforeWrap, Traced.complete, Traced.allocate, List.modify_eq_take_drop]
    simp only [Traced.rejectCompletion, Traced.resolve, recent, accounts]
    rfl
  let entry : Nat × MergedCrash := (rest.length + 1, Account.merged ⟨next, .start f, [], none⟩)
  let call := CoreCall.ingestWithSources entry.2.record entry.2.sourceKeys false
  refine ⟨rest ++ [⟨next, .start f, [], some false⟩], received ++ call :: reportError source, ?_, ?_, ?_⟩
  · have persisted := persist_failed ⟨merger, [], received⟩ entry source failed
    have stored : (TracedLoop.persist onlyFirst source ⟨merger, [], received⟩ entry) =
        beforeWrap (next + 1) (rest ++ [⟨next, .start f, [], some false⟩])
          (received ++ call :: reportError source) :=
      persisted.trans (congrArg (TracedLoop.mk · [] (received ++ call :: reportError source)) rejected)
    rw [TracedLoop.round, ingest_rejectedReport]
    exact congrArg (TracedLoop.confirmSuppressed onlyFirst source) stored
  · rw [acknowledged_append, acknowledged_append]
    exact (List.append_nil _).trans (List.append_nil _)
  · simp only [received, List.length_append, List.length_cons]
    omega

theorem rounds_rejectedReports (n : Nat) (small : n < 2 ^ 64) :
    ∃ rest calls, TracedLoop.run onlyFirst ([.ingest storedReport, .ingest waitingReport] ++
        (List.range n).map fun i => .ingest (rejectedReport i)) = beforeWrap (.ofNat (2 + n)) rest calls ∧
      TracedLoop.acknowledged calls = ["k".toList] ∧ 1 < calls.length := by
  induction n with
  | zero => exact ⟨[], _, rfl, by decide, by decide⟩
  | succ n ih =>
      obtain ⟨rest, calls, reached, acknowledged, late⟩ := ih (by omega)
      have other : UInt64.ofNat (2 + n) ≠ 1 := by
        intro same
        have value := congrArg UInt64.toNat same
        rw [UInt64.toNat_ofNat'] at value
        simp at value
        omega
      obtain ⟨rest', calls', next, same, late'⟩ := round_rejectedReport other rest calls late n
      refine ⟨rest', calls', ?_, same.trans acknowledged, late'⟩
      rw [List.range_succ, List.map_append, ← List.append_assoc]
      rw [TracedLoop.run, List.foldl_append]
      rw [TracedLoop.run] at reached
      rw [reached]
      simp only [List.map_cons, List.map_nil, List.foldl_cons, List.foldl_nil]
      rw [next]
      exact congrArg (beforeWrap · rest' calls') (UInt64.ofNat_add (2 + n) 1).symm

/-- The last report flushes the waiting one, which takes the stored record's id, and is suppressed
against the stored record. -/
theorem ingest_lateReport (rest : List Account) (calls : List CoreCall) :
    (beforeWrap 1 rest calls).merger.ingest lateReport =
      let flushed := ((beforeWrap 1 rest calls).merger.setPending []).complete (.start waitingReport)
      ([flushed.1], flushed.2.suppress 1 0 lateReport) := by
  let flushed := ((beforeWrap 1 rest calls).merger.setPending []).complete (.start waitingReport)
  have flush : (beforeWrap 1 rest calls).merger.flushBefore lateReport.happenedAtMs =
      ([flushed.1], flushed.2) := rfl
  have stored := (by decide : (Recent.fromPending 1 (.new storedReport)).matchesFragment lateReport
    (CrashMerger.new defaultMergeWindowMs).sourceSkewMs defaultMergeWindowMs = true)
  have waiting := (by decide : (Recent.fromPending 1 (.new waitingReport)).matchesFragment lateReport
    (CrashMerger.new defaultMergeWindowMs).sourceSkewMs defaultMergeWindowMs = false)
  have recent : flushed.2.recentMatch lateReport =
      some ({ Recent.fromPending 1 (.new storedReport) with persisted := true }, 0) := by
    have two : flushed.2.recent = [({ Recent.fromPending 1 (.new storedReport) with persisted := true }, 0),
      (Recent.fromPending 1 (.new waitingReport), rest.length + 1)] := rfl
    have first : flushed.2.matchingRecent lateReport
      { Recent.fromPending 1 (.new storedReport) with persisted := true } = true := stored
    have second : flushed.2.matchingRecent lateReport (Recent.fromPending 1 (.new waitingReport)) = false :=
      waiting
    rw [Traced.recentMatch, two, List.filter_cons, if_pos first, List.filter_cons, if_neg (by simp [second])]
    rfl
  rw [Traced.ingest, flush]
  have none : flushed.2.pendingMatch lateReport = none := rfl
  have new : flushed.2.holdsSourceKey lateReport = false := rfl
  simp only [Traced.receive, new, none, recent]
  rfl

theorem last_round (rest : List Account) (calls : List CoreCall) (late : 1 < calls.length) :
    let loop := (beforeWrap 1 rest calls).round onlyFirst (.ingest lateReport)
    loop.merger.accounts[0]? = some (storedAccount.suppress lateReport) ∧ loop.pendingConfirmations = [] ∧
      TracedLoop.acknowledged loop.calls = TracedLoop.acknowledged calls := by
  let source := some (collectorFromMask .crashBuffer)
  let flushed := ((beforeWrap 1 rest calls).merger.setPending []).complete (.start waitingReport)
  let received := calls ++ [.markCollectorReceived (collectorFromMask .crashBuffer) 300]
  have failed : onlyFirst received = false := by
    simp only [onlyFirst, received, List.length_append, List.length_singleton, decide_eq_false_iff_not]
    omega
  have persisted := persist_failed ⟨flushed.2.suppress 1 0 lateReport, [], received⟩ flushed.1 source failed
  have round : (beforeWrap 1 rest calls).round onlyFirst (.ingest lateReport) =
      TracedLoop.confirmSuppressed onlyFirst source
        (TracedLoop.persist onlyFirst source ⟨flushed.2.suppress 1 0 lateReport, [], received⟩ flushed.1) := by
    rw [TracedLoop.round, ingest_lateReport]
    rfl
  rw [round, persisted]
  refine ⟨rfl, rfl, ?_⟩
  have calls' : TracedLoop.acknowledged (received ++ .ingestWithSources flushed.1.2.record
      flushed.1.2.sourceKeys false :: reportError source) = TracedLoop.acknowledged calls := by
    rw [acknowledged_append, acknowledged_append]
    exact (List.append_nil _).trans (List.append_nil _)
  exact calls'

/-- 2^64 - 1 rejected records later a pending occurrence completes under the id of a stored one. -/
def wrappedInputs : List Input :=
  [.ingest storedReport, .ingest waitingReport] ++
    (List.range (2 ^ 64 - 1)).map (fun i => .ingest (rejectedReport i)) ++ [.ingest lateReport]

theorem fresh_wrappedInputs : (sourceKeysOf (wrappedInputs.flatMap Input.received)).Nodup := by
  have keys : sourceKeysOf (wrappedInputs.flatMap Input.received) = ["k".toList, "d".toList] ++
      (List.range (2 ^ 64 - 1)).map (fun i => List.replicate (i + 2) 'w') ++ ["f".toList] := by
    simp only [wrappedInputs, List.flatMap_append, List.flatMap_map, sourceKeysOf_append]
    have middle : ∀ indices : List Nat, sourceKeysOf (indices.flatMap fun i =>
        (Input.ingest (rejectedReport i)).received) = indices.map fun i => List.replicate (i + 2) 'w' := by
      intro indices
      induction indices with
      | nil => rfl
      | cons i rest ih => rw [List.flatMap_cons, sourceKeysOf_append, ih]; rfl
    rw [middle]
    rfl
  have distinct : ((List.range (2 ^ 64 - 1)).map fun i => List.replicate (i + 2) 'w').Nodup := by
    refine List.nodup_range.map fun i j same => ?_
    simpa using congrArg List.length same
  have long : ∀ key ∈ (List.range (2 ^ 64 - 1)).map (fun i => List.replicate (i + 2) 'w'),
      2 ≤ key.length := by
    intro key member
    obtain ⟨i, -, rfl⟩ := List.mem_map.mp member
    simp
  rw [keys, List.append_assoc, List.nodup_append, List.nodup_append]
  refine ⟨by decide, ⟨distinct, by simp, ?_⟩, ?_⟩
  · rintro key member other last rfl
    have short := long key member
    rw [List.mem_singleton.mp last] at short
    exact absurd short (by decide)
  · rintro key first other member rfl
    rcases List.mem_append.mp member with member | last
    · have short := long key member
      simp only [List.mem_cons, List.not_mem_nil, or_false] at first
      rcases first with rfl | rfl <;> exact absurd short (by decide)
    · rw [List.mem_singleton.mp last] at first
      exact absurd first (by decide)

theorem suppressed_key_lost : (sourceKeysOf (wrappedInputs.flatMap Input.received)).Nodup ∧
    ¬ Accounted (wrappedInputs.flatMap Input.received) (TracedLoop.run onlyFirst wrappedInputs).merger
      (IngestLoop.run onlyFirst wrappedInputs) := by
  refine ⟨fresh_wrappedInputs, fun accounted => ?_⟩
  obtain ⟨rest, calls, reached, acknowledged, late⟩ := rounds_rejectedReports (2 ^ 64 - 1) (by omega)
  obtain ⟨stored, queue, same⟩ := last_round rest calls late
  have last : TracedLoop.run onlyFirst wrappedInputs =
      (beforeWrap 1 rest calls).round onlyFirst (.ingest lateReport) := by
    rw [wrappedInputs, TracedLoop.run, List.foldl_append]
    rw [TracedLoop.run] at reached
    rw [reached]
    rfl
  have confirmed := accounted.confirmed
  rw [← TracedLoop.run_forget, last] at confirmed
  simp only [TracedLoop.forget, queue, same, acknowledged] at confirmed
  have owed : "f".toList ∈ TracedLoop.keysOf true
      ((beforeWrap 1 rest calls).round onlyFirst (.ingest lateReport)).merger := by
    refine List.mem_flatMap.mpr ⟨storedAccount.suppress lateReport, ?_, by decide⟩
    exact List.mem_filter.mpr ⟨List.mem_of_getElem? stored, by decide⟩
  have lost := confirmed.mem_iff.mpr owed
  simp at lost
end Runs

end CrashCatcher.Daemon
