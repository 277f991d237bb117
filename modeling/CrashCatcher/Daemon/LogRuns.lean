import CrashCatcher.Daemon.LogAccounting

/-! Each crash of the log is sent once for as long as its key is known, and none is lost. -/

namespace CrashCatcher.Daemon
open Lib Lib.Text Model Merge Wire Collect Store

namespace CollectorRuntime

def seen (self : CollectorRuntime) : List Str := (self.loops .events).seen ++ (self.loops .crash).seen

theorem mem_seen {self : CollectorRuntime} {key : Str} :
    key ∈ self.seen ↔ ∃ buffer, key ∈ (self.loops buffer).seen := by
  unfold seen
  rw [List.mem_append]
  constructor
  · rintro (events | crash)
    · exact ⟨.events, events⟩
    · exact ⟨.crash, crash⟩
  · rintro ⟨buffer, member⟩
    cases buffer with
    | events => exact .inl member
    | crash => exact .inr member

def sentKeys (self : CollectorRuntime) : List Str := sourceKeysOf (self.received ++ self.channel)

def Placed (self : CollectorRuntime) (key : Str) : Prop :=
  key ∈ self.sentKeys ∨ .found key ∈ self.history ∨ .historical key ∈ self.history ∨ .hungUp key ∈ self.history

structure Sound (runtime : CollectorRuntime) : Prop where
  markers : ∀ buffer, (runtime.loops buffer).replay.marker = logMigrationKey buffer
  keys : ∀ buffer, ∀ key ∈ (runtime.loops buffer).seen, LogKey buffer key
  once : ∀ buffer key, LogKey buffer key →
    runtime.sentKeys.count key ≤ if key ∈ (runtime.loops buffer).seen then 1 else 0
  sent : ∀ buffer key, LogKey buffer key → key ∈ runtime.sentKeys → .sent key ∈ runtime.history
  placed : ∀ key, CrashKey key → key ∈ runtime.seen → runtime.Placed key
  noticed : ∀ key, .noticed key ∈ runtime.history → CrashKey key ∧ key ∈ runtime.seen
  ingest : ∃ loop : TracedLoop, loop.forget = runtime.ingest ∧ Confirms runtime.received loop

section Turn
variable {self : CollectorRuntime} {buffer : LogBuffer} {db : Database} {replay : LogReplayMigration}
  {turn : LogTurn}

def turned (self : CollectorRuntime) (buffer : LogBuffer) (turn : LogTurn) : CollectorRuntime :=
  { self with
    loops := fun other => if other = buffer then turn.loop else self.loops other
    channel := self.channel ++ turn.sent
    history := self.history ++ turn.happenings }

theorem loops_turned (self : CollectorRuntime) (buffer : LogBuffer) (turn : LogTurn) :
    (self.turned buffer turn).loops buffer = turn.loop := if_pos rfl

theorem loops_turned_other {other : LogBuffer} (apart : other ≠ buffer) :
    (self.turned buffer turn).loops other = self.loops other := if_neg apart

theorem sentKeys_turned : (self.turned buffer turn).sentKeys = self.sentKeys ++ sourceKeysOf turn.sent := by
  simp only [sentKeys, turned, ← List.append_assoc, sourceKeysOf_append]

theorem loops_seen_turned (grows : (self.loops buffer).seen ⊆ turn.loop.seen) (other : LogBuffer) :
    (self.loops other).seen ⊆ ((self.turned buffer turn).loops other).seen := by
  by_cases same : other = buffer
  · subst same
    rwa [loops_turned]
  · rw [loops_turned_other same]
    exact List.Subset.refl _

theorem seen_turned (grows : (self.loops buffer).seen ⊆ turn.loop.seen) :
    self.seen ⊆ (self.turned buffer turn).seen := by
  intro key member
  obtain ⟨other, inside⟩ := mem_seen.mp member
  exact mem_seen.mpr ⟨other, loops_seen_turned grows other inside⟩

theorem Sound.turned (sound : self.Sound) (marker : replay.marker = (self.loops buffer).replay.marker)
    (turns : LogLoop.Turns buffer db { self.loops buffer with replay } turn) :
    (self.turned buffer turn).Sound := by
  obtain ⟨grows, -, same⟩ := turns.grows
  have kept : self.seen ⊆ (self.turned buffer turn).seen := seen_turned grows
  have keys : ∀ other, ∀ key ∈ ((self.turned buffer turn).loops other).seen, LogKey other key := by
    intro other key member
    by_cases own : other = buffer
    · subst own
      rw [loops_turned] at member
      rcases turns.seen_cases key member with old | ⟨log, -⟩
      · exact sound.keys _ key old
      · exact log
    · rw [loops_turned_other own] at member
      exact sound.keys other key member
  refine ⟨fun other => ?_, keys, fun other key log => ?_, fun other key log sent => ?_,
    fun key crash member => ?_, fun key noticed => ?_, sound.ingest⟩
  · by_cases own : other = buffer
    · subst own
      rw [loops_turned, same]
      exact marker.trans (sound.markers _)
    · rw [loops_turned_other own]
      exact sound.markers other
  · have before := sound.once other key log
    have later : self.sentKeys.count key ≤ if key ∈
        ((self.turned buffer turn).loops other).seen then 1 else 0 := by
      split
      next => exact before.trans (by split <;> omega)
      next unseen => rwa [if_neg fun old => unseen (loops_seen_turned grows other old)] at before
    rw [sentKeys_turned, List.count_append]
    rcases turns.sent_cases with ⟨none, -⟩ | ⟨fragment, sent, one, carried, fresh, own, now, -⟩
    · rw [none]
      exact later
    · have single : sourceKeysOf turn.sent = [sent] := by simp [one, sourceKeysOf, carried]
      rw [single]
      by_cases its : sent = key
      · subst its
        obtain rfl := log.buffer own
        rw [if_neg fresh] at before
        rw [loops_turned, if_pos now, List.count_singleton_self]
        omega
      · rw [List.count_singleton, beq_eq_false_iff_ne.mpr its]
        exact later
  · rw [sentKeys_turned] at sent
    rcases List.mem_append.mp sent with old | new
    · exact List.mem_append_left _ (sound.sent other key log old)
    · rcases turns.sent_cases with ⟨none, -⟩ | ⟨fragment, sent, one, carried, -, -, -, happened, -⟩
      · rw [none] at new
        cases new
      · have its : key = sent := by simpa [one, sourceKeysOf, carried] using new
        exact List.mem_append_right _ (its ▸ happened)
  · have later : ∀ {key}, self.Placed key → (self.turned buffer turn).Placed key := by
      rintro key (sent | found | historical | hungUp)
      · exact .inl (by rw [sentKeys_turned]; exact List.mem_append_left _ sent)
      · exact .inr (.inl (List.mem_append_left _ found))
      · exact .inr (.inr (.inl (List.mem_append_left _ historical)))
      · exact .inr (.inr (.inr (List.mem_append_left _ hungUp)))
    obtain ⟨other, inside⟩ := mem_seen.mp member
    by_cases own : other = buffer
    · subst own
      rw [loops_turned] at inside
      rcases turns.seen_cases key inside with old | ⟨-, new⟩
      · exact later (sound.placed key crash (mem_seen.mpr ⟨other, old⟩))
      · rcases new crash with sent | found | historical | hungUp
        · exact .inl (by rw [sentKeys_turned]; exact List.mem_append_right _ sent)
        · exact .inr (.inl (List.mem_append_right _ found))
        · exact .inr (.inr (.inl (List.mem_append_right _ historical)))
        · exact .inr (.inr (.inr (List.mem_append_right _ hungUp)))
    · rw [loops_turned_other own] at inside
      exact later (sound.placed key crash (mem_seen.mpr ⟨other, inside⟩))
  · rcases List.mem_append.mp noticed with old | new
    · exact (sound.noticed key old).imp_right (@kept _)
    · obtain ⟨crash, seen⟩ := turns.noticed_cases new
      refine ⟨crash, mem_seen.mpr ⟨buffer, ?_⟩⟩
      rwa [loops_turned]

end Turn
end CollectorRuntime

namespace CollectorWorld

def remembers (self : CollectorWorld) (key : Str) : Bool :=
  hasSource self.db key || ((self.runtime.map CollectorRuntime.seen).getD []).contains key

/-- The times that what was known of a key was lost or could not be read. -/
def lapses (self : CollectorWorld) (key : Str) : Nat :=
  self.history.count (.misread key) + self.history.count (.forgotten key) + self.history.count (.expired key)

def Explained (initial : Database) (self : CollectorWorld) (key : Str) : Prop :=
  hasSource initial key = true ∨ .sent key ∈ self.history ∨ .historical key ∈ self.history

structure Inv (initial : Database) (world : CollectorWorld) : Prop where
  balance : ∀ key, world.history.count (.sent key) ≤ world.lapses key + (world.remembers key).toNat
  stored : ∀ key, CrashKey key → hasSource world.db key = true → world.Explained initial key
  found : ∀ key, CrashKey key → .found key ∈ world.history → world.Explained initial key
  sound : ∀ runtime, world.runtime = some runtime → runtime.Sound

theorem inv_new (db : Database) : Inv db (new db) where
  balance key := by simp [new, history]
  stored key _ stored := .inl stored
  found key _ found := by cases found
  sound runtime running := by cases running

theorem remembers_iff {self : CollectorWorld} {key : Str} : self.remembers key = true ↔
    hasSource self.db key = true ∨ ∃ runtime, self.runtime = some runtime ∧ key ∈ runtime.seen := by
  unfold remembers
  cases self.runtime <;> simp

section Steps
variable {initial : Database} {w : CollectorWorld} {runtime : CollectorRuntime}

theorem Explained.mono {w' : CollectorWorld} {key : Str} (explained : w.Explained initial key)
    (more : w.history ⊆ w'.history) : w'.Explained initial key :=
  explained.imp_right (Or.imp (@more _) (@more _))

theorem balance_of_silent {w' : CollectorWorld} {key : Str} {more : List Happening}
    (balance : w.history.count (.sent key) ≤ w.lapses key + (w.remembers key).toNat)
    (grown : w'.history.Perm (w.history ++ more)) (silent : .sent key ∉ more)
    (kept : w.remembers key = true → w'.remembers key = true ∨ .forgotten key ∈ more ∨ .expired key ∈ more) :
    w'.history.count (.sent key) ≤ w'.lapses key + (w'.remembers key).toNat := by
  unfold lapses at balance ⊢
  simp only [grown.count_eq, List.count_append, List.count_eq_zero.mpr silent]
  have bit := Bool.toNat_le (w.remembers key)
  cases known : w.remembers key with
  | false =>
      rw [known, Bool.toNat_false] at balance
      omega
  | true =>
      rcases kept known with still | forgotten | expired
      · rw [known] at balance
        rw [still]
        omega
      · have one := List.one_le_count_iff.mpr forgotten
        omega
      · have one := List.one_le_count_iff.mpr expired
        omega

theorem hasSource_aged {db db' : Database} {replay replay' : LogReplayMigration}
    (aged : Aged db db' replay replay') {key : Str} : (hasSource db key = true → hasSource db' key = true) ∧
      (replay.marker ≠ key → hasSource db' key = true → hasSource db key = true) := by
  rcases aged.stamped with rfl | ⟨done, nowMs, rfl⟩
  · exact ⟨id, fun _ => id⟩
  · exact ⟨fun old => hasSource_confirmSource.mpr (.inl old), fun apart stored =>
      (hasSource_confirmSource.mp stored).elim id fun own => absurd own.2 apart⟩

theorem inv_turn (inv : Inv initial w) (running : w.runtime = some runtime) {buffer : LogBuffer} {db : Database}
    {replay : LogReplayMigration} {turn : LogTurn} (aged : Aged w.db db (runtime.loops buffer).replay replay)
    (turns : LogLoop.Turns buffer db { runtime.loops buffer with replay } turn) :
    Inv initial { w with runtime := some (runtime.turned buffer turn), db := turn.db } := by
  have sound := inv.sound runtime running
  obtain ⟨grows, more, -⟩ := turns.grows
  have history : CollectorWorld.history { w with runtime := some (runtime.turned buffer turn), db := turn.db } =
      w.history ++ turn.happenings := by
    simp [CollectorWorld.history, running, CollectorRuntime.turned]
  have later : ∀ key, w.Explained initial key →
      Explained initial { w with runtime := some (runtime.turned buffer turn), db := turn.db } key :=
    fun key explained => explained.mono (by rw [history]; exact List.subset_append_left ..)
  have before : ∀ {key} {other : LogBuffer}, LogKey other key → hasSource db key = true →
      hasSource w.db key = true := by
    intro key other own stored
    refine (hasSource_aged aged).2 ?_ stored
    rw [sound.markers]
    exact own.ne_marker buffer
  have remembered : ∀ key, w.remembers key = true →
      remembers { w with runtime := some (runtime.turned buffer turn), db := turn.db } key = true := by
    intro key known
    rcases remembers_iff.mp known with stored | ⟨other, same, member⟩
    · exact remembers_iff.mpr (.inl (more key ((hasSource_aged aged).1 stored)))
    · obtain rfl : runtime = other := Option.some.inj (running.symm.trans same)
      exact remembers_iff.mpr (.inr ⟨_, rfl, CollectorRuntime.seen_turned grows member⟩)
  refine ⟨fun key => ?_, fun key crash stored => ?_, fun key crash found => ?_, fun other same => ?_⟩
  · rcases turns.sent_cases with ⟨-, silent⟩ | ⟨fragment, sent, -, -, fresh, own, now, happened, count, misread⟩
    · exact balance_of_silent (inv.balance key) (.of_eq history) (silent key) fun known =>
        .inl (remembered key known)
    · by_cases its : key = sent
      · subst its
        have balance := inv.balance key
        have after : remembers { w with runtime := some (runtime.turned buffer turn), db := turn.db } key =
            true :=
          remembers_iff.mpr (.inr ⟨_, rfl, CollectorRuntime.mem_seen.mpr ⟨buffer, by
            rwa [CollectorRuntime.loops_turned]⟩⟩)
        have bit : (w.remembers key).toNat ≤ turn.happenings.count (.misread key) := by
          cases known : w.remembers key with
          | false => exact Nat.zero_le _
          | true =>
              rcases remembers_iff.mp known with stored | ⟨other, same, member⟩
              · exact List.one_le_count_iff.mpr (misread ((hasSource_aged aged).1 stored))
              · obtain rfl : runtime = other := Option.some.inj (running.symm.trans same)
                obtain ⟨other, inside⟩ := CollectorRuntime.mem_seen.mp member
                obtain rfl := (sound.keys other key inside).buffer own
                exact absurd inside fresh
        unfold lapses at balance ⊢
        rw [history]
        simp only [List.count_append, count, if_pos, after, Bool.toNat_true]
        omega
      · refine balance_of_silent (inv.balance key) (.of_eq history) ?_ fun known => .inl (remembered key known)
        rw [← List.count_eq_zero, count, if_neg its]
  · obtain ⟨log, own⟩ := crash.logKey
    rcases (turns.stored_cases crash).1 stored with old | historical
    · exact later key (inv.stored key crash (before own old))
    · refine .inr (.inr ?_)
      rw [history]
      exact List.mem_append_right _ historical
  · rw [history] at found
    rcases List.mem_append.mp found with old | new
    · exact later key (inv.found key crash old)
    · obtain ⟨log, own⟩ := crash.logKey
      exact later key (inv.stored key crash (before own ((turns.stored_cases crash).2 new)))
  · cases same
    exact sound.turned aged.marker turns

theorem inv_entry (inv : Inv initial w) (running : w.runtime = some runtime) (target : Target)
    (buffer : LogBuffer) (entry : Logd.LoggerEntry) (answers : EntryAnswers) (nowMs : I64) :
    Inv initial { w with
      runtime := some (runtime.entry target buffer entry answers nowMs w.db).1
      db := (runtime.entry target buffer entry answers nowMs w.db).2 } := by
  unfold CollectorRuntime.entry
  split
  next =>
    have same : { w with runtime := some runtime, db := w.db } = w := by rw [← running]
    exact same ▸ inv
  next =>
    obtain ⟨db, replay, aged, turns⟩ := handle_turns target buffer answers nowMs entry w.db
      (runtime.loops buffer)
    exact inv_turn inv running aged turns

theorem startLoop_starts (answers : StartAnswers) (nowMs : I64) (buffer : LogBuffer) (db : Database) :
    (CollectorRuntime.startLoop answers nowMs buffer db).1.seen = [] ∧
      (CollectorRuntime.startLoop answers nowMs buffer db).1.replay.marker = logMigrationKey buffer ∧
      ∃ done, (CollectorRuntime.startLoop answers nowMs buffer db).2 =
        confirmSource done nowMs (logMigrationKey buffer) db := by
  refine ⟨rfl, ?_⟩
  unfold CollectorRuntime.startLoop LogReplayMigration.new
  dsimp only
  split
  · exact ⟨rfl, false, rfl⟩
  · split
    · exact ⟨rfl, answers.stamp, rfl⟩
    · exact ⟨rfl, false, rfl⟩

theorem inv_start (inv : Inv initial w) (idle : w.runtime = none) (answers : LogBuffer → StartAnswers)
    (nowMs : I64) :
    Inv initial { w with
      runtime := some (CollectorRuntime.start answers nowMs w.db).1
      db := (CollectorRuntime.start answers nowMs w.db).2 } := by
  obtain ⟨noEvents, eventsMarker, doneEvents, eventsDb⟩ := startLoop_starts (answers .events) nowMs .events w.db
  obtain ⟨noCrash, crashMarker, doneCrash, crashDb⟩ := startLoop_starts (answers .crash) nowMs .crash
    (CollectorRuntime.startLoop (answers .events) nowMs .events w.db).2
  have stored : ∀ key, hasSource (CollectorRuntime.start answers nowMs w.db).2 key = true ↔
      (hasSource w.db key = true ∨ doneEvents = true ∧ logMigrationKey .events = key) ∨
        doneCrash = true ∧ logMigrationKey .crash = key := by
    intro key
    show hasSource (CollectorRuntime.startLoop (answers .crash) nowMs .crash
      (CollectorRuntime.startLoop (answers .events) nowMs .events w.db).2).2 key = true ↔ _
    rw [crashDb, hasSource_confirmSource, eventsDb, hasSource_confirmSource]
  have history : CollectorWorld.history { w with
      runtime := some (CollectorRuntime.start answers nowMs w.db).1
      db := (CollectorRuntime.start answers nowMs w.db).2 } = w.history := by
    simp [CollectorWorld.history, idle, CollectorRuntime.start]
  have seen : ∀ buffer, ((CollectorRuntime.start answers nowMs w.db).1.loops buffer).seen = [] := by
    intro buffer
    cases buffer with
    | events => exact noEvents
    | crash => exact noCrash
  refine ⟨fun key => ?_, fun key crash has => ?_, fun key crash found => ?_, fun runtime same => ?_⟩
  · refine @balance_of_silent w _ key [] (inv.balance key) (by rw [history, List.append_nil])
      (by simp) fun known => ?_
    rcases remembers_iff.mp known with old | ⟨runtime, same, -⟩
    · exact .inl (remembers_iff.mpr (.inl ((stored key).mpr (.inl (.inl old)))))
    · rw [idle] at same
      cases same
  · obtain ⟨log, own⟩ := crash.logKey
    rcases (stored key).mp has with (old | ⟨-, marker⟩) | ⟨-, marker⟩
    · exact (inv.stored key crash old).mono (by rw [history]; exact List.Subset.refl _)
    · exact absurd marker (own.ne_marker .events)
    · exact absurd marker (own.ne_marker .crash)
  · rw [history] at found
    exact (inv.found key crash found).mono (by rw [history]; exact List.Subset.refl _)
  · cases same
    have none : ∀ key, key ∉ (CollectorRuntime.start answers nowMs w.db).1.seen := by
      intro key member
      obtain ⟨buffer, inside⟩ := CollectorRuntime.mem_seen.mp member
      rw [seen] at inside
      cases inside
    refine ⟨fun buffer => ?_, fun buffer key member => ?_, fun buffer key _ => ?_, fun buffer key _ sent => ?_,
      fun key _ member => absurd member (none key), fun key noticed => ?_, .new, rfl, confirms_new⟩
    · cases buffer with
      | events => exact eventsMarker
      | crash => exact crashMarker
    · rw [seen] at member
      cases member
    · exact Nat.zero_le _
    · cases sent
    · cases noticed

theorem Sound.sends (sound : runtime.Sound) {fragment : CrashFragment} {key : Str}
    (carried : fragment.sourceKey = some key) (other : ∀ buffer, ¬LogKey buffer key) :
    CollectorRuntime.Sound { runtime with channel := runtime.channel ++ [fragment] } := by
  have sentKeys : CollectorRuntime.sentKeys { runtime with channel := runtime.channel ++ [fragment] } =
      runtime.sentKeys ++ [key] := by
    simp [CollectorRuntime.sentKeys, sourceKeysOf, carried]
  have apart : ∀ {buffer own}, LogKey buffer own → key ≠ own := by
    rintro buffer own log rfl
    exact other buffer log
  refine ⟨sound.markers, sound.keys, fun buffer own log => ?_, fun buffer own log sent => ?_,
    fun own crash member => ?_, sound.noticed, sound.ingest⟩
  · rw [sentKeys, List.count_append, List.count_singleton, beq_eq_false_iff_ne.mpr (apart log)]
    exact sound.once buffer own log
  · rw [sentKeys] at sent
    rcases List.mem_append.mp sent with old | new
    · exact sound.sent buffer own log old
    · exact absurd (List.mem_singleton.mp new).symm (apart log)
  · rcases sound.placed own crash member with sent | rest
    · exact .inl (by rw [sentKeys]; exact List.mem_append_left _ sent)
    · exact .inr rest

theorem inv_file (inv : Inv initial w) (running : w.runtime = some runtime) (kind : Watch.WatchKind)
    (file : Watch.FileEntry) (fragment : CrashFragment) :
    Inv initial { w with runtime := some { runtime with channel := runtime.channel ++
      [{ fragment with sourceKey := some (Watch.sourceIdentity kind file).key }] } } := by
  have history : CollectorWorld.history { w with runtime := some { runtime with channel := runtime.channel ++
      [{ fragment with sourceKey := some (Watch.sourceIdentity kind file).key }] } } = w.history := by
    simp [CollectorWorld.history, running]
  have known : ∀ key, remembers { w with runtime := some { runtime with channel := runtime.channel ++
      [{ fragment with sourceKey := some (Watch.sourceIdentity kind file).key }] } } key = w.remembers key := by
    intro key
    simp only [remembers, running]
    rfl
  refine ⟨fun key => ?_, fun key crash stored => ?_, fun key crash found => ?_, fun other same => ?_⟩
  · unfold lapses
    rw [history, known]
    exact inv.balance key
  · exact (inv.stored key crash stored).mono (by rw [history]; exact List.Subset.refl _)
  · rw [history] at found
    exact (inv.found key crash found).mono (by rw [history]; exact List.Subset.refl _)
  · cases same
    exact Sound.sends (inv.sound runtime running) rfl fun buffer log => log.ne_file kind file rfl

theorem confirmedSince_subset (n : Nat) (calls : List CoreCall) :
    CollectorRuntime.confirmedSince n calls ⊆ TracedLoop.acknowledged calls := by
  intro key member
  obtain ⟨call, inside, own⟩ := List.mem_flatMap.mp member
  exact List.mem_flatMap.mpr ⟨call, List.mem_of_mem_drop inside, own⟩

theorem round_sound (sound : runtime.Sound) (outcome : Outcome) (nowMs : I64) (db : Database) :
    ∃ keys, (runtime.round outcome nowMs db).2 = confirmSources keys nowMs db ∧
      (∀ key ∈ keys, key ∈ runtime.sentKeys) ∧ (runtime.round outcome nowMs db).1.loops = runtime.loops ∧
      (runtime.round outcome nowMs db).1.history = runtime.history ∧
      (runtime.round outcome nowMs db).1.Sound := by
  obtain ⟨loop, forgets, confirms⟩ := sound.ingest
  have known : ∀ {received : List CrashFragment} {input : Input}, Confirms received (loop.round outcome input) →
      ∀ n, ∀ key ∈ CollectorRuntime.confirmedSince n (runtime.ingest.round outcome input).calls,
        key ∈ sourceKeysOf received := by
    intro received input after n key member
    refine after.acknowledged key ?_
    have inside := confirmedSince_subset n _ member
    rw [← forgets, TracedLoop.round_forget] at inside
    exact inside
  unfold CollectorRuntime.round
  split
  next empty =>
    have after := confirms.round (.flush nowMs) outcome
    rw [Input.received, List.append_nil] at after
    refine ⟨_, rfl, fun key member => ?_, rfl, rfl, sound.markers, sound.keys, sound.once, sound.sent,
      sound.placed, sound.noticed, loop.round outcome (.flush nowMs), ?_, after⟩
    · rw [CollectorRuntime.sentKeys, sourceKeysOf_append]
      exact List.mem_append_left _ (known after _ key member)
    · rw [← TracedLoop.round_forget, forgets]
  next fragment channel some =>
    have after := confirms.round (.ingest fragment) outcome
    have same : sourceKeysOf (runtime.received ++ [fragment] ++ channel) = runtime.sentKeys := by
      rw [CollectorRuntime.sentKeys, some, List.append_assoc]
      rfl
    refine ⟨_, rfl, fun key member => ?_, rfl, rfl, sound.markers, sound.keys, fun buffer key log => ?_,
      fun buffer key log sent => ?_, fun key crash member => ?_, sound.noticed,
      loop.round outcome (.ingest fragment), ?_, after⟩
    · rw [← same, sourceKeysOf_append]
      exact List.mem_append_left _ (known after _ key member)
    · rw [CollectorRuntime.sentKeys, same]
      exact sound.once buffer key log
    · rw [CollectorRuntime.sentKeys, same] at sent
      exact sound.sent buffer key log sent
    · rcases sound.placed key crash member with sent | rest
      · exact .inl (by rw [CollectorRuntime.sentKeys, same]; exact sent)
      · exact .inr rest
    · rw [← TracedLoop.round_forget, forgets]

theorem stored_confirmed (inv : Inv initial w) (running : w.runtime = some runtime) {keys : List Str}
    {nowMs : I64} (known : ∀ key ∈ keys, key ∈ runtime.sentKeys) {key : Str} (crash : CrashKey key)
    (stored : hasSource (confirmSources keys nowMs w.db) key = true) : w.Explained initial key := by
  rcases hasSource_confirmSources.mp stored with old | confirmed
  · exact inv.stored key crash old
  · obtain ⟨buffer, log⟩ := crash.logKey
    have sent := (inv.sound runtime running).sent buffer key log (known key confirmed)
    exact .inr (.inl (by simpa [history, running] using .inr sent))

theorem inv_round (inv : Inv initial w) (running : w.runtime = some runtime) (outcome : Outcome) (nowMs : I64) :
    Inv initial { w with
      runtime := some (runtime.round outcome nowMs w.db).1, db := (runtime.round outcome nowMs w.db).2 } := by
  obtain ⟨keys, confirmed, known, loops, same, sound⟩ :=
    round_sound (inv.sound runtime running) outcome nowMs w.db
  have history : CollectorWorld.history { w with
      runtime := some (runtime.round outcome nowMs w.db).1, db := (runtime.round outcome nowMs w.db).2 } =
        w.history := by
    simp [CollectorWorld.history, running, same]
  have seen : (runtime.round outcome nowMs w.db).1.seen = runtime.seen := by
    rw [CollectorRuntime.seen, loops]
    rfl
  have later : ∀ key, w.Explained initial key → Explained initial { w with
      runtime := some (runtime.round outcome nowMs w.db).1, db := (runtime.round outcome nowMs w.db).2 } key :=
    fun key explained => explained.mono (by rw [history]; exact List.Subset.refl _)
  refine ⟨fun key => ?_, fun key crash stored => ?_, fun key crash found => ?_, fun other own => ?_⟩
  · refine @balance_of_silent w _ key [] (inv.balance key) (by rw [history, List.append_nil])
      (by simp) fun old => ?_
    rcases remembers_iff.mp old with stored | ⟨other, own, member⟩
    · refine .inl (remembers_iff.mpr (.inl ?_))
      rw [confirmed]
      exact hasSource_confirmSources.mpr (.inl stored)
    · obtain rfl : runtime = other := Option.some.inj (running.symm.trans own)
      exact .inl (remembers_iff.mpr (.inr ⟨_, rfl, seen ▸ member⟩))
  · rw [confirmed] at stored
    exact later key (stored_confirmed inv running known crash stored)
  · rw [history] at found
    exact later key (inv.found key crash found)
  · cases own
    exact sound

theorem inv_ended (inv : Inv initial w) (running : w.runtime = some runtime) {keys : List Str} {nowMs : I64}
    (known : ∀ key ∈ keys, key ∈ runtime.sentKeys) :
    Inv initial (ended (confirmSources keys nowMs w.db) runtime w.past) := by
  have history : (ended (confirmSources keys nowMs w.db) runtime w.past).history =
      w.history ++ (runtime.unsaved (confirmSources keys nowMs w.db)).map .forgotten := by
    simp [CollectorWorld.history, ended, running]
  have later : ∀ key, w.Explained initial key →
      (ended (confirmSources keys nowMs w.db) runtime w.past).Explained initial key :=
    fun key explained => explained.mono (by rw [history]; exact List.subset_append_left ..)
  refine ⟨fun key => ?_, fun key crash stored => ?_, fun key crash found => ?_, fun other own => by cases own⟩
  · refine balance_of_silent (inv.balance key) (.of_eq history) (by simp) fun old => ?_
    cases stored : hasSource (confirmSources keys nowMs w.db) key with
    | true => exact .inl (remembers_iff.mpr (.inl stored))
    | false =>
        rcases remembers_iff.mp old with before | ⟨other, own, member⟩
        · rw [hasSource_confirmSources.mpr (.inl before)] at stored
          cases stored
        · obtain rfl : runtime = other := Option.some.inj (running.symm.trans own)
          exact .inr (.inl (List.mem_map_of_mem (List.mem_filter.mpr ⟨member, by simp [stored]⟩)))
  · exact later key (stored_confirmed inv running known crash stored)
  · rw [history] at found
    rcases List.mem_append.mp found with old | new
    · exact later key (inv.found key crash old)
    · simp at new

theorem inv_stop (inv : Inv initial w) (running : w.runtime = some runtime) (outcome : Outcome) (nowMs : I64) :
    Inv initial (ended (confirmSources (CollectorRuntime.confirmedSince runtime.ingest.calls.length
      (runtime.ingest.finish outcome).calls) nowMs w.db) runtime w.past) := by
  refine inv_ended inv running fun key member => ?_
  obtain ⟨loop, forgets, confirms⟩ := (inv.sound runtime running).ingest
  have inside := confirmedSince_subset _ _ member
  rw [← forgets, TracedLoop.finish_forget] at inside
  rw [CollectorRuntime.sentKeys, sourceKeysOf_append]
  exact List.mem_append_left _ ((confirms.finish outcome).acknowledged key inside)

theorem inv_sweep (inv : Inv initial w) (gone : SourceRow → Bool) :
    Inv initial { w with
      db := { w.db with sources := w.db.sources.delete gone }
      past := w.past ++ (w.db.sources.rows.filter gone).map fun row => .expired row.sourceKey } := by
  have history : (CollectorWorld.history { w with
      db := { w.db with sources := w.db.sources.delete gone }
      past := w.past ++ (w.db.sources.rows.filter gone).map fun row => .expired row.sourceKey }).Perm
        (w.history ++ (w.db.sources.rows.filter gone).map fun row => .expired row.sourceKey) := by
    simp only [CollectorWorld.history, List.append_assoc]
    exact List.perm_append_comm.append_left _
  have later : ∀ key, w.Explained initial key → Explained initial { w with
      db := { w.db with sources := w.db.sources.delete gone }
      past := w.past ++ (w.db.sources.rows.filter gone).map fun row => .expired row.sourceKey } key :=
    fun key explained => explained.mono fun _ member => history.mem_iff.mpr (List.mem_append_left _ member)
  refine ⟨fun key => ?_, fun key crash stored => ?_, fun key crash found => ?_, inv.sound⟩
  · refine balance_of_silent (inv.balance key) history (by simp) fun old => ?_
    rcases remembers_iff.mp old with stored | ⟨runtime, running, member⟩
    · obtain ⟨row, inside, rfl⟩ := hasSource_iff.mp stored
      cases spent : gone row with
      | true => exact .inr (.inr (List.mem_map.mpr ⟨row, List.mem_filter.mpr ⟨inside, spent⟩, rfl⟩))
      | false =>
          exact .inl (remembers_iff.mpr (.inl
            (hasSource_iff.mpr ⟨row, Table.mem_delete.mpr ⟨inside, spent⟩, rfl⟩)))
    · exact .inl (remembers_iff.mpr (.inr ⟨runtime, running, member⟩))
  · obtain ⟨row, inside, same⟩ := hasSource_iff.mp stored
    exact later key (inv.stored key crash (hasSource_iff.mpr ⟨row, (Table.mem_delete.mp inside).1, same⟩))
  · rcases List.mem_append.mp (history.mem_iff.mp found) with old | new
    · exact later key (inv.found key crash old)
    · simp at new

theorem inv_step (target : Target) (inv : Inv initial w) (action : CollectorAction) :
    Inv initial (w.step target action) := by
  cases action with
  | start answers nowMs =>
      cases running : w.runtime with
      | none => simpa [step, running] using inv_start inv running answers nowMs
      | some runtime => simpa [step, running] using inv
  | entry buffer entry answers nowMs =>
      cases running : w.runtime with
      | none => simpa [step, running] using inv
      | some runtime => simpa [step, running] using inv_entry inv running target buffer entry answers nowMs
  | file kind file fragment =>
      cases running : w.runtime with
      | none => simpa [step, running] using inv
      | some runtime => simpa [step, running] using inv_file inv running kind file fragment
  | round outcome nowMs =>
      cases running : w.runtime with
      | none => simpa [step, running] using inv
      | some runtime => simpa [step, running] using inv_round inv running outcome nowMs
  | sweep nowMs artifactCutoffMs => exact inv_sweep inv _
  | stop outcome nowMs =>
      cases running : w.runtime with
      | none => simpa [step, running] using inv
      | some runtime => simpa [step, running] using inv_stop inv running outcome nowMs
  | kill =>
      cases running : w.runtime with
      | none => simpa [step, running] using inv
      | some runtime =>
          have killed := @inv_ended initial w runtime inv running [] (.clamp 0) (by simp)
          simpa [step, running, confirmSources] using killed

theorem inv_run (target : Target) (db : Database) (actions : List CollectorAction) :
    Inv db ((new db).run target actions) := by
  induction actions using List.reverseRecOn with
  | nil => exact inv_new db
  | append_singleton actions action ih =>
      rw [run, List.foldl_concat]
      exact inv_step target ih action

end Steps

def Migrated (world : CollectorWorld) : Prop :=
  (∀ buffer, hasSource world.db (logMigrationKey buffer) = true) ∧
    ∀ runtime, world.runtime = some runtime → ∀ buffer, (runtime.loops buffer).replay.active = false

section Migration
variable {w : CollectorWorld} {runtime : CollectorRuntime}

theorem startLoop_migrated {answers : StartAnswers} {buffer : LogBuffer} {db : Database} (nowMs : I64)
    (reads : answers.marker = true) (stored : hasSource db (logMigrationKey buffer) = true) :
    (CollectorRuntime.startLoop answers nowMs buffer db).1.replay.active = false ∧
      (CollectorRuntime.startLoop answers nowMs buffer db).2 = db := by
  simp [CollectorRuntime.startLoop, LogReplayMigration.new, reads, stored]

theorem Migrated.start (migrated : w.Migrated) {answers : LogBuffer → StartAnswers}
    (reads : ∀ buffer, (answers buffer).marker = true) (nowMs : I64) :
    Migrated { w with
      runtime := some (CollectorRuntime.start answers nowMs w.db).1
      db := (CollectorRuntime.start answers nowMs w.db).2 } := by
  obtain ⟨events, same⟩ := startLoop_migrated nowMs (reads .events) (migrated.1 .events)
  have stored := migrated.1 .crash
  rw [← same] at stored
  obtain ⟨crash, same'⟩ := startLoop_migrated nowMs (reads .crash) stored
  refine ⟨fun buffer => ?_, fun runtime own buffer => ?_⟩
  · show hasSource (CollectorRuntime.startLoop (answers .crash) nowMs .crash
      (CollectorRuntime.startLoop (answers .events) nowMs .events w.db).2).2 _ = true
    rw [same', same]
    exact migrated.1 buffer
  · cases own
    cases buffer with
    | events => exact events
    | crash => exact crash

theorem Migrated.entry (migrated : w.Migrated) (running : w.runtime = some runtime) (target : Target)
    (buffer : LogBuffer) (entry : Logd.LoggerEntry) (answers : EntryAnswers) (nowMs : I64) :
    Migrated { w with
      runtime := some (runtime.entry target buffer entry answers nowMs w.db).1
      db := (runtime.entry target buffer entry answers nowMs w.db).2 } ∧
      ∀ key, .historical key ∈ (runtime.entry target buffer entry answers nowMs w.db).1.history →
        .historical key ∈ runtime.history := by
  have passive := migrated.2 runtime running
  unfold CollectorRuntime.entry
  split
  next => exact ⟨⟨migrated.1, fun other own => by cases own; exact passive⟩, fun _ => id⟩
  next =>
    obtain ⟨db, replay, aged, turns⟩ := handle_turns target buffer answers nowMs entry w.db
      (runtime.loops buffer)
    have still : replay.active = false := by
      cases active : replay.active with
      | false => rfl
      | true => exact (aged.active active).symm.trans (passive buffer)
    obtain ⟨-, more, same⟩ := turns.grows
    refine ⟨⟨fun other => more _ ((hasSource_aged aged).1 (migrated.1 other)), fun other own loop => ?_⟩,
      fun key member => ?_⟩
    · cases own
      dsimp only
      by_cases its : loop = buffer
      · rw [if_pos its, same]
        exact still
      · rw [if_neg its]
        exact passive loop
    · rcases List.mem_append.mp member with old | new
      · exact old
      · exact absurd new (turns.historical_cases still key)

theorem Migrated.confirmed (migrated : w.Migrated) {keys : List Str} {nowMs : I64}
    {runtime' : Option CollectorRuntime}
    (passive : ∀ runtime, runtime' = some runtime → ∀ buffer, (runtime.loops buffer).replay.active = false)
    (past : List Happening) : Migrated ⟨confirmSources keys nowMs w.db, runtime', past⟩ :=
  ⟨fun buffer => hasSource_confirmSources.mpr (.inl (migrated.1 buffer)), passive⟩

theorem round_fields (runtime : CollectorRuntime) (outcome : Outcome) (nowMs : I64) (db : Database) :
    (runtime.round outcome nowMs db).1.loops = runtime.loops ∧
      (runtime.round outcome nowMs db).1.history = runtime.history ∧
      ∃ keys, (runtime.round outcome nowMs db).2 = confirmSources keys nowMs db := by
  unfold CollectorRuntime.round
  split
  · exact ⟨rfl, rfl, _, rfl⟩
  · exact ⟨rfl, rfl, _, rfl⟩

theorem hasSource_marker_delete {nowMs cutoffMs : I64} {db : Database} {buffer : LogBuffer}
    (stored : hasSource db (logMigrationKey buffer) = true) :
    hasSource { db with sources := db.sources.delete (Outlived nowMs cutoffMs) } (logMigrationKey buffer) =
      true := by
  obtain ⟨row, member, same⟩ := hasSource_iff.mp stored
  refine hasSource_iff.mpr ⟨row, Table.mem_delete.mpr ⟨member, ?_⟩, same⟩
  have marker : likePrefix "marker:".toList row.sourceKey = true := by
    rw [same]
    cases buffer <;> decide
  unfold Outlived
  rw [marker]
  rfl

end Migration
end CollectorWorld

namespace CollectorAction

def ReadsMarkers : CollectorAction → Prop
  | start answers _ => ∀ buffer, (answers buffer).marker = true
  | _ => True

end CollectorAction

namespace CollectorWorld
variable {w : CollectorWorld}

theorem Migrated.step (migrated : w.Migrated) (target : Target) {action : CollectorAction}
    (reads : action.ReadsMarkers) : (w.step target action).Migrated ∧
      ∀ key, .historical key ∈ (w.step target action).history → .historical key ∈ w.history := by
  have idle : w.Migrated ∧ ∀ key, .historical key ∈ w.history → .historical key ∈ w.history :=
    ⟨migrated, fun _ => id⟩
  cases running : w.runtime with
  | none =>
      cases action with
      | start answers nowMs =>
          have started := migrated.start reads nowMs
          refine ⟨by simpa [CollectorWorld.step, running] using started, fun key member => ?_⟩
          simpa [CollectorWorld.step, running, history, CollectorRuntime.start] using member
      | entry buffer entry answers nowMs => simpa only [CollectorWorld.step, running] using idle
      | file kind file fragment => simpa only [CollectorWorld.step, running] using idle
      | round outcome nowMs => simpa only [CollectorWorld.step, running] using idle
      | sweep nowMs artifactCutoffMs =>
          refine ⟨⟨fun buffer => hasSource_marker_delete (migrated.1 buffer), migrated.2⟩, fun key member => ?_⟩
          simpa [CollectorWorld.step, running, history] using member
      | stop outcome nowMs => simpa only [CollectorWorld.step, running] using idle
      | kill => simpa only [CollectorWorld.step, running] using idle
  | some runtime =>
      have passive := migrated.2 runtime running
      cases action with
      | start answers nowMs => simpa only [CollectorWorld.step, running] using idle
      | entry buffer entry answers nowMs =>
          obtain ⟨still, silent⟩ := migrated.entry running target buffer entry answers nowMs
          refine ⟨by simpa [CollectorWorld.step, running] using still, fun key member => ?_⟩
          have either : .historical key ∈ w.past ∨ .historical key ∈
              (runtime.entry target buffer entry answers nowMs w.db).1.history := by
            simpa [CollectorWorld.step, running, history] using member
          simpa [history, running] using either.imp_right (silent key)
      | file kind file fragment =>
          refine ⟨⟨?_, fun other own => ?_⟩, fun key member => ?_⟩
          · simpa [CollectorWorld.step, running] using migrated.1
          · simp only [CollectorWorld.step, running, Option.some.injEq] at own
            exact own ▸ passive
          · simpa [CollectorWorld.step, running, history] using member
      | round outcome nowMs =>
          obtain ⟨loops, same, keys, confirmed⟩ := round_fields runtime outcome nowMs w.db
          refine ⟨?_, fun key member => ?_⟩
          · simp only [CollectorWorld.step, running, confirmed]
            refine migrated.confirmed (fun other own buffer => ?_) w.past
            rw [← Option.some.inj own, loops]
            exact passive buffer
          · simpa [CollectorWorld.step, running, history, same] using member
      | sweep nowMs artifactCutoffMs =>
          refine ⟨⟨fun buffer => hasSource_marker_delete (migrated.1 buffer), migrated.2⟩, fun key member => ?_⟩
          simpa [CollectorWorld.step, running, history] using member
      | stop outcome nowMs =>
          refine ⟨?_, fun key member => ?_⟩
          · simp only [CollectorWorld.step, running, ended]
            exact migrated.confirmed (fun other own => by cases own) _
          · simpa [CollectorWorld.step, running, history, ended] using member
      | kill =>
          refine ⟨?_, fun key member => ?_⟩
          · simp only [CollectorWorld.step, running, ended]
            exact ⟨migrated.1, fun other own => by cases own⟩
          · simpa [CollectorWorld.step, running, history, ended] using member

theorem Migrated.run (migrated : w.Migrated) (target : Target) {actions : List CollectorAction}
    (reads : ∀ action ∈ actions, action.ReadsMarkers) (key : Str)
    (member : .historical key ∈ (w.run target actions).history) : .historical key ∈ w.history := by
  induction actions generalizing w with
  | nil => exact member
  | cons action actions ih =>
      obtain ⟨still, silent⟩ := migrated.step target (reads action (.head _))
      exact silent key (ih still (fun other inside => reads other (.tail _ inside)) member)

def sentKeys (self : CollectorWorld) : List Str := (self.runtime.map CollectorRuntime.sentKeys).getD []

def confirmedKeys (self : CollectorWorld) : List Str :=
  (self.runtime.map fun runtime => TracedLoop.acknowledged runtime.ingest.calls).getD []

def present (self : CollectorWorld) : List Happening := (self.runtime.map CollectorRuntime.history).getD []

/-- Over any number of processes a crash of the log is sent again only after what was known of its key expired,
was lost with a process or could not be read; in one process no key of the log is sent twice, and the ingest
loop confirms nothing that it was not sent. -/
theorem log_crashes_sent_once (target : Target) (db : Database) (actions : List CollectorAction) :
    (∀ key, ((new db).run target actions).history.count (.sent key) ≤
      ((new db).run target actions).lapses key + (((new db).run target actions).remembers key).toNat) ∧
    (∀ (buffer : LogBuffer) (entry : Collect.LoggerEntry) (said : Str),
      ((new db).run target actions).sentKeys.count (entry.logSourceKey buffer.name said) ≤ 1) ∧
    ((new db).run target actions).confirmedKeys ⊆ ((new db).run target actions).sentKeys := by
  have inv := inv_run target db actions
  refine ⟨inv.balance, fun buffer entry said => ?_, fun key member => ?_⟩
  · unfold sentKeys
    cases running : ((new db).run target actions).runtime with
    | none => exact Nat.zero_le _
    | some runtime =>
        exact ((inv.sound runtime running).once buffer _ ⟨entry, said, rfl⟩).trans (by split <;> omega)
  · unfold confirmedKeys at member
    unfold sentKeys
    cases running : ((new db).run target actions).runtime with
    | none =>
        rw [running] at member
        cases member
    | some runtime =>
        rw [running] at member
        obtain ⟨loop, forgets, confirms⟩ := (inv.sound runtime running).ingest
        have acknowledged : key ∈ TracedLoop.acknowledged loop.calls := by
          have inside : key ∈ TracedLoop.acknowledged runtime.ingest.calls := member
          rwa [← forgets] at inside
        show key ∈ sourceKeysOf (runtime.received ++ runtime.channel)
        rw [sourceKeysOf_append]
        exact List.mem_append_left _ (confirms.acknowledged key acknowledged)

def oneWtf : List CollectorAction := [
  .start (fun _ => ⟨true, true, true⟩) (.clamp 0),
  .entry .events {
      pid := 900, tid := 901, seconds := 5, nanoseconds := 0, logId := none, uid := none
      payload := (Logd.Release.record ⟨true, false⟩ (.wtf {
        userId := 10, pid := 4321, processName := "app".toList, flags := 0, tag := "T".toList
        message := "m".toList })).encode } ⟨true, true, true, true, true⟩ (.clamp 6000)]

/-- A process that is killed before its loop confirms the crash leaves it to be sent again. -/
theorem log_crashes_sent_once_killed :
    let world := (new .empty).run .aarch64 (oneWtf ++ .kill :: oneWtf)
    let key := "logd:events:5:0:900:901:30040".toList
    world.history.count (.sent key) ≤ world.lapses key + (world.remembers key).toNat ∧
      world.history.count (.sent key) = 2 ∧ world.lapses key = 1 ∧ world.remembers key = true :=
  ⟨(log_crashes_sent_once .aarch64 .empty _).1 _, by decide +kernel, by decide +kernel, by decide +kernel⟩

/-- Every crash that a process reads in the log is sent to its ingest loop, was explained by an earlier process,
is older than an upgrade, or found the ingest loop gone; and once the markers of the upgrade are stored, no
process that reads them passes over an entry for its age. -/
theorem log_crashes_none_lost (target : Target) (db : Database) (actions : List CollectorAction) :
    (∀ key, .noticed key ∈ ((new db).run target actions).present →
      key ∈ ((new db).run target actions).sentKeys ∨
      .found key ∈ ((new db).run target actions).present ∧ ((new db).run target actions).Explained db key ∨
      .historical key ∈ ((new db).run target actions).present ∨
      .hungUp key ∈ ((new db).run target actions).present) ∧
    (((new db).run target actions).Migrated → ∀ later : List CollectorAction,
      (∀ action ∈ later, action.ReadsMarkers) → ∀ key,
        .historical key ∈ (((new db).run target actions).run target later).history →
          .historical key ∈ ((new db).run target actions).history) := by
  have inv := inv_run target db actions
  refine ⟨fun key noticed => ?_, fun migrated later reads key member => migrated.run target reads key member⟩
  unfold present at noticed
  unfold sentKeys present
  cases running : ((new db).run target actions).runtime with
  | none =>
      rw [running] at noticed
      cases noticed
  | some runtime =>
      rw [running] at noticed
      have sound := inv.sound runtime running
      obtain ⟨crash, seen⟩ := sound.noticed key noticed
      rcases sound.placed key crash seen with sent | found | rest
      · exact .inl sent
      · refine .inr (.inl ⟨found, inv.found key crash ?_⟩)
        simpa [history, running] using .inr found
      · exact .inr (.inr rest)

theorem log_crashes_none_lost_oneWtf :
    "logd:events:5:0:900:901:30040".toList ∈ ((new .empty).run .aarch64 oneWtf).sentKeys ∨
    .found "logd:events:5:0:900:901:30040".toList ∈ ((new .empty).run .aarch64 oneWtf).present ∧
      ((new .empty).run .aarch64 oneWtf).Explained .empty "logd:events:5:0:900:901:30040".toList ∨
    .historical "logd:events:5:0:900:901:30040".toList ∈ ((new .empty).run .aarch64 oneWtf).present ∨
    .hungUp "logd:events:5:0:900:901:30040".toList ∈ ((new .empty).run .aarch64 oneWtf).present :=
  (log_crashes_none_lost .aarch64 .empty oneWtf).1 _ (by decide +kernel)

end CollectorWorld
end CrashCatcher.Daemon
