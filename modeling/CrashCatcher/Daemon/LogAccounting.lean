import CrashCatcher.Daemon.ConfirmedKeys
import CrashCatcher.Daemon.LogLoops

/-! Each crash of the log is sent once for as long as its key is known, and none is lost. -/

namespace CrashCatcher.Daemon
open Lib Lib.Text Model Merge Wire Collect Store

section Keys

theorem hasSource_iff {db : Database} {key : Str} :
    hasSource db key = true ↔ ∃ row ∈ db.sources.rows, row.sourceKey = key := by
  unfold hasSource
  rw [Option.isSome_iff_exists]
  simp only [Table.find?_eq_some_iff]

theorem hasSource_insertSource {db : Database} {row : SourceRow} {key : Str} :
    hasSource (db.insertSource row) key = true ↔ hasSource db key = true ∨ row.sourceKey = key := by
  unfold Database.insertSource
  cases inserted : db.sources.insert? row with
  | some sources =>
      obtain ⟨-, rows⟩ := Table.insert?_eq_some inserted
      simp [hasSource_iff, rows, or_and_right, exists_or]
  | none =>
      obtain ⟨stored, member, same⟩ := Table.insert?_eq_none_iff.mp inserted
      refine ⟨.inl, fun either => either.elim id fun own => ?_⟩
      exact hasSource_iff.mpr ⟨stored, member, same.trans own⟩

theorem hasSource_confirmSource {done : Bool} {nowMs : I64} {confirmed key : Str} {db : Database} :
    hasSource (confirmSource done nowMs confirmed db) key = true ↔
      hasSource db key = true ∨ done = true ∧ confirmed = key := by
  unfold confirmSource
  cases done <;> simp [hasSource_insertSource]

theorem hasSource_confirmSources {keys : List Str} {nowMs : I64} {key : Str} {db : Database} :
    hasSource (confirmSources keys nowMs db) key = true ↔ hasSource db key = true ∨ key ∈ keys := by
  induction keys generalizing db with
  | nil => simp [confirmSources]
  | cons first rest ih =>
      refine ih.trans ?_
      rw [hasSource_insertSource, List.mem_cons, or_assoc, eq_comm (a := first)]

def LogKey (buffer : LogBuffer) (key : Str) : Prop :=
  ∃ (entry : Collect.LoggerEntry) (said : Str), key = entry.logSourceKey buffer.name said

def ScreenKey (key : Str) : Prop :=
  ∃ (buffer : LogBuffer) (entry : Collect.LoggerEntry) (said : Str),
    key = entry.logSourceKey buffer.name said ∧ OfScreen said

def CrashKey (key : Str) : Prop :=
  ∃ (buffer : LogBuffer) (entry : Collect.LoggerEntry) (said : Str),
    key = entry.logSourceKey buffer.name said ∧ ¬OfScreen said

theorem LogKey.buffer {buffer other : LogBuffer} {key : Str} (own : LogKey buffer key)
    (its : LogKey other key) :
    buffer = other := by
  obtain ⟨entry, said, rfl⟩ := own
  obtain ⟨entry', said', same⟩ := its
  exact (logSourceKey_inj same).1

theorem CrashKey.not_screen {key : Str} (crash : CrashKey key) : ¬ScreenKey key := by
  obtain ⟨buffer, entry, said, rfl, apart⟩ := crash
  rintro ⟨buffer', entry', said', same, screen⟩
  exact apart ((logSourceKey_inj same).2.2 ▸ screen)

theorem head_logKey {buffer : LogBuffer} {key : Str} (own : LogKey buffer key) : key.head? = some 'l' := by
  obtain ⟨entry, said, rfl⟩ := own
  rw [logSourceKey_eq]
  rfl

theorem CrashKey.logKey {key : Str} (crash : CrashKey key) : ∃ buffer, LogKey buffer key := by
  obtain ⟨buffer, entry, said, same, -⟩ := crash
  exact ⟨buffer, entry, said, same⟩

theorem LogKey.ne_marker {buffer : LogBuffer} {key : Str} (own : LogKey buffer key) (other : LogBuffer) :
    logMigrationKey other ≠ key := by
  rintro rfl
  have head := head_logKey own
  cases other <;> cases head

theorem LogKey.ne_file {buffer : LogBuffer} {key : Str} (own : LogKey buffer key) (kind : Watch.WatchKind)
    (file : Watch.FileEntry) : (Watch.sourceIdentity kind file).key ≠ key := by
  rintro rfl
  have head := head_logKey own
  cases kind <;> cases head

end Keys

def Unread (db : Database) (key : Str) (told : List Happening) : Prop :=
  told = [.misread key] ∨ told = [] ∧ hasSource db key = false

def Told (key : Str) (told : List Happening) : Prop := told = [] ∨ told = [.noticed key] ∧ CrashKey key

namespace LogLoop

def see (self : LogLoop) (key : Str) : LogLoop := { self with seen := key :: self.seen }

inductive Turns (buffer : LogBuffer) (db : Database) (self : LogLoop) : LogTurn → Prop where
  | silent : Turns buffer db self ⟨self, db, [], []⟩
  | repeated {key : Str} {told : List Happening} : key ∈ self.seen → Told key told →
      Turns buffer db self ⟨self, db, [], told⟩
  | found {key : Str} {told : List Happening} : key ∉ self.seen → LogKey buffer key → hasSource db key = true →
      Told key told → Turns buffer db self ⟨self.see key, db, [], told ++ [.found key]⟩
  | screen {key : Str} {misread : List Happening} (done : Bool) (nowMs : I64) : key ∉ self.seen →
      LogKey buffer key → ScreenKey key → Unread db key misread →
      Turns buffer db self ⟨self.see key, confirmSource done nowMs key db, [], misread⟩
  | historical {key : Str} {misread : List Happening} (done : Bool) (nowMs : I64) : self.replay.active = true →
      key ∉ self.seen → LogKey buffer key → CrashKey key → Unread db key misread →
      Turns buffer db self ⟨self.see key, confirmSource done nowMs key db, [],
        .noticed key :: misread ++ [.historical key]⟩
  | sent {key : Str} {misread : List Happening} {fragment : CrashFragment} : key ∉ self.seen →
      LogKey buffer key → CrashKey key → Unread db key misread → fragment.sourceKey = some key →
      Turns buffer db self ⟨self.see key, db, [fragment], .noticed key :: misread ++ [.sent key]⟩
  | hungUp {key : Str} {misread : List Happening} : key ∉ self.seen →
      LogKey buffer key → CrashKey key → Unread db key misread →
      Turns buffer db self ⟨{ self.see key with running := false }, db, [],
        .noticed key :: misread ++ [.hungUp key]⟩

end LogLoop

structure Aged (db db' : Database) (replay replay' : LogReplayMigration) : Prop where
  marker : replay'.marker = replay.marker
  active : replay'.active = true → replay.active = true
  stamped : db' = db ∨ ∃ done nowMs, db' = confirmSource done nowMs replay.marker db

theorem isHistorical_aged (stamp : Bool) (nowMs atMs : I64) (db : Database) (replay : LogReplayMigration) :
    Aged db (replay.isHistorical stamp nowMs atMs db).2.2 replay (replay.isHistorical stamp nowMs atMs db).2.1 ∧
      ((replay.isHistorical stamp nowMs atMs db).1 = true →
        (replay.isHistorical stamp nowMs atMs db).2.1.active = true) := by
  unfold LogReplayMigration.isHistorical
  split
  next => exact ⟨⟨rfl, id, .inl rfl⟩, fun old => by cases old⟩
  next migrating =>
    split
    next => exact ⟨⟨rfl, id, .inl rfl⟩, fun _ => Bool.eq_true_of_not_eq_false migrating⟩
    next => exact ⟨⟨rfl, (by simp), .inr ⟨stamp, nowMs, rfl⟩⟩, fun old => by cases old⟩

theorem told_noticed {buffer : LogBuffer} {entry : Collect.LoggerEntry} {key said : Str} {notice : Notice}
    (same : key = entry.logSourceKey buffer.name said) (keyed : notice.Keyed key said) :
    Told key (LogLoop.noticed key notice) := by
  cases notice with
  | screen event => exact .inl rfl
  | crash fragment => exact .inr ⟨rfl, buffer, entry, said, same, keyed.1⟩

theorem handleNew_turns {buffer : LogBuffer} {answers : EntryAnswers} {nowMs : I64} {historical : Bool}
    {key said : Str} {notice : Notice} {db : Database} {self : LogLoop} {misread : List Happening}
    {entry : Collect.LoggerEntry} (same : key = entry.logSourceKey buffer.name said)
      (keyed : notice.Keyed key said)
    (fresh : key ∉ self.seen) (unread : Unread db key misread)
    (migrating : historical = true → self.replay.active = true) :
    LogLoop.Turns buffer db self { LogLoop.handleNew answers nowMs historical key notice db (self.see key) with
      happenings := LogLoop.noticed key notice ++ misread ++
        (LogLoop.handleNew answers nowMs historical key notice db (self.see key)).happenings } := by
  have own : LogKey buffer key := ⟨entry, said, same⟩
  cases notice with
  | screen event =>
      have shown := LogLoop.Turns.screen (answers.confirm && (historical || answers.clear)) nowMs fresh own
        ⟨buffer, entry, said, same, keyed⟩ unread
      simpa [LogLoop.handleNew, LogLoop.noticed] using shown
  | crash fragment =>
      have crash : CrashKey key := ⟨buffer, entry, said, same, keyed.1⟩
      cases old : historical with
      | true => exact .historical answers.confirm nowMs (migrating old) fresh own crash unread
      | false =>
          cases sends : answers.send with
          | true =>
              simp only [LogLoop.handleNew, sends]
              exact .sent fresh own crash unread keyed.2
          | false =>
              simp only [LogLoop.handleNew, sends]
              exact .hungUp fresh own crash unread

theorem handle_turns (target : Target) (buffer : LogBuffer) (answers : EntryAnswers) (nowMs : I64)
    (entry : Logd.LoggerEntry) (db : Database) (self : LogLoop) :
    ∃ db' replay, Aged db db' self.replay replay ∧
      LogLoop.Turns buffer db' { self with replay } (self.handle target buffer answers nowMs entry db) := by
  obtain ⟨aged, migrating⟩ := isHistorical_aged answers.stamp nowMs entry.header.atMs db self.replay
  unfold LogLoop.handle
  cases told : self.replay.isHistorical answers.stamp nowMs entry.header.atMs db with
  | mk historical rest =>
      obtain ⟨replay, db'⟩ := rest
      rw [told] at aged migrating
      refine ⟨db', replay, aged, ?_⟩
      dsimp only
      cases notice : buffer.notice target entry with
      | none => exact .silent
      | some pair =>
          obtain ⟨key, notice'⟩ := pair
          obtain ⟨said, same, keyed⟩ := notice_keyed notice
          have own : LogKey buffer key := ⟨entry.header, said, same⟩
          have either := told_noticed same keyed
          dsimp only
          unfold logSourceSeen LogLoop.lookedUp
          cases contained : self.seen.contains key with
          | true =>
              simp only [if_pos, List.append_nil]
              exact .repeated (List.contains_iff_mem.mp contained) either
          | false =>
              have old : key ∉ self.seen := fun member => Bool.false_ne_true
                (contained.symm.trans (List.contains_iff_mem.mpr member))
              simp only [Bool.false_eq_true, if_false]
              cases looked : answers.lookUp with
              | true =>
                  cases stored : hasSource db' key with
                  | true => exact .found old own stored either
                  | false => exact handleNew_turns same keyed old (.inr ⟨rfl, stored⟩) migrating
              | false => exact handleNew_turns same keyed old (.inl rfl) migrating

namespace LogLoop.Turns
variable {buffer : LogBuffer} {db : Database} {self : LogLoop} {turn : LogTurn}

theorem grows (turns : Turns buffer db self turn) : self.seen ⊆ turn.loop.seen ∧
    (∀ key, hasSource db key = true → hasSource turn.db key = true) ∧ turn.loop.replay = self.replay := by
  have more (key : Str) : self.seen ⊆ (self.see key).seen := fun _ member => .tail _ member
  have kept {done : Bool} {nowMs : I64} {key : Str} : ∀ k, hasSource db k = true →
      hasSource (confirmSource done nowMs key db) k = true :=
        fun k stored => hasSource_confirmSource.mpr (.inl stored)
  cases turns with
  | silent => exact ⟨List.Subset.refl _, fun _ => id, rfl⟩
  | repeated => exact ⟨List.Subset.refl _, fun _ => id, rfl⟩
  | found => exact ⟨more _, fun _ => id, rfl⟩
  | screen => exact ⟨more _, kept, rfl⟩
  | historical => exact ⟨more _, kept, rfl⟩
  | sent => exact ⟨more _, fun _ => id, rfl⟩
  | hungUp => exact ⟨more _, fun _ => id, rfl⟩

theorem seen_cases (turns : Turns buffer db self turn) : ∀ key ∈ turn.loop.seen, key ∈ self.seen ∨
    LogKey buffer key ∧ (CrashKey key → key ∈ sourceKeysOf turn.sent ∨ .found key ∈ turn.happenings ∨
      .historical key ∈ turn.happenings ∨ .hungUp key ∈ turn.happenings) := by
  intro other member
  cases turns with
  | silent => exact .inl member
  | repeated => exact .inl member
  | found _ own =>
      rcases List.mem_cons.mp member with rfl | old
      · exact .inr ⟨own, fun _ => .inr (.inl (by simp))⟩
      · exact .inl old
  | screen _ _ _ own shown =>
      rcases List.mem_cons.mp member with rfl | old
      · exact .inr ⟨own, fun crash => absurd shown crash.not_screen⟩
      · exact .inl old
  | historical _ _ _ _ own =>
      rcases List.mem_cons.mp member with rfl | old
      · exact .inr ⟨own, fun _ => .inr (.inr (.inl (by simp)))⟩
      · exact .inl old
  | sent _ own _ _ carried =>
      rcases List.mem_cons.mp member with rfl | old
      · exact .inr ⟨own, fun _ => .inl (by simp [sourceKeysOf, carried])⟩
      · exact .inl old
  | hungUp _ own =>
      rcases List.mem_cons.mp member with rfl | old
      · exact .inr ⟨own, fun _ => .inr (.inr (.inr (by simp)))⟩
      · exact .inl old

theorem sent_cases (turns : Turns buffer db self turn) :
    (turn.sent = [] ∧ ∀ key, .sent key ∉ turn.happenings) ∨
      ∃ fragment key, turn.sent = [fragment] ∧ fragment.sourceKey = some key ∧ key ∉ self.seen ∧
        LogKey buffer key ∧ key ∈ turn.loop.seen ∧ .sent key ∈ turn.happenings ∧
        (∀ other, turn.happenings.count (.sent other) = if other = key then 1 else 0) ∧
        (hasSource db key = true → .misread key ∈ turn.happenings) := by
  have silent {key : Str} {misread : List Happening} (unread : Unread db key misread) :
      ∀ other, .sent other ∉ misread := by
    rcases unread with rfl | ⟨rfl, -⟩ <;> simp
  cases turns with
  | silent => exact .inl ⟨rfl, by simp⟩
  | repeated _ told => exact .inl ⟨rfl, by rcases told with rfl | ⟨rfl, -⟩ <;> simp⟩
  | found _ _ _ told => exact .inl ⟨rfl, by rcases told with rfl | ⟨rfl, -⟩ <;> simp⟩
  | screen _ _ _ _ _ unread => exact .inl ⟨rfl, silent unread⟩
  | historical _ _ _ _ _ _ unread => exact .inl ⟨rfl, by simpa using silent unread⟩
  | @sent key misread fragment fresh own _ unread carried =>
      refine .inr ⟨fragment, key, rfl, carried, fresh, own, .head _, by simp, fun other => ?_, fun stored => ?_⟩
      · have none := List.count_eq_zero.mpr (silent unread other)
        rw [List.count_append, List.count_cons_of_ne (by simp), none, List.count_singleton, Nat.zero_add]
        by_cases same : other = key
        · simp [same]
        · have apart : key ≠ other := fun eq => same eq.symm
          simp [same, apart]
      · rcases unread with rfl | ⟨-, absent⟩
        · simp
        · rw [stored] at absent
          cases absent
  | hungUp _ _ _ unread => exact .inl ⟨rfl, by simpa using silent unread⟩

theorem noticed_cases (turns : Turns buffer db self turn) {key : Str}
    (noticed : .noticed key ∈ turn.happenings) :
    CrashKey key ∧ key ∈ turn.loop.seen := by
  have silent {key : Str} {misread : List Happening} (unread : Unread db key misread) (other : Str) :
      .noticed other ∉ misread := by
    rcases unread with rfl | ⟨rfl, -⟩ <;> simp
  cases turns with
  | silent => cases noticed
  | repeated old told =>
      rcases told with rfl | ⟨rfl, crash⟩
      · cases noticed
      · cases List.mem_singleton.mp noticed
        exact ⟨crash, old⟩
  | @found other _ _ _ _ told =>
      rcases told with rfl | ⟨rfl, crash⟩
      · simp at noticed
      · have same : key = other := by simpa using noticed
        subst same
        exact ⟨crash, .head _⟩
  | screen _ _ _ _ _ unread => exact absurd noticed (silent unread key)
  | @historical other _ _ _ _ _ _ crash unread =>
      have same : key = other := by simpa [silent unread key] using noticed
      subst same
      exact ⟨crash, .head _⟩
  | @sent other _ _ _ _ crash unread =>
      have same : key = other := by simpa [silent unread key] using noticed
      subst same
      exact ⟨crash, .head _⟩
  | @hungUp other _ _ _ crash unread =>
      have same : key = other := by simpa [silent unread key] using noticed
      subst same
      exact ⟨crash, .head _⟩

theorem stored_cases (turns : Turns buffer db self turn) {key : Str} (crash : CrashKey key) :
    (hasSource turn.db key = true → hasSource db key = true ∨ .historical key ∈ turn.happenings) ∧
      (.found key ∈ turn.happenings → hasSource db key = true) := by
  have silent {other : Str} {misread : List Happening} (unread : Unread db other misread) :
      .found key ∉ misread := by
    rcases unread with rfl | ⟨rfl, -⟩ <;> simp
  cases turns with
  | silent => exact ⟨.inl, by simp⟩
  | repeated _ told => exact ⟨.inl, by rcases told with rfl | ⟨rfl, -⟩ <;> simp⟩
  | @found other _ _ _ stored told =>
      refine ⟨.inl, fun found => ?_⟩
      have same : key = other := by
        rcases told with rfl | ⟨rfl, -⟩
        · simpa using found
        · simpa using found
      exact same ▸ stored
  | screen _ _ _ _ shown unread =>
      refine ⟨fun stored => ?_, fun found => absurd found (silent unread)⟩
      rcases hasSource_confirmSource.mp stored with old | ⟨-, rfl⟩
      · exact .inl old
      · exact absurd shown crash.not_screen
  | historical _ _ _ _ _ _ unread =>
      refine ⟨fun stored => ?_, fun found => absurd found (by simp [silent unread])⟩
      rcases hasSource_confirmSource.mp stored with old | ⟨-, rfl⟩
      · exact .inl old
      · exact .inr (by simp)
  | sent _ _ _ unread => exact ⟨.inl, fun found => absurd found (by simp [silent unread])⟩
  | hungUp _ _ _ unread => exact ⟨.inl, fun found => absurd found (by simp [silent unread])⟩

theorem historical_cases (turns : Turns buffer db self turn) (migrated : self.replay.active = false)
    (key : Str) :
    .historical key ∉ turn.happenings := by
  have silent {other : Str} {misread : List Happening} (unread : Unread db other misread) :
      .historical key ∉ misread := by
    rcases unread with rfl | ⟨rfl, -⟩ <;> simp
  cases turns with
  | silent => simp
  | repeated _ told => rcases told with rfl | ⟨rfl, -⟩ <;> simp
  | found _ _ _ told => rcases told with rfl | ⟨rfl, -⟩ <;> simp
  | screen _ _ _ _ _ unread => exact silent unread
  | historical _ _ active =>
      rw [migrated] at active
      cases active
  | sent _ _ _ unread => simp [silent unread]
  | hungUp _ _ _ unread => simp [silent unread]

end LogLoop.Turns

end CrashCatcher.Daemon
