import CrashCatcher.Manager.Reader

namespace CrashCatcher.Manager
open Lib Model Wire Store Daemon

section
variable (services : Services) (s : StoreState)

/-- The results are the record's own chunks, one after another from its start, up to the offset. -/
inductive Shown (record : RecordId) : List PayloadChunkResult → UInt64 → Prop
  | start : Shown record [] 0
  | next {results : List PayloadChunkResult} {offset : UInt64} {bytes : List UInt8} (totalBytes : Nat)
      (shown : Shown record results offset) (stored : Stores services s record bytes)
      (fits : (chunkAnswer bytes offset chunkRequestBytes).nextOffset < 2 ^ 63) :
      Shown record (results ++ [resultOf totalBytes (chunkAnswer bytes offset chunkRequestBytes)])
        (UInt64.ofNat (chunkAnswer bytes offset chunkRequestBytes).nextOffset)

structure Readers.Right (readers : Readers) : Prop where
  shown : ∀ k flow, readers.flows k = some flow → ∃ offset, Shown services s flow.record flow.emitted offset
  kept : ∀ k flow opened offset, readers.flows k = some flow → flow.phase = .reading opened offset →
    opened.lifetime = readers.lifetime → readers.handles.payloadHandles opened.handle = some flow.record

def Flow.Uses (flow : Flow) (lifetime : Nat) (handle : UInt64) : Prop :=
  match flow.phase with
  | .opening => ∃ payload, flow.answer = some (.ok (.payloadOpened payload), lifetime) ∧
      payload.handle = some handle ∧ handle.toNat < 2 ^ 63
  | .reading opened _ => opened.lifetime = lifetime ∧ opened.handle = handle
  | _ => False

def Flow.Closes (flow : Flow) (lifetime : Nat) (handle : UInt64) : Prop :=
  match flow.phase with
  | .closing opened => opened.lifetime = lifetime ∧ opened.handle = handle
  | _ => False

/-- A handle reaches the run of the daemon that issued it, or finds no other flow's payload there. -/
def Readers.InTime (readers : Readers) : Event → Prop
  | .handle k => ∀ flow, readers.flows k = some flow → match flow.phase with
    | .reading opened _ => opened.lifetime = readers.lifetime ∨
        ∀ id, readers.handles.payloadHandles opened.handle = some id → id = flow.record
    | .closing opened => opened.lifetime = readers.lifetime ∨
        ∀ j other, readers.flows j = some other → ¬ other.Uses readers.lifetime opened.handle
    | _ => True
  | _ => True

def Flow.Holds (flow : Flow) (lifetime : Nat) (handle : UInt64) : Prop :=
  flow.Uses lifetime handle ∨ flow.Closes lifetime handle

def Flow.Sound (flow : Flow) : Prop :=
  match flow.phase with
  | .opening => flow.emitted = []
  | .reading _ offset => Shown services s flow.record flow.emitted offset ∧
      ∀ chunk lifetime, flow.answer = some (.ok (.other (.payloadChunk chunk)), lifetime) →
        ∃ bytes, Stores services s flow.record bytes ∧ chunk = chunkAnswer bytes offset chunkRequestBytes
  | _ => ∃ offset, Shown services s flow.record flow.emitted offset

/-- The handles of the running daemon are held by one flow each. -/
structure Readers.Kept (readers : Readers) : Prop where
  sound : ∀ k flow, readers.flows k = some flow → flow.Sound services s
  past : ∀ k flow lifetime handle, readers.flows k = some flow → flow.Holds lifetime handle →
    lifetime ≤ readers.lifetime
  issued : ∀ k flow handle, readers.flows k = some flow → flow.Holds readers.lifetime handle →
    handle.toNat < readers.handles.nextPayloadHandle.toNat
  distinct : ∀ j k other flow handle, readers.flows j = some other → readers.flows k = some flow →
    other.Holds readers.lifetime handle → flow.Holds readers.lifetime handle → j = k
  found : ∀ k flow handle, readers.flows k = some flow → flow.Uses readers.lifetime handle →
    readers.handles.payloadHandles handle = some flow.record

variable {services s} {readers : Readers} {k : Nat} {flow flow' : Flow}

theorem Flow.Sound.shown (sound : flow.Sound services s) :
    ∃ offset, Shown services s flow.record flow.emitted offset := by
  unfold Flow.Sound at sound
  cases phase : flow.phase with
  | opening =>
      rw [phase] at sound
      exact ⟨0, sound ▸ .start⟩
  | reading opened offset =>
      rw [phase] at sound
      exact ⟨offset, sound.1⟩
  | closing opened =>
      rw [phase] at sound
      exact sound
  | done =>
      rw [phase] at sound
      exact sound

theorem Readers.Kept.right (kept : readers.Kept services s) : readers.Right services s where
  shown k flow inUse := (kept.sound k flow inUse).shown
  kept k flow opened offset inUse phase current := by
    refine kept.found k flow opened.handle inUse ?_
    unfold Flow.Uses
    rw [phase]
    exact ⟨current, rfl⟩

theorem Readers.Kept.put (kept : readers.Kept services s) (handles : Handles) (sound : flow.Sound services s)
    (later : readers.handles.nextPayloadHandle.toNat ≤ handles.nextPayloadHandle.toNat)
    (past : ∀ lifetime handle, flow.Holds lifetime handle → lifetime ≤ readers.lifetime)
    (issued : ∀ handle, flow.Holds readers.lifetime handle → handle.toNat < handles.nextPayloadHandle.toNat)
    (distinct : ∀ handle, flow.Holds readers.lifetime handle → ∀ j other, j ≠ k → readers.flows j = some other →
      ¬ other.Holds readers.lifetime handle)
    (found : ∀ handle, flow.Uses readers.lifetime handle → handles.payloadHandles handle = some flow.record)
    (others : ∀ j other handle, j ≠ k → readers.flows j = some other → other.Uses readers.lifetime handle →
      handles.payloadHandles handle = some other.record) :
    ({ readers with handles }.put k flow).Kept services s := by
  have cases_of : ∀ j other, ({ readers with handles }.put k flow).flows j = some other →
      (j = k ∧ other = flow) ∨ (j ≠ k ∧ readers.flows j = some other) := by
    intro j other inUse
    by_cases same : j = k
    · subst same
      simp only [Readers.put, Function.update_self, Option.some.injEq] at inUse
      exact .inl ⟨rfl, inUse.symm⟩
    · simp only [Readers.put, Function.update_of_ne same] at inUse
      exact .inr ⟨same, inUse⟩
  refine ⟨fun j other inUse => ?_, fun j other lifetime handle inUse holds => ?_,
    fun j other handle inUse holds => ?_,
    fun i j first second handle inUse inUse' holds holds' => ?_, fun j other handle inUse uses => ?_⟩
  · rcases cases_of j other inUse with ⟨rfl, rfl⟩ | ⟨_, old⟩
    · exact sound
    · exact kept.sound j other old
  · rcases cases_of j other inUse with ⟨rfl, rfl⟩ | ⟨_, old⟩
    · exact past lifetime handle holds
    · exact kept.past j other lifetime handle old holds
  · rcases cases_of j other inUse with ⟨rfl, rfl⟩ | ⟨_, old⟩
    · exact issued handle holds
    · exact (kept.issued j other handle old holds).trans_le later
  · rcases cases_of i first inUse with ⟨rfl, rfl⟩ | ⟨apart, old⟩ <;>
      rcases cases_of j second inUse' with ⟨rfl, rfl⟩ | ⟨apart', old'⟩
    · rfl
    · exact absurd holds' (distinct handle holds j second apart' old')
    · exact absurd holds (distinct handle holds' i first apart old)
    · exact kept.distinct i j first second handle old old' holds holds'
  · rcases cases_of j other inUse with ⟨rfl, rfl⟩ | ⟨apart, old⟩
    · exact found handle uses
    · exact others j other handle apart old uses

theorem Readers.Kept.move (kept : readers.Kept services s) (inUse : readers.flows k = some flow)
    (record : flow'.record = flow.record) (sound : flow'.Sound services s)
    (uses : ∀ lifetime handle, flow'.Uses lifetime handle → flow.Uses lifetime handle)
    (closes : ∀ lifetime handle, flow'.Closes lifetime handle → flow.Holds lifetime handle) :
    (readers.put k flow').Kept services s := by
  have holds : ∀ lifetime handle, flow'.Holds lifetime handle → flow.Holds lifetime handle := by
    intro lifetime handle held
    rcases held with used | closed
    · exact .inl (uses lifetime handle used)
    · exact closes lifetime handle closed
  refine kept.put readers.handles sound (Nat.le_refl _)
    (fun lifetime handle held => kept.past k flow lifetime handle inUse (holds lifetime handle held))
    (fun handle held => kept.issued k flow handle inUse (holds _ handle held))
    (fun handle held j other apart inUse' held' =>
      apart (kept.distinct j k other flow handle inUse' inUse held' (holds _ handle held)))
    (fun handle used => ?_) (fun j other handle _ inUse' used => kept.found j other handle inUse' used)
  rw [record]
  exact kept.found k flow handle inUse (uses _ handle used)

theorem Readers.Kept.finish (kept : readers.Kept services s) (inUse : readers.flows k = some flow) :
    (readers.put k (flow.goTo .done)).Kept services s :=
  kept.move inUse rfl (kept.sound k flow inUse).shown (fun _ _ used => used.elim) fun _ _ closed => closed.elim

theorem Readers.Kept.failed (kept : readers.Kept services s) (inUse : readers.flows k = some flow) :
    (readers.put k flow.failed).Kept services s := by
  unfold Flow.failed
  cases phase : flow.phase with
  | opening => exact kept.finish inUse
  | reading opened offset =>
      refine kept.move inUse rfl (kept.sound k flow inUse).shown
        (fun _ _ used => used.elim) fun lifetime handle closed => ?_
      left
      unfold Flow.Uses
      rw [phase]
      exact closed
  | closing opened => exact kept.finish inUse
  | done =>
      exact kept.move inUse rfl (kept.sound k flow inUse) (fun _ _ used => used) fun _ _ closed => .inr closed

theorem long?_some {n : Nat} {number : UInt64} (read : long? n = some number) :
    n < 2 ^ 63 ∧ number = UInt64.ofNat n := by
  unfold long? at read
  by_cases small : n < 2 ^ 63
  · rw [if_pos small] at read
    exact ⟨small, (Option.some.inj read).symm⟩
  · rw [if_neg small] at read
    cases read

theorem Readers.Kept.opened (kept : readers.Kept services s) (inUse : readers.flows k = some flow)
    (phase : flow.phase = .opening) {payload : PayloadOpened} {lifetime : Nat} {handle : UInt64}
      (totalBytes : Nat)
    (answered : flow.answer = some (.ok (.payloadOpened payload), lifetime))
    (read : (payload.handle.bind fun handle => long? handle.toNat) = some handle) :
    (readers.put k (flow.goTo (.reading { handle, totalBytes, lifetime } 0))).Kept services s := by
  have sound := kept.sound k flow inUse
  obtain ⟨number, given, read⟩ := Option.bind_eq_some_iff.mp read
  obtain ⟨small, rfl⟩ := long?_some read
  rw [UInt64.ofNat_toNat]
  refine kept.move inUse rfl ⟨?_, fun _ _ answered => nomatch answered⟩ (fun lifetime' handle used => ?_)
    fun _ _ closed => closed.elim
  · unfold Flow.Sound at sound
    rw [phase] at sound
    rw [show (flow.goTo _).emitted = [] from sound]
    exact .start
  · obtain ⟨rfl, rfl⟩ := used
    unfold Flow.Uses
    rw [phase]
    exact ⟨payload, answered, given, small⟩

theorem Readers.Kept.emitted (kept : readers.Kept services s) (inUse : readers.flows k = some flow)
    {opened : Opened}
    {offset next : UInt64} (phase : flow.phase = .reading opened offset) {chunk : PayloadChunk} {lifetime : Nat}
    (answered : flow.answer = some (.ok (.other (.payloadChunk chunk)), lifetime))
    (read : long? chunk.nextOffset = some next) :
    (readers.put k ((flow.emit opened chunk).goTo (.closing opened))).Kept services s ∧
      (readers.put k ((flow.emit opened chunk).goTo (.reading opened next))).Kept services s := by
  have sound := kept.sound k flow inUse
  unfold Flow.Sound at sound
  rw [phase] at sound
  obtain ⟨bytes, stored, rfl⟩ := sound.2 chunk lifetime answered
  obtain ⟨small, rfl⟩ := long?_some read
  have shown := Shown.next opened.totalBytes sound.1 stored small
  have uses : ∀ lifetime handle, opened.lifetime = lifetime ∧ opened.handle = handle →
      flow.Uses lifetime handle := by
    intro lifetime handle held
    unfold Flow.Uses
    rw [phase]
    exact held
  constructor
  · exact kept.move inUse rfl ⟨_, shown⟩ (fun _ _ used => used.elim) fun lifetime handle closed =>
      .inl (uses lifetime handle closed)
  · exact kept.move inUse rfl ⟨shown, fun _ _ answered => nomatch answered⟩ uses fun _ _ closed => closed.elim

theorem Readers.Kept.received (kept : readers.Kept services s) (inUse : readers.flows k = some flow)
    {answer : Except WireError PayloadResponse × Nat} (answered : flow.answer = some answer) :
    (readers.put k (flow.received answer)).Kept services s := by
  obtain ⟨answer, lifetime⟩ := answer
  have failed := kept.failed inUse
  unfold Flow.received
  cases phase : flow.phase with
  | closing opened => exact failed
  | done => exact failed
  | opening => cases answer with
    | error error => exact failed
    | ok response => cases response with
      | other response => exact failed
      | closed => exact failed
      | payloadOpened payload =>
          cases read : payload.handle.bind fun handle => long? handle.toNat with
          | none =>
              simp only [read]
              exact failed
          | some handle => cases total : long? payload.totalBytes with
            | none =>
                simp only [read, total]
                exact failed
            | some total' =>
                simp only [read, total]
                exact kept.opened inUse phase payload.totalBytes answered read
  | reading opened offset => cases answer with
    | error error => exact failed
    | ok response => cases response with
      | closed => exact failed
      | payloadOpened payload => exact failed
      | other response => cases response with
        | payloadChunk chunk =>
            cases read : long? chunk.nextOffset with
            | none =>
                simp only [read]
                exact failed
            | some next =>
                obtain ⟨last, more⟩ := kept.emitted inUse phase answered read
                simp only [read]
                split
                · exact last
                · exact more
        | _ => exact failed

theorem toNat_saturatingAdd (n : UInt64) : (Handles.saturatingAdd n 1).toNat = min (n.toNat + 1)
    (2 ^ 64 - 1) := by
  have bounded : min (n.toNat + 1) (2 ^ 64 - 1) < 2 ^ 64 :=
    Nat.lt_of_le_of_lt (Nat.min_le_right _ _) (by decide)
  rw [Handles.saturatingAdd, UInt64.toNat_ofNat']
  exact Nat.mod_eq_of_lt bounded

theorem Readers.Kept.registered (kept : readers.Kept services s) (inUse : readers.flows k = some flow)
    (phase : flow.phase = .opening) {payload : PayloadOpened}
    (given : payload.handle = some readers.handles.nextPayloadHandle) :
    ({ readers with handles := (readers.handles.registerPayloadHandle flow.record).2 }.put k
      { flow with answer := some (.ok (.payloadOpened payload), readers.lifetime) }).Kept services s := by
  let flow' : Flow := { flow with answer := some (.ok (.payloadOpened payload), readers.lifetime) }
  have fresh : ∀ lifetime handle, flow'.Holds lifetime handle →
      lifetime = readers.lifetime ∧ handle = readers.handles.nextPayloadHandle ∧ handle.toNat < 2 ^ 63 := by
    intro lifetime handle held
    unfold Flow.Holds Flow.Uses Flow.Closes at held
    simp only [flow', phase, or_false] at held
    obtain ⟨opened, answered, named, small⟩ := held
    cases answered
    exact ⟨rfl, Option.some.inj (named.symm.trans given), small⟩
  have sound : flow'.Sound services s := by
    have sound := kept.sound k flow inUse
    unfold Flow.Sound at sound ⊢
    simp only [flow', phase] at sound ⊢
    exact sound
  have unheld : ∀ j other handle, readers.flows j = some other → other.Holds readers.lifetime handle →
      handle ≠ readers.handles.nextPayloadHandle := by
    rintro j other handle inUse' held rfl
    exact Nat.lt_irrefl _ (kept.issued j other _ inUse' held)
  have next : (readers.handles.registerPayloadHandle flow.record).2.nextPayloadHandle.toNat =
      min (readers.handles.nextPayloadHandle.toNat + 1) (2 ^ 64 - 1) := toNat_saturatingAdd _
  have bounded := readers.handles.nextPayloadHandle.toNat_lt
  refine kept.put _ sound ?_ (fun lifetime handle held => (fresh lifetime handle held).1.le)
    (fun handle held => ?_) (fun handle held j other _ inUse' held' => ?_) (fun handle used => ?_)
    fun j other handle _ inUse' used => ?_
  · rw [next]
    omega
  · obtain ⟨_, rfl, small⟩ := fresh _ handle held
    rw [next]
    omega
  · exact unheld j other handle inUse' held' (fresh _ handle held).2.1
  · obtain ⟨_, rfl, _⟩ := fresh _ handle (.inl used)
    exact Function.update_self ..
  · have old := kept.found j other handle inUse' used
    rw [← old]
    exact Function.update_of_ne (unheld j other handle inUse' (.inl used)) ..

theorem Readers.Kept.answered (kept : readers.Kept services s) (inUse : readers.flows k = some flow)
    {answer : Except WireError PayloadResponse}
      (opensNothing : ∀ payload, answer ≠ .ok (.payloadOpened payload))
    (lifetime : Nat) (sound : Flow.Sound services s { flow with answer := some (answer, lifetime) }) :
    (readers.put k { flow with answer := some (answer, lifetime) }).Kept services s := by
  refine kept.move inUse rfl sound (fun lifetime' handle used => ?_) fun _ _ closed => .inr closed
  unfold Flow.Uses at used ⊢
  cases phase : flow.phase with
  | opening =>
      simp only [phase] at used
      obtain ⟨payload, answered, _⟩ := used
      cases answered
      exact absurd rfl (opensNothing payload)
  | reading opened offset =>
      simp only [phase] at used
      exact used
  | closing opened =>
      simp only [phase] at used
  | done =>
      simp only [phase] at used

theorem Readers.Kept.closed (kept : readers.Kept services s) (inUse : readers.flows k = some flow)
    {opened : Opened} (phase : flow.phase = .closing opened)
    (inTime : opened.lifetime = readers.lifetime ∨
      ∀ j other, readers.flows j = some other → ¬ other.Uses readers.lifetime opened.handle) :
    ({ readers with handles := readers.handles.closePayload opened.handle }.put k
      { flow with answer := some (.ok .closed, readers.lifetime) }).Kept services s := by
  have sound := kept.sound k flow inUse
  unfold Flow.Sound at sound
  rw [phase] at sound
  have holds : ∀ lifetime handle,
      Flow.Holds { flow with answer := some (.ok .closed, readers.lifetime) } lifetime handle →
        flow.Holds lifetime handle := by
    intro lifetime handle held
    unfold Flow.Holds Flow.Uses Flow.Closes at held ⊢
    simp only [phase, false_or] at held ⊢
    exact held
  have unused : ∀ j other handle, j ≠ k → readers.flows j = some other → other.Uses readers.lifetime handle →
      handle ≠ opened.handle := by
    rintro j other handle apart inUse' used rfl
    rcases inTime with current | free
    · refine apart (kept.distinct j k other flow opened.handle inUse' inUse (.inl used) (.inr ?_))
      unfold Flow.Closes
      rw [phase]
      exact ⟨current, rfl⟩
    · exact free j other inUse' used
  refine kept.put _ ?_ (Nat.le_refl _)
    (fun lifetime handle held => kept.past k flow lifetime handle inUse (holds lifetime handle held))
    (fun handle held => kept.issued k flow handle inUse (holds _ handle held))
    (fun handle held j other apart inUse' held' =>
      apart (kept.distinct j k other flow handle inUse' inUse held' (holds _ handle held)))
    (fun handle used => ?_) fun j other handle apart inUse' used => ?_
  · unfold Flow.Sound
    simp only [phase]
    exact sound
  · unfold Flow.Uses at used
    simp only [phase] at used
  · rw [← kept.found j other handle inUse' used]
    exact Function.update_of_ne (unused j other handle apart inUse' used) ..

theorem Readers.Kept.handled (kept : readers.Kept services s) (inUse : readers.flows k = some flow)
    (inTime : readers.InTime (.handle k)) {request : PayloadRequest} (asked : flow.request = some request) :
    (readers.handle services s k flow request).Kept services s := by
  have inTime := inTime flow inUse
  have sound := kept.sound k flow inUse
  unfold Flow.Sound at sound
  unfold Flow.request at asked
  cases phase : flow.phase with
  | opening =>
      rw [phase] at asked sound
      cases asked
      unfold Readers.handle Handles.handleRequest
      rcases readers.handles.openPayloadFd_cases services s flow.record with
        ⟨error, answered⟩ | ⟨payload, given, answered⟩
      · simp only [answered]
        refine kept.answered inUse ?_ _ ?_
        · exact fun _ opens => by cases opens
        · unfold Flow.Sound
          simp only [phase]
          exact sound
      · simp only [answered]
        exact kept.registered inUse phase given
  | reading opened offset =>
      rw [phase] at asked sound inTime
      cases asked
      unfold Readers.handle
      simp only [Handles.handleRequest]
      refine kept.answered inUse (fun _ => Handles.readPayload_opensNothing) _ ?_
      unfold Flow.Sound
      simp only [phase]
      refine ⟨sound.1, fun chunk lifetime answered => ?_⟩
      cases answered' : readers.handles.readPayload services s opened.handle offset chunkRequestBytes with
      | error error =>
          rw [answered'] at answered
          cases answered
      | ok response =>
          rw [answered'] at answered
          cases answered
          obtain ⟨id, bytes, found, stored, rfl⟩ := Handles.readPayload_chunk answered'
          have own : id = flow.record := by
            rcases inTime with current | free
            · refine Option.some.inj (found.symm.trans (kept.found k flow opened.handle inUse ?_))
              unfold Flow.Uses
              rw [phase]
              exact ⟨current, rfl⟩
            · exact free id found
          exact ⟨bytes, own ▸ stored, rfl⟩
  | closing opened =>
      rw [phase] at asked inTime
      cases asked
      exact kept.closed inUse phase inTime
  | done =>
      rw [phase] at asked
      cases asked

theorem Readers.Kept.restarted (kept : readers.Kept services s) :
    Readers.Kept services s { readers with handles := {}, lifetime := readers.lifetime + 1 } := by
  have unheld : ∀ k flow handle, readers.flows k = some flow → ¬ flow.Holds (readers.lifetime + 1) handle :=
    fun k flow handle inUse held => Nat.not_succ_le_self _ (kept.past k flow _ handle inUse held)
  exact ⟨kept.sound, fun k flow lifetime handle inUse held =>
      (kept.past k flow lifetime handle inUse held).trans (Nat.le_succ _),
    fun k flow handle inUse held => absurd held (unheld k flow handle inUse),
    fun _ k _ flow handle _ inUse _ held => absurd held (unheld k flow handle inUse),
    fun k flow handle inUse used => absurd (.inl used) (unheld k flow handle inUse)⟩

theorem Readers.Kept.collected (kept : readers.Kept services s) (record : RecordId) :
    (readers.put k { record }).Kept services s := by
  have unheld : ∀ lifetime handle, ¬ Flow.Holds { record } lifetime handle := by
    rintro lifetime handle (⟨payload, answered, _⟩ | closed)
    · cases answered
    · exact closed
  exact kept.put readers.handles rfl (Nat.le_refl _)
    (fun lifetime handle held => absurd held (unheld lifetime handle))
    (fun handle held => absurd held (unheld _ handle)) (fun handle held => absurd held (unheld _ handle))
    (fun handle used => absurd (.inl used) (unheld _ handle))
    fun j other handle _ inUse used => kept.found j other handle inUse used

theorem Readers.Kept.step (kept : readers.Kept services s) {event : Event} (inTime : readers.InTime event) :
    (readers.step services s event).Kept services s := by
  cases event with
  | collect k record =>
      cases inUse : readers.flows k with
      | none =>
          simp only [Readers.step, inUse]
          exact kept.collected record
      | some flow =>
          simp only [Readers.step, inUse]
          exact kept
  | handle k =>
      cases inUse : readers.flows k with
      | none =>
          simp only [Readers.step, inUse]
          exact kept
      | some flow => cases asked : flow.request with
        | none =>
            simp only [Readers.step, inUse, asked]
            exact kept
        | some request =>
            simp only [Readers.step, inUse, asked]
            exact kept.handled inUse inTime asked
  | receive k =>
      cases inUse : readers.flows k with
      | none =>
          simp only [Readers.step, inUse]
          exact kept
      | some flow => cases answered : flow.answer with
        | none =>
            simp only [Readers.step, inUse, answered]
            exact kept
        | some answer =>
            simp only [Readers.step, inUse, answered]
            exact kept.received inUse answered
  | fail k =>
      cases inUse : readers.flows k with
      | none =>
          simp only [Readers.step, inUse]
          exact kept
      | some flow =>
          simp only [Readers.step, inUse]
          exact kept.failed inUse
  | cancel k cancelled =>
      cases inUse : readers.flows k with
      | none =>
          simp only [Readers.step, inUse]
          exact kept
      | some flow =>
          simp only [Readers.step, inUse, Flow.cancelled]
          cases cancelled with
          | true => exact kept.finish inUse
          | false => exact kept.failed inUse
  | restart => exact kept.restarted

theorem Readers.Kept.empty : Readers.Kept services s {} := by
  have idle : ∀ k flow, ({} : Readers).flows k ≠ some flow := fun _ _ inUse => by cases inUse
  exact ⟨fun k flow inUse => absurd inUse (idle k flow), fun k flow _ _ inUse => absurd inUse (idle k flow),
    fun k flow _ inUse => absurd inUse (idle k flow), fun _ k _ flow _ _ inUse => absurd inUse (idle k flow),
    fun k flow _ inUse => absurd inUse (idle k flow)⟩

/-- While every handle reaches the run of the daemon that issued it, or finds nobody else's payload there, every flow
shows its own record's text. -/
theorem payload_texts_right (services : Services) (s : StoreState) (events : List Event)
    (inTime : Run.Throughout (Readers.step services s) Readers.InTime {} events) :
    (Readers.run services s events).Right services s :=
  (inTime.foldl (Readers.Kept services s) (fun _ _ kept inTime => kept.step inTime) .empty).right

theorem Readers.lifetime_step (services : Services) (s : StoreState) (readers : Readers) {event : Event}
    (steady : event ≠ .restart) :
    (readers.step services s event).lifetime = readers.lifetime := by
  cases event with
  | collect k record => cases inUse : readers.flows k <;> simp only [Readers.step, inUse, Readers.put]
  | handle k => cases inUse : readers.flows k with
    | none => simp only [Readers.step, inUse]
    | some flow =>
        cases asked : flow.request <;> simp only [Readers.step, inUse, asked, Readers.handle, Readers.put]
  | receive k => cases inUse : readers.flows k with
    | none => simp only [Readers.step, inUse]
    | some flow => cases answered : flow.answer <;> simp only [Readers.step, inUse, answered, Readers.put]
  | fail k => cases inUse : readers.flows k <;> simp only [Readers.step, inUse, Readers.put]
  | cancel k cancelled => cases inUse : readers.flows k <;> simp only [Readers.step, inUse, Readers.put]
  | restart => exact absurd rfl steady

theorem Readers.Kept.inTime (kept : readers.Kept services s) (first : readers.lifetime = 0) (event : Event) :
    readers.InTime event := by
  cases event with
  | handle k =>
      intro flow inUse
      have current : ∀ lifetime handle, flow.Holds lifetime handle → lifetime = readers.lifetime := by
        intro lifetime handle held
        have past := kept.past k flow lifetime handle inUse held
        omega
      unfold Flow.Holds Flow.Uses Flow.Closes at current
      cases phase : flow.phase with
      | reading opened offset =>
          rw [phase] at current
          exact .inl (current opened.lifetime opened.handle (.inl ⟨rfl, rfl⟩))
      | closing opened =>
          rw [phase] at current
          exact .inl (current opened.lifetime opened.handle (.inr ⟨rfl, rfl⟩))
      | opening => trivial
      | done => trivial
  | collect k record => trivial
  | receive k => trivial
  | fail k => trivial
  | cancel k cancelled => trivial
  | restart => trivial

theorem inTime_of_no_restart (services : Services) (s : StoreState) (events : List Event)
    (steady : ∀ event ∈ events, event ≠ .restart) :
    Run.Throughout (Readers.step services s) Readers.InTime {} events := by
  have along : ∀ readers : Readers, readers.Kept services s → readers.lifetime = 0 →
      Run.Throughout (Readers.step services s) Readers.InTime readers events := by
    induction events with
    | nil => exact fun _ _ _ => trivial
    | cons event events ih =>
        intro readers kept first
        have inTime := kept.inTime first event
        have same := readers.lifetime_step services s (steady event List.mem_cons_self)
        exact ⟨inTime, ih (fun later member => steady later (List.mem_cons_of_mem _ member)) _
          (kept.step inTime) (same.trans first)⟩
  exact along {} .empty rfl

def secondId : RecordId := (storeWith [65]).newId 2

def twoPayloads : StoreState :=
  quietStep plainPlatform (storeWith [65])
    (.insert { oneByteCrash with happenedAtMs := 2, payload := .inline [66] } {} [] 0)

/-- The flow reads from the run of the daemon that issued its handle, or finds nothing there. -/
def Flow.reachesOwn (readers : Readers) (flow : Flow) : Bool :=
  match flow.phase with
  | .reading opened _ => opened.lifetime == readers.lifetime || (readers.handles.payloadHandles opened.handle).isNone
  | .closing opened => opened.lifetime == readers.lifetime
  | _ => true

theorem Readers.inTime_of_reachesOwn {readers : Readers} {k : Nat}
    (reaches : (readers.flows k).all (Flow.reachesOwn readers) = true) : readers.InTime (.handle k) := by
  intro flow inUse
  rw [inUse, Option.all_some, Flow.reachesOwn] at reaches
  cases phase : flow.phase with
  | reading opened offset =>
      rw [phase, Bool.or_eq_true, beq_iff_eq, Option.isNone_iff_eq_none] at reaches
      exact reaches.imp_right fun none id found => by cases none.symm.trans found
  | closing opened =>
      rw [phase, beq_iff_eq] at reaches
      exact .inl reaches
  | opening => trivial
  | done => trivial

def readInTurns : List Event :=
  [.collect 0 firstId, .collect 1 secondId, .handle 0, .handle 1, .receive 1, .receive 0, .handle 0, .receive 0]

/-- The daemon restarts under the second of them and opens its record anew for a third. -/
def readOverRestart : List Event :=
  readInTurns ++ [.restart, .handle 1, .receive 1, .collect 2 secondId, .handle 2, .receive 2, .handle 2,
    .receive 2]

theorem payload_texts_right_over_restart :
    (Readers.run plainServices twoPayloads readOverRestart).Right plainServices twoPayloads ∧
    ((Readers.run plainServices twoPayloads readOverRestart).flows 0).map Flow.emitted =
      some [⟨['A'], 1, 1, true⟩] ∧
    ((Readers.run plainServices twoPayloads readOverRestart).flows 1).map Flow.emitted = some [] ∧
    ((Readers.run plainServices twoPayloads readOverRestart).flows 2).map Flow.emitted =
      some [⟨['B'], 1, 1, true⟩] := by
  refine ⟨payload_texts_right plainServices twoPayloads _ ?_, by decide +kernel, by decide +kernel,
    by decide +kernel⟩
  refine ⟨trivial, trivial, ?_, ?_, trivial, trivial, ?_, trivial, trivial, ?_, trivial, trivial, ?_, trivial, ?_,
    trivial, trivial⟩ <;> exact Readers.inTime_of_reachesOwn (by decide +kernel)

def reopened : List Event :=
  [.collect 0 firstId, .handle 0, .receive 0, .restart, .collect 1 secondId, .handle 1, .receive 1]

theorem Shown.one {record : RecordId} {result : PayloadChunkResult} {offset : UInt64}
    (shown : Shown services s record [result] offset) :
    ∃ bytes totalBytes, Stores services s record bytes ∧
      result = resultOf totalBytes (chunkAnswer bytes 0 chunkRequestBytes) := by
  generalize single : [result] = results at shown
  cases shown with
  | start => cases single
  | @next earlier start bytes totalBytes before stored fits =>
      have alone : earlier = [] ∧ result = resultOf totalBytes (chunkAnswer bytes start chunkRequestBytes) := by
        cases earlier with
        | nil => exact ⟨rfl, (List.cons.inj single).1⟩
        | cons first rest => cases rest <;> cases single
      obtain ⟨rfl, rfl⟩ := alone
      generalize none' : [] = results at before
      cases before with
      | start => exact ⟨bytes, totalBytes, stored, rfl⟩
      | next => exact absurd none'.symm (List.append_ne_nil_of_right_ne_nil _ (List.cons_ne_nil _ _))

def Phase.source : Phase → Option (UInt64 × Nat)
  | .reading opened _ => some (opened.handle, opened.lifetime)
  | _ => none

/-- The first flow then shows the second record's text, or closes the handle that the second flow reads from. -/
theorem restart_crosses_texts :
    (∃ flow, (Readers.run plainServices twoPayloads (reopened ++ [.handle 0, .receive 0])).flows 0 = some flow ∧
      ∀ offset, ¬ Shown plainServices twoPayloads flow.record flow.emitted offset) ∧
    ∃ flow handle, let readers := Readers.run plainServices twoPayloads (reopened ++ [.fail 0, .handle 0])
      readers.flows 1 = some flow ∧ flow.phase.source = some (handle, readers.lifetime) ∧
        readers.handles.payloadHandles handle = none := by
  constructor
  · have emitted : ((Readers.run plainServices twoPayloads (reopened ++ [.handle 0, .receive 0])).flows 0).map
        (fun flow => (flow.record, flow.emitted)) = some (firstId, [⟨['B'], 1, 1, true⟩]) := by decide +kernel
    obtain ⟨flow, inUse, same⟩ := Option.map_eq_some_iff.mp emitted
    obtain ⟨record, results⟩ := Prod.mk.inj same
    refine ⟨flow, inUse, fun offset shown => ?_⟩
    rw [record, results] at shown
    obtain ⟨bytes, totalBytes, stored, result⟩ := shown.one
    have own : (readPayloadBytes plainServices.decodeAll firstId (quiet twoPayloads)).1 = .ok [65] := by
      decide +kernel
    rw [stored] at own
    cases own
    have text : (chunkAnswer [65] 0 chunkRequestBytes).text = ['A'] := by decide +kernel
    have crossed : ['B'] = (chunkAnswer [65] 0 chunkRequestBytes).text :=
      congrArg PayloadChunkResult.text result
    rw [text] at crossed
    cases crossed
  · have reads : ((Readers.run plainServices twoPayloads (reopened ++ [.fail 0, .handle 0])).flows 1).map
        (fun flow => flow.phase.source) = some (some (1, 1)) := by decide +kernel
    obtain ⟨flow, inUse, source⟩ := Option.map_eq_some_iff.mp reads
    exact ⟨flow, 1, inUse, source, by decide +kernel⟩

end
end CrashCatcher.Manager
