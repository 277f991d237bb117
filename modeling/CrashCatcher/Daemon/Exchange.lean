import CrashCatcher.Daemon.Control

namespace CrashCatcher.Daemon
open Lib Model Wire

def ControlRequest.Agrees {ρ : Type} : ControlRequest ρ → Prop
  | .handshake requested => requested = protocolVersion
  | _ => False

namespace ControlEvent
variable {ρ ω : Type}

def Serves : ControlEvent ρ ω → Prop
  | .dispatched envelope => envelope.request.requiresHandshake = true
  | .opened _ => True
  | _ => False

def askedSeq : ControlEvent ρ ω → Option UInt64
  | .received envelope => some envelope.seq
  | _ => none

def request : ControlEvent ρ ω → Option (ControlEnvelope ρ)
  | .received envelope => some envelope
  | _ => none

def answeredSeq : ControlEvent ρ ω → Option UInt64
  | .answered answer _ => some answer.seq
  | _ => none

end ControlEvent

namespace Control
variable {σ ρ ω : Type} {core : ControlCore σ ρ ω} {fromSlice : List UInt8 → Option (ControlEnvelope ρ)}

def asked (events : List (ControlEvent ρ ω)) : List UInt64 := events.filterMap ControlEvent.askedSeq
def replied (events : List (ControlEvent ρ ω)) : List UInt64 := events.filterMap ControlEvent.answeredSeq

@[simp]
theorem asked_append (events more : List (ControlEvent ρ ω)) :
    asked (events ++ more) = asked events ++ asked more :=
  List.filterMap_append

@[simp]
theorem replied_append (events more : List (ControlEvent ρ ω)) :
    replied (events ++ more) = replied events ++ replied more :=
  List.filterMap_append

def requests (events : List (ControlEvent ρ ω)) : List (ControlEnvelope ρ) :=
  events.filterMap ControlEvent.request

@[simp]
theorem requests_append (events more : List (ControlEvent ρ ω)) :
    requests (events ++ more) = requests events ++ requests more :=
  List.filterMap_append

theorem asked_eq_requests (events : List (ControlEvent ρ ω)) :
    asked events = (requests events).map ControlEnvelope.seq := by
  rw [asked, requests, List.map_filterMap]
  congr 1
  funext event
  cases event <;> rfl

inductive Gives (core : ControlCore σ ρ ω) (envelope : ControlEnvelope ρ) : ControlAnswer ω → Prop
  | required : Gives core envelope (handshakeRequired envelope.seq)
  | dispatched (state : σ) : Gives core envelope (core.dispatch envelope state).1
  | opened {id : RecordId} (asked : envelope.request = .openPayload id) (state : σ) :
      Gives core envelope { seq := envelope.seq, result := (core.openPayloadFd id state).1 }

def Unwritten (core : ControlCore σ ρ ω) (writeFault : Bool) (envelope : ControlEnvelope ρ) : Prop :=
  writeFault = true ∨
    ∃ answer error, Gives core envelope answer ∧ encodeFrame (core.toVec answer) = .error error

/-- What one round with a request does: it may act on it, and it answers it or ends with an error. -/
structure Exchange (core : ControlCore σ ρ ω) (fromSlice : List UInt8 → Option (ControlEnvelope ρ))
    (before after : Control σ ρ ω) (envelope : ControlEnvelope ρ) (acted reply : List (ControlEvent ρ ω)) :
    Prop where
  open_ : before.ended = none
  read : readJsonFrame fromSlice before.incoming = .ok (envelope, after.incoming)
  events : after.events = before.events ++ .received envelope :: (acted ++ reply)
  acts : acted = [] ∨ (before.agreed = true ∧ ∃ id, acted = [.opened id]) ∨
    (acted = [.dispatched envelope] ∧ (before.agreed = true ∨ envelope.request.requiresHandshake = false))
  answers : (∃ answer fdAttached, reply = [.answered answer fdAttached] ∧ answer.seq = envelope.seq ∧
      after.writeFaults = fun n => before.writeFaults (n + 1)) ∨
    (reply = [] ∧ (∃ error, after.ended = some (.error error)) ∧
      Unwritten core (before.writeFaults 0) envelope)
  agrees : after.agreed = true → before.agreed = true ∨
    (envelope.request.Agrees ∧ acted = [.dispatched envelope] ∧
    ∃ response, reply = [.answered { seq := envelope.seq, result := .ok response } false])
  refuses : before.agreed = false → ¬ envelope.request.Agrees →
    (∃ error, reply = [.answered { seq := envelope.seq, result := .error error } false] ∧
      error.code = .versionMismatch ∧ after.ended = some (.ok ())) ∨
    (reply = [] ∧ ∃ error, after.ended = some (.error error))
  served : after.ended = none → after.agreed = true
  closes : reply ≠ [] → after.ended = none ∨
    (before.agreed = false ∧ ¬ envelope.request.Agrees ∧ after.ended = some (.ok ()))

inductive Written (core : ControlCore σ ρ ω) (before : Control σ ρ ω) (answer : ControlAnswer ω)
    (fdAttached : Bool) (next : Control σ ρ ω → Control σ ρ ω) : Control σ ρ ω → Prop
  | failed {after : Control σ ρ ω} {error : IoError} (events : after.events = before.events)
      (incoming : after.incoming = before.incoming) (agreed : after.agreed = before.agreed)
      (ended : after.ended = some (.error error))
      (cause : before.writeFaults 0 = true ∨ ∃ error, encodeFrame (core.toVec answer) = .error error) :
      Written core before answer fdAttached next after
  | sent {written : Control σ ρ ω} (events : written.events = before.events ++ [.answered answer fdAttached])
      (incoming : written.incoming = before.incoming) (agreed : written.agreed = before.agreed)
      (ended : written.ended = before.ended)
      (writeFaults : written.writeFaults = fun n => before.writeFaults (n + 1)) :
      Written core before answer fdAttached next (next written)

theorem write_written (before : Control σ ρ ω) (answer : ControlAnswer ω) (fdAttached : Bool)
    (next : Control σ ρ ω → Control σ ρ ω) :
    Written core before answer fdAttached next (before.write core answer fdAttached next) := by
  unfold write
  cases encoded : encodeFrame (core.toVec answer) with
  | error error => exact .failed rfl rfl rfl rfl (.inr ⟨error, encoded⟩)
  | ok frame =>
      cases fault : before.writeFaults 0 with
      | true => exact .failed rfl rfl rfl rfl (.inl fault)
      | false => exact .sent rfl rfl rfl rfl rfl

theorem dispatch_seq (envelope : ControlEnvelope ρ) (state : σ) :
    (core.dispatch envelope state).1.seq = envelope.seq := by
  unfold ControlCore.dispatch
  split
  · split <;> rfl
  · rfl

theorem dispatch_handshake (core : ControlCore σ ρ ω) (envelope : ControlEnvelope ρ) {requested : Nat}
    (handshake : envelope.request = .handshake requested) (state : σ) :
    (requested = protocolVersion ∧ ∃ response,
        core.dispatch envelope state = ({ seq := envelope.seq, result := .ok response }, state)) ∨
      (requested ≠ protocolVersion ∧ ∃ error : WireError, error.code = .versionMismatch ∧
        core.dispatch envelope state = ({ seq := envelope.seq, result := .error error }, state)) := by
  unfold ControlCore.dispatch
  rw [handshake]
  by_cases same : requested = protocolVersion
  · simp only [same, ne_eq, not_true_eq_false, if_false]
    exact .inl ⟨trivial, _, rfl⟩
  · simp only [ne_eq, same, not_false_eq_true, if_true]
    exact .inr ⟨trivial, _, rfl, rfl⟩

def heard (before : Control σ ρ ω) (envelope : ControlEnvelope ρ) (incoming : Incoming) : Control σ ρ ω :=
  { before.record (.received envelope) with incoming }

structure Begun (before start : Control σ ρ ω) (envelope : ControlEnvelope ρ) (incoming : Incoming)
    (acted : List (ControlEvent ρ ω)) : Prop where
  events : start.events = before.events ++ .received envelope :: acted
  incoming : start.incoming = incoming
  agreed : start.agreed = before.agreed
  ended : start.ended = before.ended
  writeFaults : start.writeFaults = before.writeFaults

structure Silent (next : Control σ ρ ω → Control σ ρ ω) : Prop where
  events : ∀ written, (next written).events = written.events
  incoming : ∀ written, (next written).incoming = written.incoming
  writeFaults : ∀ written, (next written).writeFaults = written.writeFaults

theorem write_exchange {before start : Control σ ρ ω} {envelope : ControlEnvelope ρ} {incoming : Incoming}
    {acted : List (ControlEvent ρ ω)} {answer : ControlAnswer ω} {fdAttached : Bool}
    {next : Control σ ρ ω → Control σ ρ ω} (open_ : before.ended = none)
    (read : readJsonFrame fromSlice before.incoming = .ok (envelope, incoming))
    (begun : Begun before start envelope incoming acted) (gives : Gives core envelope answer)
    (seq : answer.seq = envelope.seq)
    (acts : acted = [] ∨ (before.agreed = true ∧ ∃ id, acted = [.opened id]) ∨
      (acted = [.dispatched envelope] ∧ (before.agreed = true ∨ envelope.request.requiresHandshake = false)))
    (silent : Silent next)
    (agrees : ∀ written, (next written).agreed = true → written.agreed = true ∨ (envelope.request.Agrees ∧
      acted = [.dispatched envelope] ∧ fdAttached = false ∧ ∃ response, answer.result = .ok response))
    (refuses : before.agreed = false → ¬ envelope.request.Agrees → fdAttached = false ∧
      (∃ error, answer.result = .error error ∧ error.code = .versionMismatch) ∧
      ∀ written, (next written).ended = some (.ok ()))
    (served : ∀ written, written.agreed = before.agreed → (next written).ended = none →
      (next written).agreed = true)
    (closes : ∀ written, (next written).ended = written.ended ∨
      (before.agreed = false ∧ ¬ envelope.request.Agrees ∧ (next written).ended = some (.ok ()))) :
    ∃ reply, Exchange core fromSlice before (start.write core answer fdAttached next) envelope acted
      reply := by
  obtain ⟨seq', result⟩ := answer
  obtain rfl : seq' = envelope.seq := seq
  have written : Written core start { seq := envelope.seq, result } fdAttached next
      (start.write core _ _ _) :=
    write_written start { seq := envelope.seq, result } fdAttached next
  generalize start.write core { seq := envelope.seq, result } fdAttached next = after at written ⊢
  cases written with
  | failed events incoming' agreed ended cause =>
      have unwritten : Unwritten core (before.writeFaults 0) envelope := by
        rcases cause with fault | ⟨error, oversized⟩
        · exact .inl (begun.writeFaults ▸ fault)
        · exact .inr ⟨_, error, gives, oversized⟩
      refine ⟨[], open_, ?_, ?_, acts, .inr ⟨rfl, ⟨_, ended⟩, unwritten⟩, fun now => ?_,
        fun _ _ => .inr ⟨rfl, _, ended⟩, fun none => (by cases none.symm.trans ended),
        fun sent => absurd rfl sent⟩
      · rw [read, incoming', begun.incoming]
      · rw [events, begun.events, List.append_nil]
      · exact .inl (begun.agreed ▸ agreed ▸ now)
  | @sent written events incoming' agreed ended writeFaults =>
      refine ⟨[.answered { seq := envelope.seq, result } fdAttached], open_, ?_, ?_, acts,
        .inl ⟨_, _, rfl, rfl, ?_⟩, fun now => ?_, fun unagreed foreign => ?_,
        served written (agreed.trans begun.agreed), fun _ => ?_⟩
      · rw [read, silent.incoming, incoming', begun.incoming]
      · rw [silent.events, events, begun.events]
        exact List.append_assoc _ _ _
      · rw [silent.writeFaults, writeFaults, begun.writeFaults]
      · rcases agrees written now with already | ⟨own, dispatched, rfl, response, rfl⟩
        · exact .inl (begun.agreed ▸ agreed ▸ already)
        · exact .inr ⟨own, dispatched, response, rfl⟩
      · obtain ⟨rfl, ⟨error, rfl, code⟩, ended⟩ := refuses unagreed foreign
        exact .inl ⟨error, rfl, code, ended written⟩
      · rcases closes written with same | refused
        · exact .inl (same.trans (ended.trans (begun.ended.trans open_)))
        · exact .inr refused

theorem negotiate_exchange {before : Control σ ρ ω} (open_ : before.ended = none)
    (unagreed : before.agreed = false) {envelope : ControlEnvelope ρ} {incoming : Incoming}
    (read : readJsonFrame fromSlice before.incoming = .ok (envelope, incoming)) :
    ∃ acted reply, Exchange core fromSlice before
      ((before.heard envelope incoming).negotiate core envelope) envelope acted reply := by
  unfold negotiate
  obtain ⟨seq, request⟩ := envelope
  have refused : ¬ request.Agrees →
      ∃ reply, Exchange core fromSlice before ((before.heard ⟨seq, request⟩ incoming).write core
        (handshakeRequired seq) false fun self => self.finish (.ok ())) ⟨seq, request⟩ [] reply := fun foreign =>
    write_exchange open_ read ⟨rfl, rfl, rfl, rfl, rfl⟩ .required rfl (.inl rfl)
      ⟨fun _ => rfl, fun _ => rfl, fun _ => rfl⟩ (fun _ now => .inl now)
      (fun _ _ => ⟨rfl, ⟨_, rfl, rfl⟩, fun _ => rfl⟩) (fun _ _ => nofun)
      fun _ => .inr ⟨unagreed, foreign, rfl⟩
  cases request with
  | openPayload id => exact ⟨[], refused fun never => never⟩
  | other request => exact ⟨[], refused fun never => never⟩
  | handshake requested =>
      refine ⟨[.dispatched ⟨seq, .handshake requested⟩], ?_⟩
      rw [if_neg (by simp [ControlRequest.requiresHandshake])]
      have gives : Gives core ⟨seq, .handshake requested⟩ (core.dispatch _ before.core).1 :=
        .dispatched before.core
      rcases dispatch_handshake core ⟨seq, .handshake requested⟩ rfl before.core with
        ⟨own, response, answered⟩ | ⟨foreign, error, code, answered⟩
      · rw [answered] at gives
        have answered : core.dispatch ⟨seq, .handshake requested⟩
            (before.heard ⟨seq, .handshake requested⟩ incoming).core = _ := answered
        rw [answered]
        refine write_exchange open_ read ⟨List.append_assoc _ _ _, rfl, rfl, rfl, rfl⟩ gives rfl
          (.inr (.inr ⟨rfl, .inr rfl⟩)) ⟨fun _ => rfl, fun _ => rfl, fun _ => rfl⟩
          (fun _ _ => .inr ⟨own, rfl, rfl, response, rfl⟩)
          (fun _ foreign => absurd own foreign) (fun _ _ _ => rfl) fun _ => .inl rfl
      · rw [answered] at gives
        have answered : core.dispatch ⟨seq, .handshake requested⟩
            (before.heard ⟨seq, .handshake requested⟩ incoming).core = _ := answered
        rw [answered]
        refine write_exchange open_ read ⟨List.append_assoc _ _ _, rfl, rfl, rfl, rfl⟩ gives rfl
          (.inr (.inr ⟨rfl, .inr rfl⟩)) ⟨fun _ => rfl, fun _ => rfl, fun _ => rfl⟩
          (fun _ now => .inl now) (fun _ _ => ⟨rfl, ⟨error, rfl, code⟩, fun _ => rfl⟩) (fun _ _ => nofun)
          fun _ => .inr ⟨unagreed, foreign, rfl⟩

theorem serve_exchange {before : Control σ ρ ω} (open_ : before.ended = none) (agreed : before.agreed = true)
    {envelope : ControlEnvelope ρ} {incoming : Incoming}
    (read : readJsonFrame fromSlice before.incoming = .ok (envelope, incoming)) :
    ∃ acted reply, Exchange core fromSlice before ((before.heard envelope incoming).serve core envelope)
      envelope acted reply := by
  have refuses : before.agreed = false → False := fun without => by cases agreed.symm.trans without
  have dispatches : ∃ reply, Exchange core fromSlice before
      ({ (before.heard envelope incoming).record (.dispatched envelope) with
          core := (core.dispatch envelope before.core).2 }.write core
            (core.dispatch envelope before.core).1 false
        fun self => self) envelope [.dispatched envelope] reply :=
    write_exchange open_ read ⟨List.append_assoc _ _ _, rfl, rfl, rfl, rfl⟩ (.dispatched before.core)
      (dispatch_seq envelope before.core) (.inr (.inr ⟨rfl, .inl agreed⟩))
      ⟨fun _ => rfl, fun _ => rfl, fun _ => rfl⟩ (fun _ now => .inl now)
      (fun unagreed => (refuses unagreed).elim) (fun _ same _ => same.trans agreed) fun _ => .inl rfl
  unfold serve
  obtain ⟨seq, request⟩ := envelope
  cases request with
  | handshake requested => exact ⟨_, dispatches⟩
  | other request => exact ⟨_, dispatches⟩
  | openPayload id =>
      have opens : ∀ (result : Except WireError ω) (state : σ) (fdAttached : Bool),
          Gives core ⟨seq, .openPayload id⟩ { seq, result } → ∃ reply, Exchange core fromSlice before
          ({ (before.heard ⟨seq, .openPayload id⟩ incoming).record (.opened id) with core := state }.write core
            { seq, result } fdAttached fun self => self) ⟨seq, .openPayload id⟩ [.opened id] reply :=
        fun _ _ _ gives => write_exchange open_ read ⟨List.append_assoc _ _ _, rfl, rfl, rfl, rfl⟩ gives rfl
          (.inr (.inl ⟨agreed, id, rfl⟩)) ⟨fun _ => rfl, fun _ => rfl, fun _ => rfl⟩
          (fun _ now => .inl now) (fun unagreed => (refuses unagreed).elim)
          (fun _ same _ => same.trans agreed) fun _ => .inl rfl
      refine ⟨[.opened id], ?_⟩
      have gives : Gives core ⟨seq, .openPayload id⟩ { seq, result := (core.openPayloadFd id before.core).1 } :=
        .opened rfl before.core
      rcases answered : core.openPayloadFd id (before.heard ⟨seq, .openPayload id⟩ incoming).core with
        ⟨result, state⟩
      have result_eq : (core.openPayloadFd id before.core).1 = result := congrArg Prod.fst answered
      rw [result_eq] at gives
      simp only [answered]
      cases result with
      | ok response => exact opens (.ok response) state true gives
      | error error => exact opens (.error error) state false gives

theorem round_cases (core : ControlCore σ ρ ω) (fromSlice : List UInt8 → Option (ControlEnvelope ρ))
    (before : Control σ ρ ω) :
    (before.ended ≠ none ∧ before.round core fromSlice = before) ∨
      (before.ended = none ∧ ∃ error, readJsonFrame fromSlice before.incoming = .error error ∧
        before.round core fromSlice =
          before.finish (if error = .unexpectedEof then .ok () else .error error)) ∨
      ∃ envelope acted reply,
        Exchange core fromSlice before (before.round core fromSlice) envelope acted reply := by
  unfold round
  cases open_ : before.ended with
  | some result => exact .inl ⟨nofun, rfl⟩
  | none =>
      refine .inr ?_
      cases read : readJsonFrame fromSlice before.incoming with
      | error error =>
          refine .inl ⟨rfl, error, rfl, ?_⟩
          cases error <;> rfl
      | ok read' =>
          obtain ⟨envelope, incoming⟩ := read'
          refine .inr ⟨envelope, ?_⟩
          show ∃ acted reply, Exchange core fromSlice before
            (if before.agreed then (before.heard envelope incoming).serve core envelope
            else (before.heard envelope incoming).negotiate core envelope) envelope acted reply
          cases agreed : before.agreed with
          | true => exact serve_exchange open_ agreed read
          | false => exact negotiate_exchange open_ agreed read

end Control
end CrashCatcher.Daemon
