import CrashCatcher.Daemon.Exchange
import CrashCatcher.Daemon.Undecodable

namespace CrashCatcher.Daemon
open Lib Model Wire

namespace Control
variable {σ ρ ω : Type} {core : ControlCore σ ρ ω} {fromSlice : List UInt8 → Option (ControlEnvelope ρ)}

/-- A handshake of the daemon's version was read, acted on and answered with success. -/
def ShookHands (events : List (ControlEvent ρ ω)) : Prop :=
  ∃ earlier hello response later, hello.request.Agrees ∧ events = earlier ++
    [.received hello, .dispatched hello, .answered { seq := hello.seq, result := .ok response } false] ++ later

theorem ShookHands.append {events : List (ControlEvent ρ ω)} (shook : ShookHands events)
    (more : List (ControlEvent ρ ω)) : ShookHands (events ++ more) := by
  obtain ⟨earlier, hello, response, later, own, rfl⟩ := shook
  exact ⟨earlier, hello, response, later ++ more, own, List.append_assoc _ _ _⟩

structure HandshakeGated (c : Control σ ρ ω) : Prop where
  /-- Nothing but a handshake is acted on before a handshake has succeeded. -/
  gated : ∀ earlier event later, c.events = earlier ++ event :: later → event.Serves → ShookHands earlier
  /-- A first request that is no handshake of the daemon's version is answered and ends the connection. -/
  first : ∀ envelope later, c.events = .received envelope :: later → ¬ envelope.request.Agrees →
    (∃ error acted, later = acted ++ [.answered { seq := envelope.seq, result := .error error } false] ∧
      (acted = [] ∨ acted = [.dispatched envelope]) ∧ error.code = .versionMismatch ∧ c.ended = some (.ok ())) ∨
    (asked later = [] ∧ replied later = [] ∧ ∃ error, c.ended = some (.error error))
  /-- The answers are those of the requests in order; only a failed write leaves the last one out. -/
  paired : ∃ unanswered, asked c.events = replied c.events ++ unanswered ∧
    (unanswered = [] ∨ ∃ seq error, unanswered = [seq] ∧ c.ended = some (.error error))
  /-- A request is read once those before it are answered. -/
  turns : ∀ earlier envelope later, c.events = earlier ++ .received envelope :: later →
    asked earlier = replied earlier

structure InStep (c : Control σ ρ ω) : Prop where
  shook : c.agreed = true → ShookHands c.events
  silent : c.agreed = false → c.ended = none → c.events = []

section
variable {before after : Control σ ρ ω} {envelope : ControlEnvelope ρ} {acted reply : List (ControlEvent ρ ω)}

theorem split_append {α : Type} {front back earlier later : List α} {x : α}
    (same : front ++ back = earlier ++ x :: later) :
    (∃ rest, front = earlier ++ x :: rest) ∨ ∃ middle, earlier = front ++ middle ∧
      back = middle ++ x :: later := by
  rcases List.append_eq_append_iff.mp same with ⟨middle, rfl, back⟩ | ⟨rest, rfl, tail⟩
  · exact .inr ⟨middle, rfl, back⟩
  · cases rest with
    | nil => exact .inr ⟨[], by simp, tail.symm⟩
    | cons y rest =>
        cases tail
        exact .inl ⟨rest, rfl⟩

theorem Exchange.seqs (exchange : Exchange core fromSlice before after envelope acted reply) :
    asked (acted ++ reply) = [] ∧ replied acted = [] ∧
      (replied reply = [envelope.seq] ∨ (reply = [] ∧ ∃ error, after.ended = some (.error error))) := by
  have quiet : asked acted = [] ∧ replied acted = [] := by
    rcases exchange.acts with rfl | ⟨-, id, rfl⟩ | ⟨rfl, -⟩ <;> exact ⟨rfl, rfl⟩
  rcases exchange.answers with ⟨answer, fdAttached, rfl, seq, -⟩ | ⟨rfl, error, -⟩
  · refine ⟨?_, quiet.2, .inl (congrArg (fun seq => [seq]) seq)⟩
    rw [asked_append, quiet.1]
    rfl
  · refine ⟨?_, quiet.2, .inr ⟨rfl, error⟩⟩
    rw [List.append_nil]
    exact quiet.1

theorem Exchange.replies (exchange : Exchange core fromSlice before after envelope acted reply) :
    replied after.events = replied before.events ++ replied reply := by
  calc replied after.events
    _ = replied before.events ++ replied (acted ++ reply) := by
      rw [exchange.events, replied_append]
      rfl
    _ = replied before.events ++ replied reply := by
      rw [replied_append, exchange.seqs.2.1, List.nil_append]

theorem Exchange.not_received (exchange : Exchange core fromSlice before after envelope acted reply)
    (other : ControlEnvelope ρ) :
    .received other ∉ acted ++ reply := by
  intro member
  have listed : other.seq ∈ asked (acted ++ reply) := List.mem_filterMap.mpr ⟨_, member, rfl⟩
  rw [exchange.seqs.1] at listed
  cases listed

theorem Exchange.inStep (exchange : Exchange core fromSlice before after envelope acted reply)
    (inStep : InStep before) : InStep after := by
  refine ⟨fun agreed => ?_, fun unagreed open_ => ?_⟩
  · rw [exchange.events]
    rcases exchange.agrees agreed with already | ⟨own, rfl, response, rfl⟩
    · exact (inStep.shook already).append _
    · exact ⟨before.events, envelope, response, [], own, (List.append_nil _).symm⟩
  · cases unagreed.symm.trans (exchange.served open_)

theorem Exchange.agreed (exchange : Exchange core fromSlice before after envelope acted reply)
    {event : ControlEvent ρ ω} (member : event ∈ .received envelope :: (acted ++ reply))
    (serves : event.Serves) : before.agreed = true := by
  rcases List.mem_cons.mp member with rfl | member
  · exact serves.elim
  rcases List.mem_append.mp member with member | member
  · rcases exchange.acts with rfl | ⟨agreed, -⟩ | ⟨rfl, agreed | handshake⟩
    · cases member
    · exact agreed
    · exact agreed
    · obtain rfl := List.mem_singleton.mp member
      cases handshake.symm.trans serves
  · rcases exchange.answers with ⟨answer, fdAttached, rfl, -⟩ | ⟨rfl, -⟩
    · obtain rfl := List.mem_singleton.mp member
      exact serves.elim
    · cases member

theorem HandshakeGated.answered (gated : HandshakeGated before) (open_ : before.ended = none) :
    asked before.events = replied before.events := by
  obtain ⟨unanswered, same, rfl | ⟨seq, error, -, ended⟩⟩ := gated.paired
  · rw [same, List.append_nil]
  · cases open_.symm.trans ended

theorem Exchange.first (exchange : Exchange core fromSlice before after envelope acted reply)
    (inStep : InStep before) (empty : before.events = []) (foreign : ¬ envelope.request.Agrees) :
    (∃ error acted', acted ++ reply = acted' ++
      [.answered { seq := envelope.seq, result := .error error } false] ∧
      (acted' = [] ∨ acted' = [.dispatched envelope]) ∧ error.code = .versionMismatch ∧
      after.ended = some (.ok ())) ∨
    (asked (acted ++ reply) = [] ∧ replied (acted ++ reply) = [] ∧
      ∃ error, after.ended = some (.error error)) := by
  have unagreed : before.agreed = false := by
    cases agreed : before.agreed with
    | false => rfl
    | true =>
        obtain ⟨earlier, hello, response, later, -, events⟩ := inStep.shook agreed
        rw [empty] at events
        simp at events
  rcases exchange.refuses unagreed foreign with ⟨error, rfl, code, ended⟩ | ⟨rfl, error⟩
  · refine .inl ⟨error, acted, rfl, ?_, code, ended⟩
    rcases exchange.acts with none | ⟨agreed, -⟩ | ⟨dispatched, -⟩
    · exact .inl none
    · cases unagreed.symm.trans agreed
    · exact .inr dispatched
  · refine .inr ⟨exchange.seqs.1, ?_, error⟩
    rw [List.append_nil]
    exact exchange.seqs.2.1

theorem Exchange.gated (exchange : Exchange core fromSlice before after envelope acted reply)
    (inStep : InStep before) (gated : HandshakeGated before) : HandshakeGated after := by
  refine ⟨fun earlier event later same serves => ?_, fun other later same foreign => ?_, ?_,
    fun earlier other later same => ?_⟩
  · rw [exchange.events] at same
    rcases split_append same with ⟨rest, front⟩ | ⟨middle, rfl, back⟩
    · exact gated.gated earlier event rest front serves
    · have member : event ∈ .received envelope :: (acted ++ reply) := by
        rw [back]
        exact List.mem_append_right _ List.mem_cons_self
      exact (inStep.shook (exchange.agreed member serves)).append middle
  · rw [exchange.events] at same
    cases events : before.events with
    | nil =>
        rw [events] at same
        cases same
        exact exchange.first inStep events foreign
    | cons event rest =>
        rw [events] at same
        cases same
        rcases gated.first other rest events foreign with ⟨_, _, _, _, _, ended⟩ | ⟨_, _, _, ended⟩
        · cases exchange.open_.symm.trans ended
        · cases exchange.open_.symm.trans ended
  · obtain ⟨noneAsked, -, replied'⟩ := exchange.seqs
    have asks : asked after.events = replied before.events ++ [envelope.seq] := by
      rw [exchange.events, asked_append, gated.answered exchange.open_]
      exact congrArg (_ ++ envelope.seq :: ·) noneAsked
    rcases replied' with answered | ⟨rfl, error, ended⟩
    · exact ⟨[], by rw [asks, exchange.replies, answered, List.append_nil], .inl rfl⟩
    · refine ⟨[envelope.seq], ?_, .inr ⟨_, error, rfl, ended⟩⟩
      rw [asks, exchange.replies]
      exact congrArg (· ++ _) (List.append_nil _).symm
  · rw [exchange.events] at same
    rcases split_append same with ⟨rest, front⟩ | ⟨middle, rfl, back⟩
    · exact gated.turns earlier other rest front
    · cases middle with
      | nil =>
          rw [List.append_nil]
          exact gated.answered exchange.open_
      | cons event middle =>
          obtain ⟨-, tail⟩ := List.cons_eq_cons.mp back
          refine (exchange.not_received other ?_).elim
          rw [tail]
          exact List.mem_append_right _ List.mem_cons_self

end

theorem round_gated (core : ControlCore σ ρ ω) (fromSlice : List UInt8 → Option (ControlEnvelope ρ))
    (before : Control σ ρ ω) (inStep : InStep before) (gated : HandshakeGated before) :
    InStep (before.round core fromSlice) ∧ HandshakeGated (before.round core fromSlice) := by
  rcases round_cases core fromSlice before with
    ⟨-, same⟩ | ⟨open_, error, -, finished⟩ | ⟨envelope, acted, reply, exchange⟩
  · rw [same]
    exact ⟨inStep, gated⟩
  · rw [finished]
    refine ⟨⟨inStep.shook, fun _ => nofun⟩, gated.gated, fun other later same foreign => ?_, ?_, gated.turns⟩
    · rcases gated.first other later same foreign with ⟨_, _, _, _, _, ended⟩ | ⟨_, _, _, ended⟩
      · cases open_.symm.trans ended
      · cases open_.symm.trans ended
    · exact ⟨[], (gated.answered open_).trans (List.append_nil _).symm, .inl rfl⟩
  · exact ⟨exchange.inStep inStep, exchange.gated inStep gated⟩

/-- `incoming` starts with the frames of these requests; `rest` follows them. -/
inductive Carries (fromSlice : List UInt8 → Option (ControlEnvelope ρ)) :
    Incoming → List (ControlEnvelope ρ) → Incoming → Prop
  | none {incoming : Incoming} : Carries fromSlice incoming [] incoming
  | frame {incoming next rest : Incoming} {envelope : ControlEnvelope ρ}
      {envelopes : List (ControlEnvelope ρ)} (read : readJsonFrame fromSlice incoming = .ok (envelope, next))
      (more : Carries fromSlice next envelopes rest) : Carries fromSlice incoming (envelope :: envelopes) rest

theorem Carries.concat {incoming left rest : Incoming} {envelopes : List (ControlEnvelope ρ)}
    {envelope : ControlEnvelope ρ} (carries : Carries fromSlice incoming envelopes left)
    (read : readJsonFrame fromSlice left = .ok (envelope, rest)) :
    Carries fromSlice incoming (envelopes ++ [envelope]) rest := by
  induction carries with
  | none => exact .frame read .none
  | frame first _ ih => exact .frame first (ih read)

/-- Why a connection ends: no frame follows, its first request was refused, or an answer was not written. -/
inductive Ending (core : ControlCore σ ρ ω) (fromSlice : List UInt8 → Option (ControlEnvelope ρ))
    (writeFaults : Nat → Bool) (c : Control σ ρ ω) : Except IoError Unit → Prop
  | unread {error : IoError} (read : readJsonFrame fromSlice c.incoming = .error error)
      (answered : asked c.events = replied c.events) :
      Ending core fromSlice writeFaults c (if error = .unexpectedEof then .ok () else .error error)
  | refused {envelope : ControlEnvelope ρ} (only : requests c.events = [envelope])
      (foreign : ¬ envelope.request.Agrees) (answered : replied c.events = [envelope.seq]) :
      Ending core fromSlice writeFaults c (.ok ())
  | unwritten {earlier : List (ControlEnvelope ρ)} {envelope : ControlEnvelope ρ} {error : IoError}
      (last : requests c.events = earlier ++ [envelope])
      (answered : replied c.events = earlier.map ControlEnvelope.seq)
      (cause : Unwritten core (writeFaults earlier.length) envelope) :
      Ending core fromSlice writeFaults c (.error error)

/-- The requests that `n` rounds read are the frames that came, one a round while the connection is
open, and each of them is answered. -/
structure Paced (core : ControlCore σ ρ ω) (fromSlice : List UInt8 → Option (ControlEnvelope ρ))
    (incoming : Incoming) (writeFaults : Nat → Bool) (n : Nat) (c : Control σ ρ ω) : Prop where
  carries : Carries fromSlice incoming (requests c.events) c.incoming
  open_ : c.ended = none → (requests c.events).length = n ∧ asked c.events = replied c.events ∧
    c.writeFaults = fun i => writeFaults (i + n)
  ending : ∀ result, c.ended = some result → Ending core fromSlice writeFaults c result

section
variable {incoming : Incoming} {writeFaults : Nat → Bool} {n : Nat} {before after : Control σ ρ ω}
  {envelope : ControlEnvelope ρ} {acted reply : List (ControlEvent ρ ω)}

theorem Exchange.reads (exchange : Exchange core fromSlice before after envelope acted reply) :
    requests after.events = requests before.events ++ [envelope] := by
  have none : (requests (acted ++ reply)).map ControlEnvelope.seq = [] := by
    rw [← asked_eq_requests, exchange.seqs.1]
  rw [exchange.events, requests_append]
  exact congrArg (_ ++ envelope :: ·) (List.map_eq_nil_iff.mp none)

theorem Exchange.paced (exchange : Exchange core fromSlice before after envelope acted reply)
    (inStep : InStep before) (paced : Paced core fromSlice incoming writeFaults n before) :
    Paced core fromSlice incoming writeFaults (n + 1) after := by
  obtain ⟨length, paired, faults⟩ := paced.open_ exchange.open_
  have answered : replied before.events = (requests before.events).map ControlEnvelope.seq := by
    rw [← paired, asked_eq_requests]
  refine ⟨?_, fun open_ => ?_, fun result ended => ?_⟩
  · rw [exchange.reads]
    exact paced.carries.concat exchange.read
  · rcases exchange.answers with ⟨answer, fdAttached, rfl, seq, shifted⟩ | ⟨-, ⟨error, ended⟩, -⟩
    · refine ⟨?_, ?_, ?_⟩
      · rw [exchange.reads, List.length_append, length, List.length_singleton]
      · rw [asked_eq_requests, exchange.reads, exchange.replies, answered, List.map_append]
        exact congrArg (_ ++ [·]) seq.symm
      · rw [shifted, faults]
        funext i
        exact congrArg writeFaults (Nat.add_right_comm i 1 n)
    · cases open_.symm.trans ended
  · rcases exchange.answers with ⟨answer, fdAttached, rfl, seq, -⟩ | ⟨rfl, ⟨error, failed⟩, unwritten⟩
    · rcases exchange.closes (List.cons_ne_nil _ _) with open_ | ⟨unagreed, foreign, refused⟩
      · cases open_.symm.trans ended
      · -- Nothing was read before a first request that is refused.
        have empty : before.events = [] := inStep.silent unagreed exchange.open_
        cases refused.symm.trans ended
        refine .refused (?_ : _ = [envelope]) foreign ?_
        · rw [exchange.reads, empty]
          rfl
        · rw [exchange.replies, empty]
          exact congrArg ([·]) seq
    · cases failed.symm.trans ended
      refine .unwritten exchange.reads ?_ ?_
      · rw [exchange.replies, answered]
        exact List.append_nil _
      · have here : before.writeFaults 0 = writeFaults n := by
          rw [faults]
          exact congrArg writeFaults (Nat.zero_add n)
        rw [length, ← here]
        exact unwritten

theorem round_paced (inStep : InStep before)
    (paced : Paced core fromSlice incoming writeFaults n before) :
    Paced core fromSlice incoming writeFaults (n + 1) (before.round core fromSlice) := by
  rcases round_cases core fromSlice before with
    ⟨ended, same⟩ | ⟨open_, error, read, finished⟩ | ⟨envelope, acted, reply, exchange⟩
  · rw [same]
    exact ⟨paced.carries, fun open_ => absurd open_ ended, paced.ending⟩
  · rw [finished]
    refine ⟨paced.carries, nofun, fun result ended => ?_⟩
    cases ended
    exact .unread read (paced.open_ open_).2.1
  · exact exchange.paced inStep paced

end

theorem rounds_gated (incoming : Incoming) (writeFaults : Nat → Bool) (n k : Nat) (before : Control σ ρ ω)
    (inStep : InStep before) (gated : HandshakeGated before)
    (paced : Paced core fromSlice incoming writeFaults k before) :
    HandshakeGated (rounds core fromSlice n before) ∧
      Paced core fromSlice incoming writeFaults (k + n) (rounds core fromSlice n before) := by
  induction n generalizing k before with
  | zero => exact ⟨gated, paced⟩
  | succ n ih =>
      have paced' := round_paced inStep paced
      obtain ⟨inStep, gated⟩ := round_gated core fromSlice before inStep gated
      rw [← Nat.add_assoc, Nat.add_right_comm]
      exact ih (k + 1) _ inStep gated paced'

def moduleStatus : List (Str × Json) :=
  [("seq".toList, .num 2), ("request".toList, .obj [("method".toList, .str "module_status".toList)])]

def moduleSerde : EnvelopeSerde Json Unit where
  walk body :=
    if body = toVec (.obj hello) then some (.object hello)
    else if body = toVec (.obj moduleStatus) then some (.object moduleStatus)
    else none
  asU64 := handshakeSerde.asU64
  asRequest
    | .obj [(_, .str method)] => if method = "module_status".toList then some (.other ()) else none
    | request => handshakeSerde.asRequest request

def connection (frames : List UInt8) (n : Nat) : Control Unit Unit Nat :=
  rounds handshakeCore moduleSerde.fromSlice n
    { core := (), incoming := { bytes := frames, broken := false }, writeFaults := fun _ => false }

def Kept (frames : List UInt8) (n : Nat) : Prop :=
  HandshakeGated (connection frames n) ∧ Paced handshakeCore moduleSerde.fromSlice
    { bytes := frames, broken := false } (fun _ => false) n (connection frames n)

end Control
end CrashCatcher.Daemon
