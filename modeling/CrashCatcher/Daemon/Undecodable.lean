import CrashCatcher.Daemon.Control

namespace CrashCatcher.Daemon
open Lib Model Wire

/-- A body as serde walks over it. -/
inductive Walked (ν : Type) where
  | object (members : List (Str × ν))
  | sequence (items : List ν)
  | scalar

/-- What `serde_json` makes of a body, of an unsigned integer and of a request. -/
structure EnvelopeSerde (ν ρ : Type) where
  walk : List UInt8 → Option (Walked ν)
  asU64 : ν → Option UInt64
  asRequest : ν → Option (ControlRequest ρ)

namespace EnvelopeSerde
variable {ν ρ : Type} (serde : EnvelopeSerde ν ρ)

def field (name : Str) (members : List (Str × ν)) : List ν :=
  (members.filter (·.1 = name)).map Prod.snd

/-- The derived `Deserialize` of `RequestEnvelope`. -/
def fromSlice (body : List UInt8) : Option (ControlEnvelope ρ) :=
  match serde.walk body with
  | some (.object members) => match field "seq".toList members, field "request".toList members with
    | [seq], [request] => do
        let seq ← serde.asU64 seq
        let request ← serde.asRequest request
        pure { seq, request }
    | _, _ => none
  | some (.sequence [seq, request]) => do
      let seq ← serde.asU64 seq
      let request ← serde.asRequest request
      pure { seq, request }
  | _ => none

def Undecodable (body : List UInt8) (seq : UInt64) : Prop :=
  ∃ members number request, serde.walk body = some (.object members) ∧
    field "seq".toList members = [number] ∧ serde.asU64 number = some seq ∧
    field "request".toList members = [request] ∧ serde.asRequest request = none

theorem Undecodable.fromSlice {serde : EnvelopeSerde ν ρ} {body : List UInt8} {seq : UInt64}
    (undecodable : serde.Undecodable body seq) : serde.fromSlice body = none := by
  obtain ⟨members, number, request, walked, seqField, number', requestField, failed⟩ := undecodable
  simp only [EnvelopeSerde.fromSlice, walked, seqField, requestField, number', failed]
  rfl

end EnvelopeSerde

theorem fromBeBytes_beBytes {n : Nat} (small : n < 0x100000000) : fromBeBytes (beBytes n) = n := by
  simp only [fromBeBytes, beBytes, List.foldl_cons, List.foldl_nil, UInt8.toNat_ofNat']
  omega

theorem decodeLength_beBytes {n : Nat} (fits : n ≤ maxFrameBodyBytes) : decodeLength (beBytes n) = .ok n := by
  have small : n < 0x100000000 := Nat.lt_of_le_of_lt fits (by decide)
  simp only [decodeLength, fromBeBytes_beBytes small]
  exact if_neg (Nat.not_lt.mpr fits)

theorem Incoming.readExact_append {incoming : Incoming} {front rest : List UInt8}
    (arrived : incoming.bytes = front ++ rest) :
    incoming.readExact front.length = .ok (front, { incoming with bytes := rest }) := by
  have enough : front.length ≤ incoming.bytes.length := by
    rw [arrived, List.length_append]
    exact Nat.le_add_right _ _
  rw [Incoming.readExact, if_pos enough, arrived, List.take_left, List.drop_left]

theorem readJsonFrame_frame {α : Type} {fromSlice : List UInt8 → Option α} {incoming : Incoming}
    {body rest : List UInt8} (fits : body.length ≤ maxFrameBodyBytes)
    (arrived : incoming.bytes = beBytes body.length ++ (body ++ rest)) :
    readJsonFrame fromSlice incoming = match fromSlice body with
      | none => .error .invalidData
      | some value => .ok (value, { incoming with bytes := rest }) := by
  have head : incoming.readExact lengthPrefixBytes = _ := Incoming.readExact_append arrived
  have tail : Incoming.readExact { incoming with bytes := body ++ rest } body.length = _ :=
    Incoming.readExact_append rfl
  simp only [readJsonFrame, head, bind, Except.bind, decodeLength_beBytes fits, tail]
  cases fromSlice body <;> rfl

namespace Control
variable {σ ρ ω ν : Type} (core : ControlCore σ ρ ω)

theorem rounds_ended {fromSlice : List UInt8 → Option (ControlEnvelope ρ)} {c : Control σ ρ ω}
    {result : Except IoError Unit} (ended : c.ended = some result) (n : Nat) :
      rounds core fromSlice n c = c := by
  induction n with
  | zero => rfl
  | succ n ih =>
      have same : c.round core fromSlice = c := by simp only [round, ended]
      rw [rounds, same, ih]

def RefusedAndServed (fromSlice : List UInt8 → Option (ControlEnvelope ρ)) (c : Control σ ρ ω)
    (seq : UInt64) : Prop :=
  ∃ (n : Nat) (error : WireError), (error.code = .invalidRequest ∨ error.code = .cursorInvalidated) ∧
    (rounds core fromSlice n c).ended = none ∧
    ∃ heard, (∀ answer fdAttached, .answered answer fdAttached ∉ heard) ∧
      (rounds core fromSlice n c).events = c.events ++ heard ++
        [.answered { seq, result := .error error } false]

variable {core}

theorem round_undecodable {serde : EnvelopeSerde ν ρ} {c : Control σ ρ ω} {body rest : List UInt8}
    {seq : UInt64} (open_ : c.ended = none) (undecodable : serde.Undecodable body seq)
    (fits : body.length ≤ maxFrameBodyBytes)
    (arrived : c.incoming.bytes = beBytes body.length ++ (body ++ rest)) :
    c.round core serde.fromSlice = c.finish (.error .invalidData) := by
  simp only [round, open_, readJsonFrame_frame fits arrived, undecodable.fromSlice]

theorem unserved {fromSlice : List UInt8 → Option (ControlEnvelope ρ)} {c : Control σ ρ ω} {error : IoError}
    (hungUp : c.round core fromSlice = c.finish (.error error)) (seq : UInt64) :
    ¬ RefusedAndServed core fromSlice c seq := by
  rintro ⟨n, refusal, -, served, heard, -, events⟩
  cases n with
  | zero =>
      have longer := congrArg List.length events
      simp only [rounds, List.length_append, List.length_singleton] at longer
      omega
  | succ n =>
      rw [rounds, hungUp, rounds_ended core rfl n] at served
      cases served

/-- Whatever was agreed, asked and answered before, a request that does not decode is never answered. -/
theorem undecodable_unanswered {serde : EnvelopeSerde ν ρ} {c : Control σ ρ ω} {body rest : List UInt8}
    {seq : UInt64} (open_ : c.ended = none) (undecodable : serde.Undecodable body seq)
    (fits : body.length ≤ maxFrameBodyBytes)
    (arrived : c.incoming.bytes = beBytes body.length ++ (body ++ rest)) :
    ¬ RefusedAndServed core serde.fromSlice c seq :=
  unserved (round_undecodable open_ undecodable fits arrived) seq

end Control

def hello : List (Str × Json) :=
  [("seq".toList, .num 1), ("request".toList, .obj [("method".toList, .str "handshake".toList),
    ("protocol_version".toList, .num 5), ("client_version".toList, .str "1.2".toList)])]

def unknownMethod : List (Str × Json) :=
  [("seq".toList, .num 2), ("request".toList, .obj [("method".toList, .str "pin_group".toList)])]

def handshakeSerde : EnvelopeSerde Json Unit where
  walk body :=
    if body = toVec (.obj hello) then some (.object hello)
    else if body = toVec (.obj unknownMethod) then some (.object unknownMethod)
    else none
  asU64
    | .num n => if 0 ≤ n ∧ n < 0x10000000000000000 then some (UInt64.ofNat n.toNat) else none
    | _ => none
  asRequest
    | .obj ((_, .str method) :: (_, .num version) :: _) =>
        if method = "handshake".toList ∧ 0 ≤ version ∧ version < 0x100000000 then
          some (.handshake version.toNat)
        else none
    | _ => none

def handshakeCore : ControlCore Unit Unit Nat where
  handshakeResponse version := version
  openPayloadFd _ state := (.error (.notFound []), state)
  handleOther _ state := (.ok 0, state)
  toVec answer := toVec (.obj [("seq".toList, .num answer.seq.toNat)])

def frame (members : List (Str × Json)) : List UInt8 :=
  beBytes (toVec (.obj members)).length ++ (toVec (.obj members) ++ [])

def upgraded : Control Unit Unit Nat :=
  Control.rounds handshakeCore handshakeSerde.fromSlice 1
    { core := (), incoming := { bytes := frame hello ++ frame unknownMethod, broken := false }
      writeFaults := fun _ => false }

theorem unknownMethod_undecodable : handshakeSerde.Undecodable (toVec (.obj unknownMethod)) 2 := by
  refine ⟨unknownMethod, .num 2, .obj [("method".toList, .str "pin_group".toList)], ?_, ?_, ?_, ?_, ?_⟩
  all_goals rfl

theorem upgraded_open : upgraded.ended = none := Option.isNone_iff_eq_none.mp (by decide +kernel)

theorem upgraded_arrived : upgraded.incoming.bytes = frame unknownMethod := by decide +kernel

theorem unknownMethod_fits : (toVec (.obj unknownMethod)).length ≤ maxFrameBodyBytes := by decide +kernel

theorem unknownMethod_unanswered :
    ¬ Control.RefusedAndServed handshakeCore handshakeSerde.fromSlice upgraded 2 :=
  Control.undecodable_unanswered upgraded_open unknownMethod_undecodable unknownMethod_fits upgraded_arrived

theorem unknownMethod_hangs_up :
    upgraded.agreed = true ∧ upgraded.ended = none ∧ upgraded.incoming.bytes = frame unknownMethod ∧
      handshakeSerde.Undecodable (toVec (.obj unknownMethod)) 2 ∧
      upgraded.round handshakeCore handshakeSerde.fromSlice = upgraded.finish (.error .invalidData) ∧
      ¬ Control.RefusedAndServed handshakeCore handshakeSerde.fromSlice upgraded 2 := by
  have agreed : upgraded.agreed = true := by decide +kernel
  have hungUp : upgraded.round handshakeCore handshakeSerde.fromSlice = upgraded.finish (.error .invalidData) :=
    Control.round_undecodable upgraded_open unknownMethod_undecodable unknownMethod_fits upgraded_arrived
  exact ⟨agreed, upgraded_open, upgraded_arrived, unknownMethod_undecodable, hungUp, Control.unserved hungUp 2⟩

end CrashCatcher.Daemon
