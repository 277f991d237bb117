import CrashCatcher.Manager.Client

namespace CrashCatcher.Manager
open Lib Wire

namespace DaemonClient
variable {ρ ω δ : Type} {protocol : Protocol ρ ω δ} {client after : DaemonClient ρ δ} {request : ρ} {own : Bool}

def Wrote (k : Nat) (client after : DaemonClient ρ δ) : Prop :=
  ∃ writes, after.writes = client.writes ++ writes ∧ (writes.filter (·.own)).length ≤ k

theorem Wrote.none {k : Nat} (same : after.writes = client.writes) : Wrote k client after :=
  ⟨[], same.trans (List.append_nil _).symm, Nat.zero_le k⟩

theorem Wrote.trans {j k : Nat} {last : DaemonClient ρ δ} (first : Wrote j client after)
    (next : Wrote k after last) :
    Wrote (j + k) client last := by
  obtain ⟨early, wrote, few⟩ := first
  obtain ⟨late, wrote', few'⟩ := next
  refine ⟨early ++ late, by rw [wrote', wrote, List.append_assoc], ?_⟩
  rw [List.filter_append, List.length_append]
  exact Nat.add_le_add few few'

theorem Wrote.mono {j k : Nat} (wrote : Wrote j client after) (le : j ≤ k) : Wrote k client after := by
  obtain ⟨writes, same, few⟩ := wrote
  exact ⟨writes, same, few.trans le⟩

/-- The requests on the channel in use are numbered apart, below the next number. -/
structure Sound (c : DaemonClient ρ δ) : Prop where
  below : ∀ n ∈ c.channel, ∀ sent ∈ (c.channels n).sent, sent.seq < c.nextSeq
  distinct : ∀ n ∈ c.channel, ((c.channels n).sent.map Sent.seq).Nodup

/-- The reply is the daemon's answer to the request, which was written last, on the channel in use. -/
def Answered (protocol : Protocol ρ ω δ) (request : ρ) (own : Bool) (reply : DaemonReply ω δ)
    (before after : DaemonClient ρ δ) : Prop :=
  ∃ writes n position, after.channel = some n ∧
    after.writes = before.writes ++ (writes ++ [⟨n, position, request, own⟩]) ∧
    (protocol.answer n position request).body = some (some reply.response, none) ∧
    (protocol.answer n position request).fileDescriptors = reply.fileDescriptors

theorem Answered.since {k : Nat} {last : DaemonClient ρ δ} {reply : DaemonReply ω δ}
    (wrote : Wrote k client after)
    (answered : Answered protocol request own reply after last) :
      Answered protocol request own reply client last := by
  obtain ⟨early, wrote, _⟩ := wrote
  obtain ⟨late, n, position, channel, wrote', answer⟩ := answered
  refine ⟨early ++ late, n, position, channel, ?_, answer⟩
  rw [wrote', wrote]
  simp only [List.append_assoc]

structure Exchanged (own : Bool) (before c : DaemonClient ρ δ) : Prop where
  sound : Sound c
  channel : c.channel = before.channel
  wrote : Wrote own.toNat before c

structure Started (before : DaemonClient ρ δ) (active : Nat) (c : DaemonClient ρ δ) : Prop where
  channel : c.channel = some active
  nextSeq : c.nextSeq = before.nextSeq + 1
  channels : c.channels = before.channels
  writes : c.writes = before.writes

structure Asked (before : DaemonClient ρ δ) (active : Nat) (request : ρ) (own : Bool) (c : DaemonClient ρ δ) :
    Prop where
  channel : c.channel = some active
  nextSeq : c.nextSeq = before.nextSeq + 1
  sent : (c.channels active).sent = (before.channels active).sent ++ [⟨before.nextSeq, request⟩]
  writes : c.writes = before.writes ++ [⟨active, (before.channels active).sent.length, request, own⟩]

section
variable {before : DaemonClient ρ δ} {active : Nat}

theorem Started.exchanged (started : Started before active client) (sound : Sound before)
    (used : before.channel = some active) : Exchanged own before client where
  sound := by
    refine ⟨fun n inUse sent member => ?_, fun n inUse => ?_⟩
    · obtain rfl : active = n := Option.some.inj (started.channel.symm.trans inUse)
      rw [started.channels] at member
      rw [started.nextSeq]
      exact Nat.lt_succ_of_lt (sound.below active used sent member)
    · obtain rfl : active = n := Option.some.inj (started.channel.symm.trans inUse)
      rw [started.channels]
      exact sound.distinct active used
  channel := started.channel.trans used.symm
  wrote := .none started.writes

theorem Asked.exchanged (asked : Asked before active request own client) (sound : Sound before)
    (used : before.channel = some active) : Exchanged own before client where
  sound := by
    refine ⟨fun n inUse sent member => ?_, fun n inUse => ?_⟩
    · obtain rfl : active = n := Option.some.inj (asked.channel.symm.trans inUse)
      rw [asked.sent] at member
      rw [asked.nextSeq]
      rcases List.mem_append.mp member with old | new
      · exact Nat.lt_succ_of_lt (sound.below active used sent old)
      · obtain rfl := List.mem_singleton.mp new
        exact Nat.lt_succ_self _
    · obtain rfl : active = n := Option.some.inj (asked.channel.symm.trans inUse)
      rw [asked.sent, List.map_append, List.map_singleton, List.nodup_append]
      refine ⟨sound.distinct active used, List.nodup_singleton _, fun seq member other new same => ?_⟩
      obtain ⟨sent, old, rfl⟩ := List.mem_map.mp member
      obtain rfl := List.mem_singleton.mp new
      exact Nat.lt_irrefl _ (same ▸ sound.below active used sent old)
  channel := asked.channel.trans used.symm
  wrote := by
    refine ⟨_, asked.writes, ?_⟩
    cases own <;> exact Nat.le_refl _

/-- An answer under the request's own number is the one in its place. -/
theorem Asked.place (asked : Asked before active request own client) (sound : Sound before)
    (used : before.channel = some active) {i : Nat} {sent : Sent ρ}
    (found : (client.channels active).sent[i]? = some sent) (same : sent.seq = before.nextSeq) :
    i = (before.channels active).sent.length ∧ sent.request = request := by
  rw [asked.sent] at found
  rcases Nat.lt_or_ge i (before.channels active).sent.length with inside | outside
  · rw [List.getElem?_append_left inside] at found
    exact absurd same (Nat.ne_of_lt (sound.below active used sent (List.mem_of_getElem? found)))
  · rw [List.getElem?_append_right outside] at found
    obtain ⟨bound, rfl⟩ := List.getElem?_eq_some_iff.mp found
    rw [List.length_singleton] at bound
    have zero : i - (before.channels active).sent.length = 0 := by omega
    refine ⟨by omega, ?_⟩
    simp only [zero, List.getElem_cons_zero]

theorem writeFrame_holds (sound : Sound before) (used : before.channel = some active) :
    Fallible.Holds (Started before active) (writeFrame active before.nextSeq request own)
      (fun _ => Asked before active request own) fun _ => Exchanged own before := by
  have delivered : ∀ c : DaemonClient ρ δ, Started before active c →
      Asked before active request own (deliver active before.nextSeq request own c) := by
    intro c started
    refine ⟨started.channel, started.nextSeq, ?_, ?_⟩
    · simp only [deliver, Function.update_self, started.channels]
    · simp only [deliver, started.channels, started.writes]
  intro c started
  let popped := { c with choices := fun n => c.choices (n + 1) }
  have started : Started before active popped :=
    ⟨started.channel, started.nextSeq, started.channels, started.writes⟩
  unfold writeFrame
  rw [Fallible.bind_run]
  simp only [choose]
  cases c.choices 0 with
  | proceed => exact delivered popped started
  | cancelled => exact started.exchanged sound used
  | failed fault late => cases late with
    | true => exact (delivered popped started).exchanged sound used
    | false => exact started.exchanged sound used

structure Heard (protocol : Protocol ρ ω δ) (before : DaemonClient ρ δ) (active : Nat) (request : ρ)
    (own : Bool) (heard : Nat × Answer ω δ) (c : DaemonClient ρ δ) : Prop where
  asked : Asked before active request own c
  pending : (c.channels active).pendingDescriptors = heard.2.fileDescriptors
  place : ∃ (i : Nat) (sent : Sent ρ), (c.channels active).sent[i]? = some sent ∧ heard.1 = sent.seq ∧
    heard.2 = protocol.answer active i sent.request

theorem Asked.reading (asked : Asked before active request own client) (line : Channel ρ δ)
    (sent : line.sent = (client.channels active).sent) (choices : Nat → Choice) :
    Asked before active request own
      { client with channels := Function.update client.channels active line, choices } where
  channel := asked.channel
  nextSeq := asked.nextSeq
  sent := by
    show (Function.update client.channels active line active).sent = _
    rw [Function.update_self, sent]
    exact asked.sent
  writes := asked.writes

theorem Asked.popped (asked : Asked before active request own client) (choices : Nat → Choice) :
    Asked before active request own { client with choices } :=
  ⟨asked.channel, asked.nextSeq, asked.sent, asked.writes⟩

theorem readFrame_holds (sound : Sound before) (used : before.channel = some active) :
    Fallible.Holds (Asked before active request own) (readFrame protocol active)
      (fun heard => Heard protocol before active request own heard) fun _ => Exchanged own before := by
  intro c asked
  have popped := asked.popped fun n => c.choices (n + 1)
  unfold readFrame
  rw [Fallible.bind_run]
  simp only [choose]
  cases c.choices 0 with
  | cancelled => exact popped.exchanged sound used
  | failed fault late => exact popped.exchanged sound used
  | proceed =>
      simp only [Fallible.bind_run, Fallible.get]
      cases found : (c.channels active).sent[(c.channels active).read]? with
      | none => exact popped.exchanged sound used
      | some sent =>
          have answered := asked.reading
            { c.channels active with
              read := (c.channels active).read + 1
              pendingDescriptors := (protocol.answer active
                (c.channels active).read sent.request).fileDescriptors }
            rfl fun n => c.choices (n + 1)
          refine ⟨answered, ?_, (c.channels active).read, sent, ?_, rfl, rfl⟩
          · simp only [Function.update_self]
          · simp only [Function.update_self]
            exact found

theorem takeFileDescriptors_holds (sound : Sound before) (used : before.channel = some active)
    (heard : Nat × Answer ω δ) :
    Fallible.Holds (Heard protocol before active request own heard) (takeFileDescriptors active)
      (fun fileDescriptors c => fileDescriptors = heard.2.fileDescriptors ∧ Asked before active request own c ∧
        ∃ (i : Nat) (sent : Sent ρ), (c.channels active).sent[i]? = some sent ∧ heard.1 = sent.seq ∧
          heard.2 = protocol.answer active i sent.request)
      fun _ => Exchanged own before := by
  rintro c ⟨asked, pending, i, sent, found, number, answer⟩
  have taken := asked.reading { c.channels active with pendingDescriptors := none } rfl fun n =>
    c.choices (n + 1)
  have place : (Function.update c.channels active { c.channels active with pendingDescriptors := none }
    active).sent[i]? =
      some sent := by
    rw [Function.update_self]
    exact found
  unfold takeFileDescriptors
  rw [Fallible.bind_run]
  simp only [choose]
  cases c.choices 0 with
  | cancelled => exact (asked.popped _).exchanged sound used
  | failed fault late => exact ⟨pending, taken, i, sent, place, number, answer⟩
  | proceed => exact ⟨pending, taken, i, sent, place, number, answer⟩

theorem returning_holds (sound : Sound before) (used : before.channel = some active) {α : Type} (a : α) :
    Fallible.Holds (Asked before active request own) (returning a)
      (fun b c => b = a ∧ Asked before active request own c) fun _ => Exchanged own before := by
  intro c asked
  unfold returning
  rw [Fallible.bind_run]
  simp only [choose]
  cases c.choices 0 with
  | cancelled => exact (asked.popped _).exchanged sound used
  | failed fault late => exact ⟨rfl, asked.popped _⟩
  | proceed => exact ⟨rfl, asked.popped _⟩

end

theorem exchangeLocked_holds (before : DaemonClient ρ δ) (sound : Sound before) :
    Fallible.Holds (· = before) (exchangeLocked protocol request own)
      (fun reply c => Exchanged own before c ∧ Answered protocol request own reply before c)
      fun _ => Exchanged own before := by
  rintro c rfl
  unfold exchangeLocked
  rw [Fallible.bind_run]
  simp only [Fallible.get]
  cases used : c.channel with
  | none => exact ⟨sound, rfl, .none rfl⟩
  | some active =>
      have numbered : Fallible.Holds (· = c)
          (Fallible.update fun client : DaemonClient ρ δ => { client with nextSeq := client.nextSeq + 1 })
          (fun _ => Started c active) fun (_ : Thrown) => Exchanged own c := by
        refine Fallible.Holds.update ?_
        rintro _ rfl
        exact ⟨used, rfl, rfl, rfl⟩
      refine (numbered.bind fun _ => (writeFrame_holds sound used).bind fun _ =>
        (readFrame_holds sound used).bind fun heard => (takeFileDescriptors_holds sound used heard).bind
          fun fileDescriptors => ?_) c rfl
      rintro after ⟨rfl, asked, i, sent, found, number, answer⟩
      have exchanged := asked.exchanged sound used
      cases body : heard.2.body with
      | none => exact exchanged
      | some result =>
          obtain ⟨ok, err⟩ := result
          by_cases differs : heard.1 ≠ c.nextSeq
          · simp only [if_pos differs]
            exact exchanged
          · obtain ⟨rfl, same⟩ := asked.place sound used found (number.symm.trans (not_not.mp differs))
            rw [same] at answer
            simp only [if_neg differs]
            cases ok with
            | none => cases err <;> exact exchanged
            | some response => cases err with
              | some error => exact exchanged
              | none =>
                  have returned : Fallible.Holds (Asked c active request own)
                      (returning { response, fileDescriptors := heard.2.fileDescriptors })
                      (fun (reply : DaemonReply ω δ) last =>
                        reply = { response, fileDescriptors := heard.2.fileDescriptors } ∧
                          Asked c active request own last)
                      fun _ => Exchanged own c := returning_holds sound used _
                  refine returned.consequence (fun _ asked => asked) ?_
                    (fun _ _ exchanged => exchanged) after asked
                  rintro reply last ⟨rfl, asked⟩
                  refine ⟨asked.exchanged sound used, [], active, (c.channels active).sent.length,
                    asked.channel, asked.writes, ?_, ?_⟩
                  · rw [← answer, body]
                  · rw [← answer]

theorem Sound.idle (idle : client.channel = none) : Sound client where
  below n used := absurd (idle.symm.trans used) (Option.some_ne_none n).symm
  distinct n used := absurd (idle.symm.trans used) (Option.some_ne_none n).symm

theorem open_holds (before : DaemonClient ρ δ) (idle : before.channel = none) :
    Fallible.Holds (· = before) open_ (fun _ c => Sound c ∧ Wrote 0 before c)
      fun _ c => c.channel = none ∧ Wrote 0 before c := by
  rintro c rfl
  unfold open_
  rw [Fallible.bind_run]
  simp only [choose]
  cases c.choices 0 with
  | cancelled => exact ⟨idle, .none rfl⟩
  | failed fault late => exact ⟨idle, .none rfl⟩
  | proceed =>
      refine ⟨⟨fun n used sent member => ?_, fun n used => ?_⟩, .none rfl⟩
      · obtain rfl := Option.some.inj used
        simp only [Function.update_self, List.not_mem_nil] at member
      · obtain rfl := Option.some.inj used
        simp only [Function.update_self, List.map_nil, List.nodup_nil]

theorem openLocked_holds (before : DaemonClient ρ δ) (idle : before.channel = none) :
    Fallible.Holds (· = before) (openLocked protocol) (fun _ c => Sound c ∧ Wrote 0 before c)
      fun _ c => c.channel = none ∧ Wrote 0 before c := by
  refine (open_holds before idle).bind fun _ => ?_
  refine Fallible.Holds.bind (Fallible.Holds.onError (?_ : Fallible.Holds _ _
    (fun _ c => Sound c ∧ Wrote 0 before c) fun _ c => Wrote 0 before c) fun _ c wrote =>
      ⟨rfl, wrote⟩) fun version => ?_
  · rintro opened ⟨sound, wrote⟩
    have shaken : Fallible.Holds (· = opened) (exchangeLocked protocol protocol.handshake false)
        (fun _ c => Sound c ∧ Wrote 0 before c) fun _ c => Wrote 0 before c :=
      (exchangeLocked_holds opened sound).consequence (fun _ same => same)
        (fun _ c ends => ⟨ends.1.sound, wrote.trans ends.1.wrote⟩) fun _ c ends => wrote.trans ends.wrote
    refine shaken.bind (fun reply => ?_) opened rfl
    intro c ends
    cases protocol.handshakeVersion reply.response with
    | some version => exact ends
    | none => exact ends.2
  · rintro c ⟨sound, wrote⟩
    by_cases mismatch : version ≠ protocolVersion
    · rw [if_pos mismatch]
      exact ⟨rfl, wrote⟩
    · rw [if_neg mismatch]
      exact ⟨⟨sound.below, sound.distinct⟩, wrote⟩

theorem connect_holds (protocol : Protocol ρ ω δ) (before : DaemonClient ρ δ) (sound : Sound before) :
    Fallible.Holds (· = before) (connect protocol) (fun _ c => Sound c ∧ Wrote 0 before c)
      fun _ c => c.channel = none ∧ Wrote 0 before c := by
  rintro c rfl
  unfold connect
  rw [Fallible.bind_run]
  simp only [Fallible.get]
  cases used : c.channel with
  | some n => exact ⟨sound, .none rfl⟩
  | none => exact openLocked_holds c used c rfl

theorem attempt_holds {before : DaemonClient ρ δ} {connecting : ClientM ρ δ Unit}
    (connects : Fallible.Holds (· = before) connecting (fun _ c => Sound c ∧ Wrote 0 before c)
      fun _ c => c.channel = none ∧ Wrote 0 before c) :
    Fallible.Holds (· = before) (do connecting; exchangeLocked protocol request true)
      (fun reply c => Sound c ∧ Wrote 1 before c ∧ Answered protocol request true reply before c)
      fun _ c => Sound c ∧ Wrote 1 before c := by
  refine (connects.consequence (fun _ same => same) (fun _ _ ends => ends) fun _ c ends =>
    ⟨Sound.idle ends.1, ends.2.mono (Nat.zero_le 1)⟩).bind fun _ => ?_
  rintro connected ⟨sound, wrote⟩
  exact (exchangeLocked_holds connected sound).consequence (fun _ same => same)
    (fun reply c ends => ⟨ends.1.sound, wrote.trans ends.1.wrote, ends.2.since wrote⟩)
    (fun _ c ends => ⟨ends.sound, wrote.trans ends.wrote⟩) connected rfl

/-- A failure other than a rejection or a cancellation leaves no channel in use. -/
def Closed (thrown : Thrown) (c : DaemonClient ρ δ) : Prop :=
  thrown ≠ .cancellation → (∀ error, thrown ≠ .rejected error) → c.channel = none

theorem retry_holds (before : DaemonClient ρ δ) (idle : before.channel = none) :
    Fallible.Holds (· = before) (retry protocol request)
      (fun reply c => Sound c ∧ Wrote 1 before c ∧ Answered protocol request true reply before c)
      fun thrown c => Sound c ∧ Wrote 1 before c ∧ Closed thrown c := by
  refine (attempt_holds (openLocked_holds before idle)).recover fun thrown => ?_
  rintro c ⟨sound, wrote⟩
  cases thrown with
  | cancellation => exact ⟨sound, wrote, fun other => absurd rfl other⟩
  | rejected error => exact ⟨.idle rfl, wrote, fun _ _ => rfl⟩
  | malformedFrame => exact ⟨.idle rfl, wrote, fun _ _ => rfl⟩
  | protocolViolation => exact ⟨.idle rfl, wrote, fun _ _ => rfl⟩
  | fault fault => exact ⟨.idle rfl, wrote, fun _ _ => rfl⟩

theorem request_holds (protocol : Protocol ρ ω δ) (request : ρ) (before : DaemonClient ρ δ)
    (sound : Sound before) :
    Fallible.Holds (· = before) (DaemonClient.request protocol request)
      (fun reply c => Sound c ∧ Wrote 2 before c ∧ Answered protocol request true reply before c)
      fun thrown c => Sound c ∧ Wrote 2 before c ∧ Closed thrown c := by
  refine Fallible.Holds.recover ((attempt_holds (connect_holds protocol before sound)).consequence
    (fun _ same => same)
    (fun reply c ends => ⟨ends.1, ends.2.1.mono one_le_two, ends.2.2⟩) fun _ _ ends => ends) fun thrown => ?_
  have retried : Fallible.Holds (fun c => Sound c ∧ Wrote 1 before c)
      (do closeLocked; retry protocol request)
      (fun reply c => Sound c ∧ Wrote 2 before c ∧ Answered protocol request true reply before c)
      fun thrown c => Sound c ∧ Wrote 2 before c ∧ Closed thrown c := by
    rintro c ⟨_, wrote⟩
    have wrote : Wrote 1 before c.closed := wrote
    exact (retry_holds c.closed rfl).consequence (fun _ same => same)
      (fun reply last ends => ⟨ends.1, wrote.trans ends.2.1, ends.2.2.since wrote⟩)
      (fun thrown last ends => ⟨ends.1, wrote.trans ends.2.1, ends.2.2⟩) c.closed rfl
  cases thrown with
  | cancellation => exact fun c ends => ⟨ends.1, ends.2.mono one_le_two, fun other => absurd rfl other⟩
  | rejected error =>
      exact fun c ends => ⟨ends.1, ends.2.mono one_le_two, fun _ other => absurd rfl (other error)⟩
  | malformedFrame => exact retried
  | protocolViolation => exact retried
  | fault fault => exact retried

theorem after_sound (sound : Sound client) (call : Call ρ) : Sound (client.after protocol call) := by
  cases call with
  | request request =>
      have ends := request_holds protocol request client sound
      cases ran : DaemonClient.request protocol request client with
      | mk outcome last =>
          simp only [DaemonClient.after, ran]
          cases outcome with
          | ok reply => exact (ends.ok rfl ran).1
          | error thrown => exact (ends.error rfl ran).1
  | connect =>
      have ends := connect_holds protocol client sound
      cases ran : connect protocol client with
      | mk outcome last =>
          simp only [DaemonClient.after, ran]
          cases outcome with
          | ok _ => exact (ends.ok rfl ran).1
          | error thrown => exact .idle (ends.error rfl ran).1
  | disconnect => exact .idle rfl

theorem run_sound (choices : Nat → Choice) (calls : List (Call ρ)) : Sound (run protocol choices calls) := by
  have kept : ∀ client, Sound client → Sound (calls.foldl (DaemonClient.after protocol) client) := by
    induction calls with
    | nil => exact fun _ sound => sound
    | cons call calls ih => exact fun client sound => ih _ (after_sound sound call)
  exact kept _ (.idle rfl)

theorem request_paired (protocol : Protocol ρ ω δ) (choices : Nat → Choice) (calls : List (Call ρ))
    (request : ρ) :
    let before := run protocol choices calls
    let ended := DaemonClient.request protocol request before
    (∀ reply, ended.1 = .ok reply → Answered protocol request true reply before ended.2) ∧
      Wrote 2 before ended.2 ∧ ∀ thrown, ended.1 = .error thrown → Closed thrown ended.2 := by
  intro before ended
  have ends := request_holds protocol request before (run_sound choices calls)
  cases ran : DaemonClient.request protocol request before with
  | mk outcome last =>
      have same : ended = (outcome, last) := ran
      rw [same]
      cases outcome with
      | ok reply =>
          obtain ⟨_, wrote, answered⟩ := ends.ok rfl ran
          exact ⟨fun _ returned => Except.ok.inj returned ▸ answered, wrote, fun _ failed => (nomatch failed)⟩
      | error thrown =>
          obtain ⟨_, wrote, closed⟩ := ends.error rfl ran
          exact ⟨fun _ returned => (nomatch returned), wrote, fun _ failed => Except.error.inj failed ▸ closed⟩

end DaemonClient
end CrashCatcher.Manager
