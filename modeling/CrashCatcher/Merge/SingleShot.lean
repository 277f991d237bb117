import CrashCatcher.Lib.Run
import CrashCatcher.Merge.Sound

namespace CrashCatcher.Merge
open Lib Lib.Run Model

/-- No source but the ANR file, which is closed once for each dump, names two of the fragments. -/
def OncePerSource (fragments : List CrashFragment) : Prop :=
  fragments.Pairwise fun f g => f.source = g.source → f.source = .anrFile

instance (fragments : List CrashFragment) : Decidable (OncePerSource fragments) :=
  inferInstanceAs (Decidable (List.Pairwise _ _))

theorem oncePerSource_append {fragments more : List CrashFragment} :
    OncePerSource (fragments ++ more) ↔ OncePerSource fragments ∧ OncePerSource more ∧
      ∀ f ∈ fragments, ∀ g ∈ more, f.source = g.source → f.source = .anrFile :=
  List.pairwise_append

theorem oncePerSource_singleton (f : CrashFragment) : OncePerSource [f] := List.pairwise_singleton _ f

theorem oncePerSource_snoc {fragments : List CrashFragment} {f : CrashFragment} :
    OncePerSource (fragments ++ [f]) ↔
      OncePerSource fragments ∧ ∀ g ∈ fragments, g.source = f.source → g.source = .anrFile := by
  rw [oncePerSource_append]
  simp [oncePerSource_singleton]

theorem Occurrence.contains_sources_of_mem (o : Occurrence) :
    ∀ g ∈ o.fragments, o.pending.sources.contains g.source = true := by
  induction o using Occurrence.induction with
  | start f =>
      intro g member
      rw [List.mem_singleton.mp member]
      exact f.source.contains_self
  | merge o f ih =>
      intro g member
      rw [fragments_merge] at member
      rw [pending_merge, Pending.merge_sources]
      rcases List.mem_append.mp member with old | new
      · exact SourceMask.contains_union_left _ (ih g old)
      · rw [List.mem_singleton.mp new]
        exact SourceMask.contains_union_self _ _

theorem repeatedAnrFile_source {kind : CrashKind} {sources : SourceMask} {anrFile : Option Str}
    {f : CrashFragment} (repeated : Pending.repeatedAnrFile kind sources anrFile f = true) :
    f.source = .anrFile := by
  simp only [Pending.repeatedAnrFile, Bool.and_eq_true, decide_eq_true_eq] at repeated
  exact repeated.1.1.2

theorem Pending.matchesFragment_source {pending : Pending} {f : CrashFragment}
    {sourceSkewMs mergeWindowMs : I64}
    (found : pending.matchesFragment f sourceSkewMs mergeWindowMs = true)
    (held : pending.sources.contains f.source = true) : f.source = .anrFile := by
  simp only [matchesFragment, Bool.and_eq_true] at found
  obtain ⟨⟨⟨⟨open', -⟩, -⟩, -⟩, -⟩ := found
  rw [held, Bool.not_true, Bool.false_or, Bool.and_eq_true] at open'
  exact repeatedAnrFile_source open'.2

theorem Recent.matchesFragment_source {recent : Recent} {f : CrashFragment}
    {sourceSkewMs mergeWindowMs : I64}
    (found : recent.matchesFragment f sourceSkewMs mergeWindowMs = true)
    (held : recent.sources.contains f.source = true) : f.source = .anrFile := by
  simp only [matchesFragment, Bool.and_eq_true] at found
  obtain ⟨⟨⟨⟨open', -⟩, -⟩, -⟩, -⟩ := found
  rw [held, Bool.true_and, Bool.not_not] at open'
  exact repeatedAnrFile_source open'

namespace Traced

/-- What the merger guards itself: a source repeats neither among the fragments it merges nor
between these and the ones it suppresses. -/
structure Screened (t : Traced) : Prop where
  pending : ∀ o ∈ t.pending, OncePerSource o.fragments
  merged : ∀ a ∈ t.accounts, OncePerSource a.occurrence.fragments
  across : ∀ a ∈ t.accounts, ∀ f ∈ a.occurrence.fragments, ∀ g ∈ a.suppressed,
    f.source = g.source → f.source = .anrFile

theorem screened_new (windowMs : I64) : Screened (new windowMs) where
  pending := by simp [new]
  merged := by simp [new]
  across := by simp [new]

theorem Screened.allocate {t : Traced} (screened : Screened t) {o : Occurrence}
    {rest : List Occurrence} (head : t.pending = o :: rest) :
    Screened ((t.setPending rest).allocate o).2 where
  pending other member := screened.pending other (by rw [head]; exact .tail _ member)
  merged a member := by
    rcases List.mem_append.mp member with old | new
    · exact screened.merged a old
    · rw [List.mem_singleton.mp new]
      exact screened.pending o (by simp [head])
  across a member := by
    rcases List.mem_append.mp member with old | new
    · exact screened.across a old
    · rw [List.mem_singleton.mp new]
      intro f _ g none
      cases none

theorem mem_accounts_suppress {t : Traced} {id : UInt64} {serial : Nat} {f : CrashFragment}
    {a : Account} (member : a ∈ (t.suppress id serial f).accounts) :
    a ∈ t.accounts ∨ ∃ before, t.accounts[serial]? = some before ∧ a = before.suppress f := by
  obtain ⟨i, found⟩ := List.mem_iff_getElem?.mp member
  simp only [Traced.suppress, List.getElem?_modify, Option.map_eq_map, Option.map_eq_some_iff] at found
  obtain ⟨before, old, rfl⟩ := found
  split_ifs with same
  · exact .inr ⟨before, same ▸ old, rfl⟩
  · exact .inl (List.mem_of_getElem? old)

theorem Move.screened {t u : Traced} {action : Action} (move : Move t action u)
    {received : List CrashFragment} (sound : Sound received t) (screened : Screened t) :
    Screened u := by
  cases move with
  | expire watermarkMs => exact ⟨screened.pending, screened.merged, screened.across⟩
  | reorder order =>
      exact ⟨fun o member => screened.pending o (order.mem_iff.mpr member), screened.merged,
        screened.across⟩
  | complete head => exact ⟨(screened.allocate head).pending, (screened.allocate head).merged,
      (screened.allocate head).across⟩
  | repeated => exact screened
  | @join f o rest _ head matching =>
      refine ⟨?_, screened.merged, screened.across⟩
      intro other member
      rcases List.mem_cons.mp member with rfl | old
      · have here : o ∈ t.pending := by simp [head]
        refine oncePerSource_snoc.mpr ⟨screened.pending o here, fun g merged same => ?_⟩
        have held := o.contains_sources_of_mem g merged
        rw [same] at held ⊢
        exact Pending.matchesFragment_source matching held
      · exact screened.pending other (by simp [head, old])
  | @suppress f recent serial _ _ remembered matching =>
      refine ⟨screened.pending, ?_, ?_⟩
      · intro a member
        rcases mem_accounts_suppress member with old | ⟨before, found, rfl⟩
        · exact screened.merged a old
        · exact screened.merged before (List.mem_of_getElem? found)
      · intro a member
        rcases mem_accounts_suppress member with old | ⟨before, found, rfl⟩
        · exact screened.across a old
        · intro g merged h suppressed same
          rcases List.mem_append.mp suppressed with old | new
          · exact screened.across before (List.mem_of_getElem? found) g merged h old same
          · obtain ⟨linked, persisted, found', recorded⟩ := sound.recent _ remembered
            obtain rfl : before = linked := Option.some.inj (found.symm.trans found')
            have held := before.occurrence.contains_sources_of_mem g merged
            rw [List.mem_singleton.mp new] at same
            have sources : recent.sources = before.occurrence.pending.sources :=
              congrArg Recent.sources recorded
            rw [same, ← sources] at held
            rw [same]
            exact Recent.matchesFragment_source matching held
  | start =>
      refine ⟨?_, screened.merged, screened.across⟩
      intro other member
      rcases List.mem_cons.mp member with rfl | old
      · exact oncePerSource_singleton _
      · exact screened.pending other old
  | close head => exact screened.allocate head

theorem Screened.step {t : Traced} {received : List CrashFragment} (sound : Sound received t)
    (screened : Screened t) (input : Input) : Screened (t.step input).2 := by
  obtain ⟨actions, -, -, -, moves⟩ := t.step_moves input
  have expired := (Move.expire input.watermarkMs).sound sound
  have kept := moves.preserves (fun seen u => Sound seen u ∧ Screened u) (fun _ => True)
    (fun _ move inv => ⟨move.sound inv.1, move.screened inv.1 inv.2⟩) (fun _ _ => trivial)
    ⟨expired, (Move.expire input.watermarkMs).screened sound screened⟩
  exact kept.2

def Placed (t : Traced) (f : CrashFragment) : Prop :=
  (∃ o ∈ t.pending, f ∈ o.fragments) ∨ ∃ a ∈ t.accounts, f ∈ a.fragments

instance (t : Traced) (f : CrashFragment) : Decidable (t.Placed f) :=
  inferInstanceAs (Decidable (_ ∨ _))

theorem Moves.internal_accounts {t u : Traced} {actions : List Action} (moves : Moves t actions u)
    (internal : ∀ a ∈ actions, a.Internal) :
    ∃ new, u.accounts = t.accounts ++ new ∧ ∀ a ∈ new, a.suppressed = [] := by
  induction moves with
  | refl => exact ⟨[], (List.append_nil _).symm, by simp⟩
  | @step t u v action actions move _ ih =>
      obtain ⟨later, grown, clean⟩ := ih fun a member => internal a (by simp [member])
      rcases internal action (by simp) with rfl | rfl
      · cases move with
        | reorder order => exact ⟨later, grown, clean⟩
      · cases move with
        | @complete o rest head =>
            refine ⟨⟨t.nextCompletionId, o, [], none⟩ :: later, ?_, ?_⟩
            · have opened : ((t.setPending rest).complete o).2.accounts =
                  t.accounts ++ [⟨t.nextCompletionId, o, [], none⟩] := rfl
              rw [grown, opened, List.append_assoc, List.singleton_append]
            · intro a member
              rcases List.mem_cons.mp member with rfl | member
              · rfl
              · exact clean a member

theorem Moves.internal_placed {t u : Traced} {actions : List Action} (moves : Moves t actions u)
    (internal : ∀ a ∈ actions, a.Internal) {f : CrashFragment} (placed : t.Placed f) : u.Placed f := by
  induction moves with
  | refl => exact placed
  | @step t u v action actions move _ ih =>
      refine ih (fun a member => internal a (by simp [member])) ?_
      rcases internal action (by simp) with rfl | rfl
      · cases move with
        | reorder order =>
            rcases placed with ⟨o, member, here⟩ | completed
            · exact .inl ⟨o, order.mem_iff.mp member, here⟩
            · exact .inr completed
      · cases move with
        | @complete o rest head =>
            rcases placed with ⟨other, member, here⟩ | ⟨a, member, here⟩
            · rw [head] at member
              rcases List.mem_cons.mp member with rfl | member
              · exact .inr ⟨⟨t.nextCompletionId, other, [], none⟩, List.mem_append_right _ (.head _),
                  List.mem_append_left _ here⟩
              · exact .inl ⟨other, member, here⟩
            · exact .inr ⟨a, List.mem_append_left _ member, here⟩

def Unrepeated (t : Traced) : Prop := ∀ a ∈ t.accounts, OncePerSource a.suppressed

theorem Moves.internal_unrepeated {t u : Traced} {actions : List Action} (moves : Moves t actions u)
    (internal : ∀ a ∈ actions, a.Internal) : u.Unrepeated ↔ t.Unrepeated := by
  obtain ⟨new, grown, clean⟩ := moves.internal_accounts internal
  unfold Unrepeated
  rw [grown]
  constructor
  · exact fun unrepeated a member => unrepeated a (List.mem_append_left _ member)
  · intro unrepeated a member
    rcases List.mem_append.mp member with old | fresh
    · exact unrepeated a old
    · rw [clean a fresh]
      exact List.Pairwise.nil

theorem flushBefore_unrepeated (t : Traced) (watermarkMs : I64) :
    (t.flushBefore watermarkMs).2.Unrepeated ↔ t.Unrepeated := by
  obtain ⟨n, moves⟩ := t.flushBefore_moves watermarkMs
  exact moves.internal_unrepeated (by simp [Action.Internal, List.mem_replicate])

/-- When a recent record is about to absorb the fragment, it has absorbed none of that source. -/
def AbsorbsOnce (t : Traced) (f : CrashFragment) : Prop :=
  t.holdsSourceKey f = false → t.pendingMatch f = none →
    ∀ recent serial, t.recentMatch f = some (recent, serial) → ∀ a, t.accounts[serial]? = some a →
      ∀ g ∈ a.suppressed, g.source = f.source → f.source = .anrFile

theorem suppress_unrepeated_iff {t : Traced} (unrepeated : t.Unrepeated) (id : UInt64) (serial : Nat)
    (f : CrashFragment) :
    (t.suppress id serial f).Unrepeated ↔ ∀ a, t.accounts[serial]? = some a →
      ∀ g ∈ a.suppressed, g.source = f.source → f.source = .anrFile := by
  constructor
  · intro after a found g member same
    have here : a.suppress f ∈ (t.suppress id serial f).accounts := by
      refine List.mem_of_getElem? (i := serial) ?_
      simp [Traced.suppress, found]
    rw [← same]
    exact (oncePerSource_snoc.mp (after _ here)).2 g member same
  · intro once a member
    rcases mem_accounts_suppress member with old | ⟨before, found, rfl⟩
    · exact unrepeated a old
    · refine oncePerSource_snoc.mpr ⟨unrepeated before (List.mem_of_getElem? found), ?_⟩
      intro g suppressed same
      rw [same]
      exact once before found g suppressed same

theorem receive_unrepeated_iff {t : Traced} (unrepeated : t.Unrepeated)
    (completed : List (Nat × MergedCrash)) (f : CrashFragment) :
    (t.receive completed f).2.Unrepeated ↔ t.AbsorbsOnce f := by
  rw [receive]
  unfold AbsorbsOnce
  by_cases held : t.holdsSourceKey f
  · rw [if_pos held]
    exact iff_of_true unrepeated fun free => absurd held (by simp [free])
  · rw [if_neg held]
    rw [Bool.not_eq_true] at held
    cases candidate : t.pendingMatch f with
    | some entry =>
        obtain ⟨o, index⟩ := entry
        obtain ⟨inside, -⟩ := List.getElem?_eq_some_iff.mp (pendingMatch_some candidate).1
        obtain ⟨actions, internal, moves⟩ := finishSettled_moves
          (t.setPending (t.pending.set index (o.merge f))) completed (List.getElem?_set_self inside)
        refine iff_of_true ((moves.internal_unrepeated internal).mpr unrepeated) fun _ none => ?_
        cases none
    | none =>
        cases remembered : t.recentMatch f with
        | some entry =>
            obtain ⟨recent, serial⟩ := entry
            refine (suppress_unrepeated_iff unrepeated _ serial f).trans ?_
            simp [held]
        | none =>
            obtain ⟨actions, internal, moves⟩ := finishSettled_moves
              (t.setPending (t.pending ++ [.start f])) completed (List.getElem?_concat_length ..)
            refine iff_of_true ((moves.internal_unrepeated internal).mpr unrepeated) fun _ _ _ _ none => ?_
            cases none

theorem receive_places {t : Traced} (completed : List (Nat × MergedCrash)) {f : CrashFragment}
    {received : List CrashFragment} (sound : Sound received t) (free : t.holdsSourceKey f = false) :
    (t.receive completed f).2.Placed f := by
  rw [receive, if_neg (by simp [free])]
  cases candidate : t.pendingMatch f with
  | some entry =>
      obtain ⟨o, index⟩ := entry
      obtain ⟨inside, -⟩ := List.getElem?_eq_some_iff.mp (pendingMatch_some candidate).1
      have extended : (t.pending.set index (o.merge f))[index]? = some (o.merge f) :=
        List.getElem?_set_self inside
      obtain ⟨actions, internal, moves⟩ := finishSettled_moves
        (t.setPending (t.pending.set index (o.merge f))) completed extended
      exact moves.internal_placed internal (.inl ⟨_, List.mem_of_getElem? extended, by simp⟩)
  | none =>
      cases remembered : t.recentMatch f with
      | some entry =>
          obtain ⟨recent, serial⟩ := entry
          obtain ⟨a, persisted, found, -⟩ := sound.recent _ (recentMatch_some remembered).1
          refine .inr ⟨a.suppress f, List.mem_of_getElem? (i := serial) ?_, ?_⟩
          · simp [Traced.suppress, found]
          · simp [Account.fragments, Account.suppress]
      | none =>
          obtain ⟨actions, internal, moves⟩ := finishSettled_moves
            (t.setPending (t.pending ++ [.start f])) completed (List.getElem?_concat_length ..)
          exact moves.internal_placed internal (.inl ⟨.start f, by simp [setPending], by simp⟩)

/-- After the step no occurrence accounts for two fragments of a source, and the step's fragment
joined or started an occurrence unless its key is that of a pending one. -/
structure KeepsApart (t : Traced) (input : Input) : Prop where
  pending : ∀ o ∈ (t.step input).2.pending, OncePerSource o.fragments
  accounts : ∀ a ∈ (t.step input).2.accounts, OncePerSource a.fragments
  placed : ∀ f ∈ input.received, (t.flushBefore f.happenedAtMs).2.holdsSourceKey f = false →
    (t.step input).2.Placed f

def AbsorbsApart (t : Traced) : Input → Prop
  | .ingest f => (t.flushBefore f.happenedAtMs).2.AbsorbsOnce f
  | .flush _ => True

theorem keepsApart_iff {t : Traced} {received : List CrashFragment} (sound : Sound received t)
    (screened : Screened t) (unrepeated : t.Unrepeated) (input : Input) :
    t.KeepsApart input ↔ t.AbsorbsApart input := by
  have screened' := screened.step sound input
  have absorbs : (t.step input).2.Unrepeated ↔ t.AbsorbsApart input := by
    cases input with
    | ingest f =>
        have flushed := (t.flushBefore_unrepeated f.happenedAtMs).mpr unrepeated
        exact receive_unrepeated_iff flushed _ f
    | flush watermarkMs =>
        exact iff_of_true ((t.flushBefore_unrepeated watermarkMs).mpr unrepeated) trivial
  rw [← absorbs]
  constructor
  · exact fun apart a member => (oncePerSource_append.mp (apart.accounts a member)).2.1
  · intro unrepeated'
    refine ⟨screened'.pending, fun a member => ?_, ?_⟩
    · exact oncePerSource_append.mpr
        ⟨screened'.merged a member, unrepeated' a member, screened'.across a member⟩
    · cases input with
      | ingest f =>
          intro g same free
          obtain rfl := List.mem_singleton.mp same
          exact receive_places _ (sound.step (.flush g.happenedAtMs)) free
      | flush watermarkMs =>
          intro g none
          cases none

end Traced

def Traced.next (self : Traced) (input : Input) : Traced := (self.step input).2

/-- Over any run from a new merger, no occurrence accounts for two fragments of one source in any
state exactly when no completed record absorbs a source a second time. -/
theorem once_per_source_iff (windowMs : I64) (inputs : List Input) :
    Throughout Traced.next Traced.KeepsApart (.new windowMs) inputs ↔
      Throughout Traced.next Traced.AbsorbsApart (.new windowMs) inputs := by
  refine throughout_iff
    (fun t => (∃ received, Traced.Sound received t) ∧ t.Screened ∧ t.Unrepeated) ?_ ?_ ?_
  · rintro t input ⟨⟨received, sound⟩, screened, unrepeated⟩
    exact Traced.keepsApart_iff sound screened unrepeated input
  · rintro t input ⟨⟨received, sound⟩, screened, unrepeated⟩ apart
    refine ⟨⟨_, sound.step input⟩, screened.step sound input, fun a member => ?_⟩
    exact (oncePerSource_append.mp (apart.accounts a member)).2.1
  · exact ⟨⟨[], Traced.sound_new windowMs⟩, Traced.screened_new
      windowMs, by simp [Traced.Unrepeated, Traced.new]⟩

def twoDropboxEntries : List Input :=
  let report (source : SourceMask) (key : String) : Input :=
    .ingest { CrashFragment.new source .structured .javaException "com.example".toList 42 1000 with
      userId := some 0
      sourceKey := some key.toList }
  [report .events "events", report .crashBuffer "crash", report .dropbox "dropbox:1",
    report .dropbox "dropbox:2"]

theorem second_dropbox_entry_absorbed :
    ¬ Throughout Traced.next Traced.KeepsApart (.new defaultMergeWindowMs) twoDropboxEntries := by
  intro apart
  have accounts := apart.2.2.2.1.accounts
  revert accounts
  decide +kernel

end CrashCatcher.Merge
