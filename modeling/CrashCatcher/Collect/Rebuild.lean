import CrashCatcher.Collect.Renumbered
import CrashCatcher.Merge.TwoFragments
import CrashCatcher.Model.JavaFrames

/-! What a rebuild of an app changes in the records of a Java crash. -/

namespace CrashCatcher.Collect
open Lib Lib.Text Model Merge Logd Watch

inductive Report where
  | crashBuffer (entry : LoggerEntry) (message : Str)
  | dropbox (file : FileEntry) (entry : DropboxEntry)

namespace Report

def fragment : Report → Option CrashFragment
  | crashBuffer entry message => match parseCrashBuffer message with
    | .ok report => some (crashBufferFragment entry report)
    | .error _ => none
  | dropbox file entry => dropboxFileFragment file entry

def OfJava : Report → Prop
  | crashBuffer _ _ => True
  | dropbox _ entry => entry.kind.crashKind = some .javaException

def Framed : Report → Prop
  | crashBuffer _ _ => False
  | dropbox _ entry => match parseCrashBuffer entry.body with
    | .ok report => report.frames ≠ []
    | .error _ => javaLikeFrames entry.body ≠ []

def Unnamed : Report → Prop
  | crashBuffer _ _ => False
  | dropbox _ entry => match parseCrashBuffer entry.body with
    | .ok _ => False
    | .error _ => exceptionClass entry.body = none

def firstLine : Report → Option Str
  | crashBuffer _ _ => none
  | dropbox _ entry => firstNonEmptyLine entry.body

inductive Rebuilt : Report → Report → Prop where
  | crashBuffer (entry : LoggerEntry) {message message' : Str} (texts : Renumbered message message') :
      Rebuilt (.crashBuffer entry message) (.crashBuffer entry message')
  | dropbox (file file' : FileEntry) (entry : DropboxEntry) {body' : Str}
      (bodies : Renumbered entry.body body') :
      Rebuilt (.dropbox file entry) (.dropbox file' { entry with body := body' })

structure Read (report : Report) (f : CrashFragment) : Prop where
  kind : f.kind = .javaException
  source : f.source = .crashBuffer ∨ f.source = .dropbox
  quality : f.quality ≤ .structured
  outranks : report.Framed ↔ f.frames ≠ [] ∧ .structured ≤ f.quality
  unnamed : report.Unnamed ↔ f.summaryClass = none
  text : report.Unnamed → f.summaryText = report.firstLine
  key : ∃ rest, f.sourceKey = some ("logd:crash:".toList ++ rest) ∨
    f.sourceKey = some ("dropbox:".toList ++ rest)

end Report

/-- An activity event of a Java crash and another report, in the order of their delivery. -/
structure JavaCrash where
  event : AmCrashEvent
  entry : LoggerEntry
  eventFirst : Bool
  report : Report
  fragment : CrashFragment
  read : report.fragment = some fragment
  javaEvent : event.exceptionClass ≠ amCrashNativeClass
  javaReport : report.OfJava

namespace JavaCrash
variable (self : JavaCrash)

def eventFragment : CrashFragment := eventsFragment self.entry self.event
def first : CrashFragment := if self.eventFirst then self.eventFragment else self.fragment
def second : CrashFragment := if self.eventFirst then self.fragment else self.eventFragment

def records (windowMs : I64) (between later : List I64) : List CrashRecord :=
  (CrashMerger.runAndDrain (deliveries self.first self.second between later) (.new windowMs)).map
    MergedCrash.record

def meeting (windowMs : I64) (between : List I64) : Meeting :=
    Merge.meeting windowMs self.first self.second between

def ShowsLine (windowMs : I64) (between : List I64) : Prop :=
  self.event.file ≠ [] ∧ match self.eventFirst, self.meeting windowMs between with
    | true, .joined => ¬ self.report.Framed
    | false, .absorbed => False
    | _, _ => True

def ShowsText (windowMs : I64) (between : List I64) : Prop :=
  self.report.Unnamed ∧ match self.eventFirst, self.meeting windowMs between with
    | _, .apart => True
    | false, .absorbed => True
    | _, _ => False

structure Rebuilt (crash crash' : JavaCrash) : Prop where
  event : { crash'.event with line := crash.event.line } = crash.event
  entry : crash.entry = crash'.entry
  eventFirst : crash.eventFirst = crash'.eventFirst
  report : crash.report.Rebuilt crash'.report

end JavaCrash

def grouping (sha256 : List UInt8 → List UInt8) (record : CrashRecord) : SourceMask × Fingerprint × Str :=
  (record.sources, record.fingerprint, record.groupKey.groupId sha256)

theorem read_of_crashBuffer {entry : LoggerEntry} {message : Str} {f : CrashFragment}
    (read : (Report.crashBuffer entry message).fragment = some f) :
      (Report.crashBuffer entry message).Read f := by
  rw [Report.fragment] at read
  cases parsed : parseCrashBuffer message with
  | error error =>
      rw [parsed] at read
      cases read
  | ok report =>
      rw [parsed] at read
      obtain rfl := Option.some.inj read
      have low : (crashBufferFragment entry report).quality = .text := rfl
      refine ⟨rfl, .inl rfl, ?_, ?_, ?_, False.elim, ⟨_, .inl rfl⟩⟩
      · rw [low]
        decide
      · rw [low]
        exact ⟨False.elim, fun both => absurd both.2 (by decide)⟩
      · exact ⟨False.elim, fun none => by cases none⟩

theorem dropboxFileFragment_of_java {file : FileEntry} {entry : DropboxEntry} {f : CrashFragment}
    (java : entry.kind.crashKind = some .javaException) (read : dropboxFileFragment file entry = some f) :
    ∃ processName, entry.processName.or entry.packageName = some processName ∧
      f = { applyJavaBody (entry.attributed .javaException processName) entry.body with
        sourceKey := some (sourceIdentity .dropbox file).key } := by
  rw [dropboxFileFragment, dropboxFragment, java] at read
  cases named : entry.processName.or entry.packageName with
  | none =>
      rw [named] at read
      cases read
  | some processName =>
      rw [named] at read
      exact ⟨processName, rfl, (Option.some.inj read).symm⟩

theorem read_of_dropbox {file : FileEntry} {entry : DropboxEntry} {f : CrashFragment}
    (java : entry.kind.crashKind = some .javaException) (read : (Report.dropbox file entry).fragment = some f) :
    (Report.dropbox file entry).Read f := by
  obtain ⟨processName, -, rfl⟩ := dropboxFileFragment_of_java java read
  cases parsed : parseCrashBuffer entry.body with
  | error error =>
      have body : applyJavaBody (entry.attributed .javaException processName) entry.body =
          { entry.attributed .javaException processName with
            frames := javaLikeFrames entry.body, summaryClass := exceptionClass entry.body } := by
        rw [applyJavaBody, parsed]
      rw [body]
      refine ⟨rfl, .inr rfl, le_refl _, ?_, ?_, fun _ => rfl, ⟨_, .inr rfl⟩⟩
      · rw [Report.Framed, parsed]
        exact ⟨fun framed => ⟨framed, le_refl _⟩, And.left⟩
      · rw [Report.Unnamed, parsed]
  | ok report =>
      have body : applyJavaBody (entry.attributed .javaException processName) entry.body =
          applyJavaReport (entry.attributed .javaException processName) report := by
        rw [applyJavaBody, parsed]
      rw [body]
      refine ⟨rfl, .inr rfl, le_refl _, ?_, ?_, ?_, ⟨_, .inr rfl⟩⟩
      · rw [Report.Framed, parsed]
        have frames : (applyJavaReport (entry.attributed .javaException processName) report).frames ≠ [] ↔
            report.frames ≠ [] := not_congr List.map_eq_nil_iff
        exact ⟨fun framed => ⟨frames.mpr framed, le_refl _⟩, fun both => frames.mp both.1⟩
      · rw [Report.Unnamed, parsed]
        exact ⟨False.elim, fun none => by cases none⟩
      · rw [Report.Unnamed, parsed]
        exact False.elim

theorem Report.read {report : Report} {f : CrashFragment} (java : report.OfJava)
    (read : report.fragment = some f) :
    report.Read f := by
  cases report with
  | crashBuffer entry message => exact read_of_crashBuffer read
  | dropbox file entry => exact read_of_dropbox java read

theorem Report.Rebuilt.fragment {report report' : Report} {f f' : CrashFragment}
    (rebuilt : report.Rebuilt report')
    (java : report.OfJava) (read : report.fragment = some f) (read' : report'.fragment = some f') :
    RenumberedFragment f f' := by
  cases rebuilt with
  | @crashBuffer entry message message' texts =>
      have reports := parseCrashBuffer_renumbered texts
      rw [Report.fragment] at read read'
      generalize parseCrashBuffer message = result, parseCrashBuffer message' = result' at reports read read'
      cases reports with
      | error => cases read
      | @ok report report' related =>
          obtain rfl := Option.some.inj read
          obtain rfl := Option.some.inj read'
          refine ⟨?_, congrArg (List.map normalizeJavaFrame) related.frames⟩
          rw [← related.same]
          rfl
  | @dropbox file file' entry body' bodies =>
      obtain ⟨processName, named, rfl⟩ := dropboxFileFragment_of_java java read
      obtain ⟨processName', named', rfl⟩ := @dropboxFileFragment_of_java file' { entry with body := body' }
        f' java read'
      obtain rfl := Option.some.inj (named.symm.trans named')
      have attributed : RenumberedFragment (entry.attributed .javaException processName)
          ({ entry with body := body' }.attributed .javaException processName) := ⟨rfl, rfl⟩
      obtain ⟨same, frames⟩ := applyJavaBody_renumbered bodies attributed
      exact ⟨by rw [← same], frames⟩

section
variable {sha256 : List UInt8 → List UInt8}

def shownFrames (raw : List Str) : List Str := (Fingerprint.fromRawFrames .javaException [] raw).frames

theorem shownFrames_congr {raw raw' : List Str}
    (same : raw.map normalizeJavaFrame = raw'.map normalizeJavaFrame) :
    shownFrames raw = shownFrames raw' :=
  congrArg Fingerprint.frames (Fingerprint.fromRawFrames_congr same)

theorem shownFrames_single (frame : Str) : shownFrames [frame] = [normalizeJavaFrame frame] := by
  cases framework : isFrameworkFrame (normalizeJavaFrame frame) <;>
    simp [shownFrames, Fingerprint.fromRawFrames, Fingerprint.normalizer, fingerprintFrameCount, framework]

def eventFrames (event : AmCrashEvent) : List Str :=
  if event.file.isEmpty then [] else [event.file ++ ':' :: Wire.decimal event.line]

theorem shownFrames_event {event event' : AmCrashEvent} (same : { event' with line := event.line } = event) :
    shownFrames (eventFrames event) = shownFrames (eventFrames event') ↔
      (event.file ≠ [] → event.line = event'.line ∨ ClosesParenthesis event.file) := by
  have file : event'.file = event.file := by rw [← same]
  rw [eventFrames, eventFrames, file]
  by_cases empty : event.file = []
  · simp [empty]
  · rw [if_neg (by simpa using empty), if_neg (by simpa using empty), shownFrames_single, shownFrames_single,
      List.cons.injEq, and_iff_left rfl]
    exact (normalizeJavaFrame_line_eq_iff event.line event'.line).trans
      ⟨fun same _ => same, fun same => same empty⟩

theorem fromRawFrames_eq_iff {primary primary' : Str} {raw raw' : List Str} :
    Fingerprint.fromRawFrames .javaException primary raw = .fromRawFrames .javaException primary' raw' ↔
      primary = primary' ∧ shownFrames raw = shownFrames raw' := by
  constructor
  · intro same
    have frames := congrArg Fingerprint.frames same
    exact ⟨congrArg Fingerprint.primary same, frames⟩
  · rintro ⟨rfl, frames⟩
    exact congrArg (Fingerprint.mk .javaException primary) frames

theorem grouping_eq_iff {p p' : Pending} (same : { p' with
      frames := p.frames, payload := p.payload, text := p.text, sourceKeys := p.sourceKeys } = p)
    (kind : p.kind.value = .javaException) :
    grouping sha256 (p.finish 0).record = grouping sha256 (p'.finish 0).record ↔
      (p.className = none → (p.text.map Ranked.value).getD CrashKind.javaException.debug =
        (p'.text.map Ranked.value).getD CrashKind.javaException.debug) ∧
      shownFrames p.frames.value = shownFrames p'.frames.value := by
  have kind' : p'.kind = p.kind := by rw [← same]
  have className : p'.className = p.className := by rw [← same]
  have others : p'.sources = p.sources ∧ p'.package = p.package ∧ p'.process = p.process ∧
      p'.userValue = p.userValue := by
    rw [← same]
    exact ⟨rfl, rfl, rfl, rfl⟩
  obtain ⟨sources, package, process, user⟩ := others
  have primary : ((p.className.map Ranked.value).or (p.text.map Ranked.value)).getD
    CrashKind.javaException.debug =
      ((p.className.map Ranked.value).or (p'.text.map Ranked.value)).getD CrashKind.javaException.debug ↔
      (p.className = none → (p.text.map Ranked.value).getD CrashKind.javaException.debug =
        (p'.text.map Ranked.value).getD CrashKind.javaException.debug) := by
    cases p.className with
    | none => simp
    | some className => simp
  rw [← primary, ← fromRawFrames_eq_iff]
  simp only [grouping, CrashRecord.groupKey, Pending.finish, kind', className, sources, package, process,
    user, kind, Prod.mk.injEq, true_and]
  exact and_iff_left_of_imp fun same => by rw [same]

end

theorem mergeFrames_value (slot : Ranked (List Str)) (q : EvidenceQuality) (frames : List Str) :
    (Pending.mergeFrames slot q frames).value = if frames ≠ [] ∧
      slot.quality ≤ q then frames else slot.value := by
  rw [Pending.mergeFrames_eq]
  split_ifs
  · rfl
  · rfl

theorem replace_same {α : Type} (slot : Ranked α) (q : EvidenceQuality) :
    (slot.replace q slot.value).value = slot.value := by
  rw [Ranked.replace]
  split_ifs <;> rfl

def Echoes (f f' : CrashFragment) : Prop := { f' with
  frames := f.frames, payload := f.payload, summaryText := f.summaryText, sourceKey := f.sourceKey } = f

theorem meeting_eq {f f' g g' : CrashFragment} (first : Echoes f f') (second : Echoes g g') (windowMs : I64)
    (between : List I64) : Merge.meeting windowMs f g between = Merge.meeting windowMs f' g' between := by
  rw [← show _ = f from first, ← show _ = g from second]
  rfl

section
variable {sha256 : List UInt8 → List UInt8} {f f' g g' : CrashFragment}

theorem Echoes.new (echoes : Echoes f f') : { Pending.new f' with
    frames := (Pending.new f).frames, payload := (Pending.new f).payload, text := (Pending.new f).text,
    sourceKeys := (Pending.new f).sourceKeys } = Pending.new f := by
  rw [← show _ = f from echoes]
  rfl

theorem Echoes.merge (first : Echoes f f') (second : Echoes g g') : { (Pending.new f').merge g' with
    frames := ((Pending.new f).merge g).frames, payload := ((Pending.new f).merge g).payload,
    text := ((Pending.new f).merge g).text, sourceKeys := ((Pending.new f).merge g).sourceKeys } =
      (Pending.new f).merge g := by
  rw [← show _ = f from first, ← show _ = g from second]
  rfl

theorem ranked_value {α : Type} (q : EvidenceQuality) (v : Option α) : (ranked q v).map Ranked.value = v := by
  cases v <;> rfl

theorem grouping_start (echoes : Echoes f f') (kind : f.kind = .javaException) :
    grouping sha256 ((Occurrence.start f).pending.finish 0).record =
        grouping sha256 ((Occurrence.start f').pending.finish 0).record ↔
      (f.summaryClass = none → f.summaryText.getD CrashKind.javaException.debug =
        f'.summaryText.getD CrashKind.javaException.debug) ∧ shownFrames f.frames = shownFrames f'.frames := by
  have named : (Pending.new f).className = none ↔ f.summaryClass = none := Option.map_eq_none_iff
  have text : ∀ h : CrashFragment, (Pending.new h).text.map Ranked.value = h.summaryText :=
    fun h => ranked_value _ _
  rw [Occurrence.pending_start, Occurrence.pending_start, grouping_eq_iff echoes.new kind, named, text, text]
  rfl

theorem grouping_merge (first : Echoes f f') (second : Echoes g g') (kind : f.kind = .javaException)
    (kind' : g.kind = .javaException) (named : f.summaryClass ≠ none ∨ g.summaryClass ≠ none) :
    grouping sha256 (((Occurrence.start f).merge g).pending.finish 0).record =
        grouping sha256 (((Occurrence.start f').merge g').pending.finish 0).record ↔
      shownFrames (if g.frames ≠ [] ∧ f.quality ≤ g.quality then g.frames else f.frames) =
        shownFrames (if g'.frames ≠ [] ∧ f'.quality ≤ g'.quality then g'.frames else f'.frames) := by
  have java : ((Pending.new f).merge g).kind.value = .javaException := by
    have same : (Pending.new f).kind.value = g.kind := kind.trans kind'.symm
    rw [Pending.merge_kind, ← same, replace_same]
    exact kind
  have className : ((Pending.new f).merge g).className ≠ none := by
    intro none
    have absent : (mergeRanked (Pending.new f).className g.quality g.summaryClass).map Ranked.value = .none :=
      congrArg (Option.map Ranked.value) none
    obtain ⟨second, first⟩ := mergeRanked_value_eq_none absent
    rw [show (Pending.new f).className.map Ranked.value = f.summaryClass from ranked_value _ _] at first
    exact named.elim (fun named => named first) fun named => named second
  have frames : ∀ h k : CrashFragment, ((Pending.new h).merge k).frames.value =
      if k.frames ≠ [] ∧ h.quality ≤ k.quality then k.frames else h.frames := fun h k => mergeFrames_value _ _ _
  rw [Occurrence.pending_merge, Occurrence.pending_merge, Occurrence.pending_start, Occurrence.pending_start,
    grouping_eq_iff (first.merge second) java, frames, frames]
  exact and_iff_right fun none => absurd none className

end

theorem getD_eq_getD_iff {α : Type} {a b : Option α} {d : α} (known : a.isSome = b.isSome) :
    a.getD d = b.getD d ↔ a = b := by
  cases a <;> cases b <;> simp at known ⊢

theorem Report.Rebuilt.firstLine {report report' : Report} (rebuilt : report.Rebuilt report') :
    report.firstLine.isSome = report'.firstLine.isSome := by
  cases rebuilt with
  | crashBuffer => rfl
  | dropbox file file' entry bodies => exact firstNonEmptyLine_renumbered bodies

namespace JavaCrash
variable {sha256 : List UInt8 → List UInt8} {crash crash' : JavaCrash}

theorem kind_event (self : JavaCrash) : self.eventFragment.kind = .javaException := if_neg self.javaEvent

theorem reads (self : JavaCrash) : self.report.Read self.fragment := Report.read self.javaReport self.read

theorem key_event (self : JavaCrash) : ∃ rest, self.eventFragment.sourceKey = some
    ("logd:events:".toList ++ rest) :=
  ⟨_, rfl⟩

theorem keys_apart (self : JavaCrash) {key : Str} (here : self.eventFragment.sourceKey = some key) :
    self.fragment.sourceKey ≠ some key := by
  intro there
  obtain ⟨rest, event⟩ := self.key_event
  obtain ⟨rest', other⟩ := self.reads.key
  have events : key = "logd:events:".toList ++ rest := Option.some.inj (here.symm.trans event)
  rcases other with crash | dropbox
  · have crash : key = "logd:crash:".toList ++ rest' := Option.some.inj (there.symm.trans crash)
    have sixth : some 'e' = some 'c' := congrArg (fun s : Str => s[5]?) (events.symm.trans crash)
    cases sixth
  · have dropbox : key = "dropbox:".toList ++ rest' := Option.some.inj (there.symm.trans dropbox)
    have head : some 'l' = some 'd' := congrArg List.head? (events.symm.trans dropbox)
    cases head

theorem keys (self : JavaCrash) (key : Str) (here : self.first.sourceKey = some key) :
    self.second.sourceKey ≠ some key := by
  rw [first] at here
  rw [second]
  cases order : self.eventFirst with
  | false =>
      rw [order] at here
      exact fun there => self.keys_apart there here
  | true =>
      rw [order] at here
      exact self.keys_apart here

theorem groups_perm (self : JavaCrash) (windowMs : I64) (between later : List I64) :
    ((self.records windowMs between later).map (grouping sha256)).Perm
      (((self.meeting windowMs between).occurrences self.first self.second).map fun o =>
        grouping sha256 (o.pending.finish 0).record) := by
  have recorded := (two_fragments_recorded windowMs between later self.keys).map (grouping sha256)
  exact recorded.trans (List.Perm.of_eq List.map_map)

theorem groups_joined (self : JavaCrash) {windowMs : I64} {between later : List I64}
    (first : self.eventFirst = true) (joined : self.meeting windowMs between = .joined) :
    ((self.records windowMs between later).map (grouping sha256)).Perm
      [grouping sha256 (((Occurrence.start self.eventFragment).merge self.fragment).pending.finish
        0).record] := by
  have groups := @groups_perm sha256 self windowMs between later
  rwa [joined, JavaCrash.first, JavaCrash.second, first] at groups

theorem Rebuilt.event_echoes (rebuilt : crash.Rebuilt crash') :
    Echoes crash.eventFragment crash'.eventFragment := by
  rw [Echoes, eventFragment, eventFragment, ← rebuilt.event, ← rebuilt.entry]
  rfl

theorem Rebuilt.report_renumbered (rebuilt : crash.Rebuilt crash') :
    RenumberedFragment crash.fragment crash'.fragment :=
  rebuilt.report.fragment crash.javaReport crash.read crash'.read

theorem Rebuilt.echoes (rebuilt : crash.Rebuilt crash') :
    Echoes crash.first crash'.first ∧ Echoes crash.second crash'.second := by
  rw [first, first, second, second, ← rebuilt.eventFirst]
  split_ifs
  · exact ⟨rebuilt.event_echoes, rebuilt.report_renumbered.same⟩
  · exact ⟨rebuilt.report_renumbered.same, rebuilt.event_echoes⟩

theorem Rebuilt.meeting (rebuilt : crash.Rebuilt crash') (windowMs : I64) (between : List I64) :
    crash.meeting windowMs between = crash'.meeting windowMs between :=
  meeting_eq rebuilt.echoes.1 rebuilt.echoes.2 windowMs between

/-- The line of the event is the same, or does not count. -/
def SameLine (crash crash' : JavaCrash) : Prop :=
  crash.event.line = crash'.event.line ∨ ClosesParenthesis crash.event.file

theorem Rebuilt.frames_event (rebuilt : crash.Rebuilt crash') :
    shownFrames crash.eventFragment.frames = shownFrames crash'.eventFragment.frames ↔
      (crash.event.file ≠ [] → SameLine crash crash') := shownFrames_event rebuilt.event

theorem Rebuilt.group_event (rebuilt : crash.Rebuilt crash') :
    grouping sha256 ((Occurrence.start crash.eventFragment).pending.finish 0).record =
        grouping sha256 ((Occurrence.start crash'.eventFragment).pending.finish 0).record ↔
      (crash.event.file ≠ [] → SameLine crash crash') := by
  rw [grouping_start rebuilt.event_echoes crash.kind_event, rebuilt.frames_event]
  exact and_iff_right fun none => by cases none

theorem Rebuilt.group_report (rebuilt : crash.Rebuilt crash') :
    grouping sha256 ((Occurrence.start crash.fragment).pending.finish 0).record =
        grouping sha256 ((Occurrence.start crash'.fragment).pending.finish 0).record ↔
      (crash.report.Unnamed → crash.report.firstLine = crash'.report.firstLine) := by
  have same := rebuilt.report_renumbered
  rw [grouping_start same.same crash.reads.kind, and_iff_left (shownFrames_congr same.frames),
    ← crash.reads.unnamed]
  refine forall_congr' fun unnamed => ?_
  have unnamed' : crash'.report.Unnamed := by
    rw [crash'.reads.unnamed, show crash'.fragment.summaryClass =
      crash.fragment.summaryClass by rw [← same.same]]
    exact crash.reads.unnamed.mp unnamed
  rw [crash.reads.text unnamed, crash'.reads.text unnamed']
  exact getD_eq_getD_iff rebuilt.report.firstLine

theorem Rebuilt.framed (rebuilt : crash.Rebuilt crash') :
    crash.report.Framed ↔ crash'.fragment.frames ≠ [] ∧ .structured ≤ crash'.fragment.quality := by
  have same := rebuilt.report_renumbered
  have quality : crash'.fragment.quality = crash.fragment.quality := by rw [← same.same]
  have empty : crash.fragment.frames = [] ↔ crash'.fragment.frames = [] := by
    rw [← List.map_eq_nil_iff (f := normalizeJavaFrame), same.frames, List.map_eq_nil_iff]
  rw [crash.reads.outranks, quality, ne_eq, ne_eq, empty]

theorem Rebuilt.group_event_report (rebuilt : crash.Rebuilt crash') :
    grouping sha256 (((Occurrence.start crash.eventFragment).merge crash.fragment).pending.finish 0).record =
        grouping sha256 (((Occurrence.start crash'.eventFragment).merge crash'.fragment).pending.finish
          0).record ↔
      (crash.event.file ≠ [] ∧ ¬ crash.report.Framed → SameLine crash crash') := by
  have same := rebuilt.report_renumbered
  have quality : ∀ self : JavaCrash, self.eventFragment.quality = .structured := fun _ => rfl
  rw [grouping_merge rebuilt.event_echoes same.same crash.kind_event crash.reads.kind
    (.inl fun none => by cases none), quality, quality]
  by_cases framed : crash.report.Framed
  · rw [if_pos (crash.reads.outranks.mp framed), if_pos (rebuilt.framed.mp framed)]
    exact ⟨fun _ shown => absurd framed shown.2, fun _ => shownFrames_congr same.frames⟩
  · rw [if_neg fun both => framed (crash.reads.outranks.mpr both),
      if_neg fun both => framed (rebuilt.framed.mpr both), rebuilt.frames_event]
    exact ⟨fun line shown => line shown.1, fun line named => line ⟨named, framed⟩⟩

theorem frames_eventFragment (self : JavaCrash) : self.eventFragment.frames ≠ [] ↔ self.event.file ≠ [] := by
  show eventFrames self.event ≠ [] ↔ _
  rw [eventFrames]
  by_cases empty : self.event.file = [] <;> simp [empty]

theorem Rebuilt.group_report_event (rebuilt : crash.Rebuilt crash') :
    grouping sha256 (((Occurrence.start crash.fragment).merge crash.eventFragment).pending.finish 0).record =
        grouping sha256 (((Occurrence.start crash'.fragment).merge crash'.eventFragment).pending.finish
          0).record ↔
      (crash.event.file ≠ [] → SameLine crash crash') := by
  have same := rebuilt.report_renumbered
  have file : crash'.event.file = crash.event.file := by rw [← rebuilt.event]
  have later : ∀ self : JavaCrash, self.fragment.quality ≤ self.eventFragment.quality :=
    fun self => self.reads.quality
  rw [grouping_merge same.same rebuilt.event_echoes crash.reads.kind crash.kind_event
    (.inr fun none => by cases none)]
  by_cases named : crash.event.file ≠ []
  · have named' : crash'.event.file ≠ [] := by rwa [file]
    rw [if_pos ⟨crash.frames_eventFragment.mpr named, later crash⟩,
      if_pos ⟨crash'.frames_eventFragment.mpr named', later crash'⟩]
    exact rebuilt.frames_event
  · have named' : ¬ crash'.event.file ≠ [] := by rwa [file]
    rw [if_neg fun both => named (crash.frames_eventFragment.mp both.1),
      if_neg fun both => named' (crash'.frames_eventFragment.mp both.1)]
    exact ⟨fun _ shown => absurd shown named, fun _ => shownFrames_congr same.frames⟩

end JavaCrash

theorem pair_perm_iff {α β : Type} {a b a' b' : α × β} (first : a.1 = a'.1) (second : b.1 = b'.1)
    (apart : a.1 ≠ b.1) :
    [a, b].Perm [a', b'] ↔ a = a' ∧ b = b' := by
  constructor
  · intro perm
    have left : a ∈ [a', b'] := perm.subset List.mem_cons_self
    have right : b ∈ [a', b'] := perm.subset (List.mem_cons_of_mem _ List.mem_cons_self)
    simp only [List.mem_cons, List.not_mem_nil, or_false] at left right
    refine ⟨left.resolve_right ?_, right.resolve_left ?_⟩
    · rintro rfl
      exact apart second.symm
    · rintro rfl
      exact apart first
  · rintro ⟨rfl, rfl⟩
    exact .refl _

theorem JavaCrash.sources_apart (self : JavaCrash) : self.eventFragment.source ≠ self.fragment.source := by
  have event : self.eventFragment.source = .events := rfl
  rcases self.reads.source with crash | dropbox
  · rw [event, crash]
    decide
  · rw [event, dropbox]
    decide

/-- A rebuild keeps the groups of a crash unless a record shows the line of its event, or a line number in the
first line of its report. -/
theorem java_groups_stable_iff (sha256 : List UInt8 → List UInt8) {crash crash' : JavaCrash}
    (rebuilt : crash.Rebuilt crash') (windowMs : I64) (between later : List I64) :
    ((crash.records windowMs between later).map (grouping sha256)).Perm
        ((crash'.records windowMs between later).map (grouping sha256)) ↔
      (crash.ShowsLine windowMs between → crash.event.line = crash'.event.line ∨
        ClosesParenthesis crash.event.file) ∧
      (crash.ShowsText windowMs between → crash.report.firstLine = crash'.report.firstLine) := by
  have event := @JavaCrash.Rebuilt.group_event sha256 _ _ rebuilt
  have report := @JavaCrash.Rebuilt.group_report sha256 _ _ rebuilt
  have sources : crash.eventFragment.source = crash'.eventFragment.source := rfl
  have same : crash.fragment.source = crash'.fragment.source := by rw [← rebuilt.report_renumbered.same]
  rw [(crash.groups_perm windowMs between later).congr_left,
    (crash'.groups_perm windowMs between later).congr_right,
    ← rebuilt.meeting, JavaCrash.ShowsLine, JavaCrash.ShowsText, JavaCrash.first, JavaCrash.first,
    JavaCrash.second, JavaCrash.second, ← rebuilt.eventFirst]
  cases crash.eventFirst with
  | true =>
      cases crash.meeting windowMs between with
      | joined =>
          refine (List.singleton_perm_singleton.trans rebuilt.group_event_report).trans ?_
          exact ⟨fun line => ⟨line, fun shown => shown.2.elim⟩, And.left⟩
      | absorbed =>
          refine (List.singleton_perm_singleton.trans event).trans ?_
          exact ⟨fun line => ⟨fun shown => line shown.1, fun shown => shown.2.elim⟩,
            fun both named => both.1 ⟨named, trivial⟩⟩
      | apart =>
          refine (pair_perm_iff sources same crash.sources_apart).trans ((and_congr event report).trans ?_)
          exact and_congr (by simp [JavaCrash.SameLine]) (by simp)
  | false =>
      cases crash.meeting windowMs between with
      | joined =>
          refine (List.singleton_perm_singleton.trans rebuilt.group_report_event).trans ?_
          exact ⟨fun line => ⟨fun shown => line shown.1, fun shown => shown.2.elim⟩,
            fun both named => both.1 ⟨named, trivial⟩⟩
      | absorbed =>
          refine (List.singleton_perm_singleton.trans report).trans ?_
          exact ⟨fun text => ⟨fun shown => shown.2.elim, fun shown => text shown.1⟩,
            fun both unnamed => both.2 ⟨unnamed, trivial⟩⟩
      | apart =>
          refine (pair_perm_iff same sources crash.sources_apart.symm).trans ((and_congr report event).trans ?_)
          rw [and_comm]
          exact and_congr (by simp [JavaCrash.SameLine]) (by simp)

def cacheEvent (line : Nat) : AmCrashEvent where
  userId := 0
  pid := 42
  processName := "com.example".toList
  flags := 0
  exceptionClass := "java.lang.Error".toList
  message := "closed".toList
  file := "Cache.kt".toList
  line := line
  recoverable := false

def cacheMessage (line : Nat) : Str :=
  "FATAL EXCEPTION: main".toList ++ '\n' :: ("Process: com.example, PID: 42".toList ++ '\n' ::
    ("java.lang.Error: closed".toList ++ '\n' ::
      (['\t'] ++ (frameText "Cache.read".toList "Cache.kt".toList line ++ []))))

def cacheReport (line : Nat) : CrashBufferReport where
  threadName := "main".toList
  processName := "com.example".toList
  pid := 42
  exceptionClass := "java.lang.Error".toList
  exceptionMessage := "closed".toList
  frames := [⟨"Cache".toList, "read".toList, some "Cache.kt".toList, some (UInt32.ofNat line)⟩]
  raw := cacheMessage line

def cacheEntry : LoggerEntry := ⟨42, 42, 1700000000, 0⟩

def cacheCrash (line : Nat) (read : parseCrashBuffer (cacheMessage line) = .ok (cacheReport line)) :
    JavaCrash where
  event := cacheEvent line
  entry := cacheEntry
  eventFirst := true
  report := .crashBuffer cacheEntry (cacheMessage line)
  fragment := crashBufferFragment cacheEntry (cacheReport line)
  read := by rw [Report.fragment, read]
  javaEvent := show "java.lang.Error".toList ≠ amCrashNativeClass by decide
  javaReport := trivial

set_option maxRecDepth 4000 in
def before37 : JavaCrash := cacheCrash 37 (by decide)

set_option maxRecDepth 4000 in
def after52 : JavaCrash := cacheCrash 52 (by decide)

theorem renumbered_cacheMessage (line line' : Nat) : Renumbered (cacheMessage line) (cacheMessage line') := by
  have tab : Blank ['\t'] := List.forall_mem_singleton.mpr rfl
  have nothing : Blank [] := fun c member => by cases member
  have single : ∀ n : Nat, '\n' ∉ ['\t'] ++ (frameText "Cache.read".toList "Cache.kt".toList n ++ []) := by
    intro n
    simp [frameText, notMem_toDigits (show '\n'.isDigit = false by decide)]
  exact .line (.same _) (by decide) (by decide) (.line (.same _) (by decide) (by decide)
    (.line (.same _) (by decide) (by decide)
      (.last (.frame tab (by decide) nothing line line') (single line) (single line'))))

theorem rebuilt_cache : before37.Rebuilt after52 where
  event := rfl
  entry := show cacheEntry = cacheEntry from rfl
  eventFirst := show true = true from rfl
  report := .crashBuffer cacheEntry (renumbered_cacheMessage 37 52)

theorem java_groups_stable_iff_cache : before37.Rebuilt after52 ∧
    (((before37.records defaultMergeWindowMs [] []).map (grouping id)).Perm
        ((after52.records defaultMergeWindowMs [] []).map (grouping id)) ↔
      (before37.ShowsLine defaultMergeWindowMs [] →
        before37.event.line = after52.event.line ∨ ClosesParenthesis before37.event.file) ∧
      (before37.ShowsText defaultMergeWindowMs [] → before37.report.firstLine = after52.report.firstLine)) :=
  ⟨rebuilt_cache, java_groups_stable_iff id rebuilt_cache defaultMergeWindowMs [] []⟩

/-- The line of the event makes a second group of one crash. -/
theorem rebuild_splits_java_group : ¬ ∀ (sha256 : List UInt8 → List UInt8) (crash crash' : JavaCrash),
    crash.Rebuilt crash' → ∀ (windowMs : I64) (between later : List I64),
      ((crash.records windowMs between later).map (grouping sha256)).Perm
        ((crash'.records windowMs between later).map (grouping sha256)) := by
  intro stable
  have groups := stable id before37 after52 rebuilt_cache defaultMergeWindowMs [] []
  have joined : before37.meeting defaultMergeWindowMs [] = .joined := by decide
  have joined' : after52.meeting defaultMergeWindowMs [] = .joined :=
    (rebuilt_cache.meeting _ _).symm.trans joined
  have before := @JavaCrash.groups_joined id before37 _ _ [] rfl joined
  have after := @JavaCrash.groups_joined id after52 _ _ [] rfl joined'
  have one := List.singleton_perm_singleton.mp ((before.symm.trans groups).trans after)
  rcases rebuilt_cache.group_event_report.mp one ⟨by decide, fun framed => framed⟩ with line | closes
  · exact absurd line (by decide)
  · exact absurd closes.1 (by decide)

end CrashCatcher.Collect
