import CrashCatcher.Watch.Scan

namespace CrashCatcher.Watch
open Lib

namespace Inotify

structure RawInotifyEvent where
  watchDescriptor : Int
  mask : Nat
  cookie : Nat
  name : Str

structure Frame where
  watchDescriptor : Int
  mask : Nat
  cookie : Nat
  raw : List UInt8

def u32 (bytes : List UInt8) : Nat := bytes.foldr (fun byte n => byte.toNat + 256 * n) 0

def i32 (bytes : List UInt8) : Int := if u32 bytes < 2 ^ 31 then u32 bytes else u32 bytes - 2 ^ 32

def Frame.name (self : Frame) : Option Str := Utf8.fromUtf8 (self.raw.takeWhile (· ≠ 0))

/-- The first event of the buffer and the bytes after it; a header has 16 bytes, the name's length in
the last four. -/
def split (bytes : List UInt8) : Except WatcherError (Frame × List UInt8) :=
  if bytes.length < 16 then .error (.malformedEvent "truncated header".toList)
  else
    let len := u32 ((bytes.drop 12).take 4)
    let rest := bytes.drop 16
    if rest.length < len then .error (.malformedEvent "truncated name".toList)
    else .ok ({
      watchDescriptor := i32 (bytes.take 4)
      mask := u32 ((bytes.drop 4).take 4)
      cookie := u32 ((bytes.drop 8).take 4)
      raw := rest.take len }, rest.drop len)

def Frame.decode (self : Frame) : Except WatcherError RawInotifyEvent :=
  match self.name with
  | none => .error (.malformedEvent "non-UTF8 name".toList)
  | some name => .ok ⟨self.watchDescriptor, self.mask, self.cookie, name⟩

/-- The loop of `parseInotifyEvents`; every event takes at least one byte of the buffer. -/
def parseFrom : Nat → List UInt8 → Except WatcherError (List RawInotifyEvent)
  | 0, _ => .ok []
  | _ + 1, [] => .ok []
  | fuel + 1, byte :: bytes => do
      let (frame, rest) ← split (byte :: bytes)
      let event ← frame.decode
      return event :: (← parseFrom fuel rest)

def parseInotifyEvents (bytes : List UInt8) : Except WatcherError (List RawInotifyEvent) :=
  parseFrom bytes.length bytes

def framesFrom : Nat → List UInt8 → Option (List Frame)
  | 0, _ => some []
  | _ + 1, [] => some []
  | fuel + 1, byte :: bytes =>
      match split (byte :: bytes) with
      | .error _ => none
      | .ok (frame, rest) => (framesFrom fuel rest).map (frame :: ·)

def frames (bytes : List UInt8) : Option (List Frame) := framesFrom bytes.length bytes

end Inotify

open Inotify

namespace FileSystem
variable (fs : FileSystem) (roots : Int → Option WatchRoot)

def pollEvent (event : Inotify.RawInotifyEvent) : Except WatcherError (List DiscoveredSource) :=
  match roots event.watchDescriptor with
  | none => .ok []
  | some root =>
      if isCompletionEvent root.kind event.name event.mask then
        (fs.discover root.kind (Path.join root.path event.name)).map Option.toList
      else .ok []

def poll (read : Except IoError (List UInt8)) : Except WatcherError (List DiscoveredSource) :=
  match read with
  | .error e => if e.kind = .wouldBlock then .ok [] else .error (.inotify e)
  | .ok buffer => do gather (fs.pollEvent roots) (← parseInotifyEvents buffer)

def Completes (frame : Frame) (kind : WatchKind) (path : Str) : Prop :=
  ∃ root name, roots frame.watchDescriptor = some root ∧ frame.name = some name ∧
    isCompletionEvent root.kind name frame.mask = true ∧ kind = root.kind ∧ path = Path.join root.path name

def Announced (events : List Frame) (source : DiscoveredSource) : Prop :=
  ∃ frame ∈ events, ∃ kind path, Completes roots frame kind path ∧ fs.discover kind path = .ok (some source)

/-- An event whose name is not UTF-8, or whose file cannot be turned into an artefact. -/
def BadEvent (events : List Frame) : Prop :=
  ∃ frame ∈ events, frame.name = none ∨ ∃ kind path, Completes roots frame kind path ∧ fs.Unusable path

variable {fs roots}

theorem parseFrom_frames (fuel : Nat) {buffer : List UInt8} {events : List Frame}
    (whole : framesFrom fuel buffer = some events) :
    parseFrom fuel buffer = gather (fun frame => frame.decode.map ([·])) events := by
  induction fuel generalizing buffer events with
  | zero =>
      cases whole
      rfl
  | succ fuel ih =>
      cases buffer with
      | nil =>
          cases whole
          rfl
      | cons byte bytes =>
          rw [framesFrom] at whole
          rw [parseFrom]
          cases first : split (byte :: bytes) with
          | error e => simp [first] at whole
          | ok parts =>
              obtain ⟨frame, rest⟩ := parts
              simp only [first, Option.map_eq_some_iff] at whole
              obtain ⟨later, framed, rfl⟩ := whole
              rw [gather, ← ih framed]
              cases decoded : frame.decode with
              | error e => simp [bind, Except.bind, decoded, Except.map]
              | ok event =>
                  cases parsed : parseFrom fuel rest <;>
                    simp [bind, Except.bind, decoded, Except.map, parsed, pure, Except.pure]

theorem decode_mem {events : List Frame} {parsed : List Inotify.RawInotifyEvent}
    (ok : gather (fun frame => frame.decode.map ([·])) events = .ok parsed) (event : Inotify.RawInotifyEvent) :
    event ∈ parsed ↔ ∃ frame ∈ events, ∃ name, frame.name = some name ∧
      event = ⟨frame.watchDescriptor, frame.mask, frame.cookie, name⟩ := by
  rw [gather_eq_ok ok]
  refine exists_congr fun frame => and_congr_right fun _ => ?_
  rw [Frame.decode]
  cases frame.name <;> simp [Except.map]

theorem decode_fails_iff {events : List Frame} :
    (∃ e, gather (fun frame : Frame => frame.decode.map ([·])) events = .error e) ↔
      ∃ frame ∈ events, frame.name = none := by
  rw [gather_fails_iff]
  refine exists_congr fun frame => and_congr_right fun _ => ?_
  rw [Frame.decode]
  cases frame.name <;> simp [Except.map]

theorem pollEvent_mem {event : Inotify.RawInotifyEvent} {part : List DiscoveredSource}
    (ok : fs.pollEvent roots event = .ok part) (source : DiscoveredSource) :
    source ∈ part ↔ ∃ root, roots event.watchDescriptor = some root ∧
      isCompletionEvent root.kind event.name event.mask = true ∧
      fs.discover root.kind (Path.join root.path event.name) = .ok (some source) := by
  rw [pollEvent] at ok
  cases watched : roots event.watchDescriptor with
  | none =>
      rw [watched] at ok
      cases ok
      simp
  | some root =>
      simp only [watched] at ok
      by_cases completion : isCompletionEvent root.kind event.name event.mask = true
      · rw [if_pos completion] at ok
        cases found : fs.discover root.kind (Path.join root.path event.name) with
        | error e => simp [found, Except.map] at ok
        | ok discovered =>
            rw [found] at ok
            cases ok
            have same : (∃ watch, some root = some watch ∧
                isCompletionEvent watch.kind event.name event.mask = true ∧
                fs.discover watch.kind (Path.join watch.path event.name) = .ok (some source)) ↔
                discovered = some source := by
              simp [completion, found]
            rw [same]
            exact Option.mem_toList
      · rw [if_neg completion] at ok
        cases ok
        simp [completion]

theorem pollEvent_fails_iff {event : Inotify.RawInotifyEvent} : (∃ e, fs.pollEvent roots event = .error e) ↔
    ∃ root, roots event.watchDescriptor = some root ∧
      isCompletionEvent root.kind event.name event.mask = true ∧
      fs.Unusable (Path.join root.path event.name) := by
  rw [pollEvent]
  cases watched : roots event.watchDescriptor with
  | none => simp
  | some root =>
      by_cases completion : isCompletionEvent root.kind event.name event.mask = true
      · have usable := fs.discover_fails_iff root.kind (Path.join root.path event.name)
        simp only [completion, if_true, Option.some.injEq, exists_eq_left', true_and]
        rw [← usable]
        cases fs.discover root.kind (Path.join root.path event.name) <;> simp [Except.map]
      · simp [completion]

theorem poll_frames {buffer : List UInt8} {events : List Frame} (whole : frames buffer = some events) :
    (∀ out, fs.poll roots (.ok buffer) = .ok out → ∀ source, fs.Announced roots events source → source ∈ out) ∧
      ((∃ e, fs.poll roots (.ok buffer) = .error e) ↔ fs.BadEvent roots events) := by
  have parse : parseInotifyEvents buffer = gather (fun frame => frame.decode.map ([·])) events :=
    parseFrom_frames buffer.length whole
  have poll : fs.poll roots (.ok buffer) = match parseInotifyEvents buffer with
      | .error e => .error e
      | .ok parsed => gather (fs.pollEvent roots) parsed := by
    rw [FileSystem.poll]
    cases parseInotifyEvents buffer <;> rfl
  rw [poll, parse]
  have names := @decode_fails_iff events
  cases parsed : gather (fun frame : Frame => frame.decode.map ([·])) events with
  | error e =>
      obtain ⟨frame, member, unnamed⟩ := names.mp ⟨e, parsed⟩
      refine ⟨fun out ok => ?_, iff_of_true ⟨e, rfl⟩ ⟨frame, member, .inl unnamed⟩⟩
      cases ok
  | ok all =>
      have named : ∀ frame ∈ events, frame.name ≠ none := by
        intro frame member unnamed
        obtain ⟨e, failed⟩ := names.mpr ⟨frame, member, unnamed⟩
        rw [parsed] at failed
        cases failed
      constructor
      · intro out ok source ⟨frame, member, kind, path,
          ⟨root, name, watched, called, completion, same, there⟩, found⟩
        subst same there
        rw [gather_eq_ok ok]
        have event := (decode_mem parsed _).mpr ⟨frame, member, name, called, rfl⟩
        obtain ⟨part, polled⟩ := gather_ok_iff.mp ⟨out, ok⟩ _ event
        exact ⟨_, event, part, polled, (pollEvent_mem polled source).mpr ⟨root, watched, completion, found⟩⟩
      · simp only
        rw [gather_fails_iff]
        constructor
        · intro ⟨event, member, failed⟩
          obtain ⟨root, watched, completion, bad⟩ := pollEvent_fails_iff.mp failed
          obtain ⟨frame, here, name, called, rfl⟩ := (decode_mem parsed event).mp member
          exact ⟨frame, here, .inr ⟨_, _, ⟨root, name, watched, called, completion, rfl, rfl⟩, bad⟩⟩
        · rintro ⟨frame, member, unnamed | ⟨kind, path,
            ⟨root, name, watched, called, completion, rfl, rfl⟩, bad⟩⟩
          · exact absurd unnamed (named frame member)
          · exact ⟨_, (decode_mem parsed _).mpr ⟨frame, member, name, called, rfl⟩,
              pollEvent_fails_iff.mpr ⟨root, watched, completion, bad⟩⟩

theorem poll_returns_iff {buffer : List UInt8} {events : List Frame} (whole : frames buffer = some events) :
    (∃ out, fs.poll roots (.ok buffer) = .ok out ∧ ∀ source, fs.Announced roots events source → source ∈ out) ↔
      ¬ fs.BadEvent roots events := by
  obtain ⟨returns, fails⟩ : (∀ out, fs.poll roots (.ok buffer) = .ok out →
      ∀ source, fs.Announced roots events source → source ∈ out) ∧ _ := poll_frames whole
  constructor
  · intro ⟨out, ok, _⟩ bad
    obtain ⟨e, failed⟩ := fails.mpr bad
    rw [ok] at failed
    cases failed
  · intro good
    cases polled : fs.poll roots (.ok buffer) with
    | ok out => exact ⟨out, rfl, returns out polled⟩
    | error e => exact absurd (fails.mp ⟨e, polled⟩) good

end FileSystem

/-- The scan returns every artefact, and the poll the file of every event, exactly when no entry and no
event is bad: a single one takes all the others with it. -/
theorem bad_entry_hides_iff (fs : FileSystem) (roots : List WatchRoot) (contains : Str → Except Str Bool)
    (watched : Int → Option WatchRoot) (buffer : List UInt8) :
    ((¬ fs.Obstructed roots contains → ∃ out, fs.startupScan roots contains = .ok out ∧
        ∀ source, fs.Artefact roots contains source → source ∈ out) ↔
      (¬ fs.Obstructed roots contains → ¬ fs.BadEntry roots)) ∧
    ((∀ events, frames buffer = some events → ∃ out, fs.poll watched (.ok buffer) = .ok out ∧
        ∀ source, fs.Announced watched events source → source ∈ out) ↔
      ∀ events, frames buffer = some events → ¬ fs.BadEvent watched events) :=
  ⟨imp_congr_right FileSystem.startupScan_returns_iff,
    forall_congr' fun _ => imp_congr_right FileSystem.poll_returns_iff⟩

def anrRoot : WatchRoot := ⟨.anr, "/data/anr".toList⟩

def anrDirectory : FileSystem where
  readDir _ := .ok [.ok (Utf8.encode "anr_0".toList), .ok (Utf8.encode "anr_1".toList)]
  metadata path :=
    if path = "/data/anr/anr_0".toList then .ok ⟨false, .ok 0, 4096⟩
    else if path = "/data/anr/anr_1".toList then .ok ⟨true, .ok 1, 10⟩
    else .error ⟨.notFound, []⟩

def anrReport : DiscoveredSource where
  kind := .anr
  path := "/data/anr/anr_1".toList
  preferredPath := "/data/anr/anr_1".toList
  identity := ⟨"anr:anr_1:1:10".toList, 10, 1⟩

def closedFrame (name : String) : Frame where
  watchDescriptor := 1
  mask := 8
  cookie := 0
  raw := Utf8.encode name.toList ++ List.replicate (16 - (Utf8.encode name.toList).length) 0

def closed (name : String) : List UInt8 :=
  [1, 0, 0, 0, 8, 0, 0, 0, 0, 0, 0, 0, 16, 0, 0, 0] ++ (closedFrame name).raw

def anrWatch (watchDescriptor : Int) : Option WatchRoot := if watchDescriptor = 1 then some anrRoot else none

theorem anrDirectory_lists {name : Str} (listed : name = "anr_0".toList ∨ name = "anr_1".toList) :
    anrDirectory.Lists anrRoot name := by
  refine ⟨_, Utf8.encode name, rfl, ?_, Utf8.fromUtf8_encode name, ?_⟩
  · rcases listed with rfl | rfl <;> simp
  · rcases listed with rfl | rfl <;> rfl

theorem anrDirectory_unusable : anrDirectory.Unusable "/data/anr/anr_0".toList := .inl rfl

theorem closedFrame_completes {name : String} (listed : name = "anr_0" ∨ name = "anr_1") :
    FileSystem.Completes anrWatch (closedFrame name) .anr (Path.join anrRoot.path name.toList) := by
  have raw : (closedFrame name).raw.takeWhile (· ≠ 0) = Utf8.encode name.toList := by
    rcases listed with rfl | rfl <;> decide
  refine ⟨anrRoot, name.toList, rfl, ?_, ?_, rfl, rfl⟩
  · rw [Frame.name, raw]
    exact Utf8.fromUtf8_encode _
  · rcases listed with rfl | rfl <;> decide

theorem one_bad_entry_hides_the_report :
    (¬ anrDirectory.Obstructed [anrRoot] (fun _ => .ok false) ∧
      anrDirectory.Artefact [anrRoot] (fun _ => .ok false) anrReport ∧
      ¬ ∃ out, anrDirectory.startupScan [anrRoot] (fun _ => .ok false) = .ok out) ∧
    frames (closed "anr_0" ++ closed "anr_1") = some [closedFrame "anr_0", closedFrame "anr_1"] ∧
      anrDirectory.Announced anrWatch [closedFrame "anr_0", closedFrame "anr_1"] anrReport ∧
      ¬ ∃ out, anrDirectory.poll anrWatch (.ok (closed "anr_0" ++ closed "anr_1")) = .ok out := by
  have found : anrDirectory.discover .anr "/data/anr/anr_1".toList = .ok (some anrReport) := by rfl
  have whole : frames (closed "anr_0" ++ closed "anr_1") = some [closedFrame "anr_0", closedFrame "anr_1"] := by
    rfl
  refine ⟨⟨?_, ?_, ?_⟩, whole, ?_, ?_⟩
  · rintro (⟨root, -, source, failed, -⟩ | ⟨root, -, entries, source, listed, member⟩ |
      ⟨root, -, name, source, message, -, -, refused⟩)
    · cases failed
    · cases listed
      simp at member
    · cases refused
  · exact ⟨anrRoot, .head _, _, anrDirectory_lists (.inr rfl), found, rfl⟩
  · intro ⟨out, ok⟩
    have bad : anrDirectory.BadEntry [anrRoot] :=
      ⟨anrRoot, .head _, _, anrDirectory_lists (.inl rfl), anrDirectory_unusable⟩
    obtain ⟨e, failed⟩ := FileSystem.startupScan_fails_iff.mpr (.inr bad)
    rw [ok] at failed
    cases failed
  · exact ⟨_, .tail _ (.head _), _, _, closedFrame_completes (.inr rfl), found⟩
  · intro ⟨out, ok⟩
    have bad : anrDirectory.BadEvent anrWatch [closedFrame "anr_0", closedFrame "anr_1"] :=
      ⟨_, .head _, .inr ⟨_, _, closedFrame_completes (.inl rfl), anrDirectory_unusable⟩⟩
    obtain ⟨e, failed⟩ := (FileSystem.poll_frames whole).2.mpr bad
    rw [ok] at failed
    cases failed

end CrashCatcher.Watch
