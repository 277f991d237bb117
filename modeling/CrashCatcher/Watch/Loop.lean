import CrashCatcher.Lib.Run
import CrashCatcher.Lib.Utf8
import CrashCatcher.Watch.Discovery

namespace CrashCatcher.Watch
open Lib Lib.Run

structure RawInotifyEvent where
  watchDescriptor : Nat
  mask : Nat
  name : Str
deriving DecidableEq

def RawInotifyEvent.size (event : RawInotifyEvent) : Nat := 16 + 16 * (Utf8.size event.name / 16 + 1)

def pollBufferBytes : Nat := 64 * 1024

def fitting : Nat → List RawInotifyEvent → List RawInotifyEvent
  | _, [] => []
  | room, event :: rest => if event.size ≤ room then event :: fitting (room - event.size) rest else []

/-- The events that one read of the queue gets. File names are short, so the first one always fits. -/
def readable : List RawInotifyEvent → List RawInotifyEvent
  | [] => []
  | event :: rest => event :: fitting (pollBufferBytes - event.size) rest

inductive Phase where
  | scanning (next : Nat) (out : List DiscoveredSource)
  | ingesting (rest : List DiscoveredSource)
  | watching (next : Nat)
  | polling
deriving DecidableEq

structure LoopState where
  files : List FileEntry := []
  phase : Phase := .scanning 0 []
  queue : List RawInotifyEvent := []
  returned : List DiscoveredSource := []
deriving DecidableEq

inductive Completion where
  | closeWrite
  | movedTo
deriving DecidableEq

def Completion.mask : Completion → Nat
  | closeWrite => inCloseWriteMask
  | movedTo => inMovedToMask

inductive LoopEvent where
  | complete (file : FileEntry) (how : Completion)
  | remove (root : Nat) (name : Str)
  | step

section
variable (roots : List WatchRoot) (ingested : Str → Bool)

namespace LoopState

def watches (s : LoopState) (root : Nat) : Bool :=
  match s.phase with
  | .watching next => decide (root < next)
  | .polling => true
  | _ => false

def raise (s : LoopState) (number mask : Nat) (name : Str) : List RawInotifyEvent :=
  match roots[number]? with
  | some root =>
      if s.watches number && root.kind.watchMask &&& mask ≠ 0 then
        s.queue ++ [{ watchDescriptor := number, mask, name }]
      else s.queue
  | none => s.queue

def without (files : List FileEntry) (root : Nat) (name : Str) : List FileEntry :=
  files.filter fun file => !(file.root = root && file.name = name)

def scanRoot (s : LoopState) (root : WatchRoot) (number : Nat) : List DiscoveredSource :=
  s.files.filterMap fun file =>
    if file.root = number && completedName root.kind file.name then
      (discover s.files root number file.name).filter fun source => !ingested source.identity.key
    else none

def poll (s : LoopState) : List DiscoveredSource :=
  (readable s.queue).filterMap fun event => do
    let root ← roots[event.watchDescriptor]?
    if isCompletionEvent root.kind event.name event.mask then
      discover s.files root event.watchDescriptor event.name
    else none

/-- One step of the thread: a directory scanned, one source ingested, one watch added, or one poll. -/
def advance (s : LoopState) : LoopState :=
  match s.phase with
  | .scanning next out => match roots[next]? with
    | some root => { s with phase := .scanning (next + 1) (out ++ s.scanRoot ingested root next) }
    | none =>
        let sources := out.mergeSort fun a b => a.identity.modifiedNs ≤ b.identity.modifiedNs
        { s with phase := .ingesting sources, returned := s.returned ++ sources }
  | .ingesting [] => { s with phase := .watching 0 }
  | .ingesting (_ :: rest) => { s with phase := .ingesting rest }
  | .watching next =>
      if next < roots.length then { s with phase := .watching (next + 1) } else { s with phase := .polling }
  | .polling =>
      { s with
        queue := s.queue.drop (readable s.queue).length
        returned := s.returned ++ s.poll roots }

def run (s : LoopState) : LoopEvent → LoopState
  | .complete file how =>
      { s with
        files := without s.files file.root file.name ++ [file]
        queue := s.raise roots file.root how.mask file.name }
  | .remove root name =>
      { s with files := without s.files root name, queue := s.raise roots root inDeleteMask name }
  | .step => s.advance roots ingested

def Shows (root : WatchRoot) (file : FileEntry) (source : DiscoveredSource) : Prop :=
  source.path = pathIn root file.name ∧ source.identity = sourceIdentity root.kind file

def Queued (s : LoopState) (root : WatchRoot) (file : FileEntry) : Prop :=
  ∃ event ∈ s.queue, event.watchDescriptor = file.root ∧ event.name = file.name ∧
    isCompletionEvent root.kind event.name event.mask = true

def Returned (s : LoopState) (root : WatchRoot) (file : FileEntry) : Prop :=
  ∃ source ∈ s.returned, Shows root file source

/-- The thread has returned the file or still will. -/
def Due (s : LoopState) (root : WatchRoot) (file : FileEntry) : Prop :=
  match s.phase with
  | .scanning next out => next ≤ file.root ∨ ∃ source ∈ out, Shows root file source
  | .ingesting _ => Returned s root file
  | .watching _ | .polling => Returned s root file ∨ Queued s root file

/-- The files that the thread is to return: those with a completed name in a watched directory that
were not ingested before. -/
def Artifact (root : WatchRoot) (file : FileEntry) : Prop :=
  roots[file.root]? = some root ∧ completedName root.kind file.name = true ∧
    ingested (sourceIdentity root.kind file).key = false

structure Sound (s : LoopState) : Prop where
  apart : Apart s.files
  due : ∀ file ∈ s.files, ∀ root, Artifact roots ingested root file → Due s root file

/-- The file completes before its directory is scanned, or after the watch was added and by an
event that counts as a completion. -/
def Caught (s : LoopState) : LoopEvent → Prop
  | .complete file how => ∀ root, roots[file.root]? = some root → completedName root.kind file.name = true →
      (∃ next out, s.phase = .scanning next out ∧ next ≤ file.root) ∨
        s.watches file.root = true ∧ isCompletionEvent root.kind file.name how.mask = true
  | .remove .. | .step => True

variable {roots ingested}

theorem apart_without {files : List FileEntry} (apart : Apart files) (root : Nat) (name : Str) :
    Apart (without files root name) := fun a left b right =>
  apart a (List.mem_of_mem_filter left) b (List.mem_of_mem_filter right)

theorem mem_raise {s : LoopState} {number mask : Nat} {name : Str} {event : RawInotifyEvent}
    (member : event ∈ s.queue) : event ∈ s.raise roots number mask name := by
  unfold raise
  split
  · split
    · exact List.mem_append_left _ member
    · exact member
  · exact member

theorem due_of_grown {s t : LoopState} {root : WatchRoot} {file : FileEntry} (due : Due s root file)
    (phase : t.phase = s.phase) (returned : t.returned = s.returned)
    (queue : ∀ event ∈ s.queue, event ∈ t.queue) : Due t root file := by
  have stays : Returned s root file → Returned t root file := by
    unfold Returned
    rw [returned]
    exact id
  have waits : Queued s root file → Queued t root file := by
    rintro ⟨event, member, same⟩
    exact ⟨event, queue event member, same⟩
  unfold Due at due ⊢
  rw [phase]
  cases current : s.phase with
  | scanning next out =>
      rw [current] at due
      exact due
  | ingesting rest =>
      rw [current] at due
      exact stays due
  | watching next =>
      rw [current] at due
      exact due.imp stays waits
  | polling =>
      rw [current] at due
      exact due.imp stays waits

theorem watchMask_of_completion {kind : WatchKind} {name : Str} {how : Completion}
    (completion : isCompletionEvent kind name how.mask = true) : kind.watchMask &&& how.mask ≠ 0 := by
  have apart : (inCloseWriteMask &&& inMovedToMask ≠ 0) = False := by decide
  cases kind <;> cases how <;> first
    | decide
    | simp [isCompletionEvent, Completion.mask, apart] at completion

theorem Sound.complete {s : LoopState} (sound : Sound roots ingested s) {file : FileEntry}
    {how : Completion} (caught : Caught roots s (.complete file how)) :
    Sound roots ingested (s.run roots ingested (.complete file how)) where
  apart := by
    intro a left b right sameRoot sameName
    rcases List.mem_append.mp left with left | left <;> rcases List.mem_append.mp right with right | right
    · exact apart_without sound.apart _ _ a left b right sameRoot sameName
    · cases List.mem_singleton.mp right
      have away := (List.mem_filter.mp left).2
      simp [sameRoot, sameName] at away
    · cases List.mem_singleton.mp left
      have away := (List.mem_filter.mp right).2
      simp [← sameRoot, ← sameName] at away
    · rw [List.mem_singleton.mp left, List.mem_singleton.mp right]
  due := by
    intro other member root artifact
    rcases List.mem_append.mp member with old | new
    · exact due_of_grown (sound.due other (List.mem_of_mem_filter old) root artifact) rfl rfl
        fun _ => mem_raise
    · cases List.mem_singleton.mp new
      rcases caught root artifact.1 artifact.2.1 with ⟨next, out, phase, ahead⟩ | ⟨watched, completion⟩
      · have scanning : (s.run roots ingested (.complete file how)).phase = .scanning next out := phase
        unfold Due
        rw [scanning]
        exact .inl ahead
      · have asked := watchMask_of_completion completion
        have queued : Queued (s.run roots ingested (.complete file how)) root file := by
          refine ⟨{ watchDescriptor := file.root, mask := how.mask, name := file.name }, ?_, rfl, rfl,
            completion⟩
          show _ ∈ s.raise roots file.root how.mask file.name
          unfold raise
          rw [artifact.1]
          simp only [watched, asked, Bool.true_and, ne_eq, not_false_eq_true, decide_true, if_true]
          exact List.mem_append_right _ List.mem_cons_self
        have phase : (s.run roots ingested (.complete file how)).phase = s.phase := rfl
        unfold watches at watched
        unfold Due
        rw [phase]
        cases current : s.phase with
        | scanning next out => simp [current] at watched
        | ingesting rest => simp [current] at watched
        | watching next => exact .inr queued
        | polling => exact .inr queued

theorem Sound.remove {s : LoopState} (sound : Sound roots ingested s) (root : Nat) (name : Str) :
    Sound roots ingested (s.run roots ingested (.remove root name)) where
  apart := apart_without sound.apart root name
  due file member found artifact :=
    due_of_grown (sound.due file (List.mem_of_mem_filter member) found artifact) rfl rfl
      fun _ => mem_raise

theorem shows_scanRoot {s : LoopState} (apart : Apart s.files) {file : FileEntry} (member : file ∈ s.files)
    {root : WatchRoot} (artifact : Artifact roots ingested root file) :
    ∃ source ∈ s.scanRoot ingested root file.root, Shows root file source := by
  obtain ⟨source, found, path, identity⟩ := discover_of_mem apart member root
  refine ⟨source, List.mem_filterMap.mpr ⟨file, member, ?_⟩, path, identity⟩
  have fresh : ingested source.identity.key = false := by
    rw [identity]
    exact artifact.2.2
  have named := artifact.2.1
  simp [named, found, fresh]

theorem shows_poll {s : LoopState} (apart : Apart s.files) {file : FileEntry} (member : file ∈ s.files)
    {root : WatchRoot} (artifact : Artifact roots ingested root file) {event : RawInotifyEvent}
    (read : event ∈ readable s.queue) (descriptor : event.watchDescriptor = file.root)
    (name : event.name = file.name) (completion : isCompletionEvent root.kind event.name event.mask = true) :
    ∃ source ∈ s.poll roots, Shows root file source := by
  obtain ⟨source, found, path, identity⟩ := discover_of_mem apart member root
  refine ⟨source, List.mem_filterMap.mpr ⟨event, read, ?_⟩, path, identity⟩
  rw [name] at completion
  rw [descriptor, artifact.1, name]
  simp [completion, found]

theorem fitting_isPrefix (room : Nat) (queue : List RawInotifyEvent) : fitting room queue <+: queue := by
  induction queue generalizing room with
  | nil => exact List.nil_prefix
  | cons event rest ih =>
      unfold fitting
      split_ifs
      · exact List.cons_prefix_cons.mpr ⟨rfl, ih _⟩
      · exact List.nil_prefix

theorem readable_isPrefix (queue : List RawInotifyEvent) : readable queue <+: queue := by
  cases queue with
  | nil => exact List.nil_prefix
  | cons event rest => exact List.cons_prefix_cons.mpr ⟨rfl, fitting_isPrefix _ _⟩

theorem mem_readable_or_drop {queue : List RawInotifyEvent} {event : RawInotifyEvent}
    (member : event ∈ queue) : event ∈ readable queue ∨ event ∈ queue.drop (readable queue).length := by
  have split := List.take_append_drop (readable queue).length queue
  rw [← List.prefix_iff_eq_take.mp (readable_isPrefix queue)] at split
  rw [← split] at member
  exact List.mem_append.mp member

theorem Sound.advance {s : LoopState} (sound : Sound roots ingested s) :
    Sound roots ingested (s.advance roots ingested) := by
  have due := sound.due
  unfold Due at due
  unfold LoopState.advance
  cases current : s.phase with
  | scanning next out =>
      simp only [current] at due ⊢
      cases listed : roots[next]? with
      | some root =>
          refine ⟨sound.apart, fun file member other artifact => ?_⟩
          rcases due file member other artifact with ahead | ⟨source, found, shows'⟩
          · rcases Nat.lt_or_eq_of_le ahead with later | here
            · exact .inl later
            · have same : root = other := by
                rw [here, artifact.1] at listed
                exact (Option.some.inj listed).symm
              obtain ⟨source, found, shows'⟩ := shows_scanRoot sound.apart member artifact
              rw [← here, ← same] at found
              exact .inr ⟨source, List.mem_append_right _ found, shows'⟩
          · exact .inr ⟨source, List.mem_append_left _ found, shows'⟩
      | none =>
          refine ⟨sound.apart, fun file member other artifact => ?_⟩
          rcases due file member other artifact with ahead | ⟨source, found, shows'⟩
          · have outside := List.getElem?_eq_none_iff.mp listed
            have inside := (List.getElem?_eq_some_iff.mp artifact.1).1
            omega
          · exact ⟨source, List.mem_append_right _ (List.mem_mergeSort.mpr found), shows'⟩
  | ingesting rest =>
      simp only [current] at due
      cases rest with
      | nil => exact ⟨sound.apart, fun file member other artifact => .inl (due file member other artifact)⟩
      | cons source rest => exact ⟨sound.apart, due⟩
  | watching next =>
      simp only [current] at due ⊢
      split_ifs <;> exact ⟨sound.apart, due⟩
  | polling =>
      simp only [current] at due ⊢
      refine ⟨sound.apart, fun file member other artifact => ?_⟩
      rcases due file member other artifact with ⟨source, found, shows'⟩ | ⟨event, waits, same, name,
        completion⟩
      · exact .inl ⟨source, List.mem_append_left _ found, shows'⟩
      · rcases mem_readable_or_drop waits with read | left
        · obtain ⟨source, found, shows'⟩ :=
            shows_poll sound.apart member artifact read same name completion
          exact .inl ⟨source, List.mem_append_right _ found, shows'⟩
        · exact .inr ⟨event, left, same, name, completion⟩

theorem Sound.run {s : LoopState} (sound : Sound roots ingested s) {event : LoopEvent}
    (caught : Caught roots s event) : Sound roots ingested (s.run roots ingested event) := by
  cases event with
  | complete file how => exact sound.complete caught
  | remove root name => exact sound.remove root name
  | step => exact sound.advance

theorem files_advance (s : LoopState) : (s.advance roots ingested).files = s.files := by
  unfold LoopState.advance
  split
  · split <;> rfl
  · rfl
  · rfl
  · split <;> rfl
  · rfl

theorem files_iterate (n : Nat) (s : LoopState) : ((advance roots ingested)^[n] s).files = s.files := by
  induction n generalizing s with
  | zero => rfl
  | succ n ih => rw [Function.iterate_succ_apply, ih, files_advance]

theorem Sound.iterate {s : LoopState} (sound : Sound roots ingested s) (n : Nat) :
    Sound roots ingested ((LoopState.advance roots ingested)^[n] s) := by
  induction n generalizing s with
  | zero => exact sound
  | succ n ih =>
      rw [Function.iterate_succ_apply]
      exact ih sound.advance

variable (roots ingested) in
/-- Left alone, the thread comes to poll with nothing queued. -/
def Settles (s : LoopState) : Prop :=
  ∃ n, ((advance roots ingested)^[n] s).phase = .polling ∧ ((advance roots ingested)^[n] s).queue = []

theorem settles_of_advance {s : LoopState} (settles : Settles roots ingested (s.advance roots ingested)) :
    Settles roots ingested s := by
  obtain ⟨n, settled⟩ := settles
  refine ⟨n + 1, ?_⟩
  rwa [Function.iterate_succ_apply]

theorem settles_of_polling {s : LoopState} (polling : s.phase = .polling) : Settles roots ingested s := by
  induction length : s.queue.length using Nat.strongRecOn generalizing s with
  | ind length' ih =>
      cases waiting : s.queue with
      | nil => exact ⟨0, polling, waiting⟩
      | cons event rest =>
          have polled : s.advance roots ingested = { s with
              queue := s.queue.drop (readable s.queue).length
              returned := s.returned ++ s.poll roots } := by
            unfold LoopState.advance
            rw [polling]
          have shorter : (s.queue.drop (readable s.queue).length).length < length' := by
            rw [← length, waiting, List.length_drop, readable, List.length_cons, List.length_cons]
            omega
          apply settles_of_advance
          rw [polled]
          exact ih _ shorter polling rfl

theorem settles_of_watching {s : LoopState} {next : Nat} (watching : s.phase = .watching next) :
    Settles roots ingested s := by
  induction left : roots.length - next generalizing s next with
  | zero =>
      apply settles_of_advance
      apply settles_of_polling
      unfold LoopState.advance
      rw [watching]
      simp only [if_neg (show ¬ next < roots.length by omega)]
  | succ left' ih =>
      apply settles_of_advance
      have added : (s.advance roots ingested).phase = .watching (next + 1) := by
        unfold LoopState.advance
        rw [watching]
        simp only [if_pos (show next < roots.length by omega)]
      exact ih added (by omega)

theorem settles_of_ingesting {s : LoopState} {rest : List DiscoveredSource}
    (ingesting : s.phase = .ingesting rest) : Settles roots ingested s := by
  induction rest generalizing s with
  | nil =>
      apply settles_of_advance
      have idle : (s.advance roots ingested).phase = .watching 0 := by
        unfold LoopState.advance
        rw [ingesting]
      exact settles_of_watching idle
  | cons source rest ih =>
      apply settles_of_advance
      apply ih
      unfold LoopState.advance
      rw [ingesting]

theorem settles (s : LoopState) : Settles roots ingested s := by
  cases phase : s.phase with
  | polling => exact settles_of_polling phase
  | watching next => exact settles_of_watching phase
  | ingesting rest => exact settles_of_ingesting phase
  | scanning next out =>
      induction left : roots.length - next generalizing s next out with
      | zero =>
          apply settles_of_advance
          have listed : roots[next]? = none := List.getElem?_eq_none (by omega)
          have scanned : (s.advance roots ingested).phase = .ingesting
              (out.mergeSort fun a b => a.identity.modifiedNs ≤ b.identity.modifiedNs) := by
            unfold LoopState.advance
            rw [phase]
            simp only [listed]
          exact settles_of_ingesting scanned
      | succ left' ih =>
          apply settles_of_advance
          have listed : roots[next]? = some roots[next] := List.getElem?_eq_getElem (by omega)
          refine ih _ (next + 1) (out ++ s.scanRoot ingested roots[next] next) ?_ (by omega)
          unfold LoopState.advance
          rw [phase]
          simp only [listed]

variable (roots ingested)

def ReturnsAll (events : List LoopEvent) : Prop :=
  ∃ n, ∀ file ∈ (events.foldl (run roots ingested) {}).files, ∀ root, Artifact roots ingested root file →
    Returned ((advance roots ingested)^[n] (events.foldl (run roots ingested) {})) root file

end LoopState
end

def tombstones : WatchRoot := { kind := .tombstone, path := "/data/tombstones".toList }

def firstTombstone : FileEntry := { root := 0, name := "tombstone_00".toList, size := 1, modifiedNs := 1 }

end CrashCatcher.Watch
