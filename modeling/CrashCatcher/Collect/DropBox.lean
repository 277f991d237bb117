import CrashCatcher.Collect.Fragments
import CrashCatcher.Lib.BTreeMap
import CrashCatcher.Lib.LineByLine
import CrashCatcher.Lib.PercentCode
import CrashCatcher.Wire.Cursor
import Mathlib.Data.Char
import Mathlib.Data.List.Lex

/-! The files of DropBox: a tag and a time in the name, headers and a report in the text. -/

namespace CrashCatcher.Collect
open Lib Lib.Text Model Merge

def maxDropboxEntryBytes : Nat := 32 * 1024 * 1024

structure DropboxFileName where
  tag : Str
  happenedAtMs : I64
  compressed : Bool
deriving DecidableEq

inductive DropboxError where
  | invalidFileName (name : Str)
  | invalidTagEncoding
  | tooLarge (limit : Nat)
  | invalidUtf8
deriving DecidableEq

def percentDecode (value : Str) : Except DropboxError Str :=
  orError .invalidTagEncoding ((PercentCode.decode (Utf8.encode value)).bind Utf8.fromUtf8)

def fileStem (name : Str) : Option (Str × Bool) :=
  match stripSuffix ".txt.gz".toList name with
  | some stem => some (stem, true)
  | none => (stripSuffix ".txt".toList name).map (·, false)

def parseFileName (name : Str) : Except DropboxError DropboxFileName := do
  let (stem, compressed) ← orError (.invalidFileName name) (fileStem name)
  let (tag, timestamp) ← orError (.invalidFileName name) (rsplitOnce '@' stem)
  let happenedAtMs ← orError (.invalidFileName name) (I64.parse timestamp)
  let tag ← percentDecode tag
  if tag.isEmpty then .error (.invalidFileName name) else pure { tag, happenedAtMs, compressed }

def toAsciiLower (c : Char) : Char := if 65 ≤ c.toNat ∧ c.toNat ≤ 90 then Char.ofNat (c.toNat + 32) else c

def toAsciiLowercase (s : Str) : Str := s.map toAsciiLower

def eqIgnoreAsciiCase (s t : Str) : Bool := toAsciiLowercase s = toAsciiLowercase t

abbrev Headers := BTreeMap Str Str

def parseHeaders (block : Str) : Headers :=
  .fromIter (((lines block).filterMap (splitOnce ':')).map fun entry => (trim entry.1, trim entry.2))

def Headers.header (headers : Headers) (name : Str) : Option Str :=
  (headers.entries.find? fun entry => eqIgnoreAsciiCase entry.1 name).map Prod.snd

def parseBool (value : Str) : Option Bool :=
  let word := toAsciiLowercase (trim value)
  if word = "yes".toList ∨ word = "true".toList ∨ word = "1".toList then some true
  else if word = "no".toList ∨ word = "false".toList ∨ word = "0".toList then some false
  else none

def kindFromTag (tag : Str) : DropboxKind :=
  if "native_recoverable_crash".toList.isSuffixOf tag then .nativeRecoverableCrash
  else if "native_crash".toList.isSuffixOf tag || "SYSTEM_TOMBSTONE".toList.isPrefixOf tag then .nativeCrash
  else if "_crash".toList.isSuffixOf tag then .javaCrash
  else if "_anr".toList.isSuffixOf tag then .anr
  else if "_wtf".toList.isSuffixOf tag then .wtf
  else if "_strictmode".toList.isSuffixOf tag then .strictMode
  else if "_lowmem".toList.isSuffixOf tag then .lowMemory
  else if "_watchdog".toList.isSuffixOf tag || "_pre_watchdog".toList.isSuffixOf tag then .watchdog
  else .unknown

structure DropboxFile extends DropboxEntry where
  fileName : DropboxFileName
  crashHandler : Option Str
  headers : Headers

def DropboxFile.ofHeaders (fileName : DropboxFileName) (headers : Headers) (header : Str → Option Str)
    (body : Str) : DropboxFile where
  fileName
  headers
  body
  happenedAtMs := fileName.happenedAtMs
  kind := kindFromTag fileName.tag
  processName := header "Process".toList
  packageName := ((header "Package".toList).bind fun value => (splitWhitespace value).head?).or
    ((header "Process".toList).map packageFromProcess)
  pid := (header "PID".toList).bind parseI32
  uid := (header "UID".toList).bind parseI32
  foreground := (header "Foreground".toList).bind parseBool
  crashHandler := header "Crash-Handler".toList
  droppedCount := (header "Dropped-Count".toList).bind (parseUnsigned 10 4294967296)

def parseBytes (fileName : DropboxFileName) (bytes : List UInt8) : Except DropboxError DropboxFile :=
  if bytes.length > maxDropboxEntryBytes then .error (.tooLarge maxDropboxEntryBytes)
  else do
    let text ← orError .invalidUtf8 (Utf8.fromUtf8 bytes)
    let normalized := replaceCrlf text
    let (headerBlock, body) := (splitOnceStr "\n\n".toList normalized).getD ([], normalized)
    let headers := parseHeaders headerBlock
    return .ofHeaders fileName headers headers.header body

def parsePath (name : Str) (bytes : List UInt8) : Except DropboxError DropboxFile := do
  let fileName ← parseFileName name
  if bytes.length > maxDropboxEntryBytes then .error (.tooLarge maxDropboxEntryBytes)
  else parseBytes fileName bytes

/-! What DropBox writes. -/

def headerLine (entry : Str × Str) : Str := entry.1 ++ ':' :: ' ' :: entry.2

structure HeaderWritten (entry : Str × Str) : Prop where
  name : ':' ∉ entry.1 ∧ '\n' ∉ entry.1 ∧ Trimmed entry.1
  value : '\n' ∉ entry.2 ∧ Trimmed entry.2

def writeReport (lineEnd : Str) (headers : List (Str × Str)) (body : Str) : Str :=
  (headers.flatMap fun entry => headerLine entry ++ lineEnd) ++ lineEnd ++ body

/-- The last value of the header with a name, in whatever case it is written. -/
def headerOf (headers : List (Str × Str)) (name : Str) : Option Str :=
  (headers.reverse.find? fun entry => eqIgnoreAsciiCase entry.1 name).map Prod.snd

/-- One header is not written in two cases. -/
def SpelledOnce (headers : List (Str × Str)) : Prop :=
  ∀ entry ∈ headers, ∀ other ∈ headers, toAsciiLowercase entry.1 = toAsciiLowercase other.1 →
    entry.1 = other.1

section
variable {headers : List (Str × Str)} {lineEnd body : Str}

theorem isLine_headerLine {entry : Str × Str} (written : HeaderWritten entry) :
    IsLine (headerLine entry) := by
  obtain ⟨⟨-, single, -⟩, single', trimmed⟩ := written
  refine ⟨?_, fun last => ?_⟩
  · unfold headerLine
    rw [List.mem_append, List.mem_cons, List.mem_cons]
    rintro (first | here | here | second)
    · exact single first
    · cases here
    · cases here
    · exact single' second
  · unfold headerLine at last
    rw [List.getLast?_append_cons] at last
    cases value : entry.2 with
    | nil =>
        rw [value] at last
        cases last
    | cons c rest =>
        rw [value, List.getLast?_cons_cons, List.getLast?_cons_cons, ← value] at last
        have solid := last_of_trimmed trimmed last
        cases solid

theorem headerLine_head {entry : Str × Str} (written : HeaderWritten entry) (s : Str) :
    ∃ c rest, headerLine entry ++ s = c :: rest ∧ c ≠ '\n' := by
  unfold headerLine
  cases name : entry.1 with
  | nil => exact ⟨':', _, rfl, by decide⟩
  | cons c rest =>
      refine ⟨c, _, rfl, fun same => written.name.2.1 ?_⟩
      rw [name, same]
      exact List.mem_cons_self

theorem replaceCrlf_lineEnd (ends : lineEnd = ['\n'] ∨ lineEnd = ['\r', '\n']) (s : Str) :
    replaceCrlf (lineEnd ++ s) = '\n' :: replaceCrlf s := by
  rcases ends with rfl | rfl
  · exact replaceCrlf_newline s
  · exact replaceCrlf_return s

theorem replaceCrlf_writeReport (ends : lineEnd = ['\n'] ∨ lineEnd = ['\r', '\n'])
    (written : ∀ entry ∈ headers, HeaderWritten entry) :
    replaceCrlf (writeReport lineEnd headers body) = writeReport ['\n'] headers (replaceCrlf body) := by
  unfold writeReport
  induction headers with
  | nil => exact replaceCrlf_lineEnd ends body
  | cons entry rest ih =>
      obtain ⟨here, later⟩ := List.forall_mem_cons.mp written
      simp only [List.flatMap_cons, List.append_assoc] at ih ⊢
      rw [replaceCrlf_append (isLine_headerLine here), replaceCrlf_lineEnd ends, ih later]
      rfl

theorem splitOnceStr_writeReport (some' : headers ≠ []) (written : ∀ entry ∈ headers, HeaderWritten entry) :
    splitOnceStr "\n\n".toList (writeReport ['\n'] headers body) =
      some (joinLines ['\n'] false (headers.map headerLine), body) := by
  induction headers with
  | nil => exact absurd rfl some'
  | cons entry rest ih =>
      obtain ⟨here, later⟩ := List.forall_mem_cons.mp written
      have whole : writeReport ['\n'] (entry :: rest) body =
          headerLine entry ++ '\n' :: writeReport ['\n'] rest body := by
        simp [writeReport]
      rw [whole]
      show splitOnceStr ['\n', '\n'] _ = _
      rw [splitOnceStr_append_of_notMem (isLine_headerLine here).1]
      cases rest with
      | nil =>
          have empty : '\n' :: writeReport ['\n'] [] body = ['\n', '\n'] ++ body := rfl
          rw [empty, splitOnceStr_self (by simp)]
          simp [joinLines]
      | cons next more =>
          have text : writeReport ['\n'] (next :: more) body =
              headerLine next ++ '\n' :: writeReport ['\n'] more body := by
            simp [writeReport]
          obtain ⟨c, tail, starts, apart⟩ := headerLine_head (later next List.mem_cons_self)
            ('\n' :: writeReport ['\n'] more body)
          have differs : ¬['\n', '\n'] <+: '\n' :: writeReport ['\n'] (next :: more) body := by
            rw [text, starts]
            intro both
            exact apart (List.cons_prefix_cons.mp (List.cons_prefix_cons.mp both).2).1.symm
          rw [splitOnceStr_cons differs, show splitOnceStr ['\n', '\n'] _ = _ from ih (by simp) later]
          simp [joinLines]

theorem splitOnce_headerLine {entry : Str × Str} (written : HeaderWritten entry) :
    splitOnce ':' (headerLine entry) = some (entry.1, ' ' :: entry.2) := by
  unfold headerLine
  rw [splitOnce_append written.name.1, splitOnce, if_pos rfl]
  simp

theorem parseHeaders_lines (written : ∀ entry ∈ headers, HeaderWritten entry) :
    parseHeaders (joinLines ['\n'] false (headers.map headerLine)) = .fromIter headers := by
  have single : ∀ line ∈ headers.map headerLine, IsLine line := by
    intro line member
    obtain ⟨entry, own, rfl⟩ := List.mem_map.mp member
    exact isLine_headerLine (written entry own)
  have last : false = false → (headers.map headerLine).getLast? ≠ some [] := by
    intro _ empty
    obtain ⟨entry, -, same⟩ := List.mem_map.mp (List.mem_of_getLast? empty)
    unfold headerLine at same
    simp at same
  unfold parseHeaders
  rw [lines_joinLines false single last]
  congr 1
  rw [List.filterMap_map, List.map_filterMap]
  refine (List.filterMap_congr fun entry member => ?_).trans List.filterMap_some
  obtain ⟨⟨-, -, name⟩, -, value⟩ := written entry member
  show (splitOnce ':' (headerLine entry)).map _ = some entry
  rw [splitOnce_headerLine (written entry member), Option.map_some, trim_space]
  exact congrArg some (Prod.ext name value)

theorem header_fromIter (spelled : SpelledOnce headers) (name : Str) :
    Headers.header (.fromIter headers) name = headerOf headers name := by
  unfold Headers.header headerOf
  rw [BTreeMap.find?_fromIter (p := fun key => eqIgnoreAsciiCase key name)]
  intro entry member other member' same same'
  have both : toAsciiLowercase entry.1 = toAsciiLowercase other.1 :=
    (of_decide_eq_true same).trans (of_decide_eq_true same').symm
  exact spelled entry member other member' both

theorem parseBytes_writeReport {fileName : DropboxFileName} (some' : headers ≠ [])
    (written : ∀ entry ∈ headers, HeaderWritten entry)
    (spelled : SpelledOnce headers) (ends : lineEnd = ['\n'] ∨ lineEnd = ['\r', '\n'])
    (short : (Utf8.encode (writeReport lineEnd headers body)).length ≤ maxDropboxEntryBytes) :
    parseBytes fileName (Utf8.encode (writeReport lineEnd headers body)) =
      .ok (.ofHeaders fileName (.fromIter headers) (headerOf headers) (replaceCrlf body)) := by
  have lookup : Headers.header (.fromIter headers) = headerOf headers := funext (header_fromIter spelled)
  unfold parseBytes
  rw [if_neg (Nat.not_lt.mpr short), Utf8.fromUtf8_encode, orError_some_bind,
    replaceCrlf_writeReport ends written]
  dsimp only
  rw [splitOnceStr_writeReport some' written, Option.getD_some]
  dsimp only
  rw [parseHeaders_lines written, lookup]
  rfl

end

theorem fileStem_eq_some {name stem : Str} {compressed : Bool} : fileStem name = some (stem, compressed) ↔
    name = stem ++ if compressed then ".txt.gz".toList else ".txt".toList := by
  unfold fileStem
  constructor
  · intro found
    cases packed : stripSuffix ".txt.gz".toList name with
    | some stem' =>
        rw [packed] at found
        cases found
        exact stripSuffix_eq_some packed
    | none =>
        rw [packed] at found
        obtain ⟨stem', plain, same⟩ := Option.map_eq_some_iff.mp found
        cases same
        exact stripSuffix_eq_some plain
  · intro written
    cases compressed with
    | true => rw [written, if_pos rfl, stripSuffix_append]
    | false =>
        rw [if_neg Bool.false_ne_true] at written
        have apart : stripSuffix ".txt.gz".toList name = none := by
          cases packed : stripSuffix ".txt.gz".toList name with
          | none => rfl
          | some other =>
              have same := written.symm.trans (stripSuffix_eq_some packed)
              have ends := congrArg List.getLast? same
              rw [List.getLast?_append_of_ne_nil _ (by simp),
                List.getLast?_append_of_ne_nil _ (by simp)] at ends
              exact absurd ends (by decide)
        rw [apart, written, stripSuffix_append]
        rfl

theorem percentDecode_eq_ok {value tag : Str} : percentDecode value = .ok tag ↔
    PercentCode.Encoded (Utf8.encode tag) (Utf8.encode value) := by
  rw [← PercentCode.decode_eq_some_iff]
  unfold percentDecode
  cases decoded : PercentCode.decode (Utf8.encode value) with
  | none => simp [orError]
  | some bytes =>
      rw [Option.bind_some, Option.some.injEq, ← Utf8.fromUtf8_eq_some_iff]
      cases Utf8.fromUtf8 bytes <;> simp [orError]

theorem notMem_of_parse {text : Str} {value : I64} (read : I64.parse text = some value) : '@' ∉ text := by
  have digits : ∀ c ∈ (I64.signed text).2, c.isDigit = true := by
    unfold I64.parse at read
    dsimp only at read
    split at read
    · cases read
    · rename_i whole
      rw [Bool.or_eq_true, not_or, Bool.not_eq_true', Bool.not_eq_false] at whole
      exact List.all_eq_true.mp whole.2
  intro member
  unfold I64.signed at digits
  split at digits
  · rcases List.mem_cons.mp member with here | later
    · cases here
    · cases digits _ later
  · rcases List.mem_cons.mp member with here | later
    · cases here
    · cases digits _ later
  · cases digits _ member

/-- A name of the form `tag@time.txt` or `tag@time.txt.gz`. -/
def Named (name : Str) (fileName : DropboxFileName) : Prop :=
  fileName.tag ≠ [] ∧ ∃ code timestamp,
    name = code ++ '@' :: timestamp ++ (if fileName.compressed then ".txt.gz".toList else ".txt".toList) ∧
    PercentCode.Encoded (Utf8.encode fileName.tag) (Utf8.encode code) ∧
    I64.parse timestamp = some fileName.happenedAtMs

theorem parseFileName_eq_ok {name : Str} {fileName : DropboxFileName} :
    parseFileName name = .ok fileName ↔ Named name fileName := by
  unfold parseFileName
  constructor
  · intro read
    obtain ⟨⟨stem, compressed⟩, stemmed, read⟩ := orError_bind_eq_ok.mp read
    obtain ⟨⟨code, timestamp⟩, parted, read⟩ := orError_bind_eq_ok.mp read
    obtain ⟨happenedAtMs, time, read⟩ := orError_bind_eq_ok.mp read
    cases decoded : percentDecode code with
    | error error =>
        rw [decoded] at read
        cases read
    | ok tag =>
        rw [decoded] at read
        simp only [bind, Except.bind] at read
        split at read
        · cases read
        · rename_i nonempty
          cases read
          refine ⟨fun empty => nonempty (List.isEmpty_iff.mpr empty), code, timestamp, ?_,
            percentDecode_eq_ok.mp decoded, time⟩
          rw [fileStem_eq_some.mp stemmed, rsplitOnce_eq_some parted]
  · rintro ⟨tagged, code, timestamp, written, encoded, time⟩
    rw [fileStem_eq_some.mpr written, orError_some_bind]
    simp only [rsplitOnce_append_cons (notMem_of_parse time), orError_some_bind, time,
      percentDecode_eq_ok.mpr encoded]
    simp only [bind, Except.bind]
    rw [if_neg fun empty => tagged (List.isEmpty_iff.mp empty)]
    rfl

structure Accepted (name : Str) (bytes : List UInt8) : Prop where
  named : ∃ fileName, Named name fileName
  short : bytes.length ≤ maxDropboxEntryBytes
  text : ∃ text, Utf8.encode text = bytes

theorem parseBytes_eq_ok {fileName : DropboxFileName} {bytes : List UInt8} {file : DropboxFile}
    (read : parseBytes fileName bytes = .ok file) :
    bytes.length ≤ maxDropboxEntryBytes ∧ (∃ text, Utf8.encode text = bytes) ∧
      ∃ (headers : Headers) (body : Str), file = .ofHeaders fileName headers headers.header body := by
  unfold parseBytes at read
  split at read
  next => cases read
  next short =>
    obtain ⟨text, decoded, read⟩ := orError_bind_eq_ok.mp read
    cases read
    exact ⟨Nat.not_lt.mp short, ⟨text, (Utf8.fromUtf8_eq_some_iff.mp decoded).symm⟩, _, _, rfl⟩

theorem parseBytes_text {fileName : DropboxFileName} {text : Str}
    (short : (Utf8.encode text).length ≤ maxDropboxEntryBytes) :
    ∃ file, parseBytes fileName (Utf8.encode text) = .ok file := by
  unfold parseBytes
  rw [if_neg (Nat.not_lt.mpr short), Utf8.fromUtf8_encode, orError_some_bind]
  exact ⟨_, rfl⟩

theorem parsePath_of_named {name : Str} {fileName : DropboxFileName} {bytes : List UInt8}
    (named : Named name fileName) (short : bytes.length ≤ maxDropboxEntryBytes) :
    parsePath name bytes = parseBytes fileName bytes := by
  unfold parsePath
  rw [parseFileName_eq_ok.mpr named]
  exact if_neg (Nat.not_lt.mpr short)

theorem parsePath_eq_ok {name : Str} {bytes : List UInt8} {file : DropboxFile}
    (read : parsePath name bytes = .ok file) : Accepted name bytes ∧ Named name file.fileName ∧
      ∃ (headers : Headers) (body : Str), file = .ofHeaders file.fileName headers headers.header body := by
  cases found : parseFileName name with
  | error error =>
      unfold parsePath at read
      rw [found] at read
      cases read
  | ok fileName =>
      have named := parseFileName_eq_ok.mp found
      have short : bytes.length ≤ maxDropboxEntryBytes := by
        unfold parsePath at read
        rw [found] at read
        refine Nat.not_lt.mp fun long => ?_
        have refused : Except.error (DropboxError.tooLarge maxDropboxEntryBytes) = Except.ok file :=
          (if_pos long).symm.trans read
        cases refused
      rw [parsePath_of_named named short] at read
      obtain ⟨-, text, headers, body, rfl⟩ := parseBytes_eq_ok read
      exact ⟨⟨⟨fileName, named⟩, short, text⟩, named, headers, body, rfl⟩

theorem accepted_iff {name : Str} {bytes : List UInt8} :
    (∃ file, parsePath name bytes = .ok file) ↔ Accepted name bytes := by
  constructor
  · rintro ⟨file, read⟩
    exact (parsePath_eq_ok read).1
  · rintro ⟨⟨fileName, named⟩, short, text, rfl⟩
    rw [parsePath_of_named named short]
    exact parseBytes_text short

structure SentFor (file : DropboxFile) (fragment : CrashFragment) : Prop where
  source : fragment.source = .dropbox
  kind : (kindFromTag file.fileName.tag).crashKind = some fragment.kind
  time : fragment.happenedAtMs = file.fileName.happenedAtMs
  foreground : fragment.isForeground = (file.headers.header "Foreground".toList).bind parseBool
  dropped : fragment.droppedCount = (file.headers.header "Dropped-Count".toList).bind
    (parseUnsigned 10 4294967296)

def Headers.package (headers : Headers) : Option Str :=
  (headers.header "Package".toList).bind fun value => (splitWhitespace value).head?

structure KeepsEntry (before after : CrashFragment) : Prop where
  source : after.source = before.source
  kind : after.kind = before.kind
  time : after.happenedAtMs = before.happenedAtMs
  foreground : after.isForeground = before.isForeground
  dropped : after.droppedCount = before.droppedCount

theorem keepsEntry_applyJavaBody (fragment : CrashFragment) (body : Str) :
    KeepsEntry fragment (applyJavaBody fragment body) := by
  unfold applyJavaBody
  cases Logd.parseCrashBuffer body <;> exact ⟨rfl, rfl, rfl, rfl, rfl⟩

theorem keepsEntry_applyAnrBody (fragment : CrashFragment) (body : Str) :
    KeepsEntry fragment (applyAnrBody fragment body) := by
  unfold applyAnrBody
  cases parseAnr (GroupKey.utf8 body) <;> exact ⟨rfl, rfl, rfl, rfl, rfl⟩

theorem keepsEntry_applyNativeBody (fragment : CrashFragment) (body : Str) :
    KeepsEntry fragment (applyNativeBody fragment body) := by
  unfold applyNativeBody
  cases parseText (GroupKey.utf8 body) <;> exact ⟨rfl, rfl, rfl, rfl, rfl⟩

theorem keepsEntry_dropboxFragment {entry : DropboxEntry} {fragment : CrashFragment}
    (sent : dropboxFragment entry = some fragment) : ∃ kind processName,
      entry.kind.crashKind = some kind ∧ KeepsEntry (entry.attributed kind processName) fragment := by
  unfold dropboxFragment at sent
  obtain ⟨kind, captured, sent⟩ := Option.bind_eq_some_iff.mp sent
  obtain ⟨processName, -, sent⟩ := Option.bind_eq_some_iff.mp sent
  refine ⟨kind, processName, captured, ?_⟩
  cases kind with
  | javaException =>
      cases sent
      exact keepsEntry_applyJavaBody _ _
  | anr =>
      cases sent
      exact keepsEntry_applyAnrBody _ _
  | nativeCrash =>
      cases sent
      exact keepsEntry_applyNativeBody _ _
  | wtf =>
      cases sent
      exact ⟨rfl, rfl, rfl, rfl, rfl⟩

theorem isSome_dropboxFragment {entry : DropboxEntry} : (dropboxFragment entry).isSome ↔
    entry.kind.crashKind.isSome ∧ (entry.processName.or entry.packageName).isSome := by
  unfold dropboxFragment
  cases entry.kind.crashKind with
  | none => simp
  | some kind => cases entry.processName.or entry.packageName <;> simp

theorem sentFor_of_dropboxFragment {fileName : DropboxFileName} {headers : Headers} {body : Str}
    {fragment : CrashFragment}
    (sent : dropboxFragment (DropboxFile.ofHeaders fileName headers headers.header body).toDropboxEntry =
      some fragment) : SentFor (.ofHeaders fileName headers headers.header body) fragment := by
  obtain ⟨kind, processName, captured, kept⟩ := keepsEntry_dropboxFragment sent
  exact {
    source := kept.source
    kind := captured.trans (congrArg some kept.kind.symm)
    time := kept.time
    foreground := kept.foreground
    dropped := kept.dropped }

theorem isSome_dropboxFragment_ofHeaders {fileName : DropboxFileName} {headers : Headers} {body : Str} :
    (dropboxFragment (DropboxFile.ofHeaders fileName headers headers.header body).toDropboxEntry).isSome ↔
      (kindFromTag fileName.tag).crashKind.isSome ∧
        ((headers.header "Process".toList).isSome ∨ headers.package.isSome) := by
  rw [isSome_dropboxFragment]
  refine and_congr_right fun _ => ?_
  show ((headers.header "Process".toList).or (headers.package.or
    ((headers.header "Process".toList).map packageFromProcess))).isSome ↔ _
  cases headers.header "Process".toList <;> simp

/-- A report as DropBox writes it: headers, an empty line and a body. -/
structure DropboxReport where
  headers : List (Str × Str)
  lineEnd : Str
  body : Str
  headed : headers ≠ []
  written : ∀ entry ∈ headers, HeaderWritten entry
  spelled : SpelledOnce headers
  ends : lineEnd = ['\n'] ∨ lineEnd = ['\r', '\n']

namespace DropboxReport
variable (self : DropboxReport)

def text : Str := writeReport self.lineEnd self.headers self.body

def file (fileName : DropboxFileName) : DropboxFile :=
  .ofHeaders fileName (.fromIter self.headers) (headerOf self.headers) (replaceCrlf self.body)

end DropboxReport

/-- The files of DropBox that are read, what of a written report is read back, and the fragment that is sent. -/
theorem dropbox_file_read (name : Str) (bytes : List UInt8) :
    ((∃ file, parsePath name bytes = .ok file) ↔ Accepted name bytes) ∧
    (∀ file, parsePath name bytes = .ok file → Named name file.fileName ∧
      ((dropboxFragment file.toDropboxEntry).isSome ↔ (kindFromTag file.fileName.tag).crashKind.isSome ∧
        ((file.headers.header "Process".toList).isSome ∨ file.headers.package.isSome)) ∧
      ∀ fragment, dropboxFragment file.toDropboxEntry = some fragment → SentFor file fragment) ∧
    ∀ (report : DropboxReport) (fileName : DropboxFileName), Named name fileName →
      Utf8.encode report.text = bytes → bytes.length ≤ maxDropboxEntryBytes →
      parsePath name bytes = .ok (report.file fileName) := by
  refine ⟨accepted_iff, fun file read => ?_, fun report fileName named text short => ?_⟩
  · obtain ⟨-, named, headers, body, whole⟩ := parsePath_eq_ok read
    generalize file.fileName = fileName at whole named
    subst whole
    exact ⟨named, isSome_dropboxFragment_ofHeaders, fun fragment sent => sentFor_of_dropboxFragment sent⟩
  · subst text
    rw [parsePath_of_named named short]
    exact parseBytes_writeReport report.headed report.written report.spelled report.ends short

instance (entry : Str × Str) : Decidable (HeaderWritten entry) :=
  decidable_of_iff ((':' ∉ entry.1 ∧ '\n' ∉ entry.1 ∧ Trimmed entry.1) ∧ '\n' ∉ entry.2 ∧ Trimmed entry.2)
    ⟨fun ⟨name, value⟩ => ⟨name, value⟩, fun ⟨name, value⟩ => ⟨name, value⟩⟩

instance (headers : List (Str × Str)) : Decidable (SpelledOnce headers) :=
  inferInstanceAs (Decidable (∀ entry ∈ headers, ∀ other ∈ headers,
    toAsciiLowercase entry.1 = toAsciiLowercase other.1 → entry.1 = other.1))

def workerReport : DropboxReport where
  headers := [("Process".toList, "com.example:worker".toList), ("PID".toList, "42".toList),
    ("Foreground".toList, "Yes".toList), ("Package".toList, "com.shared v1".toList),
    ("Package".toList, "com.example v3".toList), ("Dropped-Count".toList, "7".toList)]
  lineEnd := ['\r', '\n']
  body := "Error".toList
  headed := by decide
  written := by decide
  spelled := by decide
  ends := .inr rfl

theorem named_worker : Named "data_app_crash%3Aworker@1720000000123.txt.gz".toList
    ⟨"data_app_crash:worker".toList, ⟨1720000000123, by decide, by decide⟩, true⟩ := by
  have colon : PercentCode.Encoded [58] [37, 51, 65] :=
    PercentCode.Encoded.escaped (h := 3) (l := 10) rfl rfl .nil
  have tag := (@PercentCode.encoded_self (Utf8.encode "data_app_crash".toList) (by decide)).append
    (colon.append (@PercentCode.encoded_self (Utf8.encode "worker".toList) (by decide)))
  exact ⟨by decide, "data_app_crash%3Aworker".toList, "1720000000123".toList, rfl, tag, by decide⟩

set_option maxRecDepth 2000 in
theorem dropbox_file_read_worker : ∃ file : DropboxFile,
    parsePath "data_app_crash%3Aworker@1720000000123.txt.gz".toList (Utf8.encode workerReport.text) =
      .ok file ∧
    file.packageName = some "com.example".toList ∧ file.pid = some 42 ∧ file.droppedCount = some 7 ∧
    file.body = "Error".toList := by
  have short : (Utf8.encode workerReport.text).length ≤ maxDropboxEntryBytes := by decide
  refine ⟨_, (dropbox_file_read _ _).2.2 workerReport _ named_worker rfl short, ?_, ?_, ?_, ?_⟩
  · decide
  · decide
  · decide
  · decide

end CrashCatcher.Collect
