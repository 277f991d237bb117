import CrashCatcher.Model.Kind

namespace CrashCatcher.Model
open Lib Lib.Text

def fingerprintFrameCount : Nat := 4

def frameworkPrefixes : List Str :=
  ["android.", "androidx.", "com.android.internal.", "com.android.server.", "dalvik.", "java.",
    "javax.", "kotlin.", "kotlinx.coroutines.", "libcore.", "sun.", "art_"].map String.toList

def stripJavaFramePrefix (frame : Str) : Str :=
  let frame := trim frame
  trimStart ((List.isPrefixOf? "at ".toList frame).getD frame)

def isFrameworkFrame (frame : Str) : Bool :=
  let frame := stripJavaFramePrefix frame
  frameworkPrefixes.any fun pre => pre.isPrefixOf frame

/-- Drops the `at ` prefix and the `:line` suffix inside the source-location parentheses. -/
def normalizeJavaFrame (frame : Str) : Str :=
  let frame := stripJavaFramePrefix frame
  match rsplitOnce '(' frame with
  | none => frame
  | some (head, tail) => match splitOnce ')' tail with
    | none => frame
    | some (inside, _) => head ++ '(' :: before ':' inside ++ [')']

/-- The basename of the last token of the frame that looks like a library path. -/
def nativeLibrary (frame : Str) : Str :=
  (splitWhitespace frame).foldl (fun library token =>
    if token.contains '/' && (Text.contains ".so".toList token || Text.contains ".apk".toList token)
    then afterLast '/' token else library) []

def nativeSymbol (frame : Str) : Str :=
  match splitOnce '(' frame with
  | none => []
  | some (_, tail) => match splitOnce ')' tail with
    | none => []
    | some (inside, _) =>
      if "BuildId:".toList.isPrefixOf inside then [] else before '+' inside

def normalizeNativeFrame (frame : Str) : Str :=
  let frame := trim frame
  let library := nativeLibrary frame
  let symbol := nativeSymbol frame
  match library.isEmpty, symbol.isEmpty with
  | true, true => frame
  | false, true => library
  | true, false => symbol
  | false, false => library ++ " (".toList ++ symbol ++ ")".toList

structure Fingerprint where
  kind : CrashKind
  primary : Str
  frames : List Str
deriving DecidableEq

namespace Fingerprint

def normalizer : CrashKind → Str → Str
  | .nativeCrash => normalizeNativeFrame
  | .javaException | .anr | .wtf => normalizeJavaFrame

def fromRawFrames (kind : CrashKind) (primary : Str) (raw : List Str) : Fingerprint :=
  let normalized := raw.map (normalizer kind)
  let appFrames := (normalized.filter fun frame => !isFrameworkFrame frame).take
    fingerprintFrameCount
  { kind, primary
    frames := if appFrames.isEmpty then normalized.take fingerprintFrameCount else appFrames }

@[simp] theorem fromRawFrames_kind (kind : CrashKind) (primary : Str) (raw : List Str) :
    (fromRawFrames kind primary raw).kind = kind := rfl

@[simp] theorem fromRawFrames_primary (kind : CrashKind) (primary : Str) (raw : List Str) :
    (fromRawFrames kind primary raw).primary = primary := rfl

/-- A fingerprint never loses the last of its frames to the framework filter. -/
theorem fromRawFrames_frames_eq_nil {kind : CrashKind} {primary : Str} {raw : List Str} :
    (fromRawFrames kind primary raw).frames = [] ↔ raw = [] := by
  simp only [fromRawFrames]
  split
  · simp [fingerprintFrameCount]
  · rename_i nonempty
    have : raw ≠ [] := by
      rintro rfl
      simp at nonempty
    simp_all

theorem fromRawFrames_congr {kind : CrashKind} {primary : Str} {raw raw' : List Str}
    (same : raw.map (normalizer kind) = raw'.map (normalizer kind)) :
    fromRawFrames kind primary raw = fromRawFrames kind primary raw' := by
  simp only [fromRawFrames, same]

end Fingerprint

structure GroupKey where
  packageName : Str
  processName : Str
  userId : Int
  fingerprint : Fingerprint
deriving DecidableEq

namespace GroupKey

def utf8 (s : Str) : List UInt8 := s.flatMap String.utf8EncodeChar

def u64BE (n : Nat) : List UInt8 :=
  (List.range 8).map fun i => UInt8.ofNat (n / 256 ^ (7 - i))

/-- One length-prefixed field, as `group_id` feeds it to the hash. -/
def feed (value : Str) : List UInt8 := u64BE (utf8 value).length ++ utf8 value

def hashInput (key : GroupKey) : List UInt8 :=
  feed key.packageName ++ feed key.processName ++ feed (toString key.userId).toList ++
    feed (toString key.fingerprint.kind.asI64).toList ++ feed key.fingerprint.primary ++
    feed (toString key.fingerprint.frames.length).toList ++ key.fingerprint.frames.flatMap feed

def hexDigit (n : Nat) : Char := if n < 10 then Char.ofNat (48 + n) else Char.ofNat (87 + n)

def hexEncode (bytes : List UInt8) : Str :=
  bytes.flatMap fun b => [hexDigit (b.toNat / 16), hexDigit (b.toNat % 16)]

def groupId (sha256 : List UInt8 → List UInt8) (key : GroupKey) : Str :=
  hexEncode ((sha256 key.hashInput).take 16)

end GroupKey
end CrashCatcher.Model
