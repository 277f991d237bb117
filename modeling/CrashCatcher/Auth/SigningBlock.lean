import CrashCatcher.Auth.Authenticator
import CrashCatcher.Lib.ByteCursor

namespace CrashCatcher.Auth
open Lib Checked LittleEndian

inductive ApkSigError where
  | io
  | missingEocd
  | zip64Unsupported
  | invalidCentralDirectory
  | missingSigningBlock
  | malformed (reason : Str)
  | signingBlockTooLarge (limit : Nat)
  | missingCertificate
deriving DecidableEq

abbrev Read (α : Type) := Checked ApkSigError α

def eocd : List UInt8 := [0x50, 0x4b, 0x05, 0x06]

def magic : List UInt8 :=
  [0x41, 0x50, 0x4b, 0x20, 0x53, 0x69, 0x67, 0x20, 0x42, 0x6c, 0x6f, 0x63, 0x6b, 0x20, 0x34, 0x32]

def v2 : Nat := 0x7109871a
def v3 : Nat := 0xf05368c0
def v31 : Nat := 0x1b93ad61
def maxBlock : Nat := 64 * 1024 * 1024
def maxSigners : Nat := 32
def maxCert : Nat := 4 * 1024 * 1024
def u32Max : Nat := 2 ^ 32 - 1
def u64Max : Nat := 2 ^ 64 - 1

def numberOf (width : Nat) (truncated : Str) (bytes : List UInt8) : Read Nat :=
  if bytes.length = width then .ok (ofLe bytes) else .error (.malformed truncated)

def u16le : List UInt8 → Read Nat := numberOf 2 "truncated u16".toList
def u32le : List UInt8 → Read Nat := numberOf 4 "truncated u32".toList
def u64le : List UInt8 → Read Nat := numberOf 8 "truncated u64".toList

/-- `usize::try_from`. -/
def toUsize (target : Target) (n : Nat) (e : ApkSigError) : Read Nat :=
  if n ≤ target.usizeMax then .ok n else .error e

def checkedAdd (max a b : Nat) : Option Nat := if a + b ≤ max then some (a + b) else none

def checkedSub (a b : Nat) : Option Nat := if b ≤ a then some (a - b) else none

/-- `read_to_end` after seeking to `start`. -/
def readToEnd (apk : List UInt8) (start : Nat) : List UInt8 := apk.drop start

/-- `read_exact` after seeking to `start`. -/
def readExact (apk : List UInt8) (start count : Nat) : Read (List UInt8) :=
  if start + count ≤ apk.length then .ok ((apk.drop start).take count) else .error .io

structure Eocd where
  absolute : Nat
  size : Nat
  offset : Nat
deriving DecidableEq

section Eocd
variable (target : Target)

/-- `&tail[p + low..p + high]`. -/
def sliceAt (tail : List UInt8) (p low high : Nat) : Read (List UInt8) := do
  let low ← add target.usizeMax p low
  let high ← add target.usizeMax p high
  slice tail low high

/-- One turn of the search, which goes on with the next candidate where this gives nothing. -/
def candidate (tail : List UInt8) (start p : Nat) : Read (Option Eocd) := do
  let signature ← sliceAt target tail p 0 4
  if signature ≠ eocd then return none
  else do
    let comment ← u16le (← sliceAt target tail p 20 22)
    let ends ← add target.usizeMax (← add target.usizeMax p 22) comment
    if ends ≠ tail.length then return none
    else do
      let size ← u32le (← sliceAt target tail p 12 16)
      let offset ← u32le (← sliceAt target tail p 16 20)
      if size = u32Max ∨ offset = u32Max then .error .zip64Unsupported
      else do
        let absolute ← add u64Max start p
        return some { absolute, size, offset }

def searchEocd (tail : List UInt8) (start : Nat) : Nat → Read Eocd
  | 0 => .error .missingEocd
  | p + 1 => do
      match ← candidate target tail start p with
      | some found => return found
      | none => searchEocd tail start p

def findEocd (apk : List UInt8) (len : Nat) : Read Eocd := do
  let start := len - 65557
  let tail := readToEnd apk start
  if tail.length < 22 then .error .missingEocd
  else do
    let last ← sub tail.length 22
    searchEocd target tail start (last + 1)

end Eocd

section Block
variable (target : Target)

def readBlock (apk : List UInt8) (central : Nat) : Read (List UInt8) :=
  if central < 24 then .error .missingSigningBlock
  else do
    let footer ← readExact apk (← sub central 24) 24
    let trailer ← slice footer 8 footer.length
    if trailer ≠ magic then .error .missingSigningBlock
    else do
      let size ← u64le (← slice footer 0 8)
      let total ← okOr (.malformed "block size overflow".toList) (checkedAdd u64Max size 8)
      let total ← toUsize target total (.signingBlockTooLarge maxBlock)
      if total > maxBlock then .error (.signingBlockTooLarge maxBlock)
      else do
        let start ← okOr (.malformed "block starts before file".toList) (checkedSub central total)
        let block ← readExact apk start total
        let first ← u64le (← slice block 0 8)
        if first ≠ size then .error (.malformed "size fields or magic disagree".toList)
        else do
          let low ← sub block.length 16
          let last ← slice block low block.length
          if last ≠ magic then .error (.malformed "size fields or magic disagree".toList)
          else return block

end Block

section Cursor
variable (target : Target)

def read (count : Nat) (cursor : ByteCursor) : Read (List UInt8 × ByteCursor) :=
  cursor.read target count fun _ => .malformed "truncated length-prefixed field".toList

def readU64 (cursor : ByteCursor) : Read (Nat × ByteCursor) := do
  let (bytes, cursor) ← read target 8 cursor
  let n ← u64le bytes
  return (n, cursor)

def lp (cursor : ByteCursor) : Read (List UInt8 × ByteCursor) := do
  let (bytes, cursor) ← read target 4 cursor
  let n ← toUsize target (← u32le bytes) (.malformed "length overflow".toList)
  read target n cursor

end Cursor

abbrev Pair := Nat × List UInt8

section Pairs
variable (target : Target)

def parsePair (cursor : ByteCursor) : Read (Pair × ByteCursor) := do
  let (len, cursor) ← readU64 target cursor
  let len ← toUsize target len (.malformed "pair length overflow".toList)
  if len < 4 then .error (.malformed "pair shorter than ID".toList)
  else do
    let (pair, cursor) ← read target len cursor
    let id ← u32le (← slice pair 0 4)
    let value ← slice pair 4 pair.length
    return ((id, value), cursor)

def pairsFrom : Nat → ByteCursor → List Pair → Read (List Pair)
  | turns, cursor, out =>
      if cursor.remaining = 0 then .ok out
      else match turns with
        | 0 => .unfinished
        | turns + 1 => do
            let (pair, cursor) ← parsePair target cursor
            pairsFrom turns cursor (out ++ [pair])

def parsePairs (block : List UInt8) : Read (List Pair) :=
  if block.length < 32 then .error (.malformed "short block".toList)
  else do
    let last ← sub block.length 24
    let bytes ← slice block 8 last
    pairsFrom target bytes.length (.new bytes) []

end Pairs

section Certificates
variable (target : Target) (sha256 : List UInt8 → CertificateDigest)

def firstCert (signer : List UInt8) : Read (List UInt8) := do
  let (signed, _) ← lp target (.new signer)
  let (_, signed) ← lp target (.new signed)
  let (certs, _) ← lp target signed
  let (cert, _) ← lp target (.new certs)
  if cert.isEmpty then .error .missingCertificate
  else if cert.length > maxCert then .error (.malformed "certificate too large".toList)
  else return cert

def signersFrom : Nat → ByteCursor → List CertificateDigest → Read (List CertificateDigest)
  | turns, cursor, out =>
      if cursor.remaining = 0 then .ok out
      else if out.length ≥ maxSigners then .error (.malformed "too many signers".toList)
      else match turns with
        | 0 => .unfinished
        | turns + 1 => do
            let (signer, cursor) ← lp target cursor
            let cert ← firstCert target signer
            signersFrom turns cursor (out ++ [sha256 cert])

def parseCertificates (value : List UInt8) : Read (List CertificateDigest) := do
  let (signers, _) ← lp target (.new value)
  let out ← signersFrom target sha256 signers.length (.new signers) []
  if out.isEmpty then .error .missingCertificate else return out

def findScheme (pairs : List Pair) (ids : List Nat) : Option (List UInt8) :=
  ids.findSome? fun id => (pairs.find? fun pair => pair.1 == id).map Prod.snd

def certificateSha256FromReader (apk : List UInt8) : Read (List CertificateDigest) := do
  let len := apk.length
  let e ← findEocd target apk len
  let central := e.offset
  if checkedAdd u64Max central e.size ≠ some e.absolute ∨ central > len then
    .error .invalidCentralDirectory
  else do
    let block ← readBlock target apk central
    let pairs ← parsePairs target block
    let scheme ← okOr .missingSigningBlock (findScheme pairs [v31, v3, v2])
    parseCertificates target sha256 scheme

end Certificates
/-! An APK, written the way the reader takes it apart. -/

def withLength (bytes : List UInt8) : List UInt8 := toLe 4 bytes.length ++ bytes

def signerFor (low high : Nat) (cert : List UInt8) : List UInt8 :=
  let signed := withLength [] ++ withLength (withLength cert) ++ toLe 4 low ++ toLe 4 high ++ withLength []
  withLength signed ++ toLe 4 low ++ toLe 4 high ++ withLength [] ++ withLength []

def pairFor (id : Nat) (signer : List UInt8) : List UInt8 :=
  let value := withLength (withLength signer)
  toLe 8 (4 + value.length) ++ toLe 4 id ++ value

def apkWith (pairs : List UInt8) : List UInt8 :=
  let size := toLe 8 (pairs.length + 24)
  let block := size ++ pairs ++ size ++ magic
  block ++ [0x50, 0x4b, 1, 2] ++ eocd ++ toLe 8 0 ++ toLe 4 4 ++ toLe 4 block.length ++ toLe 2 0

end CrashCatcher.Auth
