import CrashCatcher.Packages.Index

namespace CrashCatcher.Auth
open Lib Packages

abbrev CertificateDigest := Vector UInt8 32

structure ManagerPin where
  digest : CertificateDigest

abbrev CertificateSource := Str → Except Str (List CertificateDigest)

structure AuthenticatedManager where
  uid : Nat
  packageName : Str
  apkPath : Str

inductive AuthError where
  | unknownUid (uid : Nat)
  | missingApkPath (uid : Nat)
  | signatureMismatch (uid : Nat)
  | certificateRead (message : Str)

def constantTimeEq (a b : CertificateDigest) : Bool :=
  (a.toList.zip b.toList).foldl (fun d entry => d ||| (entry.1 ^^^ entry.2)) 0 = 0

structure Authenticator where
  packages : PackageIndex
  pin : ManagerPin
  certificates : CertificateSource

namespace Authenticator

/-- The loop of `authenticateUid`, with what it has seen so far. -/
def inspect (self : Authenticator) (uid : Nat) (hadPath : Bool) (lastError : Option Str) :
    List PackageEntry → Except AuthError AuthenticatedManager
  | [] =>
      if !hadPath then .error (.missingApkPath uid)
      else match lastError with
        | some e => .error (.certificateRead e)
        | none => .error (.signatureMismatch uid)
  | package :: rest =>
      match package.baseApkPath with
      | none => self.inspect uid hadPath lastError rest
      | some path =>
          if !androidPathIsAbsolute path then self.inspect uid hadPath lastError rest
          else match self.certificates path with
            | .ok digests =>
                if digests.any fun d => constantTimeEq d self.pin.digest then
                  .ok { uid, packageName := package.name, apkPath := path }
                else self.inspect uid true lastError rest
            | .error e => self.inspect uid true (some e) rest

def authenticateUid (self : Authenticator) (uid : Nat) : Except AuthError AuthenticatedManager :=
  let appId := uid % androidUidUserRange
  let candidates := self.packages.byUid uid
  let candidates := if candidates.isEmpty && appId != uid then candidates ++ self.packages.byUid appId
    else candidates
  if candidates.isEmpty then .error (.unknownUid uid)
  else self.inspect uid false none candidates

end Authenticator

theorem foldl_or_eq_zero (d : UInt8) (bytes : List UInt8) :
    bytes.foldl (· ||| ·) d = 0 ↔ d = 0 ∧ ∀ byte ∈ bytes, byte = 0 := by
  induction bytes generalizing d with
  | nil => simp
  | cons byte bytes ih => rw [List.foldl_cons, ih, UInt8.or_eq_zero_iff, List.forall_mem_cons, and_assoc]

theorem zip_xor_eq_zero {a b : List UInt8} (length : a.length = b.length) :
    (∀ byte ∈ List.zipWith (· ^^^ ·) a b, byte = 0) ↔ a = b := by
  induction a generalizing b with
  | nil => simp [List.length_eq_zero_iff.mp length.symm]
  | cons byte a ih =>
      obtain ⟨other, b, rfl⟩ := List.exists_cons_of_length_eq_add_one length.symm
      rw [List.zipWith_cons_cons, List.forall_mem_cons, ih (Nat.succ.inj length), UInt8.xor_eq_zero_iff,
        List.cons.injEq]

theorem constantTimeEq_iff (a b : CertificateDigest) : constantTimeEq a b = true ↔ a = b := by
  have fold : (a.toList.zip b.toList).foldl (fun d entry => d ||| (entry.1 ^^^ entry.2)) 0 =
      (List.zipWith (· ^^^ ·) a.toList b.toList).foldl (· ||| ·) 0 := by
    rw [← List.map_uncurry_zip_eq_zipWith, List.foldl_map]
    rfl
  rw [constantTimeEq, decide_eq_true_iff, fold, foldl_or_eq_zero, zip_xor_eq_zero (by simp)]
  simp [Vector.toList_inj]

def installedPath (package : PackageEntry) : Option Str :=
  package.baseApkPath.filter androidPathIsAbsolute

def Accepts (pin : ManagerPin) (certificates : CertificateSource) (package : PackageEntry) : Prop :=
  ∃ path digests, installedPath package = some path ∧ certificates path = .ok digests ∧ pin.digest ∈ digests

def Unreadable (certificates : CertificateSource) (package : PackageEntry) : Prop :=
  ∃ path e, installedPath package = some path ∧ certificates path = .error e

inductive Verdict where
  | accepted
  | unknownUid
  | missingApkPath
  | signatureMismatch
  | certificateRead
deriving DecidableEq

def verdict : Except AuthError AuthenticatedManager → Verdict
  | .ok _ => .accepted
  | .error (.unknownUid _) => .unknownUid
  | .error (.missingApkPath _) => .missingApkPath
  | .error (.signatureMismatch _) => .signatureMismatch
  | .error (.certificateRead _) => .certificateRead

namespace Authenticator
variable {self : Authenticator} {uid : Nat} {hadPath : Bool} {lastError : Option Str}

theorem any_constantTimeEq (digests : List CertificateDigest) (digest : CertificateDigest) :
    (digests.any fun d => constantTimeEq d digest) = true ↔ digest ∈ digests := by
  simp [constantTimeEq_iff]

theorem inspect_cons (package : PackageEntry) (rest : List PackageEntry) :
    self.inspect uid hadPath lastError (package :: rest) =
      match installedPath package with
      | none => self.inspect uid hadPath lastError rest
      | some path => match self.certificates path with
        | .ok digests => if self.pin.digest ∈ digests then
            .ok { uid, packageName := package.name, apkPath := path }
          else self.inspect uid true lastError rest
        | .error e => self.inspect uid true (some e) rest := by
  rw [inspect, installedPath]
  cases package.baseApkPath with
  | none => rfl
  | some path =>
      cases absolute : androidPathIsAbsolute path with
      | false =>
          have none : (some path).filter androidPathIsAbsolute = none := by simp [absolute]
          simp only [absolute, Bool.not_false, if_true, none]
      | true =>
          simp only [Bool.not_true, Bool.false_eq_true, if_false, Option.filter_some, absolute, if_true]
          cases self.certificates path with
          | ok digests => simp only [any_constantTimeEq]
          | error e => rfl

theorem inspect_skip {package : PackageEntry} (rest : List PackageEntry)
    (missing : installedPath package = none) :
    self.inspect uid hadPath lastError (package :: rest) = self.inspect uid hadPath lastError rest := by
  rw [inspect_cons, missing]

theorem inspect_accept {package : PackageEntry} (rest : List PackageEntry)
    (accepts : Accepts self.pin self.certificates package) :
    ∃ path, installedPath package = some path ∧
      self.inspect uid hadPath lastError (package :: rest) = .ok ⟨uid, package.name, path⟩ := by
  obtain ⟨path, digests, installed, read, pinned⟩ := accepts
  refine ⟨path, installed, ?_⟩
  rw [inspect_cons, installed]
  simp only [read, pinned, if_true]

theorem inspect_unreadable {package : PackageEntry} (rest : List PackageEntry)
    (unreadable : Unreadable self.certificates package) :
    ∃ e, self.inspect uid hadPath lastError (package :: rest) = self.inspect uid true (some e) rest := by
  obtain ⟨path, e, installed, read⟩ := unreadable
  refine ⟨e, ?_⟩
  rw [inspect_cons, installed]
  simp only [read]

theorem inspect_mismatch {package : PackageEntry} (rest : List PackageEntry) {path : Str}
    (installed : installedPath package = some path) (refuses : ¬ Accepts self.pin self.certificates package)
    (readable : ¬ Unreadable self.certificates package) :
    self.inspect uid hadPath lastError (package :: rest) = self.inspect uid true lastError rest := by
  rw [inspect_cons, installed]
  cases read : self.certificates path with
  | error e => exact absurd ⟨path, e, installed, read⟩ readable
  | ok digests =>
      have absent : self.pin.digest ∉ digests := fun pinned => refuses ⟨path, digests, installed, read, pinned⟩
      simp only [read, absent, if_false]

/-- What the loop decides: a match anywhere is found, and without one the worst failure counts. -/
structure Decides (pin : ManagerPin) (certificates : CertificateSource) (hadPath : Bool)
    (lastError : Option Str) (candidates : List PackageEntry) (decided : Verdict) : Prop where
  accepted : decided = .accepted ↔ ∃ package ∈ candidates, Accepts pin certificates package
  missing : decided = .missingApkPath ↔ hadPath = false ∧ ∀ package ∈ candidates, installedPath package = none
  unreadable : decided = .certificateRead ↔ (∀ package ∈ candidates, ¬ Accepts pin certificates package) ∧
    (lastError.isSome ∨ ∃ package ∈ candidates, Unreadable certificates package)
  mismatch : decided = .signatureMismatch ↔ (∀ package ∈ candidates, ¬ Accepts pin certificates package) ∧
    (hadPath = true ∨ ∃ package ∈ candidates, installedPath package ≠ none) ∧
    lastError = none ∧ ∀ package ∈ candidates, ¬ Unreadable certificates package

theorem inspect_decides (candidates : List PackageEntry) (seen : lastError.isSome → hadPath = true) :
    Decides self.pin self.certificates hadPath lastError candidates
      (verdict (self.inspect uid hadPath lastError candidates)) := by
  induction candidates generalizing hadPath lastError with
  | nil =>
      cases hadPath with
      | false =>
          cases lastError with
          | none => exact ⟨by simp [inspect, verdict], by simp [inspect, verdict], by simp [inspect, verdict],
              by simp [inspect, verdict]⟩
          | some e => simp at seen
      | true =>
          cases lastError with
          | none => exact ⟨by simp [inspect, verdict], by simp [inspect, verdict], by simp [inspect, verdict],
              by simp [inspect, verdict]⟩
          | some e => exact ⟨by simp [inspect, verdict], by simp [inspect, verdict], by simp [inspect, verdict],
              by simp [inspect, verdict]⟩
  | cons package rest ih =>
      by_cases accepts : Accepts self.pin self.certificates package
      · obtain ⟨path, installed, accepted⟩ := inspect_accept rest accepts
        rw [accepted]
        refine ⟨?_, ?_, ?_, ?_⟩
        · exact iff_of_true rfl ⟨package, .head _, accepts⟩
        · simp [verdict, installed]
        · simp [verdict, accepts]
        · simp [verdict, accepts]
      by_cases unreadable : Unreadable self.certificates package
      · obtain ⟨e, next⟩ := inspect_unreadable rest unreadable
        obtain ⟨path, -, installed, -⟩ := id unreadable
        rw [next]
        obtain ⟨accepted, missing, unread, mismatch⟩ := @ih true (some e) fun _ => rfl
        refine ⟨?_, ?_, ?_, ?_⟩
        · rw [accepted]
          simp [accepts]
        · rw [missing]
          simp [installed]
        · rw [unread]
          simp [accepts, unreadable]
        · rw [mismatch]
          simp [unreadable]
      cases installed : installedPath package with
      | none =>
          rw [inspect_skip rest installed]
          obtain ⟨accepted, missing, unread, mismatch⟩ := ih seen
          refine ⟨?_, ?_, ?_, ?_⟩
          · rw [accepted]
            simp [accepts]
          · rw [missing]
            simp [installed]
          · rw [unread]
            simp [accepts, unreadable]
          · rw [mismatch]
            simp [accepts, unreadable, installed]
      | some path =>
          rw [inspect_mismatch rest installed accepts unreadable]
          obtain ⟨accepted, missing, unread, mismatch⟩ := ih fun _ => rfl
          refine ⟨?_, ?_, ?_, ?_⟩
          · rw [accepted]
            simp [accepts]
          · rw [missing]
            simp [installed]
          · rw [unread]
            simp [accepts, unreadable]
          · rw [mismatch]
            simp [accepts, unreadable, installed]

theorem inspect_ne_unknownUid (candidates : List PackageEntry) :
    verdict (self.inspect uid hadPath lastError candidates) ≠ .unknownUid := by
  induction candidates generalizing hadPath lastError with
  | nil => cases hadPath <;> cases lastError <;> simp [inspect, verdict]
  | cons package rest ih =>
      rw [inspect_cons]
      cases installedPath package with
      | none => exact ih
      | some path =>
          simp only
          cases self.certificates path with
          | error e => exact ih
          | ok digests =>
              simp only
              split_ifs
              · simp [verdict]
              · exact ih

end Authenticator

def candidatesOf (packages : PackageIndex) (uid : Nat) : List PackageEntry :=
  let own := packages.entries.filter fun entry => entry.uid = uid
  if own = [] then packages.entries.filter fun entry => entry.uid = uid % androidUidUserRange else own

theorem authenticateUid_eq (self : Authenticator) (uid : Nat) : self.authenticateUid uid =
    if candidatesOf self.packages uid = [] then .error (.unknownUid uid)
    else self.inspect uid false none (candidatesOf self.packages uid) := by
  have candidates : (if (self.packages.byUid uid).isEmpty && uid % androidUidUserRange != uid then
      self.packages.byUid uid ++ self.packages.byUid (uid % androidUidUserRange)
      else self.packages.byUid uid) = candidatesOf self.packages uid := by
    simp only [PackageIndex.byUid_eq, candidatesOf]
    by_cases none : (self.packages.entries.filter fun entry => entry.uid = uid) = []
    · by_cases same : uid % androidUidUserRange = uid
      · simp [none, same]
      · simp [none, same]
    · simp [none]
  simp only [Authenticator.authenticateUid, candidates, List.isEmpty_iff]

theorem candidatesOf_perm {packages other : PackageIndex} (order : other.entries.Perm packages.entries)
    (uid : Nat) :
    (candidatesOf other uid).Perm (candidatesOf packages uid) := by
  have own := order.filter fun entry => entry.uid = uid
  have shared := order.filter fun entry => entry.uid = uid % androidUidUserRange
  unfold candidatesOf
  by_cases none : (packages.entries.filter fun entry => entry.uid = uid) = []
  · simpa [none, (none ▸ own).eq_nil] using shared
  · have some : (other.entries.filter fun entry => entry.uid = uid) ≠ [] := fun none' =>
      none (none' ▸ own).nil_eq.symm
    simpa [none, some] using own

/-- The verdict on the rows of a caller: who is accepted, and which failure is reported otherwise. -/
structure Exact (pin : ManagerPin) (certificates : CertificateSource) (candidates : List PackageEntry)
    (decided : Verdict) : Prop where
  accepted : decided = .accepted ↔ ∃ package ∈ candidates, Accepts pin certificates package
  unknown : decided = .unknownUid ↔ candidates = []
  missing : decided = .missingApkPath ↔ candidates ≠ [] ∧ ∀ package ∈ candidates, installedPath package = none
  unreadable : decided = .certificateRead ↔ decided ≠ .accepted ∧
    ∃ package ∈ candidates, Unreadable certificates package
  mismatch : decided = .signatureMismatch ↔ decided ≠ .accepted ∧
    (∃ package ∈ candidates, installedPath package ≠ none) ∧
    ∀ package ∈ candidates, ¬ Unreadable certificates package

theorem authenticateUid_exact (self : Authenticator) (uid : Nat) :
    Exact self.pin self.certificates (candidatesOf self.packages uid) (verdict (self.authenticateUid uid)) := by
  rw [authenticateUid_eq]
  split_ifs with none
  · refine ⟨?_, ?_, ?_, ?_, ?_⟩ <;> simp [none, verdict]
  · obtain ⟨accepted, missing, unread, mismatch⟩ := @Authenticator.inspect_decides self uid false Option.none
      (candidatesOf self.packages uid) (by simp)
    have refused : verdict (self.inspect uid false Option.none (candidatesOf self.packages uid)) ≠ .accepted ↔
        ∀ package ∈ candidatesOf self.packages uid, ¬ Accepts self.pin self.certificates package := by
      simp [accepted]
    refine ⟨accepted, iff_of_false (Authenticator.inspect_ne_unknownUid _) none, ?_, ?_, ?_⟩
    · rw [missing]
      simp [none]
    · rw [unread, refused]
      simp
    · rw [mismatch, refused]
      simp

theorem Exact.perm {pin : ManagerPin} {certificates : CertificateSource} {candidates other : List PackageEntry}
    {decided : Verdict} (exactly : Exact pin certificates candidates decided) (order : other.Perm candidates) :
    Exact pin certificates other decided := by
  obtain ⟨accepted, unknown, missing, unreadable, mismatch⟩ := exactly
  have empty : other = [] ↔ candidates = [] := by
    rw [← List.length_eq_zero_iff, order.length_eq, List.length_eq_zero_iff]
  refine ⟨?_, ?_, ?_, ?_, ?_⟩ <;> simpa only [order.mem_iff, ne_eq, empty]

theorem Exact.unique {pin : ManagerPin} {certificates : CertificateSource} {candidates : List PackageEntry}
    {decided other : Verdict} (first : Exact pin certificates candidates decided)
    (second : Exact pin certificates candidates other) : other = decided := by
  have accepted : other = .accepted ↔ decided = .accepted := second.accepted.trans first.accepted.symm
  cases decided with
  | accepted => exact accepted.mpr rfl
  | unknownUid => exact second.unknown.mpr (first.unknown.mp rfl)
  | missingApkPath => exact second.missing.mpr (first.missing.mp rfl)
  | signatureMismatch =>
      obtain ⟨refused, rest⟩ := first.mismatch.mp rfl
      exact second.mismatch.mpr ⟨fun same => refused (accepted.mp same), rest⟩
  | certificateRead =>
      obtain ⟨refused, rest⟩ := first.unreadable.mp rfl
      exact second.unreadable.mpr ⟨fun same => refused (accepted.mp same), rest⟩

/-- A caller is accepted exactly when one of its rows has a readable APK with the pinned certificate,
and otherwise the error is the one its rows call for; neither the order of the rows nor what reading
another row's APK gives changes who is accepted. -/
theorem authenticate_uid_exact (packages : PackageIndex) (pin : ManagerPin) (certificates : CertificateSource)
    (uid : Nat) :
    let decided := verdict (Authenticator.authenticateUid ⟨packages, pin, certificates⟩ uid)
    Exact pin certificates (candidatesOf packages uid) decided ∧
      (∀ other : PackageIndex, other.entries.Perm packages.entries →
        verdict (Authenticator.authenticateUid ⟨other, pin, certificates⟩ uid) = decided) ∧
      ∀ other : CertificateSource,
        (∀ package ∈ candidatesOf packages uid, Accepts pin other package ↔ Accepts pin certificates package) →
        (verdict (Authenticator.authenticateUid ⟨packages, pin, other⟩ uid) = .accepted ↔
          decided = .accepted) := by
  have exactly := authenticateUid_exact ⟨packages, pin, certificates⟩ uid
  refine ⟨exactly, fun other order => ?_, fun other same => ?_⟩
  · have reordered := authenticateUid_exact ⟨other, pin, certificates⟩ uid
    exact exactly.unique (reordered.perm (candidatesOf_perm order uid).symm)
  · have reread := authenticateUid_exact ⟨packages, pin, other⟩ uid
    rw [reread.accepted, exactly.accepted]
    exact exists_congr fun package => and_congr_right fun member => same package member

end CrashCatcher.Auth
