import CrashCatcher.Auth.SigningBlock

/-! The signers that the platform has verified of an APK it has installed, beside those that the reader returns. -/

namespace CrashCatcher.Auth
open Lib Packages Checked LittleEndian

section
variable (target : Target)

def signingPairs (apk : List UInt8) : Read (List Pair) := do
  let e ← findEocd target apk apk.length
  if checkedAdd u64Max e.offset e.size ≠ some e.absolute ∨ e.offset > apk.length then
    .error .invalidCentralDirectory
  else do
    let block ← readBlock target apk e.offset
    parsePairs target block

def fieldsFrom : Nat → ByteCursor → Read (List (List UInt8))
  | turns, cursor =>
      if cursor.remaining = 0 then .ok []
      else match turns with
        | 0 => .unfinished
        | turns + 1 => do
            let (field, cursor) ← lp target cursor
            let rest ← fieldsFrom turns cursor
            return field :: rest

def signersOf (value : List UInt8) : Read (List (List UInt8)) := do
  let (signers, _) ← lp target (.new value)
  fieldsFrom target signers.length (.new signers)

def sdkRange (signer : List UInt8) : Read (Nat × Nat) := do
  let (_, cursor) ← lp target (.new signer)
  let (low, cursor) ← read target 4 cursor
  let (high, _) ← read target 4 cursor
  let low ← u32le low
  let high ← u32le high
  return (low, high)

def schemeSigners (pairs : List Pair) (id : Nat) : List (List UInt8) :=
  match findScheme pairs [id] with
  | none => []
  | some value => match signersOf target value with
    | .ok signers => signers
    | _ => []

def leadingDigest (sha256 : List UInt8 → CertificateDigest) (signer : List UInt8) : Option CertificateDigest :=
  match firstCert target signer with
  | .ok cert => some (sha256 cert)
  | _ => none

def preferredScheme (pairs : List Pair) : Nat :=
  if (findScheme pairs [v31]).isSome then v31 else if (findScheme pairs [v3]).isSome then v3 else v2

end

/-- A platform and its check of an APK's contents against one of its signers. -/
structure Platform where
  sdk : Nat
  modern : 28 ≤ sdk
  verifies : List UInt8 → List UInt8 → Prop

namespace Platform
variable (self : Platform) (target : Target)

def targets (signer : List UInt8) : Bool :=
  match sdkRange target signer with
  | .ok (low, high) => low ≤ self.sdk && self.sdk ≤ high
  | _ => false

def scheme (pairs : List Pair) : Nat :=
  if 33 ≤ self.sdk ∧ (schemeSigners target pairs v31).any (self.targets target) then v31
  else if (findScheme pairs [v3]).isSome then v3 else v2

def signers (pairs : List Pair) : List (List UInt8) :=
  let scheme := self.scheme target pairs
  (schemeSigners target pairs scheme).filter fun signer => scheme == v2 || self.targets target signer

/-- The platform installs an APK if it verifies all the signers it looks at, of which a rotated key has one. -/
def Accepts (apk : List UInt8) (pairs : List Pair) : Prop :=
  signingPairs target apk = .ok pairs ∧ self.signers target pairs ≠ [] ∧
    (self.scheme target pairs = v2 ∨ (self.signers target pairs).length = 1) ∧
    ∀ signer ∈ self.signers target pairs, self.verifies apk signer

/-- A signer of the block that the reader looks at, which the platform does not look at: it looks at another
block, or the signer is not for its SDK version. -/
def Skips (pairs : List Pair) (signer : List UInt8) : Prop :=
  self.scheme target pairs ≠ preferredScheme pairs ∨
    preferredScheme pairs ≠ v2 ∧ self.targets target signer = false

/-- Skipped signers bring no certificate of their own. -/
def Covers (sha256 : List UInt8 → CertificateDigest) (pairs : List Pair) : Prop :=
  ∀ signer ∈ schemeSigners target pairs (preferredScheme pairs), self.Skips target pairs signer →
    ∃ verified ∈ self.signers target pairs, leadingDigest target sha256 verified =
      leadingDigest target sha256 signer

end Platform

section
variable {target : Target} {sha256 : List UInt8 → CertificateDigest}

theorem certificateSha256FromReader_eq (apk : List UInt8) : certificateSha256FromReader target sha256 apk =
    signingPairs target apk >>= fun pairs =>
      okOr .missingSigningBlock (findScheme pairs [v31, v3, v2]) >>= parseCertificates target sha256 := by
  rw [certificateSha256FromReader, signingPairs, Checked.bind_assoc]
  congr 1
  funext e
  dsimp only
  split_ifs
  · rfl
  · rw [Checked.bind_assoc]

theorem signersFrom_eq_ok {turns : Nat} {cursor : ByteCursor} {out digests : List CertificateDigest}
    (ran : signersFrom target sha256 turns cursor out = .ok digests) :
    ∃ signers, fieldsFrom target turns cursor = .ok signers ∧
      digests.map some = out.map some ++ signers.map (leadingDigest target sha256) := by
  induction turns generalizing cursor out with
  | zero =>
      rw [signersFrom] at ran
      split_ifs at ran with empty
      cases ran
      exact ⟨[], by rw [fieldsFrom, if_pos empty], by simp⟩
  | succ turns ih =>
      rw [signersFrom] at ran
      split_ifs at ran with empty
      · cases ran
        exact ⟨[], by rw [fieldsFrom, if_pos empty], by simp⟩
      · obtain ⟨⟨signer, after⟩, signerRead, ran⟩ := bind_eq_ok.mp ran
        obtain ⟨cert, certRead, ran⟩ := bind_eq_ok.mp ran
        obtain ⟨signers, fields, same⟩ := ih ran
        have leading : leadingDigest target sha256 signer =
            some (sha256 cert) := by rw [leadingDigest, certRead]
        refine ⟨signer :: signers, ?_, ?_⟩
        · rw [fieldsFrom, if_neg empty, signerRead, ok_bind]
          dsimp only
          rw [fields]
          rfl
        · rw [same]
          simp [leading]

theorem findScheme_preferred (pairs : List Pair) :
    findScheme pairs [v31, v3, v2] = findScheme pairs [preferredScheme pairs] := by
  have first : ∀ id ids, findScheme pairs (id :: ids) = (findScheme pairs [id]).or (findScheme pairs ids) := by
    intro id ids
    simp only [findScheme, List.findSome?_cons, List.findSome?_nil]
    cases (pairs.find? fun pair => pair.1 == id).map Prod.snd <;> rfl
  rw [preferredScheme, first v31, first v3]
  cases newest : findScheme pairs [v31] with
  | some value =>
      rw [Option.isSome_some, if_pos rfl, newest]
      rfl
  | none =>
      cases rotated : findScheme pairs [v3] with
      | some value =>
          rw [Option.isSome_none, if_neg Bool.false_ne_true, Option.isSome_some, if_pos rfl, rotated]
          rfl
      | none => rfl

theorem certificateSha256FromReader_eq_ok {apk : List UInt8} {pairs : List Pair}
    {digests : List CertificateDigest} (parsed : signingPairs target apk = .ok pairs)
    (ran : certificateSha256FromReader target sha256 apk = .ok digests) : digests ≠ [] ∧
      digests.map some =
        (schemeSigners target pairs (preferredScheme pairs)).map (leadingDigest target sha256) := by
  rw [certificateSha256FromReader_eq, parsed, ok_bind, findScheme_preferred] at ran
  obtain ⟨value, found, ran⟩ := bind_eq_ok.mp ran
  obtain ⟨⟨signers, after⟩, block, ran⟩ := bind_eq_ok.mp ran
  obtain ⟨out, signersRead, ran⟩ := bind_eq_ok.mp ran
  obtain ⟨fields, split, same⟩ := signersFrom_eq_ok signersRead
  have scheme : findScheme pairs [preferredScheme pairs] = some value := by
    cases located : findScheme pairs [preferredScheme pairs] with
    | none =>
        rw [located] at found
        cases found
    | some value' =>
        rw [located] at found
        cases found
        rfl
  have all : schemeSigners target pairs (preferredScheme pairs) = fields := by
    have read : signersOf target value = .ok fields := by
      rw [signersOf, block, ok_bind]
      exact split
    rw [schemeSigners, scheme]
    dsimp only
    rw [read]
  split_ifs at ran with empty
  cases ran
  exact ⟨fun none => empty (by rw [none]; rfl), by rw [all]; exact same⟩

end

namespace Platform
variable {self : Platform} {target : Target} {sha256 : List UInt8 → CertificateDigest} {apk : List UInt8}
  {pairs : List Pair} {digests : List CertificateDigest}

def Verified (self : Platform) (target : Target) (sha256 : List UInt8 → CertificateDigest) (pairs : List Pair)
    (digest : CertificateDigest) : Prop :=
  ∃ signer ∈ self.signers target pairs, leadingDigest target sha256 signer = some digest

theorem mem_digests (same : digests.map some =
      (schemeSigners target pairs (preferredScheme pairs)).map (leadingDigest target sha256))
        (digest : CertificateDigest) :
    digest ∈ digests ↔ ∃ signer ∈ schemeSigners target pairs (preferredScheme pairs),
      leadingDigest target sha256 signer = some digest := by
  have member : some digest ∈ digests.map some ↔ digest ∈ digests := by simp
  rw [← member, same, List.mem_map]

theorem mem_signers_of_not_skips {signer : List UInt8}
    (member : signer ∈ schemeSigners target pairs (preferredScheme pairs))
      (looks : ¬ self.Skips target pairs signer) :
    signer ∈ self.signers target pairs := by
  rw [Skips, not_or, ne_eq, not_not, not_and, Bool.not_eq_false] at looks
  obtain ⟨scheme, inRange⟩ := looks
  rw [signers, List.mem_filter, scheme]
  refine ⟨member, ?_⟩
  by_cases old : preferredScheme pairs = v2
  · rw [old]
    rfl
  · rw [inRange old, Bool.or_true]

theorem sound_iff (same : digests.map some =
      (schemeSigners target pairs (preferredScheme pairs)).map (leadingDigest target sha256)) :
    (∀ digest ∈ digests, self.Verified target sha256 pairs digest) ↔ self.Covers target sha256 pairs := by
  constructor
  · intro sound signer member _
    have some' : leadingDigest target sha256 signer ∈ digests.map some := by
      rw [same]
      exact List.mem_map_of_mem member
    obtain ⟨digest, returned, leading⟩ := List.mem_map.mp some'
    obtain ⟨verified, looked, certified⟩ := sound digest returned
    exact ⟨verified, looked, certified.trans leading⟩
  · intro covers digest returned
    obtain ⟨signer, member, leading⟩ := (mem_digests same digest).mp returned
    by_cases skips : self.Skips target pairs signer
    · obtain ⟨verified, looked, certified⟩ := covers signer member skips
      exact ⟨verified, looked, certified.trans leading⟩
    · exact ⟨signer, mem_signers_of_not_skips member skips, leading⟩

/-- A v3.1 block does not stand without a v3 block. -/
def Anchored (pairs : List Pair) : Prop := (findScheme pairs [v3]).isSome ∨ findScheme pairs [v31] = none

theorem single_of_scheme_ne (accepted : self.Accepts target apk pairs) (anchored : Anchored pairs)
    (other : self.scheme target pairs ≠ preferredScheme pairs) : (self.signers target pairs).length = 1 := by
  obtain ⟨-, -, scheme, -⟩ := accepted
  refine scheme.resolve_left fun old => other ?_
  have unrotated : ¬ (findScheme pairs [v3]).isSome = true := by
    intro rotated
    rw [Platform.scheme, if_pos rotated] at old
    split_ifs at old <;> cases old
  have none : findScheme pairs [v31] = .none := anchored.resolve_left unrotated
  rw [old, preferredScheme, none, if_neg (by simp), if_neg unrotated]

theorem mem_digests_iff_verified (accepted : self.Accepts target apk pairs) (anchored : Anchored pairs)
    (covers : self.Covers target sha256 pairs)
      (ran : certificateSha256FromReader target sha256 apk = .ok digests)
    (digest : CertificateDigest) : digest ∈ digests ↔ self.Verified target sha256 pairs digest := by
  obtain ⟨nonempty, same⟩ := certificateSha256FromReader_eq_ok accepted.1 ran
  have sound := (sound_iff same).mpr covers
  refine ⟨sound digest, ?_⟩
  rintro ⟨signer, looked, leading⟩
  by_cases other : self.scheme target pairs = preferredScheme pairs
  · rw [signers, other] at looked
    exact (mem_digests same digest).mpr ⟨signer, (List.mem_filter.mp looked).1, leading⟩
  · obtain ⟨only, single⟩ := List.length_eq_one_iff.mp (single_of_scheme_ne accepted anchored other)
    obtain ⟨first, returned⟩ := List.exists_mem_of_ne_nil digests nonempty
    obtain ⟨signer', looked', leading'⟩ := sound first returned
    rw [single, List.mem_singleton] at looked looked'
    rw [looked] at leading
    rw [looked', leading, Option.some.injEq] at leading'
    rwa [leading']

end Platform

def certificateResult (describe : ApkSigError → Str) :
    Read (List CertificateDigest) → Except Str (List CertificateDigest)
  | .ok digests => .ok digests
  | .error e => .error (describe e)
  | .panicked => .error []
  | .unfinished => .error []

def installedCertificates (target : Target) (sha256 : List UInt8 → CertificateDigest)
    (describe : ApkSigError → Str) (files : Str → List UInt8) : CertificateSource := fun path =>
  certificateResult describe (certificateSha256FromReader target sha256 (files path))

theorem exists_certificateResult {describe : ApkSigError → Str} {pin : CertificateDigest}
    (result : Read (List CertificateDigest)) :
    (∃ digests, certificateResult describe result = .ok digests ∧ pin ∈ digests) ↔
      ∃ digests, result = .ok digests ∧ pin ∈ digests := by
  cases result with
  | ok digests => simp [certificateResult]
  | error e => simp [certificateResult]
  | panicked => simp [certificateResult]
  | unfinished => simp [certificateResult]

theorem accepts_iff_of_digests {pin : ManagerPin} {certificates certificates' : CertificateSource}
    (same : ∀ path, (∃ digests, certificates path = .ok digests ∧ pin.digest ∈ digests) ↔
      ∃ digests, certificates' path = .ok digests ∧
        pin.digest ∈ digests) (packages : PackageIndex) (uid : Nat) :
    verdict (Authenticator.authenticateUid ⟨packages, pin, certificates⟩ uid) = .accepted ↔
      verdict (Authenticator.authenticateUid ⟨packages, pin, certificates'⟩ uid) = .accepted := by
  rw [(authenticateUid_exact ⟨packages, pin, certificates⟩ uid).accepted,
    (authenticateUid_exact ⟨packages, pin, certificates'⟩ uid).accepted]
  refine exists_congr fun package => and_congr_right fun _ => exists_congr fun path => ?_
  have here := same path
  constructor
  · rintro ⟨digests, installed, pinned⟩
    obtain ⟨digests', pinned'⟩ := here.mp ⟨digests, pinned⟩
    exact ⟨digests', installed, pinned'⟩
  · rintro ⟨digests, installed, pinned⟩
    obtain ⟨digests', pinned'⟩ := here.mpr ⟨digests, pinned⟩
    exact ⟨digests', installed, pinned'⟩

structure Platform.Alike (platform : Platform) (target : Target) (sha256 : List UInt8 → CertificateDigest)
    (apk apk' : List UInt8) : Prop where
  installed : ∃ pairs pairs', platform.Accepts target apk pairs ∧ platform.Accepts target apk' pairs' ∧
    platform.signers target pairs = platform.signers target pairs' ∧
      (Anchored pairs ∧ platform.Covers target sha256 pairs) ∧
    Anchored pairs' ∧ platform.Covers target sha256 pairs'
  read : ∃ digests digests', certificateSha256FromReader target sha256 apk = .ok digests ∧
    certificateSha256FromReader target sha256 apk' = .ok digests'

theorem Platform.Alike.pinned {platform : Platform} {target : Target} {sha256 : List UInt8 → CertificateDigest}
    {apk apk' : List UInt8} (alike : platform.Alike target sha256 apk apk') (pin : CertificateDigest) :
    (∃ digests, certificateSha256FromReader target sha256 apk = .ok digests ∧ pin ∈ digests) ↔
      ∃ digests, certificateSha256FromReader target sha256 apk' = .ok digests ∧ pin ∈ digests := by
  obtain ⟨pairs, pairs', accepted, accepted', same, ⟨anchored, covers⟩, anchored', covers'⟩ := alike.installed
  obtain ⟨digests, digests', ran, ran'⟩ := alike.read
  have here := Platform.mem_digests_iff_verified accepted anchored covers ran pin
  have there := Platform.mem_digests_iff_verified accepted' anchored' covers' ran' pin
  have verified : platform.Verified target sha256 pairs pin ↔ platform.Verified target sha256 pairs' pin := by
    rw [Platform.Verified, Platform.Verified, same]
  simp only [ran, ran', Checked.ok.injEq, exists_eq_left', here, there, verified]

/-- The digests that the reader returns are of verified signers exactly when no skipped signer brings a certificate
of its own, and then only the verified signers decide who authenticates. -/
theorem returned_signers_verified_iff (target : Target) (sha256 : List UInt8 → CertificateDigest)
    (describe : ApkSigError → Str) (platform : Platform) :
    (∀ apk pairs digests, platform.Accepts target apk pairs →
      certificateSha256FromReader target sha256 apk = .ok digests →
      ((∀ digest ∈ digests, platform.Verified target sha256 pairs digest) ↔
        platform.Covers target sha256 pairs)) ∧
    ∀ files files' : Str → List UInt8,
      (∀ path, files path = files' path ∨ platform.Alike target sha256 (files path) (files' path)) →
      ∀ packages pin uid,
        verdict (Authenticator.authenticateUid
          ⟨packages, pin, installedCertificates target sha256 describe files⟩ uid) = .accepted ↔
        verdict (Authenticator.authenticateUid
          ⟨packages, pin, installedCertificates target sha256 describe files'⟩ uid) = .accepted := by
  constructor
  · intro apk pairs digests accepted ran
    exact Platform.sound_iff (certificateSha256FromReader_eq_ok accepted.1 ran).2
  · intro files files' alike packages pin uid
    refine accepts_iff_of_digests (fun path => ?_) packages uid
    refine (exists_certificateResult _).trans (Iff.trans ?_ (exists_certificateResult _).symm)
    rcases alike path with same | alike
    · rw [same]
    · exact alike.pinned pin.digest

def managerCert : List UInt8 := [109, 97, 110, 97, 103, 101, 114]
def otherCert : List UInt8 := [111, 116, 104, 101, 114]

def managerDigest : CertificateDigest :=
  #v[0x6e, 0xe4, 0xa4, 0x69, 0xcd, 0x4e, 0x91, 0x05, 0x38, 0x47, 0xf5, 0xd3, 0xfc, 0xb6, 0x1d, 0xbc,
    0xc9, 0x1e, 0x8f, 0x0e, 0xf1, 0x0b, 0xe7, 0x74, 0x8d, 0xa4, 0xc4, 0xa1, 0xba, 0x38, 0x2d, 0x17]

def otherDigest : CertificateDigest :=
  #v[0xd9, 0x29, 0x8a, 0x10, 0xd1, 0xb0, 0x73, 0x58, 0x37, 0xdc, 0x4b, 0xd8, 0x5d, 0xac, 0x64, 0x1b,
    0x0f, 0x3c, 0xef, 0x27, 0xa4, 0x7e, 0x5d, 0x53, 0xa5, 0x4f, 0x2f, 0x3f, 0x5b, 0x2f, 0xcf, 0xfa]

def digestOf (cert : List UInt8) : CertificateDigest :=
    if cert = managerCert then managerDigest else otherDigest

def forgedApk : List UInt8 :=
  apkWith (pairFor v31 (signerFor 33 0x7fffffff managerCert) ++ pairFor v3 (signerFor 28 0x7fffffff otherCert))

def android11 : Platform where
  sdk := 30
  modern := by decide
  verifies _ signer := signer = signerFor 28 0x7fffffff otherCert

def forgedPairs : List Pair :=
  [(v31, withLength (withLength (signerFor 33 0x7fffffff managerCert))),
    (v3, withLength (withLength (signerFor 28 0x7fffffff otherCert)))]

def plainApk : List UInt8 := apkWith (pairFor v3 (signerFor 28 0x7fffffff otherCert))

def plainPairs : List Pair := [(v3, withLength (withLength (signerFor 28 0x7fffffff otherCert)))]

theorem forgedApk_accepted : android11.Accepts .aarch64 forgedApk forgedPairs := by
  have signers : android11.signers .aarch64 forgedPairs =
      [signerFor 28 0x7fffffff otherCert] := by decide +kernel
  refine ⟨by decide +kernel, ?_, ?_, ?_⟩
  · rw [signers]
    exact List.cons_ne_nil _ _
  · rw [signers]
    exact .inr rfl
  · rw [signers]
    exact fun signer member => List.mem_singleton.mp member

theorem plainApk_accepted : android11.Accepts .aarch64 plainApk plainPairs := by
  have signers : android11.signers .aarch64 plainPairs =
      [signerFor 28 0x7fffffff otherCert] := by decide +kernel
  refine ⟨by decide +kernel, ?_, ?_, ?_⟩
  · rw [signers]
    exact List.cons_ne_nil _ _
  · rw [signers]
    exact .inr rfl
  · rw [signers]
    exact fun signer member => List.mem_singleton.mp member

def ownEntry : PackageEntry where
  name := "other".toList
  uid := 10123
  debuggable := false
  dataDir := []
  seinfo := []
  gids := []
  profileableFromShell := none
  versionCode := none
  codePath := some "/data/app/other".toList
  isSystem := false

/-- A certificate that the platform never looks at is returned, and its APK authenticates with it. -/
theorem forged_manager_authenticates :
    (¬ ∀ (target : Target) (sha256 : List UInt8 → CertificateDigest) (platform : Platform) (apk : List UInt8)
      (pairs : List Pair) (digests : List CertificateDigest), platform.Accepts target apk pairs →
      certificateSha256FromReader target sha256 apk = .ok digests →
      ∀ digest ∈ digests, platform.Verified target sha256 pairs digest) ∧
    ¬ ∀ (target : Target) (sha256 : List UInt8 → CertificateDigest) (describe : ApkSigError → Str)
      (platform : Platform) (files files' : Str → List UInt8),
      (∀ path, ∃ pairs pairs', platform.Accepts target (files path) pairs ∧
        platform.Accepts target (files' path) pairs' ∧
        platform.signers target pairs = platform.signers target pairs') →
      ∀ packages pin uid,
        verdict (Authenticator.authenticateUid
          ⟨packages, pin, installedCertificates target sha256 describe files⟩ uid) = .accepted ↔
        verdict (Authenticator.authenticateUid
          ⟨packages, pin, installedCertificates target sha256 describe files'⟩ uid) = .accepted := by
  have forged : certificateSha256FromReader .aarch64 digestOf forgedApk =
      .ok [managerDigest] := by decide +kernel
  have plain : certificateSha256FromReader .aarch64 digestOf plainApk = .ok [otherDigest] := by decide +kernel
  have signers : android11.signers .aarch64 forgedPairs =
      [signerFor 28 0x7fffffff otherCert] := by decide +kernel
  have leading : leadingDigest .aarch64 digestOf (signerFor 28 0x7fffffff otherCert) = some otherDigest := by
    decide +kernel
  have apart : otherDigest ≠ managerDigest := by decide
  constructor
  · intro sound
    obtain ⟨signer, looked, named⟩ := sound .aarch64 digestOf android11 forgedApk forgedPairs [managerDigest]
      forgedApk_accepted forged managerDigest List.mem_cons_self
    rw [signers, List.mem_singleton] at looked
    rw [looked, leading, Option.some.injEq] at named
    exact apart named
  · intro alike
    have same : android11.signers .aarch64 forgedPairs =
        android11.signers .aarch64 plainPairs := by decide +kernel
    have both := alike .aarch64 digestOf (fun _ => []) android11 (fun _ => forgedApk) (fun _ => plainApk)
      (fun _ => ⟨forgedPairs, plainPairs, forgedApk_accepted, plainApk_accepted, same⟩)
      (PackageIndex.empty.push ownEntry) ⟨managerDigest⟩ 10123
    rw [(authenticateUid_exact _ _).accepted, (authenticateUid_exact _ _).accepted] at both
    dsimp only at both
    have candidates : candidatesOf (PackageIndex.empty.push ownEntry) 10123 = [ownEntry] := rfl
    have installed : installedPath ownEntry = some "/data/app/other/base.apk".toList := by decide
    have taken : ∃ package ∈ candidatesOf (PackageIndex.empty.push ownEntry) 10123, Accepts ⟨managerDigest⟩
        (installedCertificates .aarch64 digestOf (fun _ => []) fun _ => forgedApk) package := by
      rw [candidates]
      refine ⟨ownEntry, List.mem_cons_self, _, [managerDigest], installed, ?_, List.mem_cons_self⟩
      rw [installedCertificates, forged, certificateResult]
    obtain ⟨package, chosen⟩ := both.mp taken
    obtain ⟨path, digests, parts⟩ := chosen.2
    have read := parts.2.1
    have pinned := parts.2.2
    rw [installedCertificates, plain, certificateResult, Except.ok.injEq] at read
    rw [← read, List.mem_singleton] at pinned
    exact apart pinned.symm

end CrashCatcher.Auth
