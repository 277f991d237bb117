import CrashCatcher.Auth.SigningBlock

namespace CrashCatcher.Auth
open Lib Checked LittleEndian
variable {target : Target}

theorem ensures_numberOf (width : Nat) (truncated : Str) (bytes : List UInt8) :
    (numberOf width truncated bytes).Ensures fun n => n = ofLe bytes ∧ n < 256 ^ width := by
  unfold numberOf
  split
  · rename_i length
    exact .ok ⟨rfl, length ▸ ofLe_lt bytes⟩
  · exact .error _ _

theorem ensures_toUsize (n : Nat) (e : ApkSigError) :
    (toUsize target n e).Ensures fun m => m = n ∧ n ≤ target.usizeMax := by
  unfold toUsize
  split
  · rename_i small
    exact .ok ⟨rfl, small⟩
  · exact .error _ _

theorem ensures_readExact (apk : List UInt8) (start count : Nat) :
    (readExact apk start count).Ensures fun bytes =>
      bytes = (apk.drop start).take count ∧ bytes.length = count := by
  unfold readExact
  split
  · refine .ok ⟨rfl, ?_⟩
    rw [List.length_take, List.length_drop]
    omega
  · exact .error _ _

section Search
variable {tail : List UInt8} {start p : Nat}

theorem ensures_sliceAt {low high : Nat} (small : tail.length ≤ target.usizeMax) (ordered : low ≤ high)
    (inside : p + high ≤ tail.length) : (sliceAt target tail p low high).Ensures fun _ => True := by
  rw [sliceAt, add_of_le (show p + low ≤ target.usizeMax by omega), ok_bind,
    add_of_le (show p + high ≤ target.usizeMax by omega), ok_bind, slice_of_le (by omega) inside]
  exact .ok trivial

theorem ensures_candidate (short : tail.length ≤ 65557) (file : start + tail.length ≤ u64Max)
    (inside : p + 22 ≤ tail.length) : (candidate target tail start p).Ensures fun _ => True := by
  have word := target.le_usizeMax
  have small : tail.length ≤ target.usizeMax := by omega
  refine (ensures_sliceAt small (by decide) (by omega)).bind fun signature _ => ?_
  split
  · exact .ok trivial
  refine (ensures_sliceAt small (by decide) inside).bind fun bytes _ => ?_
  apply (ensures_numberOf _ _ bytes).bind
  rintro comment ⟨-, comment16⟩
  rw [add_of_le (show p + 22 ≤ target.usizeMax by omega), ok_bind,
    add_of_le (show p + 22 + comment ≤ target.usizeMax by omega), ok_bind]
  split
  · exact .ok trivial
  refine (ensures_sliceAt small (by decide) (by omega)).bind fun sizeBytes _ => ?_
  refine (ensures_numberOf _ _ sizeBytes).bind fun size _ => ?_
  refine (ensures_sliceAt small (by decide) (by omega)).bind fun offsetBytes _ => ?_
  refine (ensures_numberOf _ _ offsetBytes).bind fun offset _ => ?_
  split
  · exact .error _ _
  · rw [add_of_le (show start + p ≤ u64Max by omega)]
    exact .ok trivial

theorem ensures_searchEocd (short : tail.length ≤ 65557) (file : start + tail.length ≤ u64Max) (count : Nat)
    (inside : count + 21 ≤ tail.length) :
    (searchEocd target tail start count).Ensures fun _ => True := by
  induction count with
  | zero => exact .error _ _
  | succ p ih =>
      refine (ensures_candidate short file (by omega)).bind fun found _ => ?_
      cases found with
      | none => exact ih (by omega)
      | some found => exact .ok trivial

end Search

theorem ensures_findEocd {apk : List UInt8} (file : apk.length ≤ u64Max) :
    (findEocd target apk apk.length).Ensures fun _ => True := by
  have length : (readToEnd apk (apk.length - 65557)).length = apk.length - (apk.length - 65557) :=
    List.length_drop
  have short : (readToEnd apk (apk.length - 65557)).length ≤ 65557 := by omega
  have whole : apk.length - 65557 + (readToEnd apk (apk.length - 65557)).length ≤ u64Max := by omega
  simp only [findEocd]
  generalize readToEnd apk (apk.length - 65557) = tail at short whole
  generalize apk.length - 65557 = start at whole
  split
  · exact .error _ _
  · rename_i long
    rw [sub_of_le (Nat.not_lt.mp long), ok_bind]
    exact ensures_searchEocd short whole _ (by omega)

section Block
variable {apk : List UInt8} {central : Nat}

theorem drop_footer {total : Nat} (short : total ≤ 24) (inside : 24 ≤ central) :
    (((apk.drop (central - 24)).take 24).drop (24 - total)) = (apk.drop (central - total)).take total := by
  rw [List.drop_take, List.drop_drop]
  congr 1
  · omega
  · congr 1
    omega

/-- A block too short for the magic would begin inside the magic, which spells no such size. -/
theorem magic_spells_no_size : ∀ total < 16, 8 ≤ total →
    ofLe ((magic.drop (16 - total)).take 8) ≠ total - 8 := by
  decide

theorem short_block_disagrees {total : Nat} (inside : 24 ≤ central) (low : 8 ≤ total) (short : total < 16)
    (trailer : ((apk.drop (central - 24)).take 24).drop 8 = magic) :
    ofLe (((apk.drop (central - total)).take total).take 8) ≠ total - 8 := by
  have bytes : ((apk.drop (central - 24)).take 24).drop (24 - total) =
      (apk.drop (central - total)).take total :=
    drop_footer (by omega) inside
  have split : 24 - total = 8 + (16 - total) := by omega
  rw [split, ← List.drop_drop, trailer] at bytes
  rw [← bytes]
  exact magic_spells_no_size total short low

theorem ensures_checkedAdd (max a b : Nat) (e : ApkSigError) :
    (okOr e (checkedAdd max a b)).Ensures fun n => n = a + b := by
  apply ensures_okOr
  intro n added
  unfold checkedAdd at added
  split at added
  · cases added
    rfl
  · cases added

theorem ensures_checkedSub (a b : Nat) (e : ApkSigError) :
    (okOr e (checkedSub a b)).Ensures fun n => n = a - b := by
  apply ensures_okOr
  intro n subtracted
  unfold checkedSub at subtracted
  split at subtracted
  · cases subtracted
    rfl
  · cases subtracted

theorem ensures_readBlock :
    (readBlock target apk central).Ensures fun block => block.length ≤ target.usizeMax := by
  rw [readBlock]
  split
  · exact .error _ _
  rename_i far
  have inside : 24 ≤ central := Nat.not_lt.mp far
  rw [sub_of_le inside, ok_bind]
  apply (ensures_readExact _ _ _).bind
  rintro footer ⟨footerBytes, footerLength⟩
  have tail : footer.drop 8 = (footer.drop 8).take (footer.length - 8) :=
    (List.take_of_length_le (by rw [List.length_drop])).symm
  rw [slice_of_le (show 8 ≤ footer.length by omega) (Nat.le_refl _), ok_bind, ← tail]
  split
  · exact .error _ _
  rename_i trailer
  rw [slice_of_le (Nat.zero_le 8) (show 8 ≤ footer.length by omega), ok_bind]
  refine (ensures_numberOf _ _ _).bind fun size _ => ?_
  refine (ensures_checkedAdd _ _ _ _).bind fun sum total8 => ?_
  apply (ensures_toUsize sum _).bind
  rintro total ⟨same, word⟩
  subst same
  split
  · exact .error _ _
  refine (ensures_checkedSub _ _ _).bind fun start startAt => ?_
  apply (ensures_readExact _ _ _).bind
  rintro block ⟨blockBytes, blockLength⟩
  rw [slice_of_le (Nat.zero_le 8) (show 8 ≤ block.length by omega), ok_bind, List.drop_zero, Nat.sub_zero]
  apply (ensures_numberOf _ _ _).bind
  rintro first ⟨firstBytes, -⟩
  split
  · exact .error _ _
  rename_i agrees
  -- Only the magic that is known to stand there keeps a block of fewer than 16 bytes out.
  have long : 16 ≤ block.length := by
    rw [blockLength]
    by_contra short
    rw [not_not, footerBytes] at trailer
    have disagrees : ofLe (((apk.drop (central - total)).take total).take 8) ≠ total - 8 :=
      short_block_disagrees inside (by omega) (by omega) trailer
    apply disagrees
    rw [← startAt, ← blockBytes, ← firstBytes, not_not.mp agrees]
    omega
  rw [sub_of_le long, ok_bind, slice_of_le (Nat.sub_le _ _) (Nat.le_refl _), ok_bind]
  split
  · exact .error _ _
  · exact .ok (blockLength.le.trans word)

end Block

section Cursor
variable {cursor : ByteCursor}

theorem ensures_read (inside : cursor.Inside target) (count : Nat) :
    (read target count cursor).Ensures fun result => result.1.length = count ∧
      count ≤ target.usizeMax ∧ result.2.Inside target ∧ result.2.remaining + count = cursor.remaining := by
  refine ⟨ByteCursor.returns_read inside _ _, fun result ran => ?_⟩
  obtain ⟨start, length, after⟩ := (ByteCursor.read_eq_ok_iff inside).mp ran
  have fits : count ≤ cursor.rest.length := length ▸ start.length_le
  have next := inside.skip fits
  have place := next.place
  have small := inside.addressable
  rw [ByteCursor.length_rest] at fits
  rw [after]
  refine ⟨length, ?_, next, ?_⟩
  · have whole : cursor.remaining ≤ cursor.bytes.length := Nat.sub_le _ _
    omega
  · show cursor.bytes.length - (cursor.position + count) + count = _
    rw [ByteCursor.remaining] at fits ⊢
    omega

theorem ensures_readU64 (inside : cursor.Inside target) :
    (readU64 target cursor).Ensures fun result =>
      result.2.Inside target ∧ result.2.remaining < cursor.remaining := by
  apply (ensures_read inside 8).bind
  rintro ⟨bytes, after⟩ ⟨-, -, next, less⟩
  refine (ensures_numberOf _ _ bytes).bind fun n _ => .ok ⟨next, ?_⟩
  dsimp only at less ⊢
  omega

theorem ensures_lp (inside : cursor.Inside target) :
    (lp target cursor).Ensures fun result => result.1.length ≤ target.usizeMax ∧
      result.2.Inside target ∧ result.2.remaining < cursor.remaining := by
  apply (ensures_read inside 4).bind
  rintro ⟨bytes, after⟩ ⟨-, -, next, less⟩
  refine (ensures_numberOf _ _ bytes).bind fun n _ => ?_
  refine (ensures_toUsize n _).bind fun m _ => ?_
  apply (ensures_read next m).mono
  rintro result ⟨length, small, last, rest⟩
  exact ⟨length.le.trans small, last, by omega⟩

end Cursor

section Pairs
variable {cursor : ByteCursor}

def ShortPair (target : Target) (pair : Pair) : Prop := pair.2.length ≤ target.usizeMax

theorem ensures_parsePair (inside : cursor.Inside target) :
    (parsePair target cursor).Ensures fun result => ShortPair target result.1 ∧
      result.2.Inside target ∧ result.2.remaining < cursor.remaining := by
  apply (ensures_readU64 inside).bind
  rintro ⟨len, middle⟩ ⟨next, less⟩
  apply (ensures_toUsize len _).bind
  rintro len' ⟨same, -⟩
  subst same
  dsimp only at next less ⊢
  split
  · exact .error _ _
  rename_i long
  apply (ensures_read next len').bind
  rintro ⟨pair, after⟩ ⟨length, small, last, rest⟩
  dsimp only at length last rest ⊢
  rw [slice_of_le (Nat.zero_le 4) (show 4 ≤ pair.length by omega), ok_bind]
  refine (ensures_numberOf _ _ _).bind fun id _ => ?_
  rw [slice_of_le (show 4 ≤ pair.length by omega) (Nat.le_refl _)]
  refine .ok ⟨?_, last, ?_⟩
  · show ((pair.drop 4).take (pair.length - 4)).length ≤ target.usizeMax
    rw [List.length_take, List.length_drop]
    omega
  · dsimp only
    omega

theorem ensures_pairsFrom (turns : Nat) (inside : cursor.Inside target) (enough : cursor.remaining ≤ turns)
    (out : List Pair) (short : ∀ pair ∈ out, ShortPair target pair) :
    (pairsFrom target turns cursor out).Ensures fun pairs => ∀ pair ∈ pairs, ShortPair target pair := by
  induction turns generalizing cursor out with
  | zero =>
      rw [pairsFrom, if_pos (Nat.le_zero.mp enough)]
      exact .ok short
  | succ turns ih =>
      rw [pairsFrom]
      split
      · exact .ok short
      · apply (ensures_parsePair inside).bind
        rintro ⟨pair, after⟩ ⟨shortPair, next, less⟩
        apply ih next (by dsimp only at less ⊢; omega)
        intro other member
        rcases List.mem_append.mp member with old | new
        · exact short other old
        · rw [List.mem_singleton.mp new]
          exact shortPair

theorem ensures_parsePairs {block : List UInt8} (small : block.length ≤ target.usizeMax) :
    (parsePairs target block).Ensures fun pairs => ∀ pair ∈ pairs, ShortPair target pair := by
  rw [parsePairs]
  split
  · exact .error _ _
  rename_i long
  rw [sub_of_le (by omega), ok_bind, slice_of_le (by omega) (Nat.sub_le _ _), ok_bind]
  apply ensures_pairsFrom
  · apply ByteCursor.inside_new
    rw [List.length_take, List.length_drop]
    omega
  · exact Nat.sub_le _ _
  · intro pair member
    cases member

theorem findScheme_short {pairs : List Pair} (short : ∀ pair ∈ pairs, ShortPair target pair) {ids : List Nat}
    {value : List UInt8} (found : findScheme pairs ids = some value) : value.length ≤ target.usizeMax := by
  obtain ⟨id, -, located⟩ := List.exists_of_findSome?_eq_some found
  obtain ⟨pair, here, rfl⟩ := Option.map_eq_some_iff.mp located
  exact short pair (List.mem_of_find?_eq_some here)

end Pairs

section Certificates
variable {sha256 : List UInt8 → CertificateDigest}

theorem ensures_firstCert {signer : List UInt8} (small : signer.length ≤ target.usizeMax) :
    (firstCert target signer).Ensures fun _ => True := by
  apply (ensures_lp (ByteCursor.inside_new small)).bind
  rintro ⟨signed, _⟩ ⟨signedSmall, -, -⟩
  apply (ensures_lp (ByteCursor.inside_new signedSmall)).bind
  rintro ⟨_, afterDigests⟩ ⟨-, next, -⟩
  apply (ensures_lp next).bind
  rintro ⟨certs, _⟩ ⟨certsSmall, -, -⟩
  apply (ensures_lp (ByteCursor.inside_new certsSmall)).bind
  rintro ⟨cert, _⟩ _
  dsimp only
  split
  · exact .error _ _
  split
  · exact .error _ _
  · exact .ok trivial

theorem ensures_signersFrom (turns : Nat) {cursor : ByteCursor} (inside : cursor.Inside target)
    (enough : cursor.remaining ≤ turns) (out : List CertificateDigest) :
    (signersFrom target sha256 turns cursor out).Ensures fun _ => True := by
  induction turns generalizing cursor out with
  | zero =>
      rw [signersFrom, if_pos (Nat.le_zero.mp enough)]
      exact .ok trivial
  | succ turns ih =>
      rw [signersFrom]
      split
      · exact .ok trivial
      split
      · exact .error _ _
      · apply (ensures_lp inside).bind
        rintro ⟨signer, after⟩ ⟨small, next, less⟩
        refine (ensures_firstCert small).bind fun cert _ => ?_
        exact ih next (by dsimp only at less ⊢; omega) _

theorem ensures_parseCertificates {value : List UInt8} (small : value.length ≤ target.usizeMax) :
    (parseCertificates target sha256 value).Ensures fun digests => digests ≠ [] := by
  apply (ensures_lp (ByteCursor.inside_new small)).bind
  rintro ⟨signers, _⟩ ⟨signersSmall, -, -⟩
  refine (ensures_signersFrom _ (ByteCursor.inside_new signersSmall) (Nat.sub_le _ _) []).bind
    fun out _ => ?_
  split
  · exact .error _ _
  · rename_i some
    exact .ok fun none => some (by rw [none]; rfl)

end Certificates

/-- Whatever bytes are presented as an APK, reading its certificates neither panics nor runs on, and
gives an error or at least one digest. -/
theorem certificates_read_total (target : Target) (sha256 : List UInt8 → CertificateDigest) {apk : List UInt8}
    (file : apk.length < 2 ^ 64) :
    (∃ digests ≠ [], certificateSha256FromReader target sha256 apk = .ok digests) ∨
      ∃ e, certificateSha256FromReader target sha256 apk = .error e := by
  have addressable : apk.length ≤ u64Max := by
    unfold u64Max
    omega
  apply Ensures.cases
  rw [certificateSha256FromReader]
  refine (ensures_findEocd addressable).bind fun e _ => ?_
  dsimp only
  split
  · exact .error _ _
  refine ensures_readBlock.bind fun block small => ?_
  refine (ensures_parsePairs small).bind fun pairs short => ?_
  refine (ensures_okOr fun scheme found => findScheme_short short found).bind fun scheme schemeSmall => ?_
  exact ensures_parseCertificates schemeSmall

def signedApk : List UInt8 := apkWith (pairFor v3 (signerFor 28 0x7fffffff [1, 2, 3]))

def overlongApk : List UInt8 := apkWith (pairFor v3 (toLe 4 200))

theorem certificates_read_total_of_signed :
    ((∃ digests ≠ [], certificateSha256FromReader .armv7 (fun _ => .replicate 32 0) signedApk = .ok digests) ∨
      ∃ e, certificateSha256FromReader .armv7 (fun _ => .replicate 32 0) signedApk = .error e) ∧
    ((∃ digests ≠ [], certificateSha256FromReader .armv7 (fun _ => .replicate 32 0) overlongApk = .ok digests) ∨
      ∃ e, certificateSha256FromReader .armv7 (fun _ => .replicate 32 0) overlongApk = .error e) ∧
    certificateSha256FromReader .armv7 (fun _ => .replicate 32 0) signedApk = .ok [.replicate 32 0] ∧
    ∀ digests, certificateSha256FromReader .armv7 (fun _ => .replicate 32 0) overlongApk ≠ .ok digests := by
  have refused : (match certificateSha256FromReader .armv7 (fun _ => .replicate 32 0) overlongApk with
      | .error _ => true
      | _ => false) = true := by decide +kernel
  refine ⟨certificates_read_total .armv7 _ (by decide +kernel),
    certificates_read_total .armv7 _ (by decide +kernel), by decide +kernel, fun digests read => ?_⟩
  rw [read] at refused
  cases refused

end CrashCatcher.Auth
