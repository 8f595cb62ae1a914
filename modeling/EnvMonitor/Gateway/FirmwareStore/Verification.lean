import EnvMonitor.Gateway.FirmwareStore.Install

/-!
# What a verification decides

`do_verify` in terms of the staged file: it answers OK only for a file that passes every check, and
when nothing fails it answers OK for each of them.
-/

namespace EnvMonitor.Gateway.FirmwareStore

open Device Drivers Gateway.ConfigStore
open Program (eval_bind eval_inLeft eval_inRight eval_pure wp_ite wp_mono wp_seq)

/-- The checks on a file as a whole. -/
structure Passes (crypto : OtaCrypto) (fs : FsInst) (file : List UInt8) : Prop where
  header : verifyStructure fs (.ofBytes (file.take firmwareHeaderSize)) = .ok
  signed : Signed crypto (file.take firmwareHeaderSize)
  body : crypto.sha256 (file.drop firmwareHeaderSize) =
    (FirmwareImageHeader.ofBytes (file.take firmwareHeaderSize)).bodySha256
  vector : ResetVectorOk (.ofBytes (file.take firmwareHeaderSize))
    (fieldAt (file.drop firmwareHeaderSize) fsResetVectorOffset 4)

/-- A file that has been received completely. -/
structure StagedFile (fs : FsInst) (t : (qspiFlash.sum cryptoDevice).State)
    (file : List UInt8) : Prop where
  received : fs.op = .received
  length : fs.fileLen = file.length
  bytes : staged t 0 file.length = file

section

variable {F : Faults storeIo} {crypto : OtaCrypto} {fs : FsInst} {file : List UInt8}
variable {m : Memory} {t : (qspiFlash.sum cryptoDevice).State}

/-!
## Parts of a staged file
-/

variable {h : FirmwareImageHeader}

theorem verifyStructure_iff :
    verifyStructure fs h = .ok ↔
      (h.magic = firmwareImageMagic ∧ h.headerVersion = firmwareImageHeaderVersion ∧
        h.headerSize = firmwareHeaderSize ∧ h.imageLen.toNat = fs.fileLen - firmwareHeaderSize ∧
        fsVectorProbeLen ≤ h.imageLen.toNat) ∧
      h.imageLen.toNat ≤ firmwareMaxImageLen ∧
      h.loadAddr.toNat = fsSlotBase (fsOtherSlot fs.boot.runningSlot) := by
  unfold verifyStructure
  constructor
  · intro hok
    by_cases hbad : h.magic ≠ firmwareImageMagic ∨
        h.headerVersion ≠ firmwareImageHeaderVersion ∨ h.headerSize ≠ firmwareHeaderSize ∨
        h.imageLen.toNat ≠ fs.fileLen - firmwareHeaderSize ∨ h.imageLen.toNat < fsVectorProbeLen
    · rw [if_pos hbad] at hok
      cases hok
    · rw [if_neg hbad] at hok
      by_cases hlarge : h.imageLen.toNat > firmwareMaxImageLen
      · rw [if_pos hlarge] at hok
        cases hok
      · rw [if_neg hlarge] at hok
        by_cases hslot : h.loadAddr.toNat ≠ fsSlotBase (fsOtherSlot fs.boot.runningSlot)
        · rw [if_pos hslot] at hok
          cases hok
        · simp only [not_or, not_not, Nat.not_lt] at hbad
          exact ⟨hbad, Nat.le_of_not_lt hlarge, not_not.mp hslot⟩
  · intro h
    rcases h with ⟨⟨hmagic, hversion, hsize, hlength, hprobe⟩, hlarge, hslot⟩
    have hbad : ¬(h.magic ≠ firmwareImageMagic ∨
        h.headerVersion ≠ firmwareImageHeaderVersion ∨ h.headerSize ≠ firmwareHeaderSize ∨
        h.imageLen.toNat ≠ fs.fileLen - firmwareHeaderSize ∨
        h.imageLen.toNat < fsVectorProbeLen) := by
      simp only [not_or, not_not, Nat.not_lt]
      exact ⟨hmagic, hversion, hsize, hlength, hprobe⟩
    rw [if_neg hbad, if_neg (Nat.not_lt.mpr hlarge), if_neg (not_not.mpr hslot)]

theorem stagedHeader_eq (hstaged : StagedFile fs t file) (hlen : firmwareHeaderSize ≤ file.length) :
    stagedHeader t = file.take firmwareHeaderSize := by
  have hsplit := staged_add t 0 firmwareHeaderSize (file.length - firmwareHeaderSize)
  rw [Nat.add_sub_cancel' hlen, hstaged.bytes] at hsplit
  have hlength : (staged t 0 firmwareHeaderSize).length = firmwareHeaderSize :=
    Memory.slice_length _ _ _
  have htake := congrArg (List.take firmwareHeaderSize) hsplit
  rw [List.take_left' hlength] at htake
  exact htake.symm

theorem stagedBody_eq (hstaged : StagedFile fs t file) (hlen : firmwareHeaderSize ≤ file.length) :
    staged t firmwareHeaderSize (file.length - firmwareHeaderSize) =
      file.drop firmwareHeaderSize := by
  have hsplit := staged_add t 0 firmwareHeaderSize (file.length - firmwareHeaderSize)
  rw [Nat.add_sub_cancel' hlen, hstaged.bytes, Nat.zero_add] at hsplit
  have hlength : (staged t 0 firmwareHeaderSize).length = firmwareHeaderSize :=
    Memory.slice_length _ _ _
  have hdrop := congrArg (List.drop firmwareHeaderSize) hsplit
  rw [List.drop_left' hlength] at hdrop
  exact hdrop.symm

theorem stagedVector_eq (hstaged : StagedFile fs t file)
    (hlen : firmwareHeaderSize + 8 ≤ file.length) :
    fieldAt (staged t firmwareHeaderSize 8) 4 4 =
      fieldAt (file.drop firmwareHeaderSize) fsResetVectorOffset 4 := by
  have hbody := stagedBody_eq hstaged (by omega)
  have hsplit := staged_add t firmwareHeaderSize 8 (file.length - firmwareHeaderSize - 8)
  rw [Nat.add_sub_cancel' (by omega), hbody] at hsplit
  rw [hsplit, fieldAt_append_left]
  exact Nat.le_of_eq (Memory.slice_length _ _ _).symm

/-!
## Only what passes
-/

theorem wp_doVerify_passes (hstaged : StagedFile fs t file) :
    (doVerify crypto fs).wp storeDevice F
      (fun out s' => s' = (m, t) ∧
        (out.1 = .ok -> Passes crypto fs file ∧ VerifiedAs fs (file.take firmwareHeaderSize) out.2))
      (fun _ => True) (m, t) := by
  apply wp_mono _ (fun _ h => h) wp_doVerify
  intro out s' hout
  refine ⟨hout.1, fun hok => ?_⟩
  rcases hout.2.2 hok with ⟨⟨_, hsigned, hstructure, hvector⟩, htaken, hhash⟩
  rcases verifyStructure_iff.mp hstructure with ⟨⟨_, _, _, hlength, hprobe⟩, _, _⟩
  rw [hstaged.length] at hlength
  have hlong : firmwareHeaderSize + 8 ≤ file.length := by
    change 8 ≤ _ at hprobe
    omega
  rw [hlength, stagedBody_eq hstaged (by omega)] at hhash
  rw [stagedVector_eq hstaged hlong] at hvector
  rw [stagedHeader_eq hstaged (by omega)] at hsigned hstructure hhash hvector htaken
  exact ⟨⟨hstructure, hsigned, hhash, hvector⟩, htaken⟩

/-!
## All that passes
-/

theorem eval_onStaging {α : Type} (p : Qspi α) :
    (onStaging p).eval storeDevice (m, t) =
      ((p.eval qspiFlash t.1).1, m, (p.eval qspiFlash t.1).2, t.2) := by
  rcases t with ⟨q, u⟩
  unfold onStaging
  rw [eval_inRight, eval_inLeft]

theorem eval_fsStageReadLoop {q : Memory} (fuel pos len : Nat) (hfuel : len ≤ fuel)
    (hend : imageAddr (pos + len) ≤ qspiFlashDeviceSizeBytes) :
    (fsStageReadLoop fuel pos len).eval qspiFlash q = (some (q.slice (imageAddr pos) len), q) := by
  induction fuel generalizing pos len with
  | zero =>
      have hzero : len = 0 := Nat.le_zero.mp hfuel
      subst hzero
      rfl
  | succ fuel ih =>
      unfold fsStageReadLoop
      by_cases hpos : len > 0
      · have hn : min len fsReadChunk ≤ len := Nat.min_le_left _ _
        have hchunk : 0 < min len fsReadChunk := Nat.lt_min.mpr ⟨hpos, by decide⟩
        have haddr : imageAddr (pos + min len fsReadChunk) = imageAddr pos + min len fsReadChunk :=
          (Nat.add_assoc _ _ _).symm
        have hwhole : imageAddr (pos + len) = imageAddr pos + len := (Nat.add_assoc _ _ _).symm
        have hread := eval_qspiRead (m := q) hchunk
          (by omega : imageAddr pos + min len fsReadChunk ≤ qspiFlashDeviceSizeBytes)
        have hrest := ih (pos + min len fsReadChunk) (len - min len fsReadChunk) (by omega)
          (by rw [Nat.add_assoc, Nat.add_sub_cancel' hn]; exact hend)
        have hsplit := Memory.slice_add q (imageAddr pos) (min len fsReadChunk)
          (len - min len fsReadChunk)
        rw [Nat.add_sub_cancel' hn] at hsplit
        rw [if_pos hpos, eval_bind]
        unfold qRead
        rw [hread]
        dsimp only
        rw [eval_bind, hrest]
        dsimp only
        rw [eval_pure, hsplit, haddr]
      · have hzero : len = 0 := Nat.eq_zero_of_not_pos hpos
        subst hzero
        rfl

theorem eval_fsStageRead {pos len : Nat}
    (hend : imageAddr (pos + len) ≤ qspiFlashDeviceSizeBytes) :
    (onStaging (fsStageRead pos len)).eval storeDevice (m, t) =
      (some (staged t pos len), m, t) := by
  unfold fsStageRead
  rw [eval_onStaging, eval_fsStageReadLoop len pos len (Nat.le_refl _) hend]
  rfl

theorem eval_cryptoCall : cryptoCall.eval storeDevice (m, t) = (true, m, t) := rfl

theorem eval_verifySignature {raw : List UInt8} (hsigned : Signed crypto raw) :
    (verifySignature crypto raw).eval storeDevice (m, t) = (.ok, m, t) := by
  change Program.eval storeDevice
    (if crypto.ecdsaP256Verify (crypto.sha256 (raw.take firmwareSignedHeaderLen))
      (FirmwareImageHeader.ofBytes raw).signature then (pure .ok : StoreIo FirmwareStoreErr)
      else pure .sigInvalid) (m, t) = _
  unfold Signed at hsigned
  rw [if_pos hsigned]
  rfl

theorem eval_hashBodyLoop (fuel done left : Nat) (fed : List UInt8) (hfuel : left ≤ fuel)
    (hend : imageAddr (firmwareHeaderSize + done + left) ≤ qspiFlashDeviceSizeBytes) :
    (hashBodyLoop fuel done left fed).eval storeDevice (m, t) =
      ((.ok, fed ++ staged t (firmwareHeaderSize + done) left), m, t) := by
  induction fuel generalizing done left fed with
  | zero =>
      have hzero : left = 0 := Nat.le_zero.mp hfuel
      subst hzero
      change ((FirmwareStoreErr.ok, fed), m, t) = ((FirmwareStoreErr.ok, fed ++ []), m, t)
      rw [List.append_nil]
  | succ fuel ih =>
      unfold hashBodyLoop
      by_cases hpos : left > 0
      · have hn : min left fsPageBytes ≤ left := Nat.min_le_left _ _
        have hpage : 0 < min left fsPageBytes := Nat.lt_min.mpr ⟨hpos, by decide⟩
        have hread : (onStaging (fsStageRead (firmwareHeaderSize + done)
            (min left fsPageBytes))).eval storeDevice (m, t) = _ :=
          eval_fsStageRead (Nat.le_trans (Nat.add_le_add_left (Nat.add_le_add_left hn _) _) hend)
        have hrest := ih (done + min left fsPageBytes) (left - min left fsPageBytes)
          (fed ++ staged t (firmwareHeaderSize + done) (min left fsPageBytes)) (by omega)
          (by rw [← Nat.add_assoc, Nat.add_assoc _ _ (left - _), Nat.add_sub_cancel' hn]; exact hend)
        have hsplit := staged_add t (firmwareHeaderSize + done) (min left fsPageBytes)
          (left - min left fsPageBytes)
        rw [Nat.add_sub_cancel' hn] at hsplit
        rw [if_pos hpos, eval_bind, hread]
        dsimp only
        rw [eval_bind, eval_cryptoCall]
        dsimp only
        rw [if_pos rfl, hrest, hsplit, List.append_assoc, Nat.add_assoc]
      · have hzero : left = 0 := Nat.eq_zero_of_not_pos hpos
        subst hzero
        change ((FirmwareStoreErr.ok, fed), m, t) = ((FirmwareStoreErr.ok, fed ++ []), m, t)
        rw [List.append_nil]

theorem eval_verifyBodyHash
    (hend : imageAddr (firmwareHeaderSize + h.imageLen.toNat) ≤ qspiFlashDeviceSizeBytes)
    (hhash : crypto.sha256 (staged t firmwareHeaderSize h.imageLen.toNat) = h.bodySha256) :
    (verifyBodyHash crypto h).eval storeDevice (m, t) = (.ok, m, t) := by
  have hloop := eval_hashBodyLoop (m := m) (t := t) h.imageLen.toNat 0 h.imageLen.toNat []
    (Nat.le_refl _) hend
  unfold verifyBodyHash
  rw [eval_bind, eval_cryptoCall]
  dsimp only
  rw [if_pos rfl, eval_bind, hloop]
  dsimp only
  rw [if_pos rfl, eval_bind, eval_cryptoCall]
  dsimp only
  rw [if_pos rfl, List.nil_append, Nat.add_zero, if_pos hhash]
  rfl

theorem eval_verifyResetVector
    (hvector : ResetVectorOk h (fieldAt (staged t firmwareHeaderSize 8) 4 4)) :
    (verifyResetVector h).eval storeDevice (m, t) = (.ok, m, t) := by
  unfold verifyResetVector
  rw [eval_bind, eval_fsStageRead (by decide)]
  dsimp only
  rcases hvector with ⟨hthumb, hlow, hhigh⟩
  rw [if_neg]
  · rfl
  · rw [not_or, not_or]
    exact ⟨hthumb, Nat.not_lt.mpr hlow, Nat.not_le.mpr hhigh⟩

theorem eval_doVerify (hstaged : StagedFile fs t file) (hpasses : Passes crypto fs file) :
    exists fs', (doVerify crypto fs).eval storeDevice (m, t) = ((.ok, fs'), m, t) ∧
      VerifiedAs fs (file.take firmwareHeaderSize) fs' := by
  rcases verifyStructure_iff.mp hpasses.header with ⟨⟨_, _, _, hlength, hprobe⟩, hlarge, _⟩
  rw [hstaged.length] at hlength
  have hlong : firmwareHeaderSize + 8 ≤ file.length := by
    change 8 ≤ _ at hprobe
    omega
  have hend : imageAddr (firmwareHeaderSize +
      (FirmwareImageHeader.ofBytes (file.take firmwareHeaderSize)).imageLen.toNat) ≤
        qspiFlashDeviceSizeBytes := by
    change 0x00120000 + 0x1000 + (128 + _) ≤ 8 * 1024 * 1024
    change _ ≤ 491520 at hlarge
    omega
  have hhash := hpasses.body
  rw [← stagedBody_eq hstaged (by omega), ← hlength] at hhash
  have hvector := hpasses.vector
  rw [← stagedVector_eq hstaged hlong] at hvector
  have hchecks : (verifyStaged crypto fs (file.take firmwareHeaderSize)).eval storeDevice (m, t) =
      (.ok, m, t) := by
    unfold verifyStaged
    dsimp only
    rw [if_neg (not_not.mpr hpasses.header), eval_bind,
      eval_verifySignature hpasses.signed]
    dsimp only
    rw [if_neg (not_not.mpr rfl), eval_bind, eval_verifyBodyHash hend hhash]
    dsimp only
    rw [if_neg (not_not.mpr rfl), eval_verifyResetVector hvector]
  have hheader : staged t 0 firmwareHeaderSize = file.take firmwareHeaderSize :=
    stagedHeader_eq hstaged (by omega)
  refine ⟨_, ?_, rfl⟩
  unfold doVerify
  rw [if_neg (by rw [hstaged.received]; decide), if_neg (not_not.mpr hstaged.received),
    eval_bind, eval_fsStageRead (by decide), hheader]
  dsimp only
  rw [eval_bind, hchecks]
  dsimp only
  rw [if_neg (not_not.mpr rfl)]
  rfl

end

end EnvMonitor.Gateway.FirmwareStore
