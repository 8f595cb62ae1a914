import EnvMonitor.Gateway.FirmwareStore.Verification
import EnvMonitor.Tools.MakeImage

/-!
# Released images

The files that the release tool writes are the ones that `do_verify` accepts on a gateway that runs
from the other slot.
-/

namespace EnvMonitor.Gateway.FirmwareStore

open Device Drivers Gateway.ConfigStore Tools.MakeImage

/-!
## Specification
-/

/-- The slot an image is linked for. -/
def slotOf : Slot -> FirmwareSlot
  | .a => .a
  | .b => .b

/-- The slot a gateway runs from that can take the image. -/
def runningBeside : Slot -> FirmwareSlot
  | .a => .b
  | .b => .a

/-- `firmware_image_header_t` and the body behind it, for a release. -/
structure LaidOut (sha256 : List UInt8 -> List UInt8) (release : Release) (version : Nat)
    (file : List UInt8) : Prop where
  length : file.length = firmwareHeaderSize + release.body.length
  magic : wordAt file 0 = firmwareImageMagic
  headerVersion : fieldAt file 4 2 = firmwareImageHeaderVersion
  headerSize : fieldAt file 6 2 = firmwareHeaderSize
  imageLen : (wordAt file 8).toNat = release.body.length
  version : (wordAt file 12).toNat = version
  loadAddr : (wordAt file 16).toNat = fsSlotBase (slotOf release.slot)
  reserved : (file.drop 20).take 12 = List.replicate 12 0
  bodySha256 : (file.drop 32).take 32 = sha256 release.body
  signature : (file.drop 64).take 64 = release.signature.raw
  body : file.drop firmwareHeaderSize = release.body

/-- The public key accepts exactly the signatures that were made for a digest. -/
def KeyMatches (crypto : OtaCrypto) (int : List Char -> Option Int) (releases : List Release) : Prop :=
  forall digest signature, crypto.ecdsaP256Verify digest signature = true ↔
    exists release, release ∈ releases ∧
      exists image, cmdSign crypto.sha256 int release = some image ∧
        digest = crypto.sha256 (image.take firmwareSignedHeaderLen) ∧
        signature = release.signature.raw

/-- What is hashed for a release, and for a file that is checked. -/
inductive Hashed (crypto : OtaCrypto) (int : List Char -> Option Int) (releases : List Release)
    (file : List UInt8) : List UInt8 -> Prop where
  | signedHead : Hashed crypto int releases file (file.take firmwareSignedHeaderLen)
  | body : Hashed crypto int releases file (file.drop firmwareHeaderSize)
  | releaseHead {release : Release} {image : List UInt8} : release ∈ releases ->
      cmdSign crypto.sha256 int release = some image ->
      Hashed crypto int releases file (image.take firmwareSignedHeaderLen)
  | releaseBody {release : Release} : release ∈ releases ->
      Hashed crypto int releases file release.body

/-- No two different strings of a set have one digest. -/
def CollisionFree (sha256 : List UInt8 -> List UInt8) (hashed : List UInt8 -> Prop) : Prop :=
  forall x y, hashed x -> hashed y -> sha256 x = sha256 y -> x = y

/-!
## Layout
-/

section

variable {sha256 : List UInt8 -> List UInt8} {release : Release} {version : Nat}
variable {file : List UInt8}

theorem take_drop_eq {raw : List UInt8} {i w v : Nat} (hlen : i + w ≤ raw.length)
    (h : fieldAt raw i w = v) : (raw.drop i).take w = putLe w v := by
  have hwidth : ((raw.drop i).take w).length = w := by
    rw [List.length_take, List.length_drop]
    omega
  have hput := putLe_getLe ((raw.drop i).take w)
  rw [hwidth] at hput
  rw [← hput, ← h]
  rfl

theorem wordAt_toNat (raw : List UInt8) (i : Nat) : (wordAt raw i).toNat = fieldAt raw i 4 := by
  unfold wordAt
  rw [UInt32.toNat_ofNat']
  apply Nat.mod_eq_of_lt
  unfold fieldAt
  apply Nat.lt_of_lt_of_le (getLe_lt _)
  change 256 ^ _ ≤ 256 ^ 4
  exact Nat.pow_le_pow_right (by decide) (List.length_take_le _ _)

theorem take_split {raw : List UInt8} (i w : Nat) :
    raw.take (i + w) = raw.take i ++ (raw.drop i).take w :=
  List.take_add

/-- The head that is signed, byte by byte. -/
def headBytes (length version loadAddr : Nat) (digest : List UInt8) : List UInt8 :=
  putLe 4 magic ++ (putLe 2 headerVersion ++ (putLe 2 headerSize ++ (putLe 4 length ++
    (putLe 4 version ++ (putLe 4 loadAddr ++ (List.replicate 12 0 ++ packString 32 digest))))))

theorem packHead_eq {length loadAddr : Nat} {digest : List UInt8} (hlength : length < 2 ^ 32)
    (hversion : version < 2 ^ 32) (hload : loadAddr < 2 ^ 32) :
    packHead length version loadAddr digest = some (headBytes length version loadAddr digest) := by
  have hword : forall n, n < 2 ^ 32 -> packUint 4 n = some (putLe 4 n) := fun n hn => if_pos hn
  unfold packHead
  rw [hword length hlength, hword version hversion, hword loadAddr hload]
  rfl

theorem slotBase_eq (slot : Slot) : slotBase slot = fsSlotBase (slotOf slot) := by
  cases slot <;> rfl

theorem slotBase_lt (slot : Slot) : slotBase slot < 2 ^ 32 := by
  cases slot <;> decide

theorem LaidOut.head (h : LaidOut sha256 release version file)
    (hdigest : forall x, (sha256 x).length = 32) :
    file.take firmwareSignedHeaderLen = headBytes release.body.length version
      (slotBase release.slot) (sha256 release.body) := by
  have hlen := h.length
  have hmagic := h.magic
  have himageLen := h.imageLen
  have hversion := h.version
  have hload := h.loadAddr
  rw [wordAt_toNat] at himageLen hversion hload
  have hmagicField : fieldAt file 0 4 = Tools.MakeImage.magic := by
    rw [← wordAt_toNat, hmagic]
    rfl
  have hpad : packString 32 (sha256 release.body) = sha256 release.body := by
    unfold packString
    rw [hdigest, Nat.sub_self, List.take_of_length_le (Nat.le_of_eq (hdigest _))]
    exact List.append_nil _
  change file.length = 128 + _ at hlen
  unfold headBytes
  rw [hpad]
  change file.take (0 + 4 + 2 + 2 + 4 + 4 + 4 + 12 + 32) = _
  rw [take_split _ 32, take_split _ 12, take_split _ 4, take_split _ 4, take_split _ 4,
    take_split _ 2, take_split _ 2, take_split 0 4]
  rw [take_drop_eq (by omega) hmagicField, take_drop_eq (by omega) h.headerVersion,
    take_drop_eq (by omega) h.headerSize, take_drop_eq (by omega) himageLen,
    take_drop_eq (by omega) hversion, take_drop_eq (by omega) hload, h.reserved, h.bodySha256,
    slotBase_eq]
  simp only [List.append_assoc, List.take_zero, List.nil_append]

theorem LaidOut.file_eq (h : LaidOut sha256 release version file) :
    file = file.take firmwareSignedHeaderLen ++ (release.signature.raw ++ release.body) := by
  have hsplit : file.drop 64 = (file.drop 64).take 64 ++ file.drop (64 + 64) := by
    rw [← List.drop_drop, List.take_append_drop]
  rw [h.signature] at hsplit
  rw [← h.body]
  change file = file.take 64 ++ (_ ++ file.drop (64 + 64))
  rw [← hsplit, List.take_append_drop]

theorem headBytes_length {length version loadAddr : Nat} {digest : List UInt8}
    (hdigest : digest.length = 32) : (headBytes length version loadAddr digest).length = 64 := by
  have hpad : (packString 32 digest).length = 32 := by
    unfold packString
    rw [hdigest, List.length_append, List.length_take, hdigest]
    rfl
  unfold headBytes
  simp only [List.length_append, putLe_length, List.length_replicate, hpad]

theorem LaidOut.cmdSign_eq {int : List Char -> Option Int} (h : LaidOut sha256 release version file)
    (hdigest : forall x, (sha256 x).length = 32)
    (hversion : parseVersion int release.version = some version) :
    cmdSign sha256 int release =
      if checkLinkBase release.body (slotBase release.slot) then some file else none := by
  have hlength : release.body.length < 2 ^ 32 := by
    rw [← h.imageLen]
    exact UInt32.toNat_lt _
  unfold cmdSign
  rw [hversion]
  change buildImage sha256 _ release.body release.slot version = _
  unfold buildImage
  by_cases hcheck : checkLinkBase release.body (slotBase release.slot) = true
  · rw [if_pos hcheck, if_pos hcheck,
      packHead_eq hlength (parseVersion_lt hversion) (slotBase_lt _)]
    change (if (headBytes _ _ _ _).length = signedLen then some (_ ++ (_ ++ _)) else none) = _
    rw [if_pos (headBytes_length (hdigest _)), ← h.head hdigest, ← h.file_eq]
  · rw [if_neg hcheck, if_neg hcheck]

theorem part_behind {front part rest : List UInt8} {i w : Nat} (hfront : front.length = i)
    (hpart : part.length = w) : ((front ++ (part ++ rest)).drop i).take w = part := by
  rw [List.drop_left' hfront, List.take_left' hpart]

theorem fieldAt_behind {front rest : List UInt8} {i w v : Nat} (hfront : front.length = i)
    (hv : v < 256 ^ w) : fieldAt (front ++ (putLe w v ++ rest)) i w = v := by
  rw [fieldAt_append_right (Nat.le_of_eq hfront), hfront, Nat.sub_self, fieldAt_putLe hv]

theorem laidOut_of_cmdSign {int : List Char -> Option Int} {image : List UInt8}
    (hdigest : forall x, (sha256 x).length = 32)
    (hversion : parseVersion int release.version = some version)
    (hsigned : cmdSign sha256 int release = some image) :
    LaidOut sha256 release version image := by
  have hlink : checkLinkBase release.body (slotBase release.slot) = true := by
    unfold cmdSign at hsigned
    rw [hversion] at hsigned
    change buildImage sha256 _ release.body release.slot version = _ at hsigned
    unfold buildImage at hsigned
    by_contra hbad
    rw [if_neg hbad] at hsigned
    cases hsigned
  have hbounds := (checkLinkBase_iff.mp hlink).1
  have hlength : release.body.length < 2 ^ 32 := Nat.lt_of_le_of_lt hbounds.2 (by decide)
  have hpad : packString 32 (sha256 release.body) = sha256 release.body := by
    unfold packString
    rw [hdigest, Nat.sub_self, List.take_of_length_le (Nat.le_of_eq (hdigest _))]
    exact List.append_nil _
  have himage : image = headBytes release.body.length version (slotBase release.slot)
      (sha256 release.body) ++ (release.signature.raw ++ release.body) := by
    unfold cmdSign at hsigned
    rw [hversion] at hsigned
    change buildImage sha256 _ release.body release.slot version = _ at hsigned
    unfold buildImage at hsigned
    rw [if_pos hlink, packHead_eq hlength (parseVersion_lt hversion) (slotBase_lt _)] at hsigned
    change (if (headBytes _ _ _ _).length = signedLen then some (_ ++ (_ ++ _)) else none) = _
      at hsigned
    rw [if_pos (headBytes_length (hdigest _))] at hsigned
    exact (Option.some.inj hsigned).symm
  have hhead : (headBytes release.body.length version (slotBase release.slot)
      (sha256 release.body)).length = 64 := headBytes_length (hdigest release.body)
  have hraw : release.signature.raw.length = 64 := by
    unfold DssSignature.raw toBytesBig
    rw [List.length_append, List.length_reverse, List.length_reverse, putLe_length, putLe_length]
  have hbehind : image.drop 128 = release.body := by
    rw [himage, ← List.append_assoc]
    exact List.drop_left' (by rw [List.length_append, hhead, hraw])
  have hsignature : (image.drop 64).take 64 = release.signature.raw := by
    rw [himage]
    exact part_behind hhead hraw
  unfold headBytes at himage
  rw [hpad] at himage
  simp only [List.append_assoc] at himage
  have hmagic : wordAt image 0 = firmwareImageMagic := by
    apply UInt32.toNat_inj.mp
    rw [wordAt_toNat, himage]
    exact fieldAt_putLe (by decide)
  have hheaderVersion : fieldAt image 4 2 = firmwareImageHeaderVersion := by
    rw [himage]
    exact fieldAt_behind (by simp) (by decide)
  have hheaderSize : fieldAt image 6 2 = firmwareHeaderSize := by
    rw [himage, ← List.append_assoc]
    exact fieldAt_behind (by simp) (by decide)
  have himageLen : fieldAt image 8 4 = release.body.length := by
    rw [himage, ← List.append_assoc, ← List.append_assoc]
    exact fieldAt_behind (by simp) hlength
  have himageVersion : fieldAt image 12 4 = version := by
    rw [himage, ← List.append_assoc, ← List.append_assoc, ← List.append_assoc]
    exact fieldAt_behind (by simp) (parseVersion_lt hversion)
  have hload : fieldAt image 16 4 = slotBase release.slot := by
    rw [himage, ← List.append_assoc, ← List.append_assoc, ← List.append_assoc,
      ← List.append_assoc]
    exact fieldAt_behind (by simp) (slotBase_lt _)
  have hreserved : (image.drop 20).take 12 = List.replicate 12 0 := by
    rw [himage, ← List.append_assoc, ← List.append_assoc, ← List.append_assoc,
      ← List.append_assoc, ← List.append_assoc]
    exact part_behind (by simp) List.length_replicate
  have hbodySha : (image.drop 32).take 32 = sha256 release.body := by
    rw [himage, ← List.append_assoc, ← List.append_assoc, ← List.append_assoc,
      ← List.append_assoc, ← List.append_assoc, ← List.append_assoc]
    exact part_behind (by simp) (hdigest _)
  have hwhole : image.length = 128 + release.body.length := by
    rw [himage]
    simp only [List.length_append, putLe_length, List.length_replicate, hdigest, hraw]
    omega
  exact
    { length := hwhole
      magic := hmagic
      headerVersion := hheaderVersion
      headerSize := hheaderSize
      imageLen := by rw [wordAt_toNat, himageLen]
      version := by rw [wordAt_toNat, himageVersion]
      loadAddr := by rw [wordAt_toNat, hload, slotBase_eq]
      reserved := hreserved
      bodySha256 := hbodySha
      signature := hsignature
      body := hbehind }

theorem fieldAt_take {raw : List UInt8} {i w n : Nat} (h : i + w ≤ n) :
    fieldAt (raw.take n) i w = fieldAt raw i w := by
  unfold fieldAt
  rw [List.drop_take, List.take_take, Nat.min_eq_left (by omega)]

theorem wordAt_take {raw : List UInt8} {i n : Nat} (h : i + 4 ≤ n) :
    wordAt (raw.take n) i = wordAt raw i := by
  unfold wordAt
  rw [fieldAt_take h]

theorem part_take {raw : List UInt8} {i w n : Nat} (h : i + w ≤ n) :
    ((raw.take n).drop i).take w = (raw.drop i).take w := by
  rw [List.drop_take, List.take_take, Nat.min_eq_left (by omega)]

theorem ofBytes_take (file : List UInt8) :
    FirmwareImageHeader.ofBytes (file.take firmwareHeaderSize) =
      FirmwareImageHeader.ofBytes file := by
  unfold FirmwareImageHeader.ofBytes
  rw [wordAt_take (by decide), fieldAt_take (by decide), fieldAt_take (by decide),
    wordAt_take (by decide), wordAt_take (by decide), wordAt_take (by decide),
    part_take (by decide), part_take (by decide)]

theorem fsOtherSlot_beside (slot : Slot) : fsOtherSlot (runningBeside slot) = slotOf slot := by
  cases slot <;> rfl

theorem LaidOut.passes_iff {crypto : OtaCrypto} {fs : FsInst}
    (h : LaidOut crypto.sha256 release version file) (hlength : fs.fileLen = file.length)
    (hslot : fs.boot.runningSlot = runningBeside release.slot) :
    Passes crypto fs file ↔
      checkLinkBase release.body (slotBase release.slot) = true ∧
        crypto.ecdsaP256Verify (crypto.sha256 (file.take firmwareSignedHeaderLen))
          release.signature.raw = true := by
  have hbody : fs.fileLen - firmwareHeaderSize = release.body.length := by
    rw [hlength, h.length]
    exact Nat.add_sub_cancel_left _ _
  have hstructure : verifyStructure fs (.ofBytes (file.take firmwareHeaderSize)) = .ok ↔
      8 ≤ release.body.length ∧ release.body.length ≤ firmwareMaxImageLen := by
    rw [ofBytes_take, verifyStructure_iff, hslot, fsOtherSlot_beside]
    change (wordAt file 0 = _ ∧ fieldAt file 4 2 = _ ∧ fieldAt file 6 2 = _ ∧
      (wordAt file 8).toNat = _ ∧ 8 ≤ (wordAt file 8).toNat) ∧
      (wordAt file 8).toNat ≤ _ ∧ (wordAt file 16).toNat = _ ↔ _
    rw [h.imageLen]
    constructor
    · intro hall
      exact ⟨hall.1.2.2.2.2, hall.2.1⟩
    · intro hall
      exact ⟨⟨h.magic, h.headerVersion, h.headerSize, hbody.symm, hall.1⟩, hall.2, h.loadAddr⟩
  have hsigned : Signed crypto (file.take firmwareHeaderSize) ↔
      crypto.ecdsaP256Verify (crypto.sha256 (file.take firmwareSignedHeaderLen))
        release.signature.raw = true := by
    unfold Signed
    rw [ofBytes_take, List.take_take, Nat.min_eq_left (by decide)]
    change crypto.ecdsaP256Verify _ ((file.drop 64).take 64) = true ↔ _
    rw [h.signature]
  have hhash : crypto.sha256 (file.drop firmwareHeaderSize) =
      (FirmwareImageHeader.ofBytes (file.take firmwareHeaderSize)).bodySha256 := by
    rw [ofBytes_take, h.body]
    exact h.bodySha256.symm
  have hvector : ResetVectorOk (.ofBytes (file.take firmwareHeaderSize))
      (fieldAt (file.drop firmwareHeaderSize) fsResetVectorOffset 4) ↔
      fieldAt release.body 4 4 % 2 ≠ 0 ∧
        slotBase release.slot ≤ fieldAt release.body 4 4 - fieldAt release.body 4 4 % 2 ∧
        fieldAt release.body 4 4 - fieldAt release.body 4 4 % 2 <
          slotBase release.slot + release.body.length := by
    unfold ResetVectorOk
    rw [ofBytes_take, h.body]
    change (_ ∧ (wordAt file 16).toNat ≤ _ ∧ _ < (wordAt file 16).toNat + (wordAt file 8).toNat) ↔ _
    rw [h.loadAddr, h.imageLen, slotBase_eq]
  rw [checkLinkBase_iff]
  constructor
  · intro hpasses
    exact ⟨⟨hstructure.mp hpasses.header, hvector.mp hpasses.vector⟩, hsigned.mp hpasses.signed⟩
  · intro hall
    exact
      { header := hstructure.mpr hall.1.1
        signed := hsigned.mpr hall.2
        body := hhash
        vector := hvector.mpr hall.1.2 }

end

/-!
## Agreement
-/

section

variable {crypto : OtaCrypto} {int : List Char -> Option Int} {releases : List Release}

theorem version_of_cmdSign {release : Release} {image : List UInt8}
    (h : cmdSign crypto.sha256 int release = some image) :
    exists version, parseVersion int release.version = some version := by
  unfold cmdSign at h
  cases hversion : parseVersion int release.version with
  | none =>
      rw [hversion] at h
      cases h
  | some version => exact ⟨version, rfl⟩

theorem released_of_passes {fs : FsInst} {file : List UInt8}
    (hdigest : forall x, (crypto.sha256 x).length = 32) (hkey : KeyMatches crypto int releases)
    (hfree : CollisionFree crypto.sha256 (Hashed crypto int releases file))
    (hpasses : Passes crypto fs file) :
    exists release, release ∈ releases ∧ cmdSign crypto.sha256 int release = some file := by
  have hsigned := hpasses.signed
  unfold Signed at hsigned
  rw [ofBytes_take, List.take_take, Nat.min_eq_left (by decide), hkey] at hsigned
  rcases hsigned with ⟨release, hmem, image, himage, hhead, hsignature⟩
  rcases version_of_cmdSign himage with ⟨version, hversion⟩
  have hlaid := laidOut_of_cmdSign hdigest hversion himage
  have hsame : file.take firmwareSignedHeaderLen = image.take firmwareSignedHeaderLen :=
    hfree _ _ .signedHead (.releaseHead hmem himage) hhead
  have hbodySha : (file.drop 32).take 32 = crypto.sha256 release.body := by
    have hpart := @part_take file 32 32 64 (by decide)
    have hpart' := @part_take image 32 32 64 (by decide)
    rw [← hpart, hsame, hpart', hlaid.bodySha256]
  have hbody : file.drop firmwareHeaderSize = release.body := by
    have hhash := hpasses.body
    rw [ofBytes_take] at hhash
    exact hfree _ _ .body (.releaseBody hmem) (hhash.trans hbodySha)
  have hraw : (file.drop 64).take 64 = release.signature.raw := hsignature
  have hfile : file = image := by
    have hsplit : file.drop 64 = (file.drop 64).take 64 ++ file.drop (64 + 64) := by
      rw [← List.drop_drop, List.take_append_drop]
    rw [hraw] at hsplit
    change file.drop (64 + 64) = _ at hbody
    rw [hbody] at hsplit
    rw [hlaid.file_eq, ← hsame, ← hsplit, List.take_append_drop]
  exact ⟨release, hmem, hfile ▸ himage⟩

/-- The tool writes a file exactly when the gateway beside its slot accepts the file as it is laid
out, the gateway then has the version, the length and the slot, and it accepts no other file. -/
theorem released_iff_accepted (hdigest : forall x, (crypto.sha256 x).length = 32)
    (hkey : KeyMatches crypto int releases) :
    (forall release, release ∈ releases -> forall version,
      parseVersion int release.version = some version ->
      (forall image, cmdSign crypto.sha256 int release = some image ->
        LaidOut crypto.sha256 release version image) ∧
      forall file, LaidOut crypto.sha256 release version file ->
        forall (fs : FsInst) (t : (qspiFlash.sum cryptoDevice).State) (m : Memory),
          StagedFile fs t file -> fs.boot.runningSlot = runningBeside release.slot ->
          (((doVerify crypto fs).eval storeDevice (m, t)).1.1 = .ok ↔
            exists image, cmdSign crypto.sha256 int release = some image) ∧
          forall image, cmdSign crypto.sha256 int release = some image ->
            image = file ∧ exists fs',
              (doVerify crypto fs).eval storeDevice (m, t) = ((.ok, fs'), m, t) ∧
              fs'.version.toNat = version ∧ fs'.imageLen = release.body.length ∧
              fs'.targetSlot = slotOf release.slot) ∧
    forall (file : List UInt8) (fs fs' : FsInst) (t : (qspiFlash.sum cryptoDevice).State)
      (m : Memory) (F : Faults storeIo) (s' : storeDevice.State),
      StagedFile fs t file ->
      CollisionFree crypto.sha256 (Hashed crypto int releases file) ->
      Program.Exec storeDevice F (doVerify crypto fs) (m, t) (some (.ok, fs')) s' ->
      exists release, release ∈ releases ∧ cmdSign crypto.sha256 int release = some file := by
  constructor
  · intro release hmem version hversion
    refine ⟨fun image himage => laidOut_of_cmdSign hdigest hversion himage, ?_⟩
    intro file hlaid fs t m hstaged hslot
    have hwritten := hlaid.cmdSign_eq hdigest hversion
    have hiff := hlaid.passes_iff hstaged.length hslot
    have haccepted : forall image, cmdSign crypto.sha256 int release = some image ->
        image = file ∧ Passes crypto fs file := by
      intro image himage
      by_cases hlink : checkLinkBase release.body (slotBase release.slot) = true
      · rw [if_pos hlink] at hwritten
        have hsame : file = image := Option.some.inj (hwritten.symm.trans himage)
        refine ⟨hsame.symm, hiff.mpr ⟨hlink, ?_⟩⟩
        rw [hkey]
        exact ⟨release, hmem, file, hwritten, rfl, rfl⟩
      · rw [if_neg hlink, himage] at hwritten
        cases hwritten
    refine ⟨⟨?_, ?_⟩, ?_⟩
    · intro hok
      have hpost := Program.wp_sound (wp_doVerify_passes (F := Faults.never storeIo) hstaged)
        (Program.exec_eval storeDevice (Faults.never storeIo) (doVerify crypto fs) (m, t))
      have hlink := (hiff.mp (hpost.2 hok).1).1
      rw [if_pos hlink] at hwritten
      exact ⟨file, hwritten⟩
    · intro himage
      rcases himage with ⟨image, himage⟩
      rcases eval_doVerify (m := m) hstaged (haccepted image himage).2 with ⟨fs', heval, _⟩
      rw [heval]
    · intro image himage
      rcases haccepted image himage with ⟨hsame, hpasses⟩
      rcases eval_doVerify (m := m) hstaged hpasses with ⟨fs', heval, hverified⟩
      refine ⟨hsame, fs', heval, ?_⟩
      unfold VerifiedAs at hverified
      rw [ofBytes_take] at hverified
      rw [hverified]
      exact ⟨hlaid.version, hlaid.imageLen, (congrArg fsOtherSlot hslot).trans
        (fsOtherSlot_beside _)⟩
  · intro file fs fs' t m F s' hstaged hfree hexec
    have hpost := Program.wp_sound (wp_doVerify_passes hstaged) hexec
    exact released_of_passes hdigest hkey hfree (hpost.2 rfl).1

end

/-!
## A release
-/

/-- A digest that is only good for a few short strings. -/
def sampleDigest (data : List UInt8) : List UInt8 := (data ++ List.replicate 32 0).take 32

def sampleRelease : Release where
  body := [0x00, 0x80, 0x01, 0x20, 0x01, 0x00, 0x08, 0x08]
  slot := .b
  version := ['1', '.', '2', '.', '3']
  signature := ⟨1, 2⟩

def sampleInt : List Char -> Option Int
  | [c] => some (c.toNat - 48)
  | _ => none

def sampleHead : List UInt8 :=
  headBytes 8 0x01020003 firmwareSlotBBase (sampleDigest sampleRelease.body)

def sampleImage : List UInt8 := sampleHead ++ (sampleRelease.signature.raw ++ sampleRelease.body)

def sampleKey : OtaCrypto where
  sha256 := sampleDigest
  ecdsaP256Verify := fun digest signature =>
    decide (digest = sampleDigest sampleHead ∧ signature = sampleRelease.signature.raw)

theorem cmdSign_sample : cmdSign sampleDigest sampleInt sampleRelease = some sampleImage := by
  decide +kernel

theorem sampleKey_matches : KeyMatches sampleKey sampleInt [sampleRelease] := by
  intro digest signature
  change decide (_ ∧ _) = true ↔ _
  rw [decide_eq_true_iff]
  have hhead : sampleImage.take firmwareSignedHeaderLen = sampleHead := by decide +kernel
  constructor
  · intro h
    refine ⟨sampleRelease, List.mem_singleton_self _, sampleImage, cmdSign_sample, ?_, h.2⟩
    rw [hhead]
    exact h.1
  · intro h
    rcases h with ⟨release, hmem, image, himage, hdigest, hsignature⟩
    cases List.mem_singleton.mp hmem
    cases Option.some.inj (cmdSign_sample.symm.trans himage)
    rw [hhead] at hdigest
    exact ⟨hdigest, hsignature⟩

/-- A gateway that runs from slot A and has received the image. -/
def sampleReceived : FsInst :=
  { boot := ⟨.a, 0x01020002, .confirmed, 0, true⟩
    fsMeta := ⟨0, firmwareBankA, firmwareMetaStateConfirmed, firmwareBankB, 0, 1⟩
    op := .received
    imageId := 1
    fileLen := sampleImage.length
    writeOffset := sampleImage.length
    journalNext := 0
    bodyDigest := []
    imageLen := 0
    version := 0
    targetSlot := .a
    installPage := 0
    installCrc := 0
    installSha := [] }

def sampleArea : (qspiFlash.sum cryptoDevice).State :=
  (fun x => sampleImage.getD (x - imageAddr 0) erasedByte, ())

def sampleFlash : Memory := fun _ => erasedByte

theorem sampleArea_staged : StagedFile sampleReceived sampleArea sampleImage where
  received := rfl
  length := rfl
  bytes := by
    have hall : staged sampleArea 0 136 = sampleImage := by decide +kernel
    exact hall

theorem sample_released_and_accepted :
    (((doVerify sampleKey sampleReceived).eval storeDevice
      (sampleFlash, sampleArea)).1.1 = .ok ↔
        exists image, cmdSign sampleDigest sampleInt sampleRelease = some image) ∧
      exists release, release ∈ [sampleRelease] ∧
        cmdSign sampleDigest sampleInt release = some sampleImage := by
  have hdigest : forall x, (sampleDigest x).length = 32 := by
    intro x
    unfold sampleDigest
    rw [List.length_take, List.length_append, List.length_replicate]
    omega
  have hversion : parseVersion sampleInt sampleRelease.version = some 0x01020003 := by
    decide +kernel
  have hmem : sampleRelease ∈ [sampleRelease] := List.mem_singleton_self _
  have hhead : sampleImage.take firmwareSignedHeaderLen = sampleHead := by decide +kernel
  have hfirst := (released_iff_accepted hdigest sampleKey_matches).1 sampleRelease hmem
    0x01020003 hversion
  have hlaid := hfirst.1 sampleImage cmdSign_sample
  have haccepted := hfirst.2 sampleImage hlaid sampleReceived sampleArea sampleFlash
    sampleArea_staged rfl
  refine ⟨haccepted.1, ?_⟩
  rcases haccepted.2 sampleImage cmdSign_sample with ⟨_, fs', heval, _⟩
  have hfree : CollisionFree sampleDigest
      (Hashed sampleKey sampleInt [sampleRelease] sampleImage) := by
    have hstrings : forall x, Hashed sampleKey sampleInt [sampleRelease] sampleImage x ->
        x = sampleHead ∨ x = sampleRelease.body := by
      intro x hx
      cases hx with
      | signedHead => exact Or.inl hhead
      | body => exact Or.inr (by decide +kernel)
      | releaseHead hrelease himage =>
          cases List.mem_singleton.mp hrelease
          cases Option.some.inj (cmdSign_sample.symm.trans himage)
          exact Or.inl hhead
      | releaseBody hrelease =>
          cases List.mem_singleton.mp hrelease
          exact Or.inr rfl
    have hdiffer : sampleDigest sampleHead ≠ sampleDigest sampleRelease.body := by
      decide +kernel
    intro x y hx hy hsame
    rcases hstrings x hx with hx | hx <;> rcases hstrings y hy with hy | hy
    · rw [hx, hy]
    · rw [hx, hy] at hsame
      exact absurd hsame hdiffer
    · rw [hx, hy] at hsame
      exact absurd hsame.symm hdiffer
    · rw [hx, hy]
  exact (released_iff_accepted hdigest sampleKey_matches).2 sampleImage sampleReceived fs'
    sampleArea sampleFlash (Faults.never storeIo) _ sampleArea_staged hfree
    (Program.exec_of_eval heval)

end EnvMonitor.Gateway.FirmwareStore
