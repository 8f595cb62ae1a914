import EnvMonitor.Gateway.FirmwareStore.BootControl

/-!
# Installation

What the pages of the target slot hold after each step of an installation, whatever the
flashes and the crypto library answer.
-/

namespace EnvMonitor.Gateway.FirmwareStore

open Device Drivers Gateway.ConfigStore Bootloader
open Program (wp wp_and wp_bind wp_inLeft wp_inRight wp_ite wp_mono wp_seq wp_true)

/-!
## Reading
-/

section

variable {G : Faults iflash} {m : Memory} {addr : Nat}

theorem wp_fsIfRead {C : Memory -> Prop} {Q : Option (List UInt8) -> Memory -> Prop} (len : Nat)
    (hsome : Q (some (m.slice addr len)) m) (hnone : Q none m) (hcut : C m) :
    (fsIfRead addr len).wp internalFlash G Q C m := by
  have hdone : Q (if len ≠ 0 ∧ inFlash addr len then some (m.slice addr len) else none) m := by
    by_cases haccepted : len ≠ 0 ∧ inFlash addr len
    · rw [if_pos haccepted]
      exact hsome
    · rw [if_neg haccepted]
      exact hnone
  exact ⟨hdone, fun _ _ => hnone, fun _ _ => hcut⟩

theorem wp_installReadbackLoop (fuel addr : Nat) (expected : List UInt8)
    (hfuel : expected.length <= fuel) :
    (installReadbackLoop fuel addr expected).wp internalFlash G
      (fun err m' => m' = m ∧ (err = .ok -> m.slice addr expected.length = expected))
      (fun _ => True) m := by
  induction fuel generalizing addr expected with
  | zero =>
      have hnil : expected = [] := List.eq_nil_of_length_eq_zero (by omega)
      subst hnil
      exact ⟨rfl, fun _ => rfl⟩
  | succ fuel ih =>
      unfold installReadbackLoop
      apply wp_ite
      · intro hpos
        have hn : min expected.length fsCompareWindow <= expected.length := Nat.min_le_left _ _
        have hwindow : 0 < min expected.length fsCompareWindow := by
          change 0 < min expected.length 256
          omega
        apply (wp_bind _ _).mpr
        apply wp_fsIfRead
        · dsimp only
          apply wp_ite
          · intro _
            exact ⟨rfl, fun hok => by cases hok⟩
          · intro hequal
            have hhead := not_not.mp hequal
            apply wp_mono _ (fun _ h => h) (ih _ _ (by
              rw [List.length_drop]
              omega))
            intro err m' hout
            rcases hout with ⟨hsame, hrest⟩
            refine ⟨hsame, fun hok => ?_⟩
            have htail := hrest hok
            rw [List.length_drop] at htail
            have hsplit := Memory.slice_add m addr (min expected.length fsCompareWindow)
              (expected.length - min expected.length fsCompareWindow)
            rw [Nat.add_sub_cancel' hn, hhead, htail, List.take_append_drop] at hsplit
            exact hsplit
        · exact ⟨rfl, fun hok => by cases hok⟩
        · trivial
      · intro hzero
        have hnil : expected = [] := List.eq_nil_of_length_eq_zero (by omega)
        subst hnil
        exact ⟨rfl, fun _ => rfl⟩

theorem wp_installPageWrite (page : List UInt8) :
    (installPageWrite addr page).wp internalFlash G
      (fun err m' => err = .ok -> m'.slice addr page.length = page) (fun _ => True) m := by
  have hback : forall m₁, (installReadback addr (installPadded page)).wp internalFlash G
      (fun err m' => err = .ok -> m'.slice addr page.length = page) (fun _ => True) m₁ := by
    intro m₁
    apply wp_mono _ (fun _ h => h)
      (wp_installReadbackLoop _ addr (installPadded page) (Nat.le_refl _))
    intro err m' hout hok
    rcases hout with ⟨hsame, hall⟩
    have hlen : page.length <= (installPadded page).length := by
      unfold installPadded
      rw [List.length_append]
      omega
    rw [hsame, Memory.slice_take m₁ addr hlen, hall hok]
    exact List.take_left
  unfold installPageWrite
  apply wp_seq (wp_true _ _)
  intro erased m₁ _
  apply wp_ite
  · intro _
    apply wp_seq (wp_true _ _)
    intro programmed m₂ _
    apply wp_ite
    · intro _
      exact hback m₂
    · intro hbad hok
      exact absurd hok hbad
  · intro hbad hok
    exact absurd hok hbad

end

section

variable {F : Faults storeIo} {crypto : OtaCrypto} {fs : FsInst}
variable {m : Memory} {t : (qspiFlash.sum cryptoDevice).State}

/-- The file bytes the staging area holds from offset `pos` on. -/
def staged (t : (qspiFlash.sum cryptoDevice).State) (pos len : Nat) : List UInt8 :=
  t.1.slice (imageAddr pos) len

theorem staged_add (t : (qspiFlash.sum cryptoDevice).State) (pos n k : Nat) :
    staged t pos (n + k) = staged t pos n ++ staged t (pos + n) k := by
  have haddr : imageAddr (pos + n) = imageAddr pos + n := (Nat.add_assoc _ _ _).symm
  unfold staged
  rw [haddr]
  exact Memory.slice_add _ _ _ _

variable {q : Memory} {G : Faults qspi} {k : Nat} {slot slot' : FirmwareSlot}

theorem wp_qRead {C : Memory -> Prop} {Q : Option (List UInt8) -> Memory -> Prop} (addr len : Nat)
    (hsome : Q (some (q.slice addr len)) q) (hnone : Q none q) (hcut : C q) :
    (qRead addr len).wp qspiFlash G Q C q := by
  have hdone : Q (if qspiReadAccepted addr len then some (q.slice addr len) else none) q := by
    by_cases haccepted : qspiReadAccepted addr len
    · rw [if_pos haccepted]
      exact hsome
    · rw [if_neg haccepted]
      exact hnone
  exact ⟨hdone, fun _ _ => hnone, fun _ _ => hcut⟩

theorem wp_fsStageReadLoop (fuel pos len : Nat) (hfuel : len <= fuel) :
    (fsStageReadLoop fuel pos len).wp qspiFlash G
      (fun out q' => q' = q ∧
        forall bytes, out = some bytes -> bytes = q.slice (imageAddr pos) len)
      (fun _ => True) q := by
  induction fuel generalizing pos len with
  | zero =>
      have hzero : len = 0 := by omega
      subst hzero
      refine ⟨rfl, fun bytes hsome => ?_⟩
      cases hsome
      rfl
  | succ fuel ih =>
      unfold fsStageReadLoop
      apply wp_ite
      · intro hpos
        apply (wp_bind _ _).mpr
        apply wp_qRead
        · dsimp only
          apply wp_seq (ih (pos + min len fsReadChunk) (len - min len fsReadChunk) (by
            change len - min len 2048 <= fuel
            omega))
          intro rest q' hout
          rcases hout with ⟨hsame, hrest⟩
          subst hsame
          cases rest with
          | none => exact ⟨rfl, fun bytes hsome => by cases hsome⟩
          | some rest =>
              refine ⟨rfl, fun bytes hsome => ?_⟩
              cases hsome
              have haddr : imageAddr (pos + min len fsReadChunk) =
                  imageAddr pos + min len fsReadChunk := (Nat.add_assoc _ _ _).symm
              have hsplit := Memory.slice_add q' (imageAddr pos) (min len fsReadChunk)
                (len - min len fsReadChunk)
              rw [Nat.add_sub_cancel' (Nat.min_le_left _ _)] at hsplit
              rw [hrest rest rfl, haddr, hsplit]
        · exact ⟨rfl, fun bytes hsome => by cases hsome⟩
        · trivial
      · intro hnot
        have hzero : len = 0 := by omega
        subst hzero
        refine ⟨rfl, fun bytes hsome => ?_⟩
        cases hsome
        rfl

theorem wp_fsStageRead (pos len : Nat) :
    (onStaging (fsStageRead pos len)).wp storeDevice F
      (fun out s' => s' = (m, t) ∧ forall bytes, out = some bytes -> bytes = staged t pos len)
      (fun _ => True) (m, t) := by
  apply (wp_inRight _).mpr
  apply (wp_inLeft _).mpr
  apply wp_mono _ (fun _ h => h) (wp_fsStageReadLoop len pos len (Nat.le_refl _))
  intro out q' hout
  exact ⟨by rw [hout.1], hout.2⟩

theorem wp_cryptoCall {Q : Bool -> storeDevice.State -> Prop} (h : forall b, Q b (m, t)) :
    cryptoCall.wp storeDevice F Q (fun _ => True) (m, t) :=
  ⟨h true, fun _ _ => h false, fun _ _ => trivial⟩

theorem wp_installPageCopy (offset n : Nat) :
    (installPageCopy fs offset n).wp storeDevice F
      (fun out s' => out.1 = .ok ->
        out.2 = pageFed fs (staged t (firmwareHeaderSize + offset) n) ∧
          s'.1.slice (fsSlotBase fs.targetSlot + offset) n =
            staged t (firmwareHeaderSize + offset) n)
      (fun _ => True) (m, t) := by
  unfold installPageCopy
  apply wp_seq (wp_fsStageRead _ _)
  intro out s' hout
  rcases hout with ⟨hsame, hpage⟩
  subst hsame
  cases out with
  | none =>
      intro hok
      cases hok
  | some page =>
      have hequal := hpage page rfl
      have hlen : page.length = n := by
        rw [hequal]
        exact Memory.slice_length _ _ _
      apply wp_seq (R := fun err (s' : storeDevice.State) => err = .ok ->
        s'.1.slice (fsSlotBase fs.targetSlot + offset) page.length = page)
      · exact wp_onFlash.mpr (wp_installPageWrite page)
      intro err s' hwritten
      apply wp_ite
      · intro hbad hok
        exact absurd hok hbad
      · intro hgood
        rcases s' with ⟨m', t'⟩
        have hslice := hwritten (not_not.mp hgood)
        change m'.slice _ _ = _ at hslice
        rw [hlen] at hslice
        apply wp_seq (wp_cryptoCall (Q := fun _ s => s = (m', t')) fun _ => rfl)
        intro updated s' hsame
        subst hsame
        apply wp_ite
        · intro _ _
          rw [← hequal]
          exact ⟨rfl, hslice⟩
        · intro _ hok
          cases hok

/-!
## Sealing a slot
-/

/-- The record of a descriptor page after the first `k` bytes were programmed. -/
def descTorn (d : FirmwareSlotDescriptor) (k : Nat) : List UInt8 :=
  d.bytes.take k ++ List.replicate (32 - k) erasedByte

theorem descTorn_all (d : FirmwareSlotDescriptor) : descTorn d 32 = d.bytes := by
  unfold descTorn
  rw [List.take_of_length_le (by simp), Nat.sub_self]
  exact List.append_nil _

theorem slice_descProgram {addr : Nat} {d : FirmwareSlotDescriptor}
    (hblank : Memory.Blank m addr 32) (hk : k <= 32) :
    (m.program addr (d.bytes.take k)).slice addr 32 = descTorn d k := by
  have hlen : (d.bytes.take k).length = k := by
    rw [List.length_take, FirmwareSlotDescriptor.bytes_length]
    omega
  have hprogram := Memory.slice_program_blank (d := d.bytes.take k) hblank (by omega)
  rw [hlen] at hprogram
  exact hprogram

theorem programAccepted_desc (slot : FirmwareSlot) :
    iflashProgramAccepted (fsDescAddr slot) 24 ∧
      iflashProgramAccepted (fsDescAddr slot + 24) 8 := by
  unfold fsDescAddr
  split
  · decide
  · decide

theorem not_descLegal_erased (rest : List UInt8) : ¬ DescLegal slot (erasedByte :: rest) := by
  intro hlegal
  have hmagic := hlegal.1
  change UInt32.ofNat (erasedByte.toNat + 256 * getLe (rest.take 3)) = firmwareDescMagic at hmagic
  have hlow : (UInt32.ofNat (erasedByte.toNat + 256 * getLe (rest.take 3))).toNat % 256 =
      firmwareDescMagic.toNat % 256 := by rw [hmagic]
  rw [UInt32.toNat_ofNat'] at hlow
  change (255 + 256 * getLe (rest.take 3)) % 2 ^ 32 % 256 = 83 at hlow
  omega

theorem wordAt_descTorn (d : FirmwareSlotDescriptor) {i : Nat} (hk : k <= 32) (hi : i + 4 <= k) :
    wordAt (descTorn d k) i = wordAt d.bytes i := by
  have hlen : (d.bytes.take k).length = k := by
    rw [List.length_take, FirmwareSlotDescriptor.bytes_length]
    omega
  unfold descTorn wordAt
  rw [fieldAt_append_left (by omega)]
  conv =>
    rhs
    rw [← List.take_append_drop k d.bytes, fieldAt_append_left (by omega)]

/-- An accepted page holds at least the first 16 bytes of its descriptor, and the CRC of the
body once it holds 20. -/
theorem descLegal_torn {imageLen version crc : UInt32} (hk : k <= 32)
    (hlegal : DescLegal slot' (descTorn (fsDescRecord slot imageLen version crc) k)) :
    16 <= k ∧
      (FirmwareSlotDescriptor.ofBytes (descTorn (fsDescRecord slot imageLen version crc) k)).imageLen
        = imageLen ∧
      (FirmwareSlotDescriptor.ofBytes (descTorn (fsDescRecord slot imageLen version crc) k)).version
        = version ∧
      (20 <= k ->
        (FirmwareSlotDescriptor.ofBytes
          (descTorn (fsDescRecord slot imageLen version crc) k)).bodyCrc32 = crc) := by
  have hfields := FirmwareSlotDescriptor.ofBytes_bytes (fsDescRecord slot imageLen version crc)
  have hlong : 16 <= k := by
    by_contra hshort
    have hload := hlegal.2.2.1
    have hsplit : descTorn (fsDescRecord slot imageLen version crc) k =
        ((fsDescRecord slot imageLen version crc).bytes.take k ++
          List.replicate (15 - k) erasedByte) ++ erasedByte :: List.replicate 16 erasedByte := by
      unfold descTorn
      rw [show 32 - k = (15 - k) + 17 by omega, List.replicate_add, ← List.append_assoc]
      rfl
    have hlen : ((fsDescRecord slot imageLen version crc).bytes.take k ++
        List.replicate (15 - k) erasedByte).length = 15 := by
      rw [List.length_append, List.length_take, FirmwareSlotDescriptor.bytes_length,
        List.length_replicate]
      omega
    rw [hsplit] at hload
    generalize ((fsDescRecord slot imageLen version crc).bytes.take k ++
      List.replicate (15 - k) erasedByte) = front at hlen hload
    have hlast : fieldAt (front ++ erasedByte :: List.replicate 16 erasedByte) 12 4 =
        getLe (front.drop 12) + 256 ^ 3 * 255 := by
      unfold fieldAt
      have hdrop : (front.drop 12).length = 3 := by
        rw [List.length_drop, hlen]
      rw [List.drop_append_of_le_length (by omega), List.take_append, hdrop,
        List.take_of_length_le (by omega), getLe_append, hdrop]
      rfl
    have hbound := getLe_lt (front.drop 12)
    rw [List.length_drop, hlen] at hbound
    change (UInt32.ofNat (fieldAt _ 12 4)).toNat = _ at hload
    rw [hlast, UInt32.toNat_ofNat'] at hload
    have hbase : fsSlotBase slot' <= firmwareSlotBBase := by
      unfold fsSlotBase
      split
      · decide
      · decide
    change fsSlotBase slot' <= 0x08080000 at hbase
    omega
  refine ⟨hlong, ?_, ?_, fun hcrc => ?_⟩
  · change wordAt _ 4 = _
    rw [wordAt_descTorn _ hk (by omega)]
    exact congrArg FirmwareSlotDescriptor.imageLen hfields
  · change wordAt _ 8 = _
    rw [wordAt_descTorn _ hk (by omega)]
    exact congrArg FirmwareSlotDescriptor.version hfields
  · change wordAt _ 16 = _
    rw [wordAt_descTorn _ hk (by omega)]
    exact congrArg FirmwareSlotDescriptor.bodyCrc32 hfields

/-- A descriptor written to an erased page is there up to some byte, and to the last one when
no error is reported. -/
theorem wp_fsDescWrite {G : Faults iflash} (imageLen version crc : UInt32)
    (hblank : Memory.Blank m (fsDescAddr slot) 32) :
    (fsDescWrite slot imageLen version crc).wp internalFlash G
      (fun err m' => exists k, k <= 32 ∧ (err = .ok -> k = 32) ∧
        m'.slice (fsDescAddr slot) 32 = descTorn (fsDescRecord slot imageLen version crc) k)
      (fun _ => True) m := by
  generalize hd : fsDescRecord slot imageLen version crc = d
  have hbodyLen : (d.bytes.take 24).length = 24 := by simp
  have htailLen : (d.bytes.drop 24).length = 8 := by simp
  have hfailed : forall err k, k <= 32 -> err ≠ FirmwareStoreErr.ok ->
      exists k', k' <= 32 ∧ (err = .ok -> k' = 32) ∧
        (m.program (fsDescAddr slot) (d.bytes.take k)).slice (fsDescAddr slot) 32 =
          descTorn d k' :=
    fun err k hk hbad => ⟨k, hk, fun hok => absurd hok hbad, slice_descProgram hblank hk⟩
  have hbehind : Memory.Blank (m.program (fsDescAddr slot) (d.bytes.take 24))
      (fsDescAddr slot + 24) 8 := by
    apply (hblank.sub (k := 8) (b := fsDescAddr slot + 24) (by omega) (by omega)).congr
    exact Memory.program_outside (by rw [hbodyLen]; omega)
  have htail : forall n, (m.program (fsDescAddr slot) (d.bytes.take 24)).program
      (fsDescAddr slot + 24) ((d.bytes.drop 24).take n) =
        m.program (fsDescAddr slot) (d.bytes.take (24 + n)) := by
    intro n
    have happend := Memory.program_append m (fsDescAddr slot) (d.bytes.take 24)
      ((d.bytes.drop 24).take n)
    rw [hbodyLen] at happend
    rw [← happend, List.take_add]
  unfold fsDescWrite
  rw [hd]
  unfold fsIfProgram
  simp only [wp_bind]
  refine (wp_iflashProgram (by rw [hbodyLen]; exact (programAccepted_desc slot).1)
    (by rw [hbodyLen]; exact hblank.sub (Nat.le_refl _) (by omega))).mpr ⟨?_, ?_, ?_⟩
  · change wp internalFlash G _ _ (Program.bind _ _) _
    apply (wp_bind _ _).mpr
    apply (wp_bind _ _).mpr
    refine (wp_iflashProgram (by rw [htailLen]; exact (programAccepted_desc slot).2)
      (by rw [htailLen]; exact hbehind)).mpr ⟨?_, ?_, ?_⟩
    · have hwhole := htail 8
      have hrest : (d.bytes.drop 24).take 8 = d.bytes.drop 24 :=
        List.take_of_length_le (by rw [htailLen])
      rw [hrest] at hwhole
      rw [hwhole]
      have hslice := slice_descProgram hblank (d := d) (Nat.le_refl 32)
      change wp internalFlash G _ _ (fsIfRead _ _ >>= _) _
      apply (wp_bind _ _).mpr
      apply wp_fsIfRead
      · dsimp only
        apply wp_ite
        · intro _
          exact hfailed _ 32 (Nat.le_refl _) (by decide)
        · intro _
          exact ⟨32, Nat.le_refl _, fun _ => rfl, hslice⟩
      · exact hfailed _ 32 (Nat.le_refl _) (by decide)
      · trivial
    · intro n _
      have hpart := htail (min n 8)
      have hmin : (d.bytes.drop 24).take n = (d.bytes.drop 24).take (min n 8) := by
        rw [← List.take_take, List.take_of_length_le (i := 8) (by simp)]
      rw [hmin, hpart]
      exact hfailed _ _ (by omega) (by decide)
    · intro _ _
      trivial
  · intro n _
    have hmin : (d.bytes.take 24).take n = d.bytes.take (min n 24) := List.take_take
    rw [hmin]
    exact hfailed _ _ (by omega) (by decide)
  · intro _ _
    trivial

/-- The descriptor that seals the slot. -/
def sealRecord (fs : FsInst) : FirmwareSlotDescriptor :=
  fsDescRecord fs.targetSlot (UInt32.ofNat fs.imageLen) fs.version
    (configStoreCrc32End fs.installCrc)

/-- How far a descriptor page got: erased still, or written after the digest was checked. -/
def SealedUpTo (crypto : OtaCrypto) (fs : FsInst) (m : Memory) (k : Nat) : Prop :=
  m.slice (fsDescAddr fs.targetSlot) 32 = descTorn (sealRecord fs) k ∧
    (0 < k -> crypto.sha256 fs.installSha = fs.bodyDigest)

theorem wp_installFinish (hblank : Memory.Blank m (fsDescAddr fs.targetSlot) 32) :
    (installFinish crypto fs).wp storeDevice F
      (fun err s' => exists k, k <= 32 ∧ (err = .ok -> k = 32) ∧ SealedUpTo crypto fs s'.1 k)
      (fun _ => True) (m, t) := by
  have hidle : forall err, err ≠ FirmwareStoreErr.ok ->
      exists k, k <= 32 ∧ (err = .ok -> k = 32) ∧ SealedUpTo crypto fs m k := by
    intro err hbad
    exact ⟨0, Nat.zero_le _, fun hok => absurd hok hbad, Memory.slice_of_blank hblank,
      fun hpos => absurd hpos (Nat.lt_irrefl 0)⟩
  unfold installFinish
  apply wp_seq (wp_cryptoCall (Q := fun _ s => s = (m, t)) fun _ => rfl)
  intro finished s' hsame
  subst hsame
  apply wp_ite
  · intro _
    apply wp_ite
    · intro _
      exact hidle _ (by decide)
    · intro hdigest
      apply wp_onFlash.mpr
      apply wp_mono _ (fun _ h => h) (wp_fsDescWrite _ _ _ hblank)
      intro err m' hout
      rcases hout with ⟨k, hk, hok, hslice⟩
      exact ⟨k, hk, hok, hslice, fun _ => not_not.mp hdigest⟩
  · intro _
    exact hidle _ (by decide)

/-!
## Steps
-/

/-- Where the page of the next step begins, and its length. -/
def installOffset (fs : FsInst) : Nat :=
  fs.installPage * fsPageBytes

def installLength (fs : FsInst) : Nat :=
  min (fs.imageLen - installOffset fs) fsPageBytes

/-- The instance after the next page was copied. -/
def pageCopied (fs : FsInst) (t : (qspiFlash.sum cryptoDevice).State) : FsInst :=
  pageFed fs (staged t (firmwareHeaderSize + installOffset fs) (installLength fs))

/-- The flash after the next page was copied. -/
structure PageCopied (fs : FsInst) (t : (qspiFlash.sum cryptoDevice).State)
    (m m' : Memory) : Prop where
  same : SameBut m (pageArea (fsSlotBase fs.targetSlot + installOffset fs)) m'
  page : m'.slice (fsSlotBase fs.targetSlot + installOffset fs) (installLength fs) =
    staged t (firmwareHeaderSize + installOffset fs) (installLength fs)

/-- The exits of `install_step`. -/
inductive InstallStepExit (crypto : OtaCrypto) (fs : FsInst) (m : Memory)
    (t : (qspiFlash.sum cryptoDevice).State) :
    FirmwareStoreErr × Bool -> FsInst -> Memory -> Prop where
  | refused : fs.op ≠ .installing -> InstallStepExit crypto fs m t (.badState, false) fs m
  | notCopied {err : FirmwareStoreErr} {m' : Memory} : fs.op = .installing -> err ≠ .ok ->
      SameBut m (pageArea (fsSlotBase fs.targetSlot + installOffset fs)) m' ->
      InstallStepExit crypto fs m t (err, false) { fs with op := .verified } m'
  | copied {m' : Memory} : fs.op = .installing -> PageCopied fs t m m' ->
      installLength fs ≠ fs.imageLen - installOffset fs ->
      InstallStepExit crypto fs m t (.ok, false)
        { pageCopied fs t with installPage := fs.installPage + 1 } m'
  | finished {m₁ m' : Memory} : fs.op = .installing -> PageCopied fs t m m₁ ->
      installLength fs = fs.imageLen - installOffset fs ->
      SameBut m₁ (descArea fs.targetSlot) m' -> SealedUpTo crypto (pageCopied fs t) m' 32 ->
      InstallStepExit crypto fs m t (.ok, true) { pageCopied fs t with op := .installed } m'
  | unfinished {err : FirmwareStoreErr} {m₁ m₂ : Memory} (k n : Nat) : fs.op = .installing ->
      err ≠ .ok -> PageCopied fs t m m₁ ->
      installLength fs = fs.imageLen - installOffset fs -> k <= 32 ->
      SameBut m₁ (descArea fs.targetSlot) m₂ -> SealedUpTo crypto (pageCopied fs t) m₂ k ->
      InstallStepExit crypto fs m t (err, false) { pageCopied fs t with op := .verified }
        (m₂.erase (fsDescAddr fs.targetSlot) (min n 2048))

theorem fsSlotBase_ge (slot : FirmwareSlot) : firmwareSlotABase <= fsSlotBase slot := by
  unfold fsSlotBase
  split
  · decide
  · decide

theorem descArea_image {x : Nat} (hdesc : descArea slot x) : x < fsSlotBase slot' :=
  Nat.lt_of_lt_of_le hdesc.2 (Nat.le_trans (fsDescAddr_le slot).2 (fsSlotBase_ge slot'))

theorem PageCopied.desc_blank {m' : Memory} (h : PageCopied fs t m m')
    (hblank : Memory.Blank m (fsDescAddr slot) 32) : Memory.Blank m' (fsDescAddr slot) 32 := by
  apply hblank.congr
  apply h.same.sameOn
  intro x hlo hhi hpage
  have hapart := @descArea_image slot fs.targetSlot x ⟨hlo, by omega⟩
  have hbehind := hpage.1
  omega

theorem wp_nextPage :
    (installPageCopy fs (installOffset fs) (installLength fs)).wp storeDevice F
      (fun out s' => s'.2 = t ∧
        SameBut m (pageArea (fsSlotBase fs.targetSlot + installOffset fs)) s'.1 ∧
        (out.1 ≠ .ok -> out.2 = fs) ∧
        (out.1 = .ok -> out.2 = pageCopied fs t ∧ PageCopied fs t m s'.1))
      (fun _ => True) (m, t) := by
  have hshort : installLength fs <= fsPageBytes := Nat.min_le_right _ _
  have hboth := wp_and
    (wp_storeReading (F := F) (s := (m, t)) (within_installPageCopy (installOffset fs) hshort))
    (@wp_installPageCopy F fs m t (installOffset fs)
      (installLength fs))
  apply wp_mono _ (fun _ _ => trivial) hboth
  intro out s' hout
  rcases hout with ⟨⟨hwithin, hsame, hstaging⟩, hcontent⟩
  refine ⟨hstaging, hsame, hwithin.1, fun hok => ?_⟩
  exact ⟨(hcontent hok).1, hsame, (hcontent hok).2⟩

theorem wp_doInstallStep
    (hblank : fs.op = .installing -> Memory.Blank m (fsDescAddr fs.targetSlot) 32) :
    (doInstallStep crypto fs).wp storeDevice F
      (fun out s' => InstallStepExit crypto fs m t out.1 out.2 s'.1) (fun _ => True) (m, t) := by
  unfold doInstallStep
  apply wp_ite
  · intro hnot
    exact .refused hnot
  · intro hinstalling
    have hop : fs.op = .installing := not_not.mp hinstalling
    apply wp_seq wp_nextPage
    intro out s' hout
    rcases out with ⟨copied, after⟩
    rcases s' with ⟨m₁, t₁⟩
    rcases hout with ⟨hstaging, hsame, hbad, hgood⟩
    dsimp only at hstaging hsame hbad hgood ⊢
    subst hstaging
    apply wp_ite
    · intro herr
      rw [hbad herr]
      exact .notCopied hop herr hsame
    · intro hok
      rcases hgood (not_not.mp hok) with ⟨hafter, hcopied⟩
      rw [hafter]
      apply wp_ite
      · intro hlast
        have hall : installLength fs = fs.imageLen - installOffset fs := beq_iff_eq.mp hlast
        have hfinish := wp_and
          (wp_storeReading (F := F) (s := (m₁, t₁))
            (@within_installFinish crypto (pageCopied fs t₁)))
          (@wp_installFinish F crypto (pageCopied fs t₁) _ t₁
            (hcopied.desc_blank (hblank hop)))
        apply wp_seq (wp_mono (fun _ _ h => h) (fun _ _ => trivial) hfinish)
        intro err s₂ hsealed
        rcases s₂ with ⟨m₂, t₂⟩
        rcases hsealed with ⟨⟨_, hdesc, _⟩, k, hk, hwhole, hupTo⟩
        apply wp_ite
        · intro herr
          apply (wp_bind _ _).mpr
          apply wp_onFlash.mpr
          apply wp_fsDescErase.mpr
          refine ⟨?_, fun n _ => ?_, fun _ _ => trivial⟩
          · exact .unfinished k 2048 hop herr hcopied hall hk hdesc hupTo
          · exact .unfinished k n hop herr hcopied hall hk hdesc hupTo
        · intro hnoErr
          have hfull := hwhole (not_not.mp hnoErr)
          subst hfull
          exact .finished hop hcopied hall hdesc hupTo
      · intro hmore
        exact .copied hop hcopied fun hall => hmore (beq_iff_eq.mpr hall)

/-- The exits of `install_begin`. -/
inductive InstallBeginExit (fs : FsInst) (m : Memory) :
    FirmwareStoreErr -> FsInst -> Memory -> Prop where
  | refused {err : FirmwareStoreErr} : err ≠ .ok -> InstallBeginExit fs m err fs m
  | notBegun {err : FirmwareStoreErr} (n : Nat) : fs.op = .verified -> err ≠ .ok ->
      InstallBeginExit fs m err fs (m.erase (fsDescAddr fs.targetSlot) (min n 2048))
  | begun : fs.op = .verified ->
      InstallBeginExit fs m .ok (installStarted fs) (m.erase (fsDescAddr fs.targetSlot) 2048)

theorem wp_doInstallBegin :
    (doInstallBegin fs).wp storeDevice F
      (fun out s' => InstallBeginExit fs m out.1 out.2 s'.1 ∧ s'.2 = t) (fun _ => True)
      (m, t) := by
  unfold doInstallBegin
  apply wp_ite
  · intro _
    exact ⟨.refused (fun h => by cases h), rfl⟩
  · intro hverified
    have hop : fs.op = .verified := not_not.mp hverified
    apply (wp_bind _ _).mpr
    apply wp_onFlash.mpr
    apply wp_fsDescErase.mpr
    refine ⟨?_, fun n _ => ⟨.notBegun n hop (fun h => by cases h), rfl⟩, fun _ _ => trivial⟩
    rw [if_neg (by simp)]
    apply wp_seq
      (wp_cryptoCall (Q := fun _ s => s = (m.erase (fsDescAddr fs.targetSlot) 2048, t))
        fun _ => rfl)
    intro begun s' hsame
    subst hsame
    apply wp_ite
    · intro _
      exact ⟨.begun hop, rfl⟩
    · intro _
      exact ⟨.notBegun 2048 hop (fun h => by cases h), rfl⟩

/-!
## Verification
-/

/-- The header the staging area holds. -/
def stagedHeader (t : (qspiFlash.sum cryptoDevice).State) : List UInt8 :=
  staged t 0 firmwareHeaderSize

/-- The reset vector carries the Thumb bit and points inside the image. -/
def ResetVectorOk (h : FirmwareImageHeader) (vector : Nat) : Prop :=
  vector % 2 ≠ 0 ∧ h.loadAddr.toNat <= vector - vector % 2 ∧
    vector - vector % 2 < h.loadAddr.toNat + h.imageLen.toNat

/-- What a verification that answers OK has seen. -/
structure Verified (crypto : OtaCrypto) (fs : FsInst)
    (t : (qspiFlash.sum cryptoDevice).State) : Prop where
  op : fs.op = .received
  signed : Signed crypto (stagedHeader t)
  header : verifyStructure fs (.ofBytes (stagedHeader t)) = .ok
  vector : ResetVectorOk (.ofBytes (stagedHeader t))
    (fieldAt (staged t firmwareHeaderSize 8) 4 4)

theorem wp_verifyResetVector (h : FirmwareImageHeader) :
    (verifyResetVector h).wp storeDevice F
      (fun err s' => s' = (m, t) ∧
        (err = .ok -> ResetVectorOk h (fieldAt (staged t firmwareHeaderSize 8) 4 4)))
      (fun _ => True) (m, t) := by
  unfold verifyResetVector
  apply wp_seq (wp_fsStageRead _ _)
  intro probe s' hout
  rcases hout with ⟨hsame, hprobe⟩
  subst hsame
  cases probe with
  | none => exact ⟨rfl, fun hok => by cases hok⟩
  | some probe =>
      rw [hprobe probe rfl]
      dsimp only
      apply wp_ite
      · intro _
        exact ⟨rfl, fun hok => by cases hok⟩
      · intro hgood
        refine ⟨rfl, fun _ => ?_⟩
        simp only [not_or, not_lt, Nat.not_le, ge_iff_le] at hgood
        exact hgood

theorem wp_unchanged {α : Type} {Q : α -> Prop} {p : StoreIo α} (h : StoreReading nowhere Q p) :
    p.wp storeDevice F (fun a s' => Q a ∧ s' = (m, t)) (fun _ => True) (m, t) := by
  apply wp_mono _ (fun _ _ => trivial) (wp_storeReading h)
  intro a s' hout
  rcases s' with ⟨m', t'⟩
  rcases hout with ⟨hQ, hsame, hstaging⟩
  cases sameBut_nowhere hsame
  cases hstaging
  exact ⟨hQ, rfl⟩

theorem wp_hashBodyLoop (fuel done left : Nat) (fed : List UInt8) (hfuel : left ≤ fuel) :
    (hashBodyLoop fuel done left fed).wp storeDevice F
      (fun out s' => s' = (m, t) ∧
        (out.1 = .ok -> out.2 = fed ++ staged t (firmwareHeaderSize + done) left))
      (fun _ => True) (m, t) := by
  induction fuel generalizing done left fed with
  | zero =>
      have hzero : left = 0 := Nat.le_zero.mp hfuel
      subst hzero
      exact ⟨rfl, fun _ => (List.append_nil fed).symm⟩
  | succ fuel ih =>
      unfold hashBodyLoop
      apply wp_ite
      · intro hpos
        apply wp_seq (wp_fsStageRead _ _)
        intro page s' hout
        rcases hout with ⟨hsame, hpage⟩
        subst hsame
        cases page with
        | none => exact ⟨rfl, fun hok => by cases hok⟩
        | some page =>
            apply wp_seq (wp_cryptoCall (Q := fun _ s => s = (m, t)) fun _ => rfl)
            intro updated s' hsame
            subst hsame
            apply wp_ite
            · intro _
              apply wp_mono _ (fun _ h => h) (ih _ _ _ (by
                change left - min left 2048 ≤ fuel
                omega))
              intro out s' hout
              refine ⟨hout.1, fun hok => ?_⟩
              have hsplit := staged_add t (firmwareHeaderSize + done) (min left fsPageBytes)
                (left - min left fsPageBytes)
              rw [Nat.add_sub_cancel' (Nat.min_le_left _ _)] at hsplit
              rw [hout.2 hok, hpage page rfl, hsplit, List.append_assoc, Nat.add_assoc]
            · intro _
              exact ⟨rfl, fun hok => by cases hok⟩
      · intro hnot
        have hzero : left = 0 := Nat.eq_zero_of_not_pos hnot
        subst hzero
        exact ⟨rfl, fun _ => (List.append_nil fed).symm⟩

theorem wp_verifyBodyHash (h : FirmwareImageHeader) :
    (verifyBodyHash crypto h).wp storeDevice F
      (fun err s' => s' = (m, t) ∧
        (err = .ok ->
          crypto.sha256 (staged t firmwareHeaderSize h.imageLen.toNat) = h.bodySha256))
      (fun _ => True) (m, t) := by
  unfold verifyBodyHash
  apply wp_seq (wp_cryptoCall (Q := fun _ s => s = (m, t)) fun _ => rfl)
  intro begun s' hsame
  subst hsame
  apply wp_ite
  · intro _
    apply wp_seq (wp_hashBodyLoop _ _ _ _ (Nat.le_refl _))
    intro out s' hout
    rcases out with ⟨err, fed⟩
    rcases hout with ⟨hsame, hfed⟩
    subst hsame
    apply wp_ite
    · intro hok
      apply wp_seq (wp_cryptoCall (Q := fun _ s => s = (m, t)) fun _ => rfl)
      intro finished s' hsame
      subst hsame
      apply wp_ite
      · intro _
        apply wp_ite
        · intro hequal
          refine ⟨rfl, fun _ => ?_⟩
          have hall : fed = [] ++ staged t (firmwareHeaderSize + 0) h.imageLen.toNat := hfed hok
          rw [hall] at hequal
          exact hequal
        · intro _
          exact ⟨rfl, fun hbad => by cases hbad⟩
      · intro _
        exact ⟨rfl, fun hbad => by cases hbad⟩
    · intro hbad
      exact ⟨rfl, fun hok => absurd hok hbad⟩
  · intro _
    exact ⟨rfl, fun hok => by cases hok⟩

theorem wp_verifyStaged (raw : List UInt8) :
    (verifyStaged crypto fs raw).wp storeDevice F
      (fun err s' => s' = (m, t) ∧
        (err = .ok -> Signed crypto raw ∧ verifyStructure fs (.ofBytes raw) = .ok ∧
          crypto.sha256 (staged t firmwareHeaderSize
            (FirmwareImageHeader.ofBytes raw).imageLen.toNat) =
              (FirmwareImageHeader.ofBytes raw).bodySha256 ∧
          ResetVectorOk (.ofBytes raw) (fieldAt (staged t firmwareHeaderSize 8) 4 4)))
      (fun _ => True) (m, t) := by
  unfold verifyStaged
  dsimp only
  apply wp_ite
  · intro hbad
    exact ⟨rfl, fun hok => absurd hok hbad⟩
  · intro hgood
    apply wp_seq (wp_unchanged (within_verifySignature raw))
    intro signed s' hout
    rcases hout with ⟨hsigned, hsame⟩
    subst hsame
    apply wp_ite
    · intro hbad
      exact ⟨rfl, fun hok => absurd hok hbad⟩
    · intro hok
      have hsignature := hsigned (not_not.mp hok)
      apply wp_seq (wp_verifyBodyHash _)
      intro hashed s' hout
      rcases hout with ⟨hsame, hhash⟩
      subst hsame
      apply wp_ite
      · intro hbad
        exact ⟨rfl, fun hok => absurd hok hbad⟩
      · intro hequal
        apply wp_mono _ (fun _ h => h) (wp_verifyResetVector _)
        intro err s' hout
        exact ⟨hout.1, fun herr =>
          ⟨hsignature, not_not.mp hgood, hhash (not_not.mp hequal), hout.2 herr⟩⟩

theorem wp_doVerify :
    (doVerify crypto fs).wp storeDevice F
      (fun out s' => s' = (m, t) ∧ (out.1 ≠ .ok -> out.2 = fs) ∧
        (out.1 = .ok -> Verified crypto fs t ∧ VerifiedAs fs (stagedHeader t) out.2 ∧
          crypto.sha256 (staged t firmwareHeaderSize
            (FirmwareImageHeader.ofBytes (stagedHeader t)).imageLen.toNat) =
              (FirmwareImageHeader.ofBytes (stagedHeader t)).bodySha256))
      (fun _ => True) (m, t) := by
  unfold doVerify
  apply wp_ite
  · intro _
    exact ⟨rfl, fun _ => rfl, fun hok => by cases hok⟩
  · intro _
    apply wp_ite
    · intro _
      exact ⟨rfl, fun _ => rfl, fun hok => by cases hok⟩
    · intro hreceived
      apply wp_seq (wp_fsStageRead _ _)
      intro raw s' hout
      rcases hout with ⟨hsame, hraw⟩
      subst hsame
      cases raw with
      | none => exact ⟨rfl, fun _ => rfl, fun hok => by cases hok⟩
      | some raw =>
          have hheader : raw = stagedHeader t := hraw raw rfl
          rw [hheader]
          apply wp_seq (wp_verifyStaged _)
          intro err s' hout
          rcases hout with ⟨hsame, hchecks⟩
          subst hsame
          apply wp_ite
          · intro hbad
            exact ⟨rfl, fun _ => rfl, fun hok => absurd hok hbad⟩
          · intro hok
            rcases hchecks (not_not.mp hok) with ⟨hsigned, hheader, hhash, hvector⟩
            exact ⟨rfl, fun hbad => absurd rfl hbad,
              fun _ => ⟨⟨not_not.mp hreceived, hsigned, hheader, hvector⟩, rfl, hhash⟩⟩

end

end EnvMonitor.Gateway.FirmwareStore
