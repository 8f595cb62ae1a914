import EnvMonitor.Gateway.FirmwareStore.Authenticity

/-!
# Accepted and bootable

What the verification accepts and what the bootloader starts are two tests written apart.  An
image that went through the first and was installed is compared with the second.
-/

namespace EnvMonitor.Gateway.FirmwareStore

open Device Drivers Gateway.ConfigStore Bootloader

/-!
## Installations
-/

/-- The stack-pointer rule of the bootloader. -/
def StackPointerOk (sp : Nat) : Prop :=
  sp % 8 = 0 ∧ ((bootSramAliasBase < sp ∧ sp <= bootSramAliasEnd) ∨
    (bootSram2Base < sp ∧ sp <= bootSram2End))

instance (sp : Nat) : Decidable (StackPointerOk sp) := by
  unfold StackPointerOk
  infer_instance

/-- A staged file on its way into the slot: a verification that answered OK, then
`install_begin`, then steps with more to come.  Any call may fail and be made again, as long as
the one that counts answered OK. -/
inductive Installation (crypto : OtaCrypto) (t : (qspiFlash.sum cryptoDevice).State) :
    FsInst -> Memory -> Prop where
  | verified {F : Faults storeIo} {fs fs' : FsInst} {m m' : Memory} {answer : FsAnswer}
      {t' : (qspiFlash.sum cryptoDevice).State} : answer.err = .ok ->
      Program.Exec storeDevice F (fsPerform crypto fs .verify) (m, t) (some (answer, fs'))
        (m', t') -> Installation crypto t fs' m'
  | begun {F : Faults storeIo} {fs fs' : FsInst} {m m' : Memory} {answer : FsAnswer}
      {t' : (qspiFlash.sum cryptoDevice).State} : Installation crypto t fs m ->
      answer.err = .ok ->
      Program.Exec storeDevice F (fsPerform crypto fs .installBegin) (m, t) (some (answer, fs'))
        (m', t') -> Installation crypto t fs' m'
  | stepped {F : Faults storeIo} {fs fs' : FsInst} {m m' : Memory} {answer : FsAnswer}
      {t' : (qspiFlash.sum cryptoDevice).State} : Installation crypto t fs m ->
      answer.err = .ok -> answer.done = false ->
      Program.Exec storeDevice F (fsPerform crypto fs .installStep) (m, t) (some (answer, fs'))
        (m', t') -> Installation crypto t fs' m'

/-- What holds of an installation: the instance is about the staged file, which passed the
checks, and the pages installed so far are those of the file. -/
structure Accepting (t : (qspiFlash.sum cryptoDevice).State) (fs : FsInst) (m : Memory) :
    Prop where
  lo : 8 <= fs.imageLen
  hi : fs.imageLen <= firmwareSlotSize
  page : fs.op = .installing -> installOffset fs < fs.imageLen
  vector : fieldAt (staged t firmwareHeaderSize 8) 4 4 % 2 = 1 ∧
    fsSlotBase fs.targetSlot <= fieldAt (staged t firmwareHeaderSize 8) 4 4 - 1 ∧
    fieldAt (staged t firmwareHeaderSize 8) 4 4 - 1 < fsSlotBase fs.targetSlot + fs.imageLen
  copying : fs.op = .installing ->
    Copying fs m ∧ fs.installSha = staged t firmwareHeaderSize (installOffset fs)

section

variable {crypto : OtaCrypto} {F : Faults storeIo} {fs fs' : FsInst} {m m' : Memory}
variable {t t' : (qspiFlash.sum cryptoDevice).State} {answer : FsAnswer}

theorem accepting_verified (hok : answer.err = .ok)
    (hexec : Program.Exec storeDevice F (fsPerform crypto fs .verify) (m, t)
      (some (answer, fs')) (m', t')) : Accepting t fs' m' := by
  rcases Program.wp_answers (f := fsCodeOnly) wp_doVerify hexec with ⟨out, hout, _, _, hgood⟩
  cases hout
  rcases hgood hok with ⟨hverified, htaken, _⟩
  rcases verifyStructure_ok hverified.header with ⟨_, hlo, hhi, hload⟩
  have hvector := hverified.vector
  unfold ResetVectorOk at hvector
  rw [hload] at hvector
  unfold VerifiedAs at htaken
  rw [htaken]
  refine ⟨hlo, hhi, fun hop => (by cases hop), ?_, fun hop => (by cases hop)⟩
  dsimp only
  omega

theorem Accepting.begun (h : Accepting t fs m) (hok : answer.err = .ok)
    (hexec : Program.Exec storeDevice F (fsPerform crypto fs .installBegin) (m, t)
      (some (answer, fs')) (m', t')) : Accepting t fs' m' := by
  rcases Program.wp_answers (f := fsCodeOnly) (wp_doInstallBegin (t := t)) hexec with
    ⟨out, hout, hexit, _⟩
  cases hout
  change out.1 = .ok at hok
  rw [hok] at hexit
  generalize out.2 = fs' at hexit
  change InstallBeginExit fs m .ok fs' m' at hexit
  cases hexit with
  | refused hbad => exact absurd rfl hbad
  | notBegun _ _ hbad => exact absurd rfl hbad
  | begun _ =>
      have hzero : installOffset (installStarted fs) = 0 := Nat.zero_mul _
      refine ⟨h.lo, h.hi, fun _ => ?_, h.vector, fun _ => ⟨⟨?_, ?_, ?_⟩, ?_⟩⟩
      · have hlo := h.lo
        rw [hzero]
        change 0 < fs.imageLen
        omega
      · exact (Memory.erase_blank m (fsDescAddr fs.targetSlot) 2048).sub (k := 32)
          (Nat.le_refl _) (Nat.add_le_add_left (by decide) _)
      · rw [hzero]
        rfl
      · exact (configStoreCrc32Feed_nil _).symm
      · rw [hzero]
        rfl

theorem staged_next (h : fs.installSha = staged t firmwareHeaderSize (installOffset fs)) :
    (pageCopied fs t).installSha =
      staged t firmwareHeaderSize (installOffset fs + installLength fs) := by
  change fs.installSha ++ staged t _ _ = _
  rw [h, staged_add]

theorem Accepting.exit (h : Accepting t fs m)
    (hexec : Program.Exec storeDevice F (fsPerform crypto fs .installStep) (m, t)
      (some (answer, fs')) (m', t')) :
    InstallStepExit crypto fs m t (answer.err, answer.done) fs' m' := by
  rcases Program.wp_answers
      (f := fun out : (FirmwareStoreErr × Bool) × FsInst =>
        ((⟨out.1.1, none, out.1.2⟩ : FsAnswer), out.2))
      (wp_doInstallStep fun hop => (h.copying hop).1.blank) hexec with ⟨out, hout, hexit⟩
  cases hout
  exact hexit

theorem Accepting.stepped (h : Accepting t fs m) (hok : answer.err = .ok)
    (hmore : answer.done = false)
    (hexec : Program.Exec storeDevice F (fsPerform crypto fs .installStep) (m, t)
      (some (answer, fs')) (m', t')) : Accepting t fs' m' := by
  have hexit := h.exit hexec
  rw [hok, hmore] at hexit
  cases hexit with
  | notCopied _ hbad _ => exact absurd rfl hbad
  | unfinished _ _ _ hbad _ _ _ _ _ => exact absurd rfl hbad
  | copied hop hcopied hnotAll =>
      rcases h.copying hop with ⟨hcopying, hfile⟩
      unfold installLength installOffset at hnotAll
      change ¬ min (fs.imageLen - fs.installPage * 2048) 2048 =
        fs.imageLen - fs.installPage * 2048 at hnotAll
      have hfull : installLength fs = fsPageBytes := by
        change min (fs.imageLen - fs.installPage * 2048) 2048 = 2048
        omega
      refine ⟨h.lo, h.hi, fun _ => ?_, h.vector, fun _ => ⟨hcopying.next hcopied hfull, ?_⟩⟩
      · change (fs.installPage + 1) * 2048 < fs.imageLen
        omega
      · have hnext := staged_next hfile
        rw [hfull] at hnext
        change (pageCopied fs t).installSha = staged t _ ((fs.installPage + 1) * fsPageBytes)
        rw [hnext, Nat.succ_mul]
        rfl

theorem Installation.accepting (h : Installation crypto t fs m) : Accepting t fs m := by
  induction h with
  | verified hok hexec => exact accepting_verified hok hexec
  | begun _ hok hexec ih => exact ih.begun hok hexec
  | stepped _ hok hmore hexec ih => exact ih.stepped hok hmore hexec

end

theorem Accepting.bootable {crypto : OtaCrypto} {fs fs' : FsInst} {m m' : Memory}
    {t : (qspiFlash.sum cryptoDevice).State} {err : FirmwareStoreErr} (h : Accepting t fs m)
    (hexit : InstallStepExit crypto fs m t (err, true) fs' m') :
    Bootable m' (fsBankFromSlot fs'.targetSlot) ↔
      StackPointerOk (fieldAt (staged t firmwareHeaderSize 8) 0 4) := by
  cases hexit with
  | finished hop hcopied hall hdesc hupTo =>
      rename_i m₁
      rcases h.copying hop with ⟨hcopying, hfile⟩
      have hpage := h.page hop
      have hinstalled : m'.slice (fsSlotBase fs.targetSlot) fs.imageLen =
          staged t firmwareHeaderSize fs.imageLen := by
        have hnext := staged_next hfile
        rw [hall, Nat.add_sub_cancel' (by omega)] at hnext
        rw [← hnext, ← hcopying.whole hpage hcopied hall]
        apply Memory.slice_congr
        apply hdesc.sameOn
        intro x hlo _ hx
        have hlt := @descArea_image _ fs.targetSlot _ hx
        omega
      have hlen : (staged t firmwareHeaderSize fs.imageLen).length = fs.imageLen :=
        Memory.slice_length _ _ _
      have hcrc : configStoreCrc32End (pageCopied fs t).installCrc =
          configStoreCrc32 (staged t firmwareHeaderSize fs.imageLen) := by
        rw [← hcopying.crc_copied, staged_next hfile, hall, Nat.add_sub_cancel' (by omega)]
      have hfield : forall i, i + 4 <= 8 ->
          fieldAt (staged t firmwareHeaderSize fs.imageLen) i 4 =
            fieldAt (staged t firmwareHeaderSize 8) i 4 := by
        intro i hi
        have hsplit := staged_add t firmwareHeaderSize 8 (fs.imageLen - 8)
        rw [Nat.add_sub_cancel' h.lo] at hsplit
        have hshort : (staged t firmwareHeaderSize 8).length = 8 := Memory.slice_length _ _ _
        rw [hsplit, fieldAt_append_left (by rw [hshort]; exact hi)]
      have hsealed := @bootable_sealed m' fs.targetSlot _ fs.version (by rw [hlen]; exact h.lo)
        (by rw [hlen]; exact h.hi) (by
          rw [hlen, ← hcrc]
          exact hupTo.1.trans (descTorn_all _)) (by rw [hlen]; exact hinstalled)
      rw [hlen, hfield 0 (by omega), hfield 4 (by omega)] at hsealed
      have hvector := h.vector
      unfold VectorsArePlausible at hsealed
      exact hsealed.trans ⟨fun hboth => hboth.1, fun hsp => ⟨hsp, hvector⟩⟩

/-- An installation that is done leaves a slot that the bootloader accepts exactly when the
first word of the staged image is a stack pointer to its liking. -/
theorem installed_bootable_iff {crypto : OtaCrypto} {F : Faults storeIo}
    {fs fs' : FsInst} {m m' : Memory} {t t' : (qspiFlash.sum cryptoDevice).State}
    {answer : FsAnswer} (h : Installation crypto t fs m)
    (hexec : Program.Exec storeDevice F (fsPerform crypto fs .installStep) (m, t)
      (some (answer, fs')) (m', t')) (hdone : answer.done = true) :
    ((slotIsBootable (fsBankFromSlot fs'.targetSlot)).eval internalFlash m').1.isSome = true ↔
      StackPointerOk (fieldAt (staged t firmwareHeaderSize 8) 0 4) := by
  have hexit := h.accepting.exit hexec
  rw [hdone] at hexit
  rw [slotIsBootable_eval]
  exact h.accepting.bootable hexit

/-!
## Two small files
-/

theorem sample_installation {version : UInt32} {image : List UInt8}
    (hverify : (sampleAnswer (sampleStaging version image) .verify
      (callSample (sampleStaging version image) (.resume 1 136) idleDevice)).err = .ok)
    (hbegin : (sampleAnswer (sampleStaging version image) .installBegin
      (verifiedSample (sampleStaging version image))).err = .ok) :
    Installation openCrypto (sampleStaging version image)
      (begunSample (sampleStaging version image)).1
      (begunSample (sampleStaging version image)).2 :=
  .begun (.verified hverify (Program.exec_eval storeDevice (Faults.never storeIo) _ _)) hbegin
    (Program.exec_eval storeDevice (Faults.never storeIo) _ _)

/-- The device after the last step. -/
def installedSample (staging : (qspiFlash.sum cryptoDevice).State) : FsInst × Memory :=
  callSample staging .installStep (begunSample staging)

theorem installed_bootable_iff_sample :
    ((slotIsBootable (fsBankFromSlot
      (installedSample (sampleStaging 1 (smallImage .b))).1.targetSlot)).eval internalFlash
        (installedSample (sampleStaging 1 (smallImage .b))).2).1.isSome = true := by
  have hfacts : (sampleAnswer (sampleStaging 1 (smallImage .b)) .verify
        (callSample (sampleStaging 1 (smallImage .b)) (.resume 1 136) idleDevice)).err = .ok ∧
      (sampleAnswer (sampleStaging 1 (smallImage .b)) .installBegin
        (verifiedSample (sampleStaging 1 (smallImage .b)))).err = .ok ∧
      (sampleAnswer (sampleStaging 1 (smallImage .b)) .installStep
        (begunSample (sampleStaging 1 (smallImage .b)))).done = true ∧
      StackPointerOk (fieldAt (staged (sampleStaging 1 (smallImage .b)) firmwareHeaderSize 8)
        0 4) := by
    decide +kernel
  exact (installed_bootable_iff (sample_installation hfacts.1 hfacts.2.1)
    (Program.exec_eval storeDevice (Faults.never storeIo) _ _) hfacts.2.2.1).mpr hfacts.2.2.2

/-- An image whose first word is no stack pointer. -/
def noStackImage : List UInt8 :=
  putLe 4 0 ++ putLe 4 (firmwareSlotBBase + 5)

/-- An update that is accepted, installed and done, and that the bootloader will not start. -/
theorem accepted_update_not_bootable :
    Installation openCrypto (sampleStaging 1 noStackImage)
      (begunSample (sampleStaging 1 noStackImage)).1
      (begunSample (sampleStaging 1 noStackImage)).2 ∧
    (sampleAnswer (sampleStaging 1 noStackImage) .installStep
      (begunSample (sampleStaging 1 noStackImage))).done = true ∧
    ((slotIsBootable (fsBankFromSlot
      (installedSample (sampleStaging 1 noStackImage)).1.targetSlot)).eval internalFlash
        (installedSample (sampleStaging 1 noStackImage)).2).1 = none := by
  have hfacts : (sampleAnswer (sampleStaging 1 noStackImage) .verify
        (callSample (sampleStaging 1 noStackImage) (.resume 1 136) idleDevice)).err = .ok ∧
      (sampleAnswer (sampleStaging 1 noStackImage) .installBegin
        (verifiedSample (sampleStaging 1 noStackImage))).err = .ok ∧
      (sampleAnswer (sampleStaging 1 noStackImage) .installStep
        (begunSample (sampleStaging 1 noStackImage))).done = true ∧
      ((slotIsBootable (fsBankFromSlot
        (installedSample (sampleStaging 1 noStackImage)).1.targetSlot)).eval internalFlash
          (installedSample (sampleStaging 1 noStackImage)).2).1 = none := by
    decide +kernel
  exact ⟨sample_installation hfacts.1 hfacts.2.1, hfacts.2.2⟩

end EnvMonitor.Gateway.FirmwareStore
