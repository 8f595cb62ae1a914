import EnvMonitor.Gateway.FirmwareStore.RecordWrites

/-!
# The ways a boot ends

A slot is bootable or not by what the flash holds.  From the record in force a boot passes
through at most one write of the record to the step that checks the slots; every exit of
`boot_core_run`, and every state a power cut during it leaves behind, is listed here once.
-/

namespace EnvMonitor.Gateway.Bootloader

open Device Drivers Gateway.ConfigStore FirmwareStore
open Program (wp_bind wp_ite wp_mono wp_seq)

/-!
## Bootable slots
-/

/-- The tests of `slot_is_bootable` on what the flash holds. -/
def Bootable (m : Memory) (bank : UInt8) : Prop :=
  let d := FirmwareSlotDescriptor.ofBytes (m.slice (descAddr bank) 32)
  DescriptorOk bank d ∧
    configStoreCrc32 (m.slice (slotBase bank) d.imageLen.toNat) = d.bodyCrc32 ∧
    VectorsArePlausible (fieldAt (m.slice (slotBase bank) 8) 0 4)
      (fieldAt (m.slice (slotBase bank) 8) 4 4) (slotBase bank) d.imageLen.toNat

instance (m : Memory) (bank : UInt8) : Decidable (Bootable m bank) := by
  unfold Bootable
  infer_instance

/-- The length and the version `slot_is_bootable` answers. -/
def bootableAt (m : Memory) (bank : UInt8) : Option (UInt32 × UInt32) :=
  let d := FirmwareSlotDescriptor.ofBytes (m.slice (descAddr bank) 32)
  if Bootable m bank then some (d.imageLen, d.version) else none

variable {bank : UInt8} {m : Memory}

theorem bootable_congr {m' : Memory} (hdesc : Memory.SameOn m m' (descAddr bank) 32)
    (hslot : Memory.SameOn m m' (slotBase bank) firmwareSlotSize) :
    Bootable m' bank ↔ Bootable m bank := by
  unfold Bootable
  rw [Memory.slice_congr hdesc, Memory.slice_congr (hslot.sub (k := 8) (Nat.le_refl _) (by
    change _ <= slotBase bank + 491520
    omega))]
  apply and_congr_right
  intro hok
  rw [Memory.slice_congr (hslot.sub (Nat.le_refl _) (Nat.add_le_add_left hok.2.2.2.2 _))]

theorem bootableAt_isSome (m : Memory) (bank : UInt8) :
    (bootableAt m bank).isSome = true ↔ Bootable m bank := by
  unfold bootableAt
  by_cases h : Bootable m bank
  · simp [h]
  · simp [h]

theorem bootableAt_none (h : ¬ Bootable m bank) : bootableAt m bank = none := by
  unfold bootableAt
  exact if_neg h

/-- A read of a descriptor or a slot can fail. -/
def SlotReadFails (F : Faults iflash) : Prop :=
  exists addr len n, firmwareDescAAddr <= addr ∧ F.fails (.read addr len) n

section

variable {F : Faults iflash} {m : Memory}

theorem slotBase_le (bank : UInt8) :
    firmwareDescAAddr <= slotBase bank ∧ slotBase bank + firmwareSlotSize <= 0x080F8000 := by
  unfold slotBase
  split
  · decide
  · decide

theorem descAddr_le (bank : UInt8) :
    firmwareDescAAddr <= descAddr bank ∧ descAddr bank + 2048 <= firmwareSlotABase := by
  unfold descAddr
  split
  · decide
  · decide

theorem bootable_metaPage {m' : Memory} {c : Nat} {bank : UInt8}
    (h : Memory.SameOutside m m' (fsMetaAddr c) 2048) : Bootable m' bank ↔ Bootable m bank := by
  have hdesc := descAddr_le bank
  have hbase := slotBase_le bank
  have hmeta : fsMetaAddr c + 2048 <= firmwareDescAAddr := by
    unfold fsMetaAddr
    split
    · decide
    · decide
  apply bootable_congr
  · exact h.sameOn (.inr (by omega))
  · exact h.sameOn (.inr (by omega))

theorem wp_slotRead {α : Type} {Q : α -> Memory -> Prop} {C : Memory -> Prop} {addr len : Nat}
    {f : Option (List UInt8) -> IFlash α} (hlen : len ≠ 0) (hin : inFlash addr len)
    (hslot : firmwareDescAAddr <= addr)
    (hsome : (f (some (m.slice addr len))).wp internalFlash F Q C m)
    (hnone : SlotReadFails F -> (f none).wp internalFlash F Q C m) (hcut : C m) :
    (iflashRead addr len >>= f).wp internalFlash F Q C m :=
  (wp_bind _ _).mpr ((wp_iflashRead hlen hin).mpr
    ⟨hsome, fun n hn => hnone ⟨addr, len, n, hslot, hn⟩, fun _ _ => hcut⟩)

theorem wp_bodyCrcLoop (fuel addr left : Nat) (crc : UInt32) (hfuel : left <= fuel)
    (hslot : firmwareDescAAddr <= addr) (hend : addr + left <= 0x080F8000) :
    (bodyCrcLoop fuel addr left crc).wp internalFlash F
      (fun out m' => m' = m ∧ (out = some (configStoreCrc32Feed crc (m.slice addr left)) ∨
        (out = none ∧ SlotReadFails F)))
      (fun m' => m' = m) m := by
  induction fuel generalizing addr left crc with
  | zero =>
      have hzero : left = 0 := by omega
      subst hzero
      refine ⟨rfl, .inl ?_⟩
      rw [Memory.slice_zero, configStoreCrc32Feed_nil]
  | succ fuel ih =>
      unfold bodyCrcLoop
      by_cases hleft : left > 0
      · rw [if_pos hleft]
        have hin : inFlash addr (min left bootChunkBytes) := by
          change 0x08005000 <= addr at hslot
          change 0x08000000 <= addr ∧ addr + min left 256 <= 0x08100000 ∧ addr < 0x08100000
          omega
        refine wp_slotRead (by change min left 256 ≠ 0; omega) hin hslot ?_
          (fun hfails => ⟨rfl, .inr ⟨rfl, hfails⟩⟩) rfl
        have hsplit := Memory.slice_add m addr (min left bootChunkBytes)
          (left - min left bootChunkBytes)
        rw [show min left bootChunkBytes + (left - min left bootChunkBytes) = left by omega]
          at hsplit
        rw [hsplit, configStoreCrc32Feed_append]
        apply ih
        · change left - min left 256 <= fuel
          omega
        · omega
        · omega
      · rw [if_neg hleft]
        have hzero : left = 0 := by omega
        subst hzero
        refine ⟨rfl, .inl ?_⟩
        rw [Memory.slice_zero, configStoreCrc32Feed_nil]

theorem wp_slotIsBootable (bank : UInt8) :
    (slotIsBootable bank).wp internalFlash F
      (fun out m' => m' = m ∧ (out = bootableAt m bank ∨ (out = none ∧ SlotReadFails F)))
      (fun m' => m' = m) m := by
  have hdesc := descAddr_le bank
  have hbase := slotBase_le bank
  have hdescIn : inFlash (descAddr bank) 32 := by
    change 0x08000000 <= descAddr bank ∧ descAddr bank + 32 <= 0x08100000 ∧
      descAddr bank < 0x08100000
    change 0x08005000 <= _ ∧ _ <= 0x08006000 at hdesc
    omega
  have hbaseIn : inFlash (slotBase bank) 8 := by
    change 0x08000000 <= slotBase bank ∧ slotBase bank + 8 <= 0x08100000 ∧
      slotBase bank < 0x08100000
    change 0x08005000 <= _ ∧ slotBase bank + 491520 <= _ at hbase
    omega
  unfold slotIsBootable
  refine wp_slotRead (by decide) hdescIn hdesc.1 ?_
    (fun hfails => ⟨rfl, .inr ⟨rfl, hfails⟩⟩) rfl
  by_cases hok : DescriptorOk bank (FirmwareSlotDescriptor.ofBytes (m.slice (descAddr bank) 32))
  · simp only [if_pos hok]
    have hlen : (FirmwareSlotDescriptor.ofBytes (m.slice (descAddr bank) 32)).imageLen.toNat <=
        firmwareSlotSize := hok.2.2.2.2
    apply wp_seq (wp_bodyCrcLoop _ (slotBase bank) _ configStoreCrc32Begin (Nat.le_refl _)
      hbase.1 (by omega))
    intro out m' hout
    rcases hout with ⟨hsame, hcrc | ⟨hnone, hfails⟩⟩
    · subst m' out
      by_cases hcrc : configStoreCrc32End (configStoreCrc32Feed configStoreCrc32Begin
          (m.slice (slotBase bank)
            (FirmwareSlotDescriptor.ofBytes (m.slice (descAddr bank) 32)).imageLen.toNat)) =
          (FirmwareSlotDescriptor.ofBytes (m.slice (descAddr bank) 32)).bodyCrc32
      · simp only [if_pos hcrc]
        refine wp_slotRead (by decide) hbaseIn hbase.1 ?_
          (fun hfails => ⟨rfl, .inr ⟨rfl, hfails⟩⟩) rfl
        by_cases hvectors : VectorsArePlausible (fieldAt (m.slice (slotBase bank) 8) 0 4)
            (fieldAt (m.slice (slotBase bank) 8) 4 4) (slotBase bank)
            (FirmwareSlotDescriptor.ofBytes (m.slice (descAddr bank) 32)).imageLen.toNat
        · simp only [if_pos hvectors]
          have hboot : Bootable m bank := ⟨hok, hcrc, hvectors⟩
          refine ⟨rfl, .inl ?_⟩
          unfold bootableAt
          rw [if_pos hboot]
        · simp only [if_neg hvectors]
          exact ⟨rfl, .inl (bootableAt_none fun h => hvectors h.2.2).symm⟩
      · simp only [if_neg hcrc]
        exact ⟨rfl, .inl (bootableAt_none fun h => hcrc h.2.1).symm⟩
    · subst m' out
      exact ⟨rfl, .inr ⟨rfl, hfails⟩⟩
  · simp only [if_neg hok]
    exact ⟨rfl, .inl (bootableAt_none fun h => hok h.1).symm⟩

end

theorem slotIsBootable_eval (m : Memory) (bank : UInt8) :
    ((slotIsBootable bank).eval internalFlash m).1.isSome = true ↔ Bootable m bank := by
  have hslot := Program.wp_never_iff.mp
    (wp_slotIsBootable (F := Faults.never iflash) (m := m) bank)
  rcases hslot.2 with hanswer | ⟨_, _, _, _, _, hfail⟩
  · rw [hanswer, bootableAt_isSome]
  · exact hfail.elim

/-!
## A sealed slot
-/

section

variable {m : Memory} {slot : FirmwareSlot} {image : List UInt8} {version : UInt32}

theorem descAddr_slot (slot : FirmwareSlot) : descAddr (fsBankFromSlot slot) = fsDescAddr slot := by
  unfold descAddr fsBankFromSlot fsDescAddr
  cases slot with
  | a => rfl
  | b => rfl
  | none => rfl

theorem slotBase_slot (slot : FirmwareSlot) : slotBase (fsBankFromSlot slot) = fsSlotBase slot := by
  unfold slotBase fsBankFromSlot fsSlotBase
  cases slot with
  | a => rfl
  | b => rfl
  | none => rfl

theorem fsSlotBase_lt (slot : FirmwareSlot) : fsSlotBase slot < 2 ^ 32 := by
  unfold fsSlotBase
  split
  · decide
  · decide

theorem descriptorOk_record (slot : FirmwareSlot) (version crc : UInt32) (len : Nat)
    (hlo : len ≠ 0) (hhi : len <= firmwareSlotSize) :
    DescriptorOk (fsBankFromSlot slot) (fsDescRecord slot (UInt32.ofNat len) version crc) := by
  have hsmall : (UInt32.ofNat len).toNat = len := by
    rw [UInt32.toNat_ofNat']
    change len <= 491520 at hhi
    omega
  refine ⟨rfl, rfl, ?_, ?_, ?_⟩
  · rw [slotBase_slot]
    change (UInt32.ofNat (fsSlotBase slot)).toNat = fsSlotBase slot
    rw [UInt32.toNat_ofNat']
    exact Nat.mod_eq_of_lt (fsSlotBase_lt slot)
  · change (UInt32.ofNat len).toNat ≠ 0
    rw [hsmall]
    exact hlo
  · change (UInt32.ofNat len).toNat <= _
    rw [hsmall]
    exact hhi

/-- A slot with an image and the descriptor for it is bootable exactly when the vectors of the
image are plausible. -/
theorem bootable_sealed (version : UInt32) (hlo : 8 <= image.length)
    (hhi : image.length <= firmwareSlotSize)
    (hdesc : m.slice (fsDescAddr slot) 32 =
      (fsDescRecord slot (UInt32.ofNat image.length) version (configStoreCrc32 image)).bytes)
    (himage : m.slice (fsSlotBase slot) image.length = image) :
    Bootable m (fsBankFromSlot slot) ↔
      VectorsArePlausible (fieldAt image 0 4) (fieldAt image 4 4) (fsSlotBase slot)
        image.length := by
  have hsmall : (UInt32.ofNat image.length).toNat = image.length := by
    rw [UInt32.toNat_ofNat']
    change image.length <= 491520 at hhi
    omega
  have hvectors : m.slice (fsSlotBase slot) 8 = image.take 8 := by
    rw [Memory.slice_take m (fsSlotBase slot) hlo, himage]
  have hfield : forall i, i + 4 <= 8 -> fieldAt (image.take 8) i 4 = fieldAt image i 4 := by
    intro i hi
    unfold fieldAt
    rw [List.drop_take, List.take_take, Nat.min_eq_left (by omega)]
  unfold Bootable
  rw [descAddr_slot, slotBase_slot, hdesc, FirmwareSlotDescriptor.ofBytes_bytes, hvectors,
    hfield 0 (by omega), hfield 4 (by omega)]
  have hok := descriptorOk_record slot version (configStoreCrc32 image) image.length
    (by omega) hhi
  constructor
  · intro h
    have hplausible := h.2.2
    change VectorsArePlausible _ _ _ (UInt32.ofNat image.length).toNat at hplausible
    rw [hsmall] at hplausible
    exact hplausible
  · intro h
    refine ⟨hok, ?_, ?_⟩
    · change configStoreCrc32 (m.slice (fsSlotBase slot) (UInt32.ofNat image.length).toNat) =
        configStoreCrc32 image
      rw [hsmall, himage]
    · change VectorsArePlausible _ _ _ (UInt32.ofNat image.length).toNat
      rw [hsmall]
      exact h

/-- A flash with one sealed image, otherwise erased. -/
def oneImage (slot : FirmwareSlot) (image : List UInt8) (version : UInt32) : Memory :=
  (Memory.program (fun _ => erasedByte) (fsSlotBase slot) image).program (fsDescAddr slot)
    (fsDescRecord slot (UInt32.ofNat image.length) version (configStoreCrc32 image)).bytes

theorem fsDescAddr_below (slot slot' : FirmwareSlot) :
    fsDescAddr slot + 2048 <= fsSlotBase slot' := by
  unfold fsDescAddr fsSlotBase
  split
  · split
    · decide
    · decide
  · split
    · decide
    · decide

theorem bootable_oneImage (hlo : 8 <= image.length) (hhi : image.length <= firmwareSlotSize) :
    Bootable (oneImage slot image version) (fsBankFromSlot slot) ↔
      VectorsArePlausible (fieldAt image 0 4) (fieldAt image 4 4) (fsSlotBase slot)
        image.length := by
  have hbelow := fsDescAddr_below slot slot
  have herased : Memory.Blank (fun _ => erasedByte) (fsSlotBase slot) image.length :=
    fun _ _ _ => rfl
  have hblank : Memory.Blank (Memory.program (fun _ => erasedByte) (fsSlotBase slot) image)
      (fsDescAddr slot) 32 := by
    have hclean : Memory.Blank (fun _ => erasedByte) (fsDescAddr slot) 32 := fun _ _ _ => rfl
    apply hclean.congr
    exact Memory.program_outside (.inl (by omega))
  have hlen := FirmwareSlotDescriptor.bytes_length
    (fsDescRecord slot (UInt32.ofNat image.length) version (configStoreCrc32 image))
  apply bootable_sealed version hlo hhi
  · have hprogram := Memory.slice_program (d := (fsDescRecord slot (UInt32.ofNat image.length)
      version (configStoreCrc32 image)).bytes) (by rw [hlen]; exact hblank)
    rw [hlen] at hprogram
    exact hprogram
  · unfold oneImage
    rw [Memory.slice_congr (Memory.program_outside (.inr (by rw [hlen]; omega)))]
    exact Memory.slice_program herased

end

/-!
## The records a boot writes
-/

/-- The record of a device without one. -/
def initialRecord : FirmwareBootMeta :=
  recordOf firmwareBankA firmwareMetaStateConfirmed firmwareBankB 0 1

/-- The trial is about to start. -/
def trialRecord (r : FirmwareBootMeta) : FirmwareBootMeta :=
  recordOf r.activeBank firmwareMetaStateTrialRunning r.previousBank r.rollbackCount
    (r.generation + 1)

/-- The trial was never confirmed. -/
def abandonRecord (r : FirmwareBootMeta) : FirmwareBootMeta :=
  recordOf r.previousBank firmwareMetaStateRolledBack r.activeBank (r.rollbackCount + 1)
    (r.generation + 1)

/-- The slot `bank` is not bootable, the other one is. -/
def fallbackRecord (r : FirmwareBootMeta) (bank : UInt8) : FirmwareBootMeta :=
  recordOf (otherBank bank) firmwareMetaStateRolledBack bank (r.rollbackCount + 1)
    (r.generation + 1)

/-!
## Step 3
-/

/-- `slot_is_bootable` can answer no. -/
def Refusable (F : Faults iflash) (m : Memory) (bank : UInt8) : Prop :=
  ¬ Bootable m bank ∨ SlotReadFails F

/-- The report for the slot that runs. -/
def reportRun (report : BootReport) (m : Memory) (bank : UInt8) : BootReport :=
  let d := FirmwareSlotDescriptor.ofBytes (m.slice (descAddr bank) 32)
  { report with slotBase := slotBase bank, imageLen := d.imageLen, version := d.version }

def reportInvalid (report : BootReport) : BootReport :=
  { report with events := { report.events with activeInvalid := true } }

def reportUnrecorded (report : BootReport) : BootReport :=
  { report with events := { report.events with metaWriteFailed := true } }

/-- The exits of the step that checks the slots, with the record `r` of copy `c` in RAM. -/
inductive SlotsExit (F : Faults iflash) (m : Memory) (report : BootReport) (c : Nat)
    (r : FirmwareBootMeta) (bank : UInt8) : BootReport -> Memory -> Prop where
  | ran : Bootable m bank ->
      SlotsExit F m report c r bank (finish (reportRun report m bank) (some (c, r)) .run) m
  | limit : Refusable F m bank -> r.rollbackCount >= bootMaxRollbacks ->
      SlotsExit F m report c r bank
        (finish (reportInvalid report) (some (c, r)) .haltRollbackLimit) m
  | noImage : Refusable F m bank -> Refusable F m (otherBank bank) ->
      SlotsExit F m report c r bank (finish (reportInvalid report) (some (c, r)) .haltNoImage) m
  | fellBack : Refusable F m bank -> ¬ r.rollbackCount >= bootMaxRollbacks ->
      Bootable m (otherBank bank) ->
      SlotsExit F m report c r bank
        (finish (reportRun (reportInvalid report) m (otherBank bank))
          (some (recordTarget (some (c, r)), fallbackRecord r bank)) .run)
        (written m (recordTarget (some (c, r))) (fallbackRecord r bank) 24)
  | unrecorded {m' : Memory} : Refusable F m bank -> ¬ r.rollbackCount >= bootMaxRollbacks ->
      Bootable m (otherBank bank) ->
      Underway F m (recordTarget (some (c, r))) (fallbackRecord r bank) m' ->
      (exists op n, F.fails op n) ->
      SlotsExit F m report c r bank
        (finish (reportRun (reportUnrecorded (reportInvalid report)) m (otherBank bank))
          (some (c, r)) .run) m'

/-- What a power cut during that step leaves. -/
inductive SlotsCut (F : Faults iflash) (m : Memory) (c : Nat) (r : FirmwareBootMeta)
    (bank : UInt8) : Memory -> Prop where
  | idle : SlotsCut F m c r bank m
  | writing {m' : Memory} : Refusable F m bank -> ¬ r.rollbackCount >= bootMaxRollbacks ->
      Bootable m (otherBank bank) ->
      Underway F m (recordTarget (some (c, r))) (fallbackRecord r bank) m' ->
      SlotsCut F m c r bank m'

section

variable {F : Faults iflash} {m : Memory}

theorem otherBank_legal (bank : UInt8) : metaBankLegal (otherBank bank) := by
  unfold otherBank
  split
  · exact .inr rfl
  · exact .inl rfl

theorem metaStateLegal_confirmed : metaStateLegal firmwareMetaStateConfirmed := by
  constructor
  · decide
  · decide

theorem metaStateLegal_trialPending : metaStateLegal firmwareMetaStateTrialPending := by
  constructor
  · decide
  · decide

theorem metaStateLegal_trialRunning : metaStateLegal firmwareMetaStateTrialRunning := by
  constructor
  · decide
  · decide

theorem metaStateLegal_rolledBack : metaStateLegal firmwareMetaStateRolledBack := by
  constructor
  · decide
  · decide

variable {bank : UInt8}

theorem wp_slotIsBootable_cases {α : Type} {Q : α -> Memory -> Prop} {C : Memory -> Prop}
    {f : Option (UInt32 × UInt32) -> IFlash α} (hyes : Bootable m bank ->
      (f (some ((FirmwareSlotDescriptor.ofBytes (m.slice (descAddr bank) 32)).imageLen,
        (FirmwareSlotDescriptor.ofBytes (m.slice (descAddr bank) 32)).version))).wp
          internalFlash F Q C m) (hno : Refusable F m bank -> (f none).wp internalFlash F Q C m)
    (hcut : C m) : (slotIsBootable bank >>= f).wp internalFlash F Q C m := by
  apply wp_seq (wp_mono (fun _ _ h => h) _ (wp_slotIsBootable bank))
  · intro out m' hout
    rcases hout with ⟨hsame, hanswer | ⟨hnone, hfails⟩⟩
    · subst m' out
      unfold bootableAt
      by_cases hboot : Bootable m bank
      · simp only [if_pos hboot]
        exact hyes hboot
      · simp only [if_neg hboot]
        exact hno (.inl hboot)
    · subst m' out
      exact hno (.inr hfails)
  · intro m' hsame
    subst m'
    exact hcut

theorem wp_bootSlots (report : BootReport) (c : Nat) (r : FirmwareBootMeta)
    (hbank : metaBankLegal bank) :
    (bootSlots report c r bank).wp internalFlash F (SlotsExit F m report c r bank)
      (SlotsCut F m c r bank) m := by
  unfold bootSlots
  refine wp_slotIsBootable_cases (fun hboot => .ran hboot) (fun hrefused => ?_) .idle
  apply wp_ite
  · intro hlimit
    exact .limit hrefused hlimit
  · intro hroom
    refine wp_slotIsBootable_cases (fun hother => ?_) (fun hnone => .noImage hrefused hnone) .idle
    apply wp_seq (wp_mono (fun _ _ h => h)
      (fun _ hcut => .writing hrefused hroom hother hcut)
      (wp_recordWrite (some (c, r)) _ (otherBank_legal bank) hbank metaStateLegal_rolledBack))
    intro out m' hout
    rcases hout with ⟨hdone, hflash⟩ | ⟨hfailed, hunder, hfault⟩
    · subst out m'
      exact .fellBack hrefused hroom hother
    · subst out
      exact .unrecorded hrefused hroom hother hunder hfault

end

/-!
## The whole boot
-/

/-- The write of the record before step 3, by what the record in force says. -/
inductive BootWrite : BootRecord -> FirmwareBootMeta -> Prop where
  | initial : BootWrite none initialRecord
  | trial {c : Nat} {r : FirmwareBootMeta} : r.bootState = firmwareMetaStateTrialPending ->
      BootWrite (some (c, r)) (trialRecord r)
  | abandon {c : Nat} {r : FirmwareBootMeta} : r.bootState = firmwareMetaStateTrialRunning ->
      ¬ r.rollbackCount >= bootMaxRollbacks -> BootWrite (some (c, r)) (abandonRecord r)

/-- The ways to step 3: the record in RAM, the slot to run, the flash, and whether the write
before it failed. -/
inductive BootStage (F : Faults iflash) (m : Memory) :
    Nat -> FirmwareBootMeta -> UInt8 -> Memory -> Bool -> Prop where
  | settled {c : Nat} {r : FirmwareBootMeta} : inForce m = some (c, r) ->
      r.bootState ≠ firmwareMetaStateTrialPending ->
      r.bootState ≠ firmwareMetaStateTrialRunning ->
      BootStage F m c r r.activeBank m false
  | recorded {r' : FirmwareBootMeta} : BootWrite (inForce m) r' ->
      BootStage F m (targetOf m) r' r'.activeBank (written m (targetOf m) r' 24) false
  | unrecorded {c : Nat} {r : FirmwareBootMeta} {m' : Memory} : inForce m = some (c, r) ->
      r.bootState = firmwareMetaStateTrialRunning -> ¬ r.rollbackCount >= bootMaxRollbacks ->
      Underway F m (targetOf m) (abandonRecord r) m' -> (exists op n, F.fails op n) ->
      BootStage F m c r r.previousBank m' true

/-- The exits of `boot_core_run`. -/
inductive BootExit (F : Faults iflash) (m : Memory) : BootReport -> Memory -> Prop where
  | unreadable {report : BootReport} {c n : Nat} : report.outcome = .haltFlashFault ->
      F.fails (.read (fsMetaAddr c) 24) n -> BootExit F m report m
  | refused {report : BootReport} {r' : FirmwareBootMeta} {m' : Memory} :
      report.outcome = .haltFlashFault -> BootWrite (inForce m) r' ->
      r'.bootState ≠ firmwareMetaStateRolledBack -> Underway F m (targetOf m) r' m' ->
      (exists op n, F.fails op n) -> BootExit F m report m'
  | limit {report : BootReport} {c : Nat} {r : FirmwareBootMeta} :
      report.outcome = .haltRollbackLimit -> inForce m = some (c, r) ->
      r.bootState = firmwareMetaStateTrialRunning -> r.rollbackCount >= bootMaxRollbacks ->
      BootExit F m report m
  | slots {start report : BootReport} {c : Nat} {r : FirmwareBootMeta} {bank : UInt8}
      {m' m'' : Memory} {failed : Bool} : BootStage F m c r bank m' failed ->
      start.events.metaWriteFailed = failed -> SlotsExit F m' start c r bank report m'' ->
      BootExit F m report m''

/-- What a power cut during `boot_core_run` leaves. -/
inductive BootCut (F : Faults iflash) (m : Memory) : Memory -> Prop where
  | idle : BootCut F m m
  | writing {r' : FirmwareBootMeta} {m' : Memory} : BootWrite (inForce m) r' ->
      Underway F m (targetOf m) r' m' -> BootCut F m m'
  | slots {c : Nat} {r : FirmwareBootMeta} {bank : UInt8} {m' m'' : Memory} {failed : Bool} :
      BootStage F m c r bank m' failed -> SlotsCut F m' c r bank m'' -> BootCut F m m''

section

variable {F : Faults iflash} {m : Memory}

@[simp] theorem finish_outcome (report : BootReport) (cur : BootRecord) (outcome : BootOutcome) :
    (finish report cur outcome).outcome = outcome := by
  cases cur with
  | none => rfl
  | some chosen => rfl

variable {r : FirmwareBootMeta} {events : BootEvents} {bank : UInt8} {c : Nat}

theorem runBankOf_recorded (h : events.metaWriteFailed = false) :
    runBankOf events r = r.activeBank := by
  unfold runBankOf
  rw [h]
  exact if_neg fun hfailed => absurd hfailed.1 (by simp)

theorem runBankOf_unrecorded (h : events.metaWriteFailed = true)
    (hstate : r.bootState = firmwareMetaStateTrialRunning) :
    runBankOf events r = r.previousBank := by
  unfold runBankOf
  exact if_pos ⟨h, hstate⟩

theorem wp_bootSlots_stage {start : BootReport} {m' : Memory} {failed : Bool}
    (hstage : BootStage F m c r bank m' failed) (hflag : start.events.metaWriteFailed = failed)
    (hbank : metaBankLegal bank) :
    (bootSlots start c r bank).wp internalFlash F (BootExit F m) (BootCut F m) m' :=
  wp_mono (fun _ _ hexit => .slots hstage hflag hexit)
    (fun _ hcut => .slots hstage hcut) (wp_bootSlots start c r hbank)

theorem wp_bootCoreRun :
    bootCoreRun.wp internalFlash F (BootExit F m) (BootCut F m) m := by
  unfold bootCoreRun
  apply wp_seq (wp_mono (fun _ _ h => h) _ (wp_recordSelect BootEvents.none))
  swap
  · intro m' hsame
    subst m'
    exact .idle
  intro out m' hselect
  rcases out with ⟨readable, found, events⟩
  rcases hselect with ⟨hsame, ⟨hreadable, hfound, hflag⟩ | ⟨hunread, c, n, hfails⟩⟩
  swap
  · subst m'
    change readable = false at hunread
    subst readable
    exact .unreadable (finish_outcome _ _ _) hfails
  subst m'
  change readable = true at hreadable
  change found = inForce m at hfound
  change events.metaWriteFailed = false at hflag
  subst readable
  dsimp only
  rw [if_neg (by simp)]
  have hforce := hfound.symm
  cases found with
  | none =>
      have hwrite : BootWrite (inForce m) initialRecord := by
        rw [hforce]
        exact .initial
      have htarget : recordTarget (none : BootRecord) = targetOf m := by
        unfold targetOf
        rw [hforce]
      apply wp_seq (wp_mono (fun _ _ h => h) _
        (wp_recordWrite none _ (.inl rfl) (.inr rfl) metaStateLegal_confirmed))
      · intro out m' hout
        rcases hout with ⟨hdone, hflash⟩ | ⟨hfailed, hunder, hfault⟩
        · subst out m'
          rw [htarget]
          dsimp only
          rw [runBankOf_recorded (by exact hflag)]
          exact wp_bootSlots_stage (.recorded hwrite) hflag (.inl rfl)
        · subst out
          rw [htarget] at hunder
          exact .refused (finish_outcome _ _ _) hwrite (fun h => by cases h) hunder hfault
      · intro m' hunder
        rw [htarget] at hunder
        exact .writing hwrite hunder
  | some chosen =>
      rcases chosen with ⟨c, r⟩
      have hvalid := inForce_valid hforce
      have hactive : metaBankLegal r.activeBank := hvalid.2.2.1
      have hprevious : metaBankLegal r.previousBank := hvalid.2.2.2.1
      have htarget : recordTarget (some (c, r)) = targetOf m := by
        unfold targetOf
        rw [hforce]
      apply wp_ite
      · intro hpending
        have hwrite : BootWrite (inForce m) (trialRecord r) := by
          rw [hforce]
          exact .trial hpending
        apply wp_seq (wp_mono (fun _ _ h => h) _
          (wp_recordWrite (some (c, r)) _ hactive hprevious metaStateLegal_trialRunning))
        · intro out m' hout
          rcases hout with ⟨hdone, hflash⟩ | ⟨hfailed, hunder, hfault⟩
          · subst out m'
            rw [htarget]
            dsimp only
            rw [runBankOf_recorded (by exact hflag)]
            exact wp_bootSlots_stage (.recorded hwrite) hflag hactive
          · subst out
            rw [htarget] at hunder
            exact .refused (finish_outcome _ _ _) hwrite (fun h => by cases h) hunder hfault
        · intro m' hunder
          rw [htarget] at hunder
          exact .writing hwrite hunder
      · intro hpending
        apply wp_ite
        · intro hrunning
          apply wp_ite
          · intro hlimit
            exact .limit (finish_outcome _ _ _) hforce hrunning hlimit
          · intro hroom
            have hwrite : BootWrite (inForce m) (abandonRecord r) := by
              rw [hforce]
              exact .abandon hrunning hroom
            apply wp_seq (wp_mono (fun _ _ h => h) _
              (wp_recordWrite (some (c, r)) _ hprevious hactive metaStateLegal_rolledBack))
            · intro out m' hout
              rcases hout with ⟨hdone, hflash⟩ | ⟨hfailed, hunder, hfault⟩
              · subst out m'
                rw [htarget]
                dsimp only
                rw [runBankOf_recorded (by exact hflag)]
                exact wp_bootSlots_stage (.recorded hwrite) hflag hprevious
              · subst out
                rw [htarget] at hunder
                dsimp only
                rw [runBankOf_unrecorded rfl hrunning]
                exact wp_bootSlots_stage (.unrecorded hforce hrunning hroom hunder hfault) rfl
                  hprevious
            · intro m' hunder
              rw [htarget] at hunder
              exact .writing hwrite hunder
        · intro hrunning
          rw [runBankOf_recorded (by exact hflag)]
          exact wp_bootSlots_stage (.settled hforce hpending hrunning) hflag hactive

theorem bootCoreRun_eval (m : Memory) :
    BootExit (Faults.never iflash) m (bootCoreRun.eval internalFlash m).1
      (bootCoreRun.eval internalFlash m).2 :=
  Program.wp_never_iff.mp wp_bootCoreRun

theorem not_refusable (h : Bootable m bank) : ¬ Refusable (Faults.never iflash) m bank := by
  intro hrefused
  rcases hrefused with hnot | ⟨_, _, _, _, hfails⟩
  · exact hnot h
  · exact hfails

theorem boot_settled (hforce : inForce m = some (c, r))
    (hpending : r.bootState ≠ firmwareMetaStateTrialPending)
    (hrunning : r.bootState ≠ firmwareMetaStateTrialRunning) (hboot : Bootable m r.activeBank) :
    exists start : BootReport, start.events.metaWriteFailed = false ∧
      bootCoreRun.eval internalFlash m =
        (finish (reportRun start m r.activeBank) (some (c, r)) .run, m) := by
  have hexit := bootCoreRun_eval m
  generalize bootCoreRun.eval internalFlash m = out at hexit
  rcases out with ⟨report, m'⟩
  change BootExit (Faults.never iflash) m report m' at hexit
  cases hexit with
  | unreadable _ hfails => exact hfails.elim
  | refused _ _ _ _ hfault =>
      rcases hfault with ⟨_, _, hfails⟩
      exact hfails.elim
  | limit _ hforce' hrunning' _ =>
      rw [hforce] at hforce'
      cases hforce'
      exact absurd hrunning' hrunning
  | slots hstage hflag hslots =>
      cases hstage with
      | settled hforce' _ _ =>
          rw [hforce] at hforce'
          cases hforce'
          cases hslots with
          | ran _ => exact ⟨_, hflag, rfl⟩
          | limit hrefused _ => exact absurd hrefused (not_refusable hboot)
          | noImage hrefused _ => exact absurd hrefused (not_refusable hboot)
          | fellBack hrefused _ _ => exact absurd hrefused (not_refusable hboot)
          | unrecorded hrefused _ _ _ _ => exact absurd hrefused (not_refusable hboot)
      | recorded hwrite =>
          rw [hforce] at hwrite
          cases hwrite with
          | trial hpending' => exact absurd hpending' hpending
          | abandon hrunning' _ => exact absurd hrunning' hrunning
      | unrecorded _ _ _ _ hfault =>
          rcases hfault with ⟨_, _, hfails⟩
          exact hfails.elim

theorem boot_trial (hforce : inForce m = some (c, r))
    (hpending : r.bootState = firmwareMetaStateTrialPending) (hboot : Bootable m r.activeBank) :
    exists start : BootReport, start.events.metaWriteFailed = false ∧
      bootCoreRun.eval internalFlash m =
        (finish (reportRun start (written m (targetOf m) (trialRecord r) 24) r.activeBank)
          (some (targetOf m, trialRecord r)) .run,
        written m (targetOf m) (trialRecord r) 24) := by
  have hstill : Bootable (written m (targetOf m) (trialRecord r) 24) r.activeBank :=
    (bootable_metaPage (written_sameOutside m _ _ 24)).mpr hboot
  have hother : r.bootState ≠ firmwareMetaStateTrialRunning := by
    rw [hpending]
    decide
  have hexit := bootCoreRun_eval m
  generalize bootCoreRun.eval internalFlash m = out at hexit
  rcases out with ⟨report, m'⟩
  change BootExit (Faults.never iflash) m report m' at hexit
  cases hexit with
  | unreadable _ hfails => exact hfails.elim
  | refused _ _ _ _ hfault =>
      rcases hfault with ⟨_, _, hfails⟩
      exact hfails.elim
  | limit _ hforce' hrunning _ =>
      rw [hforce] at hforce'
      cases hforce'
      exact absurd hrunning hother
  | slots hstage hflag hslots =>
      cases hstage with
      | settled hforce' hpending' _ =>
          rw [hforce] at hforce'
          cases hforce'
          exact absurd hpending hpending'
      | recorded hwrite =>
          rw [hforce] at hwrite
          cases hwrite with
          | trial _ =>
              cases hslots with
              | ran _ => exact ⟨_, hflag, rfl⟩
              | limit hrefused _ => exact absurd hrefused (not_refusable hstill)
              | noImage hrefused _ => exact absurd hrefused (not_refusable hstill)
              | fellBack hrefused _ _ => exact absurd hrefused (not_refusable hstill)
              | unrecorded hrefused _ _ _ _ => exact absurd hrefused (not_refusable hstill)
          | abandon hrunning _ => exact absurd hrunning hother
      | unrecorded _ _ _ _ hfault =>
          rcases hfault with ⟨_, _, hfails⟩
          exact hfails.elim

end

end EnvMonitor.Gateway.Bootloader
