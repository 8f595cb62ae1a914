import EnvMonitor.Gateway.FirmwareStore.ImageFormat

/-!
# Boot metadata and slot descriptors, application side

The functions of `fs_metadata.c`.
-/

namespace EnvMonitor.Gateway.FirmwareStore

open Device Drivers Gateway.ConfigStore

inductive FirmwareStoreErr where
  | ok
  | nullPointer
  | notInitialised
  | noInstance
  | badParam
  | badState
  | notOtaCapable
  | noSession
  | incomplete
  | tooLarge
  | badHeader
  | wrongSlot
  | sigInvalid
  | hashMismatch
  | badImage
  | crypto
  | flashRead
  | flashErase
  | flashWrite
  | installVerify
  deriving DecidableEq, Repr

inductive FirmwareSlot where
  | a
  | b
  | none
  deriving DecidableEq, Repr

/-- Marker for "no valid metadata copy". -/
abbrev fsMetaNone : Nat := 0xFF

/-- The selected boot metadata record, held in RAM. -/
structure FsMeta where
  selected : Nat
  activeBank : UInt8
  bootState : UInt8
  previousBank : UInt8
  rollbackCount : UInt32
  generation : UInt32
  deriving DecidableEq, Repr

abbrev fsMetaRecordLen : Nat := 24
abbrev fsMetaBodyLen : Nat := 16
abbrev fsDwordLen : Nat := 8
abbrev fsDescRecordLen : Nat := 32
abbrev fsDescBodyLen : Nat := 24

def fsSlotBase (slot : FirmwareSlot) : Nat :=
  if slot = .b then firmwareSlotBBase else firmwareSlotABase

def fsDescAddr (slot : FirmwareSlot) : Nat :=
  if slot = .b then firmwareDescBAddr else firmwareDescAAddr

def fsSlotFromBank (bank : UInt8) : FirmwareSlot :=
  if bank = firmwareBankA then .a else if bank = firmwareBankB then .b else .none

def fsBankFromSlot (slot : FirmwareSlot) : UInt8 :=
  if slot = .b then firmwareBankB else firmwareBankA

/-!
## On-chip flash access
-/

/-- `none` stands for `FIRMWARE_STORE_ERR_FLASH_READ`. -/
def fsIfRead (addr len : Nat) : IFlash (Option (List UInt8)) :=
  iflashRead addr len

def fsIfErasePage (addr : Nat) : IFlash FirmwareStoreErr := do
  let erased ← iflashErasePage addr
  pure (if erased then .ok else .flashErase)

def fsIfProgram (addr : Nat) (data : List UInt8) : IFlash FirmwareStoreErr := do
  let programmed ← iflashProgram addr data
  pure (if programmed then .ok else .flashWrite)

/-!
## Boot metadata
-/

def metaBankLegal (bank : UInt8) : Prop :=
  bank = firmwareBankA ∨ bank = firmwareBankB

def metaStateLegal (state : UInt8) : Prop :=
  state >= firmwareMetaStateConfirmed ∧ state <= firmwareMetaStateRolledBack

instance (bank : UInt8) : Decidable (metaBankLegal bank) := by
  unfold metaBankLegal
  infer_instance

instance (state : UInt8) : Decidable (metaStateLegal state) := by
  unfold metaStateLegal
  infer_instance

/-- The tests of `meta_parse` on a decoded record. -/
def MetaLegal (raw : List UInt8) (rec : FirmwareBootMeta) : Prop :=
  rec.magic = firmwareMetaMagic ∧ rec.crc32 = configStoreCrc32 (raw.take 16) ∧
    metaBankLegal rec.activeBank ∧ metaBankLegal rec.previousBank ∧ metaStateLegal rec.bootState

instance (raw : List UInt8) (rec : FirmwareBootMeta) : Decidable (MetaLegal raw rec) := by
  unfold MetaLegal
  infer_instance

def metaParse (raw : List UInt8) : Option FirmwareBootMeta :=
  let rec' := FirmwareBootMeta.ofBytes raw
  if MetaLegal raw rec' then some rec' else none

def fsMetaOf (copy : Nat) (rec : FirmwareBootMeta) : FsMeta where
  selected := copy
  activeBank := rec.activeBank
  bootState := rec.bootState
  previousBank := rec.previousBank
  rollbackCount := rec.rollbackCount
  generation := rec.generation

/-- The record of `fs_meta_load` when neither copy is valid. -/
def fsMetaAbsent : FsMeta where
  selected := fsMetaNone
  activeBank := 0
  bootState := 0
  previousBank := 0
  rollbackCount := 0
  generation := 0

/-- The valid copy with the higher generation; copy A on a tie. -/
def fsMetaSelect : Option FirmwareBootMeta -> Option FirmwareBootMeta -> FsMeta
  | some recA, some recB =>
      if recA.generation >= recB.generation then fsMetaOf 0 recA else fsMetaOf 1 recB
  | some recA, none => fsMetaOf 0 recA
  | none, some recB => fsMetaOf 1 recB
  | none, none => fsMetaAbsent

/-- `none` stands for `FIRMWARE_STORE_ERR_FLASH_READ`. -/
def fsMetaLoad : IFlash (Option FsMeta) := do
  match ← fsIfRead firmwareMetaAAddr fsMetaRecordLen with
  | none => pure none
  | some rawA =>
      match ← fsIfRead firmwareMetaBAddr fsMetaRecordLen with
      | none => pure none
      | some rawB => pure (some (fsMetaSelect (metaParse rawA) (metaParse rawB)))

/-- The record `fs_meta_write` builds, its CRC included. -/
def fsMetaRecord (activeBank bootState previousBank : UInt8) (rollbackCount generation : UInt32) :
    FirmwareBootMeta :=
  let rec' : FirmwareBootMeta :=
    { magic := firmwareMetaMagic
      activeBank := activeBank
      bootState := bootState
      previousBank := previousBank
      reserved := 0xFF
      rollbackCount := rollbackCount
      generation := generation
      crc32 := 0
      pad := firmwareErasedWord }
  { rec' with crc32 := configStoreCrc32 rec'.body }

/-- The copy that is not selected; copy A when neither is valid. -/
def fsMetaTarget (fsMeta : FsMeta) : Nat :=
  if fsMeta.selected = 0 then 1 else 0

def fsMetaAddr (copy : Nat) : Nat :=
  if copy = 0 then firmwareMetaAAddr else firmwareMetaBAddr

def fsMetaNextGeneration (fsMeta : FsMeta) : UInt32 :=
  if fsMeta.selected = fsMetaNone then 1 else fsMeta.generation + 1

/-- Erase, two double words, the double word with the CRC, and the read-back. -/
def fsMetaProgram (addr : Nat) (rec : FirmwareBootMeta) : IFlash FirmwareStoreErr := do
  let erased ← fsIfErasePage addr
  if erased = .ok then
    let body ← fsIfProgram addr (rec.bytes.take fsMetaBodyLen)
    if body = .ok then
      let tail ← fsIfProgram (addr + fsMetaBodyLen) (rec.bytes.drop fsMetaBodyLen)
      if tail = .ok then
        match ← fsIfRead addr fsMetaRecordLen with
        | none => pure .flashRead
        | some back =>
            if back ≠ rec.bytes ∨ metaParse back = none then pure .flashWrite else pure .ok
      else
        pure tail
    else
      pure body
  else
    pure erased

def fsMetaWrite (fsMeta : FsMeta) (activeBank bootState previousBank : UInt8)
    (rollbackCount : UInt32) : IFlash (FirmwareStoreErr × FsMeta) := do
  let target := fsMetaTarget fsMeta
  let rec' := fsMetaRecord activeBank bootState previousBank rollbackCount
    (fsMetaNextGeneration fsMeta)
  let err ← fsMetaProgram (fsMetaAddr target) rec'
  if err = .ok then
    pure (.ok, fsMetaOf target rec')
  else
    pure (err, fsMeta)

/-!
## Slot descriptors
-/

/-- The tests of `fs_desc_read`. -/
def DescLegal (slot : FirmwareSlot) (raw : List UInt8) : Prop :=
  let d := FirmwareSlotDescriptor.ofBytes raw
  d.magic = firmwareDescMagic ∧ d.descCrc32 = configStoreCrc32 (raw.take 24) ∧
    d.loadAddr.toNat = fsSlotBase slot ∧ d.imageLen.toNat >= fsDwordLen ∧
    d.imageLen.toNat <= firmwareMaxImageLen

instance (slot : FirmwareSlot) (raw : List UInt8) : Decidable (DescLegal slot raw) := by
  unfold DescLegal
  infer_instance

/-- Whether the descriptor is valid, and the descriptor as read. -/
def fsDescRead (slot : FirmwareSlot) : IFlash (Option (Bool × FirmwareSlotDescriptor)) := do
  match ← fsIfRead (fsDescAddr slot) fsDescRecordLen with
  | none => pure none
  | some raw => pure (some (decide (DescLegal slot raw), FirmwareSlotDescriptor.ofBytes raw))

def fsDescErase (slot : FirmwareSlot) : IFlash FirmwareStoreErr :=
  fsIfErasePage (fsDescAddr slot)

/-- The descriptor `fs_desc_write` builds, its CRC included. -/
def fsDescRecord (slot : FirmwareSlot) (imageLen version bodyCrc32 : UInt32) :
    FirmwareSlotDescriptor :=
  let d : FirmwareSlotDescriptor :=
    { magic := firmwareDescMagic
      imageLen := imageLen
      version := version
      loadAddr := UInt32.ofNat (fsSlotBase slot)
      bodyCrc32 := bodyCrc32
      reserved := firmwareErasedWord
      descCrc32 := 0
      pad := firmwareErasedWord }
  { d with descCrc32 := configStoreCrc32 d.body }

def fsDescWrite (slot : FirmwareSlot) (imageLen version bodyCrc32 : UInt32) :
    IFlash FirmwareStoreErr := do
  let addr := fsDescAddr slot
  let d := fsDescRecord slot imageLen version bodyCrc32
  let body ← fsIfProgram addr (d.bytes.take fsDescBodyLen)
  if body = .ok then
    let tail ← fsIfProgram (addr + fsDescBodyLen) (d.bytes.drop fsDescBodyLen)
    if tail = .ok then
      match ← fsIfRead addr fsDescRecordLen with
      | none => pure .flashRead
      | some back => if back ≠ d.bytes then pure .flashWrite else pure .ok
    else
      pure tail
  else
    pure body

end EnvMonitor.Gateway.FirmwareStore
