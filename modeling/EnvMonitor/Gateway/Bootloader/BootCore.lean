import EnvMonitor.Gateway.FirmwareStore.ImageFormat

/-!
# The bootloader's decision

The functions of `boot_core.c`.
-/

namespace EnvMonitor.Gateway.Bootloader

open Device Drivers Gateway.ConfigStore FirmwareStore

abbrev bootChunkBytes : Nat := 256
abbrev bootWriteAttempts : Nat := 2

/-- Bytes of a boot record that are programmed before the CRC double word. -/
abbrev bootMetaHeadBytes : Nat := 16

abbrev bootSramAliasBase : Nat := 0x20000000
abbrev bootSramAliasEnd : Nat := 0x20020000
abbrev bootSram2Base : Nat := 0x10000000
abbrev bootSram2End : Nat := 0x10008000

abbrev bootMaxRollbacks : UInt32 := 16

inductive BootOutcome where
  | run
  | haltNoImage
  | haltRollbackLimit
  | haltFlashFault
  deriving DecidableEq, Repr

/-- The `BOOT_EVT_*` bits. -/
structure BootEvents where
  recordInitialised : Bool
  trialStarted : Bool
  trialAbandoned : Bool
  activeInvalid : Bool
  metaWriteFailed : Bool
  copyInvalid : Bool
  deriving DecidableEq, Repr

def BootEvents.none : BootEvents :=
  ⟨false, false, false, false, false, false⟩

structure BootReport where
  outcome : BootOutcome
  events : BootEvents
  slotBase : Nat
  imageLen : UInt32
  version : UInt32
  stateIn : UInt8
  stateOut : UInt8
  activeBank : UInt8
  generation : UInt32
  rollbackCount : UInt32
  deriving DecidableEq, Repr

/-- The record in force: the copy and its record, or none. -/
abbrev BootRecord := Option (Nat × FirmwareBootMeta)

def bankIsLegal (bank : UInt8) : Prop :=
  bank = firmwareBankA ∨ bank = firmwareBankB

instance (bank : UInt8) : Decidable (bankIsLegal bank) := by
  unfold bankIsLegal
  infer_instance

def otherBank (bank : UInt8) : UInt8 :=
  if bank = firmwareBankA then firmwareBankB else firmwareBankA

def slotBase (bank : UInt8) : Nat :=
  if bank = firmwareBankB then firmwareSlotBBase else firmwareSlotABase

def descAddr (bank : UInt8) : Nat :=
  if bank = firmwareBankB then firmwareDescBAddr else firmwareDescAAddr

def metaAddr (copy : Nat) : Nat :=
  if copy = 0 then firmwareMetaAAddr else firmwareMetaBAddr

def RecordIsValid (r : FirmwareBootMeta) : Prop :=
  r.magic = firmwareMetaMagic ∧ r.crc32 = configStoreCrc32 r.body ∧
    bankIsLegal r.activeBank ∧ bankIsLegal r.previousBank ∧
    r.bootState >= firmwareMetaStateConfirmed ∧ r.bootState <= firmwareMetaStateRolledBack

instance (r : FirmwareBootMeta) : Decidable (RecordIsValid r) := by
  unfold RecordIsValid
  infer_instance

def recordIsBlank (r : FirmwareBootMeta) : Bool :=
  r.bytes.all (fun byte => byte == erasedByte)

/-- One turn of the loop over the copies. -/
def recordTake (c : Nat) (r : FirmwareBootMeta) (cur : BootRecord) (events : BootEvents) :
    BootRecord × BootEvents :=
  if RecordIsValid r then
    match cur with
    | none => (some (c, r), events)
    | some (_, best) =>
        if r.generation > best.generation then (some (c, r), events) else (cur, events)
  else
    (cur, if recordIsBlank r then events else { events with copyInvalid := true })

/-- The loop of `record_select` over the copies left.  The flag says whether both could be
read. -/
def recordSelectLoop : List Nat -> BootRecord -> BootEvents ->
    IFlash (Bool × BootRecord × BootEvents)
  | [], cur, events => pure (true, cur, events)
  | c :: copies, cur, events => do
      match ← iflashRead (metaAddr c) 24 with
      | none => pure (false, cur, events)
      | some raw =>
          let taken := recordTake c (FirmwareBootMeta.ofBytes raw) cur events
          recordSelectLoop copies taken.1 taken.2

def recordSelect (events : BootEvents) : IFlash (Bool × BootRecord × BootEvents) :=
  recordSelectLoop [0, 1] none events

/-- One attempt of the write protocol: erase, program (CRC last), read back, compare. -/
def recordWriteOnce (addr : Nat) (r : FirmwareBootMeta) : IFlash Bool := do
  let erased ← iflashErasePage addr
  if erased then
    let head ← iflashProgram addr (r.bytes.take bootMetaHeadBytes)
    if head then
      let tail ← iflashProgram (addr + bootMetaHeadBytes) (r.bytes.drop bootMetaHeadBytes)
      if tail then
        match ← iflashRead addr 24 with
        | none => pure false
        | some back => pure (decide (back = r.bytes))
      else
        pure false
    else
      pure false
  else
    pure false

def recordWriteAttempts : Nat -> Nat -> FirmwareBootMeta -> IFlash Bool
  | 0, _, _ => pure false
  | attempts + 1, addr, r => do
      let written ← recordWriteOnce addr r
      if written then pure true else recordWriteAttempts attempts addr r

/-- The copy that is not selected; copy A if none is. -/
def recordTarget (cur : BootRecord) : Nat :=
  match cur with
  | some (0, _) => 1
  | _ => 0

def recordNextGeneration (cur : BootRecord) : UInt32 :=
  match cur with
  | some (_, r) => r.generation + 1
  | none => 1

/-- The record `record_write` builds, its CRC included. -/
def recordOf (active state previous : UInt8) (count generation : UInt32) : FirmwareBootMeta :=
  let r : FirmwareBootMeta :=
    { magic := firmwareMetaMagic
      activeBank := active
      bootState := state
      previousBank := previous
      reserved := 0xFF
      rollbackCount := count
      generation := generation
      crc32 := 0
      pad := firmwareErasedWord }
  { r with crc32 := configStoreCrc32 r.body }

def recordWrite (cur : BootRecord) (active state previous : UInt8) (count : UInt32) :
    IFlash (Bool × BootRecord) := do
  let target := recordTarget cur
  let r := recordOf active state previous count (recordNextGeneration cur)
  let written ← recordWriteAttempts bootWriteAttempts (metaAddr target) r
  if written then
    pure (true, some (target, r))
  else
    pure (false, cur)

/-- Whether the vector pair could be the start of an image of `len` bytes at `base`. -/
def VectorsArePlausible (sp pc base len : Nat) : Prop :=
  (sp % 8 = 0 ∧ ((bootSramAliasBase < sp ∧ sp <= bootSramAliasEnd) ∨
      (bootSram2Base < sp ∧ sp <= bootSram2End))) ∧
    (pc % 2 = 1 ∧ base <= pc - 1 ∧ pc - 1 < base + len)

instance (sp pc base len : Nat) : Decidable (VectorsArePlausible sp pc base len) := by
  unfold VectorsArePlausible
  infer_instance

/-- The tests of `slot_is_bootable` on the descriptor. -/
def DescriptorOk (bank : UInt8) (d : FirmwareSlotDescriptor) : Prop :=
  d.magic = firmwareDescMagic ∧ d.descCrc32 = configStoreCrc32 d.body ∧
    d.loadAddr.toNat = slotBase bank ∧ d.imageLen.toNat ≠ 0 ∧
    d.imageLen.toNat <= firmwareSlotSize

instance (bank : UInt8) (d : FirmwareSlotDescriptor) : Decidable (DescriptorOk bank d) := by
  unfold DescriptorOk
  infer_instance

/-- The body CRC, one chunk at a time; `none` for a failed read. -/
def bodyCrcLoop : Nat -> Nat -> Nat -> UInt32 -> IFlash (Option UInt32)
  | 0, _, _, crc => pure (some crc)
  | fuel + 1, addr, left, crc =>
      if left > 0 then do
        let n := min left bootChunkBytes
        match ← iflashRead addr n with
        | none => pure none
        | some chunk => bodyCrcLoop fuel (addr + n) (left - n) (configStoreCrc32Feed crc chunk)
      else
        pure (some crc)

/-- The length and the version of a bootable slot. -/
def slotIsBootable (bank : UInt8) : IFlash (Option (UInt32 × UInt32)) := do
  let base := slotBase bank
  match ← iflashRead (descAddr bank) 32 with
  | none => pure none
  | some raw =>
      let d := FirmwareSlotDescriptor.ofBytes raw
      if DescriptorOk bank d then
        match ← bodyCrcLoop d.imageLen.toNat base d.imageLen.toNat configStoreCrc32Begin with
        | none => pure none
        | some crc =>
            if configStoreCrc32End crc = d.bodyCrc32 then
              match ← iflashRead base 8 with
              | none => pure none
              | some vectors =>
                  if VectorsArePlausible (fieldAt vectors 0 4) (fieldAt vectors 4 4) base
                      d.imageLen.toNat then
                    pure (some (d.imageLen, d.version))
                  else
                    pure none
            else
              pure none
      else
        pure none

/-- The report without its outcome. -/
def reportStart (events : BootEvents) (stateIn : UInt8) : BootReport where
  outcome := .run
  events := events
  slotBase := 0
  imageLen := 0
  version := 0
  stateIn := stateIn
  stateOut := 0
  activeBank := 0
  generation := 0
  rollbackCount := 0

def finish (report : BootReport) (cur : BootRecord) (outcome : BootOutcome) : BootReport :=
  match cur with
  | some (_, r) =>
      { report with
        outcome := outcome
        stateOut := r.bootState
        activeBank := r.activeBank
        generation := r.generation
        rollbackCount := r.rollbackCount }
  | none => { report with outcome := outcome }

/-- Step 3: the slot that is to run, or else the other one. -/
def bootSlots (report : BootReport) (copy : Nat) (r : FirmwareBootMeta) (runBank : UInt8) :
    IFlash BootReport := do
  match ← slotIsBootable runBank with
  | some (len, version) =>
      pure (finish
        { report with slotBase := slotBase runBank, imageLen := len, version := version }
        (some (copy, r)) .run)
  | none =>
      let invalid := { report with events := { report.events with activeInvalid := true } }
      let other := otherBank runBank
      if r.rollbackCount >= bootMaxRollbacks then
        pure (finish invalid (some (copy, r)) .haltRollbackLimit)
      else
        match ← slotIsBootable other with
        | none => pure (finish invalid (some (copy, r)) .haltNoImage)
        | some (len, version) =>
            let (written, cur) ← recordWrite (some (copy, r)) other firmwareMetaStateRolledBack
              runBank (r.rollbackCount + 1)
            let events := if written then invalid.events
              else { invalid.events with metaWriteFailed := true }
            pure (finish
              { invalid with
                events := events
                slotBase := slotBase other
                imageLen := len
                version := version }
              cur .run)

/-- Which slot to run: the one the record in force names, unless the rollback of an
abandoned trial could not be recorded. -/
def runBankOf (events : BootEvents) (r : FirmwareBootMeta) : UInt8 :=
  if events.metaWriteFailed = true ∧ r.bootState = firmwareMetaStateTrialRunning then
    r.previousBank
  else
    r.activeBank

def bootCoreRun : IFlash BootReport := do
  let (readable, found, events) ← recordSelect BootEvents.none
  if readable = false then
    pure (finish (reportStart events 0) found .haltFlashFault)
  else
    match found with
    | none =>
        let initialised := { events with recordInitialised := true }
        let (written, cur) ← recordWrite none firmwareBankA firmwareMetaStateConfirmed
          firmwareBankB 0
        match written, cur with
        | true, some (copy, r) =>
            bootSlots (reportStart initialised 0) copy r (runBankOf initialised r)
        | _, _ =>
            pure (finish (reportStart { initialised with metaWriteFailed := true } 0) cur
              .haltFlashFault)
    | some (copy, r) =>
        if r.bootState = firmwareMetaStateTrialPending then
          let (written, cur) ← recordWrite found r.activeBank firmwareMetaStateTrialRunning
            r.previousBank r.rollbackCount
          match written, cur with
          | true, some (copy', r') =>
              let started := { events with trialStarted := true }
              bootSlots (reportStart started r.bootState) copy' r' (runBankOf started r')
          | _, _ =>
              pure (finish
                (reportStart { events with metaWriteFailed := true } r.bootState) cur
                .haltFlashFault)
        else if r.bootState = firmwareMetaStateTrialRunning then
          if r.rollbackCount >= bootMaxRollbacks then
            pure (finish (reportStart events r.bootState) found .haltRollbackLimit)
          else
            let (written, cur) ← recordWrite found r.previousBank firmwareMetaStateRolledBack
              r.activeBank (r.rollbackCount + 1)
            match written, cur with
            | true, some (copy', r') =>
                let abandoned := { events with trialAbandoned := true }
                bootSlots (reportStart abandoned r.bootState) copy' r' (runBankOf abandoned r')
            | _, _ =>
                let failed := { events with metaWriteFailed := true }
                bootSlots (reportStart failed r.bootState) copy r (runBankOf failed r)
        else
          bootSlots (reportStart events r.bootState) copy r (runBankOf events r)

end EnvMonitor.Gateway.Bootloader
