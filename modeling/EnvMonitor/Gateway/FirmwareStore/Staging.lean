import EnvMonitor.Drivers.QspiFlash
import EnvMonitor.Gateway.FirmwareStore.Metadata

/-!
# The staging area

The functions of `fs_staging.c`: the resume journal and the lazily erased image file.
-/

namespace EnvMonitor.Gateway.FirmwareStore

open Device Drivers Gateway.ConfigStore

abbrev firmwareStoreStagingBase : Nat := 0x00120000
abbrev firmwareJournalSize : Nat := 4096
abbrev firmwareStagingImageOffset : Nat := 0x1000
abbrev firmwareCheckpointStep : Nat := 4096
abbrev firmwareJournalMagic : UInt32 := 0x4F54414A
abbrev firmwareJournalEntriesOffset : Nat := 0x10
abbrev firmwareJournalEntryCount : Nat := 510

/-- Largest single QSPI read issued. -/
abbrev fsReadChunk : Nat := 2048

/-- Journal entries that fit the scratch buffer. -/
abbrev fsEntriesPerWindow : Nat := 32

def journalAddr : Nat :=
  firmwareStoreStagingBase

def imageAddr (pos : Nat) : Nat :=
  firmwareStoreStagingBase + firmwareStagingImageOffset + pos

/-!
## QSPI access
-/

/-- `none` stands for `FIRMWARE_STORE_ERR_FLASH_READ`. -/
def qRead (addr len : Nat) : Qspi (Option (List UInt8)) :=
  qspiRead addr len

def qErase (addr : Nat) : Qspi FirmwareStoreErr := do
  let erased ← qspiEraseSector addr
  pure (if erased then .ok else .flashErase)

def qProgram (addr : Nat) (data : List UInt8) : Qspi FirmwareStoreErr := do
  let programmed ← qspiWritePage addr data
  pure (if programmed then .ok else .flashWrite)

def fsStageReadLoop : Nat -> Nat -> Nat -> Qspi (Option (List UInt8))
  | 0, _, _ => pure (some [])
  | fuel + 1, pos, left =>
      if left > 0 then do
        let n := min left fsReadChunk
        match ← qRead (imageAddr pos) n with
        | none => pure none
        | some chunk =>
            match ← fsStageReadLoop fuel (pos + n) (left - n) with
            | none => pure none
            | some rest => pure (some (chunk ++ rest))
      else
        pure (some [])

def fsStageRead (pos len : Nat) : Qspi (Option (List UInt8)) :=
  fsStageReadLoop len pos len

/-!
## Journal
-/

/-- The entry `{value, ~value}`. -/
def journalEntryBytes (value : Nat) : List UInt8 :=
  putLe 4 value ++ putLe 4 (2 ^ 32 - 1 - value)

/-- Append to the first free entry; the number is the new `next`. -/
def journalAppend (next value : Nat) : Qspi (FirmwareStoreErr × Nat) :=
  if next >= firmwareJournalSize then
    pure (.flashWrite, next)
  else do
    let err ← qProgram (journalAddr + next) (journalEntryBytes value)
    pure (err, if err = .ok then next + 8 else next)

def journalSessionBody (imageId : UInt32) (fileLen : Nat) : List UInt8 :=
  wordBytes firmwareJournalMagic ++ (wordBytes imageId ++ putLe 4 fileLen)

def journalSessionBytes (imageId : UInt32) (fileLen : Nat) : List UInt8 :=
  journalSessionBody imageId fileLen ++
    wordBytes (configStoreCrc32 (journalSessionBody imageId fileLen))

def fsJournalBegin (imageId : UInt32) (fileLen next : Nat) : Qspi (FirmwareStoreErr × Nat) := do
  let erased ← qErase journalAddr
  if erased = .ok then
    let programmed ← qProgram journalAddr (journalSessionBytes imageId fileLen)
    if programmed = .ok then
      match ← qRead journalAddr 16 with
      | none => pure (.flashRead, next)
      | some back =>
          if back ≠ journalSessionBytes imageId fileLen then pure (.flashWrite, next)
          else pure (.ok, firmwareJournalEntriesOffset)
    else
      pure (programmed, next)
  else
    pure (erased, next)

def checkpointPlausible (value fileLen : Nat) : Prop :=
  value <= fileLen ∧ (value % firmwareCheckpointStep = 0 ∨ value = fileLen)

instance (value fileLen : Nat) : Decidable (checkpointPlausible value fileLen) := by
  unfold checkpointPlausible
  infer_instance

/-- The session record is present, whole and for this file. -/
def JournalSessionOk (raw : List UInt8) (imageId : UInt32) (fileLen : Nat) : Prop :=
  wordAt raw 0 = firmwareJournalMagic ∧ wordAt raw 12 = configStoreCrc32 (raw.take 12) ∧
    wordAt raw 4 = imageId ∧ fieldAt raw 8 4 = fileLen

instance (raw : List UInt8) (imageId : UInt32) (fileLen : Nat) :
    Decidable (JournalSessionOk raw imageId fileLen) := by
  unfold JournalSessionOk
  infer_instance

def journalEntryErased (entry : List UInt8) : Prop :=
  fieldAt entry 0 4 = 2 ^ 32 - 1 ∧ fieldAt entry 4 4 = 2 ^ 32 - 1

/-- The checkpoint after an entry that is not erased; a torn one is skipped. -/
def journalTake (entry : List UInt8) (fileLen checkpoint : Nat) : Nat :=
  if fieldAt entry 0 4 = 2 ^ 32 - 1 - fieldAt entry 4 4 ∧
      checkpointPlausible (fieldAt entry 0 4) fileLen then
    fieldAt entry 0 4
  else
    checkpoint

instance (entry : List UInt8) : Decidable (journalEntryErased entry) := by
  unfold journalEntryErased
  infer_instance

/-- What the entries of a window say: the checkpoint so far and, if it was reached, the
offset of the first erased entry. -/
def journalWindow (fileLen : Nat) : Nat -> Nat -> List UInt8 -> Nat -> Nat × Option Nat
  | 0, _, _, checkpoint => (checkpoint, none)
  | count + 1, offset, raw, checkpoint =>
      if journalEntryErased (raw.take 8) then
        (checkpoint, some offset)
      else
        journalWindow fileLen count (offset + 8) (raw.drop 8)
          (journalTake (raw.take 8) fileLen checkpoint)

/-- The walk over the entries from entry `first` on, in scratch-sized windows: the
checkpoint and the offset of the first erased entry. -/
def journalWalk (fileLen : Nat) : Nat -> Nat -> Nat -> Qspi (Option (Nat × Nat))
  | 0, _, checkpoint => pure (some (checkpoint, firmwareJournalSize))
  | fuel + 1, first, checkpoint =>
      if first < firmwareJournalEntryCount then do
        let count := min (firmwareJournalEntryCount - first) fsEntriesPerWindow
        let base := firmwareJournalEntriesOffset + first * 8
        match ← qRead (journalAddr + base) (count * 8) with
        | none => pure none
        | some raw =>
            match journalWindow fileLen count base raw checkpoint with
            | (found, some next) => pure (some (found, next))
            | (found, none) => journalWalk fileLen fuel (first + fsEntriesPerWindow) found
      else
        pure (some (checkpoint, firmwareJournalSize))

/-- What a scan found: no session for this file, or the checkpoint and the first free
entry. -/
inductive JournalScan where
  | noSession
  | session (checkpoint next : Nat)
  deriving DecidableEq, Repr

/-- `none` stands for `FIRMWARE_STORE_ERR_FLASH_READ`. -/
def fsJournalScan (imageId : UInt32) (fileLen : Nat) : Qspi (Option JournalScan) := do
  match ← qRead journalAddr 16 with
  | none => pure none
  | some raw =>
      if JournalSessionOk raw imageId fileLen then
        match ← journalWalk fileLen firmwareJournalEntryCount 0 0 with
        | none => pure none
        | some (checkpoint, next) => pure (some (.session checkpoint next))
      else
        pure (some .noSession)

def fsJournalErase : Qspi FirmwareStoreErr :=
  qErase journalAddr

/-!
## Image staging
-/

/-- The loop of `fs_stage_write`; the number is the next free journal entry. -/
def fsStageWriteLoop (fileLen : Nat) :
    Nat -> Nat -> List UInt8 -> Nat -> Qspi (FirmwareStoreErr × Nat)
  | 0, _, _, next => pure (.ok, next)
  | fuel + 1, pos, data, next =>
      if data.length > 0 then do
        -- the first byte of a sector erases it
        let erased ←
          if pos % qspiFlashSectorSizeBytes = 0 then qErase (imageAddr pos) else pure .ok
        let n := min data.length (qspiFlashPageSizeBytes - pos % qspiFlashPageSizeBytes)
        if erased = .ok then
          let programmed ← qProgram (imageAddr pos) (data.take n)
          if programmed = .ok then
            if (pos + n) % firmwareCheckpointStep = 0 ∨ pos + n = fileLen then
              let (appended, next') ← journalAppend next (pos + n)
              if appended = .ok then
                fsStageWriteLoop fileLen fuel (pos + n) (data.drop n) next'
              else
                pure (appended, next')
            else
              fsStageWriteLoop fileLen fuel (pos + n) (data.drop n) next
          else
            pure (programmed, next)
        else
          pure (erased, next)
      else
        pure (.ok, next)

def fsStageWrite (pos : Nat) (data : List UInt8) (fileLen next : Nat) :
    Qspi (FirmwareStoreErr × Nat) :=
  fsStageWriteLoop fileLen data.length pos data next

end EnvMonitor.Gateway.FirmwareStore
