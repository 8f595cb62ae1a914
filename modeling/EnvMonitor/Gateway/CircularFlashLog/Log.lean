import EnvMonitor.Drivers.QspiFlash
import EnvMonitor.Gateway.CircularFlashLog.Format

/-!
# The circular flash log

The operations of `circular_flash_log.c` as programs over the QSPI driver.  An
operation takes the instance and answers the error code and the new
instance.  A helper that can only fail with `CFL_ERR_FLASH_READ` answers `none`
for it.
-/

namespace EnvMonitor.Gateway.CircularFlashLog

open Device Drivers

inductive CflErr where
  | ok
  | nullPtr
  | noResource
  | notInit
  | tooLarge
  | empty
  | full
  | flashErase
  | flashWrite
  | flashRead
  | corrupt
  deriving DecidableEq, Repr

structure CflInst where
  /-- Ring index of the oldest record. -/
  headSector : Nat
  headOffset : Nat
  /-- Ring index of the next write location. -/
  tailSector : Nat
  tailOffset : Nat
  nextSeqNum : Nat
  /-- Unconsumed records. -/
  entryCount : Nat
  byteCount : Nat
  metaSlot : Nat
  metaSeqNum : Nat
  metaSlotValid : Bool
  deriving DecidableEq, Repr

/-- The instance as `memset` leaves it. -/
def cflInstZero : CflInst where
  headSector := 0
  headOffset := 0
  tailSector := 0
  tailOffset := 0
  nextSeqNum := 0
  entryCount := 0
  byteCount := 0
  metaSlot := 0
  metaSeqNum := 0
  metaSlotValid := false

def cflDataSectorAddr (ringIndex : Nat) : Nat :=
  cflPartitionBaseAddr + (cflDataSectorBase + ringIndex) * cflSectorSizeBytes

def cflMetaSlotAddr (slot : Nat) : Nat :=
  cflPartitionBaseAddr + slot * cflSectorSizeBytes

def cflNextSector (sector : Nat) : Nat :=
  (sector + 1) % cflDataSectorCount

/-!
## Reading records
-/

def cflReadHeader (sector offset : Nat) : Qspi (Option CflRecordHdr) := do
  let raw ← qspiRead (cflDataSectorAddr sector + offset) cflRecordHeaderSz
  pure (raw.map cflParseHeader)

/-- Fold the payload into the check sum, one chunk at a time. -/
def cflCrcLoop : Nat -> Nat -> Nat -> UInt16 -> Qspi (Option UInt16)
  | 0, _, _, crc => pure (some crc)
  | fuel + 1, readAt, remaining, crc =>
      if remaining > 0 then do
        let take := min remaining cflScanChunkBytes
        match ← qspiRead readAt take with
        | none => pure none
        | some chunk =>
            cflCrcLoop fuel (readAt + take) (remaining - take) (cflCrc16Update crc chunk)
      else
        pure (some crc)

def cflVerifyRecordCrc (sector offset : Nat) (hdr : CflRecordHdr) :
    Qspi (Option Bool) := do
  let base := cflDataSectorAddr sector + offset
  let start := cflCrc16Update 0 (cflHeaderBytes hdr)
  match ← cflCrcLoop hdr.dataLen (base + cflRecordHeaderSz) hdr.dataLen start with
  | none => pure none
  | some crc =>
      match ← qspiRead (base + cflRecordHeaderSz + hdr.dataLen) cflRecordCrcSz with
      | none => pure none
      | some stored => pure (some (getLe stored == crc.toNat))

/-!
## Metadata zone
-/

/-- Take over a valid slot that is the first one or newer than the one held. -/
def cflMetaTake (inst : CflInst) (slot : Nat) (seq head : Nat) : CflInst :=
  if inst.metaSlotValid = false ∨ seq > inst.metaSeqNum then
    { inst with
      metaSlotValid := true
      metaSlot := slot
      metaSeqNum := seq
      headSector := head }
  else
    inst

def cflMetaLoadSlots : List Nat -> CflInst -> Qspi (Option CflInst)
  | [], inst => pure (some inst)
  | slot :: slots, inst => do
      match ← qspiRead (cflMetaSlotAddr slot) cflMetaSlotSz with
      | none => pure none
      | some raw =>
          match cflMetaParse raw with
          | none => cflMetaLoadSlots slots inst
          | some (seq, head) => cflMetaLoadSlots slots (cflMetaTake inst slot seq head)

def cflMetaLoad (inst : CflInst) : Qspi (Option CflInst) :=
  cflMetaLoadSlots (List.range cflMetaSlotCount)
    { inst with
      headSector := 0
      headOffset := 0
      metaSeqNum := 0
      metaSlot := cflMetaSlotCount - 1
      metaSlotValid := false }

def cflMetaStore (inst : CflInst) : Qspi (CflErr × CflInst) := do
  let slot := (inst.metaSlot + 1) % cflMetaSlotCount
  let seq := u32 (inst.metaSeqNum + 1)
  let erased ← qspiEraseSector (cflMetaSlotAddr slot)
  if erased then
    let written ← qspiProgramRange (cflMetaSlotAddr slot) (cflMetaBytes seq inst.headSector)
    if written then
      pure (.ok,
        { inst with
          metaSlot := slot
          metaSeqNum := seq
          metaSlotValid := true })
    else
      pure (.flashWrite, inst)
  else
    pure (.flashErase, inst)

/-!
## Boot scan
-/

/-- What `cfl_scan_sector` reports of a sector. -/
structure CflSectorScan where
  count : Nat
  bytes : Nat
  endOffset : Nat
  maxSeq : Nat
  deriving DecidableEq, Repr

/-- Walk one sector's records from the end offset reached so far. -/
def cflScanLoop (sector : Nat) (anyBefore : Bool) :
    Nat -> CflSectorScan -> Qspi (Option CflSectorScan)
  | 0, scan => pure (some scan)
  | fuel + 1, scan =>
      if cflRoomForRecord scan.endOffset then do
        match ← cflReadHeader sector scan.endOffset with
        | none => pure none
        | some hdr =>
            if cflHeaderPlausible hdr scan.endOffset then do
              match ← cflVerifyRecordCrc sector scan.endOffset hdr with
              | none => pure none
              | some crcOk =>
                  if crcOk = false then
                    pure (some scan)
                  else if (anyBefore = true ∨ scan.count > 0) ∧
                      hdr.seqNum ≠ u32 (scan.maxSeq + 1) then
                    pure (some scan)
                  else
                    cflScanLoop sector anyBefore fuel
                      { count := scan.count + 1
                        bytes := scan.bytes + hdr.dataLen
                        endOffset := scan.endOffset + cflRecordSize hdr.dataLen
                        maxSeq := hdr.seqNum }
            else
              pure (some scan)
      else
        pure (some scan)

def cflScanSector (sector maxSeq : Nat) (anyBefore : Bool) :
    Qspi (Option CflSectorScan) :=
  cflScanLoop sector anyBefore cflSectorSizeBytes
    { count := 0, bytes := 0, endOffset := 0, maxSeq := maxSeq }

/-- Look for a programmed byte, one chunk at a time. -/
def cflErasedLoop : Nat -> Nat -> Nat -> Qspi (Option Bool)
  | 0, _, _ => pure (some true)
  | fuel + 1, addr, remaining =>
      if remaining > 0 then do
        let take := min remaining cflScanChunkBytes
        match ← qspiRead addr take with
        | none => pure none
        | some chunk =>
            if chunk.all (fun byte => byte == erasedByte) then
              cflErasedLoop fuel (addr + take) (remaining - take)
            else
              pure (some false)
      else
        pure (some true)

def cflRegionErased (sector offset : Nat) : Qspi (Option Bool) :=
  cflErasedLoop (cflSectorSizeBytes - offset) (cflDataSectorAddr sector + offset)
    (cflSectorSizeBytes - offset)

/-- The walk over the sectors; `steps` of them are left, starting `step` sectors
from the head. -/
def cflBootScanLoop :
    Nat -> Nat -> CflInst -> Nat -> Bool -> Qspi (Option (CflInst × Nat × Bool))
  | 0, _, inst, maxSeq, anyRecord => pure (some (inst, maxSeq, anyRecord))
  | steps + 1, step, inst, maxSeq, anyRecord => do
      let sector := (inst.headSector + step) % cflDataSectorCount
      match ← cflScanSector sector maxSeq anyRecord with
      | none => pure none
      | some scan =>
          if scan.count = 0 then
            if anyRecord then
              pure (some (inst, scan.maxSeq, anyRecord))
            else
              pure (some ({ inst with tailSector := sector, tailOffset := 0 },
                scan.maxSeq, anyRecord))
          else
            cflBootScanLoop steps (step + 1)
              { inst with
                entryCount := u32 (inst.entryCount + scan.count)
                byteCount := u32 (inst.byteCount + scan.bytes)
                tailSector := sector
                tailOffset := scan.endOffset }
              scan.maxSeq true

/-- Retire the rest of the tail sector if it is not pristine. -/
def cflRetireDirty (inst : CflInst) : Qspi (Option CflInst) :=
  if cflRoomForRecord inst.tailOffset then do
    match ← cflRegionErased inst.tailSector inst.tailOffset with
    | none => pure none
    | some clean =>
        if clean then
          pure (some inst)
        else
          pure (some { inst with tailOffset := cflSectorSizeBytes })
  else
    pure (some inst)

def cflBootScan (inst : CflInst) : Qspi (Option CflInst) := do
  let start :=
    { inst with
      entryCount := 0
      byteCount := 0
      tailSector := inst.headSector
      tailOffset := 0 }
  match ← cflBootScanLoop cflDataSectorCount 0 start 0 false with
  | none => pure none
  | some (scanned, maxSeq, anyRecord) =>
      cflRetireDirty
        { scanned with nextSeqNum := if anyRecord then u32 (maxSeq + 1) else 0 }

/-!
## Public operations
-/

/-- `none` stands for `CFL_ERR_FLASH_READ`. -/
def cflCreate : Qspi (Option CflInst) := do
  match ← cflMetaLoad cflInstZero with
  | none => pure none
  | some inst => cflBootScan inst

/-- Write a record at the tail: payload, check sum, and the header last. -/
def cflWriteRecord (inst : CflInst) (data : List UInt8) : Qspi Bool := do
  let base := cflDataSectorAddr inst.tailSector + inst.tailOffset
  let hdr : CflRecordHdr :=
    { magic := cflMagic, seqNum := inst.nextSeqNum, dataLen := data.length }
  let payloadOk ← qspiProgramRange (base + cflRecordHeaderSz) data
  if payloadOk then
    let crcOk ← qspiProgramRange (base + cflRecordHeaderSz + data.length)
      (putLe cflRecordCrcSz (cflRecordCrc hdr data).toNat)
    if crcOk then
      qspiProgramRange base (cflHeaderBytes hdr)
    else
      pure false
  else
    pure false

/-- The part of `cfl_append` after the tail has room for the record. -/
def cflAppendAtTail (inst : CflInst) (data : List UInt8) :
    Qspi (CflErr × CflInst) := do
  let written ← cflWriteRecord inst data
  if written then
    pure (.ok,
      { inst with
        tailOffset := inst.tailOffset + cflRecordSize data.length
        nextSeqNum := u32 (inst.nextSeqNum + 1)
        entryCount := u32 (inst.entryCount + 1)
        byteCount := u32 (inst.byteCount + data.length) })
  else
    pure (.flashWrite, { inst with tailOffset := cflSectorSizeBytes })

/-- The head of an empty ring travels with the tail. -/
def cflMoveEmptyHead (inst : CflInst) : Qspi (CflErr × CflInst) :=
  let moved := { inst with headSector := inst.tailSector, headOffset := 0 }
  if moved.headSector ≠ inst.headSector then
    cflMetaStore moved
  else
    pure (.ok, moved)

def cflAppend (inst : CflInst) (data : List UInt8) : Qspi (CflErr × CflInst) :=
  if data.length = 0 ∨ data.length > cflMaxRecordBytes then
    pure (.tooLarge, inst)
  else if inst.tailOffset + cflRecordSize data.length > cflSectorSizeBytes then
    let next := cflNextSector inst.tailSector
    if next = inst.headSector ∧ inst.entryCount ≠ 0 then
      pure (.full, inst)
    else do
      let erased ← qspiEraseSector (cflDataSectorAddr next)
      if erased then
        let advanced := { inst with tailSector := next, tailOffset := 0 }
        if inst.entryCount = 0 then
          let (err, moved) ← cflMoveEmptyHead advanced
          if err = .ok then
            cflAppendAtTail moved data
          else
            pure (err, moved)
        else
          cflAppendAtTail advanced data
      else
        pure (.flashErase, inst)
  else
    cflAppendAtTail inst data

/-- The answer of a call: the code and, of `cfl_peek_oldest`, the payload if it was
read and the length it reports. -/
structure CflAnswer where
  err : CflErr
  data : Option (List UInt8)
  len : Option Nat
  deriving DecidableEq, Repr

def cflPeekOldest (inst : CflInst) (maxLen : Nat) : Qspi CflAnswer :=
  if inst.entryCount = 0 then
    pure ⟨.empty, none, none⟩
  else do
    match ← cflReadHeader inst.headSector inst.headOffset with
    | none => pure ⟨.flashRead, none, none⟩
    | some hdr =>
        if cflHeaderPlausible hdr inst.headOffset then
          if hdr.dataLen > maxLen then
            pure ⟨.tooLarge, none, some hdr.dataLen⟩
          else do
            let base := cflDataSectorAddr inst.headSector + inst.headOffset
            match ← qspiRead (base + cflRecordHeaderSz) hdr.dataLen with
            | none => pure ⟨.flashRead, none, none⟩
            | some data =>
                match ← qspiRead (base + cflRecordHeaderSz + hdr.dataLen) cflRecordCrcSz with
                | none => pure ⟨.flashRead, some data, none⟩
                | some stored =>
                    if getLe stored = (cflRecordCrc hdr data).toNat then
                      pure ⟨.ok, some data, some hdr.dataLen⟩
                    else
                      pure ⟨.corrupt, some data, none⟩
        else
          pure ⟨.corrupt, none, none⟩

/-- Whether another record follows at the head in its sector; `none` stands for a
failed read. -/
def cflMoreHere (inst : CflInst) : Qspi (Option Bool) :=
  if cflRoomForRecord inst.headOffset ∧
      ¬ (inst.headSector = inst.tailSector ∧ inst.headOffset >= inst.tailOffset) then do
    match ← cflReadHeader inst.headSector inst.headOffset with
    | none => pure none
    | some hdr => pure (some (decide (cflHeaderPlausible hdr inst.headOffset)))
  else
    pure (some false)

def cflPersistHead (previousSector : Nat) (inst : CflInst) :
    Qspi (CflErr × CflInst) :=
  if inst.headSector ≠ previousSector then cflMetaStore inst else pure (.ok, inst)

def cflAdvanceHead (inst : CflInst) (size payloadLen : Nat) :
    Qspi (CflErr × CflInst) :=
  let passed :=
    { inst with
      headOffset := inst.headOffset + size
      entryCount := inst.entryCount - 1
      byteCount := inst.byteCount - payloadLen }
  if passed.entryCount = 0 then
    cflPersistHead inst.headSector
      { passed with headSector := passed.tailSector, headOffset := passed.tailOffset }
  else do
    match ← cflMoreHere passed with
    | none => pure (.flashRead, passed)
    | some true => cflPersistHead inst.headSector passed
    | some false =>
        cflPersistHead inst.headSector
          { passed with headSector := cflNextSector passed.headSector, headOffset := 0 }

def cflConsumeOldest (inst : CflInst) : Qspi (CflErr × CflInst) :=
  if inst.entryCount = 0 then
    pure (.empty, inst)
  else do
    match ← cflReadHeader inst.headSector inst.headOffset with
    | none => pure (.flashRead, inst)
    | some hdr =>
        if cflHeaderPlausible hdr inst.headOffset then
          cflAdvanceHead inst (cflRecordSize hdr.dataLen) (min hdr.dataLen inst.byteCount)
        else
          cflAdvanceHead inst cflMinRecordBytes 0

/-- `cfl_consume_oldest` and, on success, the overflow report. -/
def cflDropOldest (inst : CflInst) : Qspi (CflErr × CflInst) :=
  cflConsumeOldest inst

inductive CflCall where
  | append (data : List UInt8)
  | peek (maxLen : Nat)
  | consume
  | drop
  deriving DecidableEq, Repr

def cflPerform (inst : CflInst) : CflCall -> Qspi (CflAnswer × CflInst)
  | .append data => do
      let (err, after) ← cflAppend inst data
      pure (⟨err, none, none⟩, after)
  | .peek maxLen => do
      let answer ← cflPeekOldest inst maxLen
      pure (answer, inst)
  | .consume => do
      let (err, after) ← cflConsumeOldest inst
      pure (⟨err, none, none⟩, after)
  | .drop => do
      let (err, after) ← cflDropOldest inst
      pure (⟨err, none, none⟩, after)

/-- Peek and consume until a call does not answer `CFL_ERR_OK`: the code of that call
and the payloads read. -/
def cflDrain : Nat -> CflInst -> Qspi (CflErr × List (List UInt8))
  | 0, _ => pure (.ok, [])
  | fuel + 1, inst => do
      match ← cflPeekOldest inst cflMaxRecordBytes with
      | ⟨.ok, some data, _⟩ =>
          let (err, after) ← cflConsumeOldest inst
          if err = .ok then
            let (last, rest) ← cflDrain fuel after
            pure (last, data :: rest)
          else
            pure (err, [data])
      | ⟨err, _, _⟩ => pure (err, [])

/-- Every call that answers `CFL_ERR_OK` removes an entry, so one more call than there
are entries is enough. -/
def cflDrainAll (inst : CflInst) : Qspi (CflErr × List (List UInt8)) :=
  cflDrain (inst.entryCount + 1) inst

/-- `cfl_get_occupancy`: entry count and byte count. -/
def cflGetOccupancy (inst : CflInst) : Nat × Nat :=
  (inst.entryCount, inst.byteCount)

end EnvMonitor.Gateway.CircularFlashLog
