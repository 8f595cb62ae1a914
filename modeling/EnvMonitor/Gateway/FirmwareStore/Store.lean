import EnvMonitor.Device.Sum
import EnvMonitor.Gateway.FirmwareStore.Staging

/-!
# The firmware store

The operations of `firmware_store.c` as programs over the on-chip flash, the QSPI flash and
the crypto library.  An operation takes the instance and answers its code and the new
instance.  The digests and the signature check are parameters.
-/

namespace EnvMonitor.Gateway.FirmwareStore

open Device Drivers Gateway.ConfigStore

/-- What `ota_crypto.c` computes with the library and the compiled-in key. -/
structure OtaCrypto where
  sha256 : List UInt8 -> List UInt8
  ecdsaP256Verify : List UInt8 -> List UInt8 -> Bool

/-- A call of the crypto library answers whether it succeeded. -/
abbrev cryptoLibrary : Interface where
  Op := Unit
  Resp := fun _ => Bool

abbrev cryptoDevice : Model cryptoLibrary where
  State := Unit
  complete := fun _ _ => (true, ())
  fail := fun _ _ _ => (false, ())
  lose := fun _ _ _ => ()

abbrev storeIo : Interface :=
  iflash.sum (qspi.sum cryptoLibrary)

abbrev storeDevice : Model storeIo :=
  internalFlash.sum (qspiFlash.sum cryptoDevice)

abbrev StoreIo := Program storeIo

def onFlash {α : Type} (p : IFlash α) : StoreIo α :=
  p.inLeft

def onStaging {α : Type} (p : Qspi α) : StoreIo α :=
  p.inLeft.inRight

def cryptoCall : StoreIo Bool :=
  (Program.perform (I := cryptoLibrary) ()).inRight.inRight

/-!
## State
-/

inductive FirmwareBootState where
  | confirmed
  | trialPending
  | trialRunning
  | rolledBack
  deriving DecidableEq, Repr

structure FirmwareBootInfo where
  runningSlot : FirmwareSlot
  runningVersion : UInt32
  state : FirmwareBootState
  rollbackCount : UInt32
  otaCapable : Bool
  deriving DecidableEq, Repr

inductive FsOpState where
  | idle
  | receiving
  | received
  | verified
  | installing
  | installed
  | activated
  deriving DecidableEq, Repr

/-- `struct firmware_store` -/
structure FsInst where
  /-- Cached; updated only after a verified write. -/
  boot : FirmwareBootInfo
  fsMeta : FsMeta
  op : FsOpState
  imageId : UInt32
  fileLen : Nat
  writeOffset : Nat
  journalNext : Nat
  /-- From the authenticated header. -/
  bodyDigest : List UInt8
  imageLen : Nat
  version : UInt32
  targetSlot : FirmwareSlot
  installPage : Nat
  installCrc : UInt32
  /-- The bytes fed to the SHA-256 context. -/
  installSha : List UInt8
  deriving DecidableEq, Repr

def fsOtherSlot (slot : FirmwareSlot) : FirmwareSlot :=
  if slot = .a then .b else .a

/-!
## Boot-state resolution
-/

def slotFromImageBase (base : Nat) : FirmwareSlot :=
  if base = firmwareSlotABase then .a else if base = firmwareSlotBBase then .b else .none

/-- The cast of a record's state; every record read has a legal one. -/
def firmwareBootState (state : UInt8) : FirmwareBootState :=
  if state = firmwareMetaStateTrialPending then .trialPending
  else if state = firmwareMetaStateTrialRunning then .trialRunning
  else if state = firmwareMetaStateRolledBack then .rolledBack
  else .confirmed

def otaCapable (running : FirmwareSlot) (fsMeta : FsMeta) : Bool :=
  decide (running ≠ .none ∧ fsMeta.selected ≠ fsMetaNone ∧
    fsSlotFromBank fsMeta.activeBank = running ∧
    (fsMeta.bootState = firmwareMetaStateConfirmed ∨
      fsMeta.bootState = firmwareMetaStateTrialRunning ∨
      fsMeta.bootState = firmwareMetaStateRolledBack))

def bootInfoOf (running : FirmwareSlot) (fsMeta : FsMeta) (runningVersion : UInt32) :
    FirmwareBootInfo where
  runningSlot := running
  runningVersion := runningVersion
  state :=
    if fsMeta.selected ≠ fsMetaNone then firmwareBootState fsMeta.bootState else .confirmed
  rollbackCount := if fsMeta.selected ≠ fsMetaNone then fsMeta.rollbackCount else 0
  otaCapable := otaCapable running fsMeta

/-- The fields `resolve_boot` sets; `none` stands for `FIRMWARE_STORE_ERR_FLASH_READ`. -/
def resolveBoot (runningImageBase : Nat) : IFlash (Option (FirmwareBootInfo × FsMeta)) := do
  let running := slotFromImageBase runningImageBase
  match ← fsMetaLoad with
  | none => pure none
  | some fsMeta =>
      if running ≠ .none then
        match ← fsDescRead running with
        | none => pure none
        | some (valid, desc) =>
            pure (some (bootInfoOf running fsMeta (if valid then desc.version else 0), fsMeta))
      else
        pure (some (bootInfoOf running fsMeta 0, fsMeta))

/-- A created instance; `none` stands for `FIRMWARE_STORE_ERR_FLASH_READ`. -/
def firmwareStoreCreate (runningImageBase : Nat) : IFlash (Option FsInst) := do
  match ← resolveBoot runningImageBase with
  | none => pure none
  | some (boot, fsMeta) =>
      pure (some
        { boot := boot
          fsMeta := fsMeta
          op := .idle
          imageId := 0
          fileLen := 0
          writeOffset := 0
          journalNext := 0
          bodyDigest := []
          imageLen := 0
          version := 0
          targetSlot := .a
          installPage := 0
          installCrc := 0
          installSha := [] })

/-!
## Download and resume
-/

abbrev firmwareImageIdErased : UInt32 := 0xFFFFFFFF

def sessionPrecondition (fs : FsInst) : FirmwareStoreErr :=
  if fs.boot.otaCapable = false then .notOtaCapable
  else if fs.boot.state ≠ .confirmed ∨ fs.op = .activated then .badState
  else .ok

def sessionParams (imageId : UInt32) (fileLen : Nat) : FirmwareStoreErr :=
  if imageId = firmwareImageIdErased ∨ fileLen <= firmwareHeaderSize then .badParam
  else if fileLen - firmwareHeaderSize > firmwareMaxImageLen then .tooLarge
  else .ok

/-- The two checks shared by `begin` and `resume`. -/
def sessionCheck (fs : FsInst) (imageId : UInt32) (fileLen : Nat) : FirmwareStoreErr :=
  if sessionPrecondition fs = .ok then sessionParams imageId fileLen
  else sessionPrecondition fs

def doBegin (fs : FsInst) (imageId : UInt32) (fileLen : Nat) :
    StoreIo (FirmwareStoreErr × FsInst) :=
  if sessionCheck fs imageId fileLen ≠ .ok then
    pure (sessionCheck fs imageId fileLen, fs)
  else do
    let (err, next) ← onStaging (fsJournalBegin imageId fileLen fs.journalNext)
    if err = .ok then
      pure (.ok,
        { fs with
          op := .receiving
          journalNext := next
          imageId := imageId
          fileLen := fileLen
          writeOffset := 0 })
    else
      -- the old session is gone whatever the outcome
      pure (err, { fs with op := .idle, journalNext := next })

/-- The code and, on success, the offset to continue from. -/
def doResume (fs : FsInst) (imageId : UInt32) (fileLen : Nat) :
    StoreIo ((FirmwareStoreErr × Option Nat) × FsInst) :=
  if sessionCheck fs imageId fileLen ≠ .ok then
    pure ((sessionCheck fs imageId fileLen, none), fs)
  else do
    match ← onStaging (fsJournalScan imageId fileLen) with
    | none => pure ((.flashRead, none), fs)
    | some .noSession => pure ((.noSession, none), fs)
    | some (.session checkpoint next) =>
        pure ((.ok, some checkpoint),
          { fs with
            imageId := imageId
            fileLen := fileLen
            writeOffset := checkpoint
            journalNext := next
            op := if checkpoint = fileLen then .received else .receiving })

def doWriteChunk (fs : FsInst) (offset : Nat) (data : List UInt8) :
    StoreIo (FirmwareStoreErr × FsInst) :=
  if fs.op ≠ .receiving then
    pure (.badState, fs)
  else if data.length = 0 ∨ offset ≠ fs.writeOffset ∨ data.length > fs.fileLen - offset then
    pure (.badParam, fs)
  else do
    let (err, next) ← onStaging (fsStageWrite offset data fs.fileLen fs.journalNext)
    if err ≠ .ok then
      pure (err, { fs with op := .idle, journalNext := next })
    else
      pure (.ok,
        { fs with
          writeOffset := fs.writeOffset + data.length
          journalNext := next
          op := if fs.writeOffset + data.length = fs.fileLen then .received else fs.op })

def doDiscard (fs : FsInst) : StoreIo (FirmwareStoreErr × FsInst) :=
  if fs.op = .activated then
    pure (.badState, fs)
  else do
    let err ← onStaging fsJournalErase
    pure (err, { fs with op := .idle, writeOffset := 0 })

/-!
## Verification
-/

abbrev otaSha256Len : Nat := 32
abbrev firmwareSignedHeaderLen : Nat := 64
abbrev fsPageBytes : Nat := firmwarePageSize
abbrev fsVectorProbeLen : Nat := 8
abbrev fsResetVectorOffset : Nat := 4

/-- The fields of `firmware_image_header_t` that are read. -/
structure FirmwareImageHeader where
  magic : UInt32
  headerVersion : Nat
  headerSize : Nat
  imageLen : UInt32
  version : UInt32
  loadAddr : UInt32
  bodySha256 : List UInt8
  signature : List UInt8
  deriving DecidableEq, Repr

def FirmwareImageHeader.ofBytes (raw : List UInt8) : FirmwareImageHeader where
  magic := wordAt raw 0
  headerVersion := fieldAt raw 4 2
  headerSize := fieldAt raw 6 2
  imageLen := wordAt raw 8
  version := wordAt raw 12
  loadAddr := wordAt raw 16
  bodySha256 := (raw.drop 32).take 32
  signature := (raw.drop 64).take 64

def verifyStructure (fs : FsInst) (h : FirmwareImageHeader) : FirmwareStoreErr :=
  if h.magic ≠ firmwareImageMagic ∨ h.headerVersion ≠ firmwareImageHeaderVersion ∨
      h.headerSize ≠ firmwareHeaderSize ∨
      h.imageLen.toNat ≠ fs.fileLen - firmwareHeaderSize ∨
      h.imageLen.toNat < fsVectorProbeLen then
    .badHeader
  else if h.imageLen.toNat > firmwareMaxImageLen then
    .tooLarge
  else if h.loadAddr.toNat ≠ fsSlotBase (fsOtherSlot fs.boot.runningSlot) then
    .wrongSlot
  else
    .ok

/-- Three calls of the library: begin, update, finish. -/
def sha256Buffer (crypto : OtaCrypto) (data : List UInt8) : StoreIo (Option (List UInt8)) := do
  let begun ← cryptoCall
  if begun then
    let updated ← cryptoCall
    if updated then
      let finished ← cryptoCall
      pure (if finished then some (crypto.sha256 data) else none)
    else
      pure none
  else
    pure none

def verifySignature (crypto : OtaCrypto) (raw : List UInt8) : StoreIo FirmwareStoreErr := do
  match ← sha256Buffer crypto (raw.take firmwareSignedHeaderLen) with
  | none => pure .crypto
  | some digest =>
      let answered ← cryptoCall
      if answered then
        if crypto.ecdsaP256Verify digest (FirmwareImageHeader.ofBytes raw).signature then
          pure .ok
        else
          pure .sigInvalid
      else
        pure .crypto

/-- The staged body fed to SHA-256 page by page: the bytes, or the error. -/
def hashBodyLoop : Nat -> Nat -> Nat -> List UInt8 ->
    StoreIo (FirmwareStoreErr × List UInt8)
  | 0, _, _, fed => pure (.ok, fed)
  | fuel + 1, done, left, fed =>
      if left > 0 then do
        let n := min left fsPageBytes
        match ← onStaging (fsStageRead (firmwareHeaderSize + done) n) with
        | none => pure (.flashRead, fed)
        | some page =>
            let updated ← cryptoCall
            if updated then
              hashBodyLoop fuel (done + n) (left - n) (fed ++ page)
            else
              pure (.crypto, fed)
      else
        pure (.ok, fed)

def verifyBodyHash (crypto : OtaCrypto) (h : FirmwareImageHeader) :
    StoreIo FirmwareStoreErr := do
  let begun ← cryptoCall
  if begun then
    let (err, fed) ← hashBodyLoop h.imageLen.toNat 0 h.imageLen.toNat []
    if err = .ok then
      let finished ← cryptoCall
      if finished then
        if crypto.sha256 fed = h.bodySha256 then pure .ok else pure .hashMismatch
      else
        pure .crypto
    else
      pure err
  else
    pure .crypto

/-- The reset vector must carry the Thumb bit and point inside the image. -/
def verifyResetVector (h : FirmwareImageHeader) : StoreIo FirmwareStoreErr := do
  match ← onStaging (fsStageRead firmwareHeaderSize fsVectorProbeLen) with
  | none => pure .flashRead
  | some probe =>
      let vector := fieldAt probe fsResetVectorOffset 4
      let target := vector - vector % 2
      if vector % 2 = 0 ∨ target < h.loadAddr.toNat ∨
          target >= h.loadAddr.toNat + h.imageLen.toNat then
        pure .badImage
      else
        pure .ok

/-- The checks of `do_verify` on the staged header, cheapest first. -/
def verifyStaged (crypto : OtaCrypto) (fs : FsInst) (raw : List UInt8) :
    StoreIo FirmwareStoreErr :=
  let h := FirmwareImageHeader.ofBytes raw
  if verifyStructure fs h ≠ .ok then
    pure (verifyStructure fs h)
  else do
    let signed ← verifySignature crypto raw
    if signed ≠ .ok then
      pure signed
    else do
      let hashed ← verifyBodyHash crypto h
      if hashed ≠ .ok then
        pure hashed
      else
        verifyResetVector h

def doVerify (crypto : OtaCrypto) (fs : FsInst) :
    StoreIo (FirmwareStoreErr × FsInst) :=
  if fs.op = .receiving then
    pure (.incomplete, fs)
  else if fs.op ≠ .received then
    pure (.badState, fs)
  else do
    match ← onStaging (fsStageRead 0 firmwareHeaderSize) with
    | none => pure (.flashRead, fs)
    | some raw =>
        let err ← verifyStaged crypto fs raw
        if err ≠ .ok then
          pure (err, fs)
        else
          let h := FirmwareImageHeader.ofBytes raw
          pure (.ok,
            { fs with
              bodyDigest := h.bodySha256
              imageLen := h.imageLen.toNat
              version := h.version
              targetSlot := fsOtherSlot fs.boot.runningSlot
              op := .verified })

/-!
## Installation
-/

def doInstallBegin (fs : FsInst) : StoreIo (FirmwareStoreErr × FsInst) :=
  if fs.op ≠ .verified then
    pure (.badState, fs)
  else do
    -- the target descriptor goes first, so a half-written slot is never bootable
    let err ← onFlash (fsDescErase fs.targetSlot)
    if err ≠ .ok then
      pure (err, fs)
    else
      let begun ← cryptoCall
      if begun then
        pure (.ok,
          { fs with
            installSha := []
            installCrc := configStoreCrc32Begin
            installPage := 0
            op := .installing })
      else
        pure (.crypto, fs)

abbrev fsCompareWindow : Nat := 256

/-- The freshly programmed page is read back in windows and compared. -/
def installReadbackLoop : Nat -> Nat -> List UInt8 -> IFlash FirmwareStoreErr
  | 0, _, _ => pure .ok
  | fuel + 1, addr, expected =>
      if expected.length > 0 then do
        let n := min expected.length fsCompareWindow
        match ← fsIfRead addr n with
        | none => pure .flashRead
        | some back =>
            if back ≠ expected.take n then pure .installVerify
            else installReadbackLoop fuel (addr + n) (expected.drop n)
      else
        pure .ok

def installReadback (addr : Nat) (expected : List UInt8) : IFlash FirmwareStoreErr :=
  installReadbackLoop expected.length addr expected

/-- The page as programmed: padded to a whole double word. -/
def installPadded (page : List UInt8) : List UInt8 :=
  page ++ List.replicate ((8 - page.length % 8) % 8) 0xFF

/-- Erase, program and read back one page of the slot. -/
def installPageWrite (addr : Nat) (page : List UInt8) : IFlash FirmwareStoreErr := do
  let erased ← fsIfErasePage addr
  if erased = .ok then
    let programmed ← fsIfProgram addr (installPadded page)
    if programmed = .ok then installReadback addr (installPadded page) else pure programmed
  else
    pure erased

/-- Copy and check one page: stage, slot, read-back, digest and CRC. -/
def installPageCopy (fs : FsInst) (offset n : Nat) :
    StoreIo (FirmwareStoreErr × FsInst) := do
  match ← onStaging (fsStageRead (firmwareHeaderSize + offset) n) with
  | none => pure (.flashRead, fs)
  | some page =>
      let err ← onFlash (installPageWrite (fsSlotBase fs.targetSlot + offset) page)
      if err ≠ .ok then
        pure (err, fs)
      else
        let updated ← cryptoCall
        if updated then
          pure (.ok,
            { fs with
              installSha := fs.installSha ++ page
              installCrc := configStoreCrc32Feed fs.installCrc page })
        else
          pure (.crypto, fs)

/-- After the last page: re-check the digest, then seal the slot with its descriptor. -/
def installFinish (crypto : OtaCrypto) (fs : FsInst) : StoreIo FirmwareStoreErr := do
  let finished ← cryptoCall
  if finished then
    if crypto.sha256 fs.installSha ≠ fs.bodyDigest then
      pure .installVerify
    else
      onFlash (fsDescWrite fs.targetSlot (UInt32.ofNat fs.imageLen) fs.version
        (configStoreCrc32End fs.installCrc))
  else
    pure .crypto

/-- The code, whether the installation is done, and the instance. -/
def doInstallStep (crypto : OtaCrypto) (fs : FsInst) :
    StoreIo ((FirmwareStoreErr × Bool) × FsInst) :=
  if fs.op ≠ .installing then
    pure ((.badState, false), fs)
  else do
    let offset := fs.installPage * fsPageBytes
    let left := fs.imageLen - offset
    let n := min left fsPageBytes
    let last := n == left
    let (copied, after) ← installPageCopy fs offset n
    if copied ≠ .ok then
      pure ((copied, false), { after with op := .verified })
    else if last then
      let sealed' ← installFinish crypto after
      if sealed' ≠ .ok then
        -- a torn descriptor must not look installed: best-effort re-erase
        let _ ← onFlash (fsDescErase after.targetSlot)
        pure ((sealed', false), { after with op := .verified })
      else
        pure ((.ok, true), { after with op := .installed })
    else
      pure ((.ok, false), { after with installPage := after.installPage + 1 })

/-!
## Boot control
-/

def doActivate (fs : FsInst) : StoreIo (FirmwareStoreErr × FsInst) :=
  if fs.boot.otaCapable = false then
    pure (.notOtaCapable, fs)
  else if fs.op ≠ .installed ∨ fs.boot.state ≠ .confirmed then
    pure (.badState, fs)
  else do
    let (err, fsMeta) ← onFlash (fsMetaWrite fs.fsMeta (fsBankFromSlot fs.targetSlot)
      firmwareMetaStateTrialPending (fsBankFromSlot fs.boot.runningSlot)
      fs.fsMeta.rollbackCount)
    if err = .ok then
      pure (.ok,
        { fs with
          fsMeta := fsMeta
          boot := { fs.boot with state := .trialPending }
          op := .activated })
    else
      pure (err, { fs with fsMeta := fsMeta })

/-- Mark the record CONFIRMED, then erase the descriptor of the slot left behind. -/
def settleConfirmed (fs : FsInst) : StoreIo (FirmwareStoreErr × FsInst) := do
  let (err, fsMeta) ← onFlash (fsMetaWrite fs.fsMeta fs.fsMeta.activeBank
    firmwareMetaStateConfirmed fs.fsMeta.previousBank 0)
  if err ≠ .ok then
    pure (err, { fs with fsMeta := fsMeta })
  else
    let settled :=
      { fs with
        fsMeta := fsMeta
        boot := { fs.boot with state := .confirmed, rollbackCount := 0 } }
    let erased ← onFlash (fsDescErase (fsSlotFromBank fsMeta.previousBank))
    pure (erased, settled)

def doConfirm (fs : FsInst) : StoreIo (FirmwareStoreErr × FsInst) :=
  if fs.boot.otaCapable = false then
    pure (.notOtaCapable, fs)
  else if fs.boot.state = .confirmed then
    pure (.ok, fs)
  else if fs.boot.state = .trialRunning then
    settleConfirmed fs
  else
    pure (.badState, fs)

def doRollback (fs : FsInst) : StoreIo (FirmwareStoreErr × FsInst) :=
  if fs.boot.otaCapable = false then
    pure (.notOtaCapable, fs)
  else if fs.boot.state ≠ .trialRunning then
    pure (.badState, fs)
  else do
    let count := fs.fsMeta.rollbackCount + 1
    let (err, fsMeta) ← onFlash (fsMetaWrite fs.fsMeta fs.fsMeta.previousBank
      firmwareMetaStateRolledBack fs.fsMeta.activeBank count)
    if err = .ok then
      pure (.ok,
        { fs with
          fsMeta := fsMeta
          boot := { fs.boot with state := .rolledBack, rollbackCount := count } })
    else
      pure (err, { fs with fsMeta := fsMeta })

def doAcknowledgeRollback (fs : FsInst) : StoreIo (FirmwareStoreErr × FsInst) :=
  if fs.boot.otaCapable = false then
    pure (.notOtaCapable, fs)
  else if fs.boot.state = .confirmed then
    pure (.ok, fs)
  else if fs.boot.state = .rolledBack then
    settleConfirmed fs
  else
    pure (.badState, fs)

/-!
## Public operations
-/

inductive FsCall where
  | begin (imageId : UInt32) (fileLen : Nat)
  | resume (imageId : UInt32) (fileLen : Nat)
  | writeChunk (offset : Nat) (data : List UInt8)
  | discard
  | verify
  | installBegin
  | installStep
  | activate
  | confirm
  | rollback
  | acknowledgeRollback
  deriving DecidableEq, Repr

/-- The code of a call, the offset of `resume` and the done flag of `install_step`. -/
structure FsAnswer where
  err : FirmwareStoreErr
  offset : Option Nat
  done : Bool
  deriving DecidableEq, Repr

def fsCodeOnly (out : FirmwareStoreErr × FsInst) : FsAnswer × FsInst :=
  (⟨out.1, none, false⟩, out.2)

def fsPerform (crypto : OtaCrypto) (fs : FsInst) :
    FsCall -> StoreIo (FsAnswer × FsInst)
  | .begin imageId fileLen => do
      let out ← doBegin fs imageId fileLen
      pure (fsCodeOnly out)
  | .resume imageId fileLen => do
      let ((err, offset), after) ← doResume fs imageId fileLen
      pure (⟨err, offset, false⟩, after)
  | .writeChunk offset data => do
      let out ← doWriteChunk fs offset data
      pure (fsCodeOnly out)
  | .discard => do
      let out ← doDiscard fs
      pure (fsCodeOnly out)
  | .verify => do
      let out ← doVerify crypto fs
      pure (fsCodeOnly out)
  | .installBegin => do
      let out ← doInstallBegin fs
      pure (fsCodeOnly out)
  | .installStep => do
      let ((err, done), after) ← doInstallStep crypto fs
      pure (⟨err, none, done⟩, after)
  | .activate => do
      let out ← doActivate fs
      pure (fsCodeOnly out)
  | .confirm => do
      let out ← doConfirm fs
      pure (fsCodeOnly out)
  | .rollback => do
      let out ← doRollback fs
      pure (fsCodeOnly out)
  | .acknowledgeRollback => do
      let out ← doAcknowledgeRollback fs
      pure (fsCodeOnly out)

end EnvMonitor.Gateway.FirmwareStore
