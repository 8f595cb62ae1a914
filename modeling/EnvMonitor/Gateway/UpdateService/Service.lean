import EnvMonitor.Gateway.CloudPublisher.Published
import EnvMonitor.Gateway.FirmwareStore.Store

/-!
# UpdateService

`update_service_task.c`: one pass of UpdateServiceTask, from the notification bits it takes to the
deadlines it checks, as a program over what the task calls.  A tick is a millisecond.
-/

namespace EnvMonitor.Gateway.UpdateService

open Device FirmwareStore LifecycleController
open CloudPublisher.Published (UsChunkRequest UsOtaReport UsReason UsResult)

abbrev usChunkSize : UInt32 := 1024

abbrev usChunkTimeoutMs : UInt32 := 5000

abbrev usMaxRetries : UInt8 := 3

abbrev usStallLimitMs : UInt32 := 600000

abbrev usStartTimeoutMs : UInt32 := 360000

abbrev usSelfCheckTimeoutMs : UInt32 := 60000

abbrev usSelfCheckPollMs : UInt32 := 500

abbrev usReportRetryMs : UInt32 := 100

abbrev usReportRetryMax : Nat := 20

abbrev usEventRetryMs : UInt32 := 1000

abbrev usVerifyAttempts : Nat := 2

abbrev usInstallAttempts : Nat := 2

/-- Smallest file: a header and one byte. -/
abbrev usFileMin : UInt32 := 129

/-- Largest file: a header and a full slot. -/
abbrev usFileMax : UInt32 := 491648

abbrev usJobInvalidLow : UInt32 := 0

abbrev usJobInvalidErased : UInt32 := 0xFFFFFFFF

/-- An OTA command as CloudPublisher parsed it. -/
structure UsOtaCommand where
  job : UInt32
  sizeA : UInt32
  sizeB : UInt32
  deriving DecidableEq, Repr

inductive UsState where
  | idle
  | awaitingStart
  | downloading
  | validating
  | installing
  | activated
  | selfChecking
  | rollingBack
  deriving DecidableEq, Repr

inductive UsSlotState where
  | free
  | expecting
  | full
  deriving DecidableEq, Repr

/-- A set of the `US_N_` bits. -/
structure Notices where
  command : Bool
  start : Bool
  chunk : Bool
  selfCheck : Bool
  afterRollback : Bool
  deriving DecidableEq, Repr

def Notices.none : Notices := ⟨false, false, false, false, false⟩

/-- The fields that only UpdateServiceTask writes.  The other tasks read the boot state, the active
job and which chunk is expected. -/
structure UsOwn where
  boot : FirmwareBootInfo
  activeJob : UInt32
  expOffset : UInt32
  expLen : UInt32
  cmd : UsOtaCommand
  targetSlot : FirmwareSlot
  fileLen : UInt32
  offset : UInt32
  failures : UInt8
  startArmed : Bool
  reqArmed : Bool
  paused : Bool
  eventRetryArmed : Bool
  eventRetryType : LifecycleEvent
  startDeadline : UInt32
  reqDeadline : UInt32
  lastProgress : UInt32
  checkDeadline : UInt32
  nextPoll : UInt32
  eventRetryAt : UInt32

/-- `struct update_service` with the chunk buffer. -/
structure UsInst where
  own : UsOwn
  state : UsState
  inboxFull : Bool
  inbox : UsOtaCommand
  slotState : UsSlotState
  gotLen : UInt32
  chunk : List UInt8
  checkArmed : Bool
  pending : Notices

/-- What the task calls.  An `update` is what it does to the instance in one piece, under the lock or
on its own fields; it answers the instance as it was.  The transport does not learn the number of
the attempt. -/
inductive UsOp where
  | update (f : UsInst -> UsInst)
  | takePending
  | takeInbox
  | getTickCount
  | delay (ticks : UInt32)
  | isConnected
  | requestChunk (req : UsChunkRequest)
  | report (rep : UsOtaReport) (attempt : Nat)
  | postEvent (event : LifecycleEvent)
  | getState
  | store (call : FsCall)
  | getBootInfo
  | sensorsReady
  | modbusReady

/-- A call of the store answers with the slot that `verify` names. -/
abbrev UsResp : UsOp -> Type
  | .update _ => UsInst
  | .takePending => Notices
  | .takeInbox => UsOtaCommand × UsState
  | .getTickCount => UInt32
  | .delay _ => Unit
  | .isConnected => Bool
  | .requestChunk _ => Bool
  | .report _ _ => Bool
  | .postEvent _ => Bool
  | .getState => LifecycleState
  | .store _ => FsAnswer × FirmwareSlot
  | .getBootInfo => FirmwareBootInfo
  | .sensorsReady => Bool
  | .modbusReady => Bool

abbrev usCalls : Interface where
  Op := UsOp
  Resp := UsResp

abbrev Us := Program usCalls

/-!
## Small helpers
-/

def get : Us UsInst :=
  Program.perform (I := usCalls) (.update id)

def modify (f : UsInst -> UsInst) : Us Unit := do
  let _ ← Program.perform (I := usCalls) (.update f)
  pure ()

def modifyOwn (f : UsOwn -> UsOwn) : Us Unit :=
  modify fun us => { us with own := f us.own }

def getTickCount : Us UInt32 :=
  Program.perform (I := usCalls) .getTickCount

def isConnected : Us Bool :=
  Program.perform (I := usCalls) .isConnected

def store (call : FsCall) : Us (FsAnswer × FirmwareSlot) :=
  Program.perform (I := usCalls) (.store call)

/-- Wrap-safe "deadline has passed". -/
def expired (now deadline : UInt32) : Bool :=
  decide ((now - deadline).toNat < 2 ^ 31)

def setState (state : UsState) : Us Unit :=
  modify fun us => { us with state := state }

def freeSlot : Us Unit :=
  modify fun us => { us with slotState := .free }

def refreshBoot : Us Unit := do
  let info ← Program.perform (I := usCalls) .getBootInfo
  modifyOwn fun own => { own with boot := info }

def postEvent (event : LifecycleEvent) : Us Bool :=
  Program.perform (I := usCalls) (.postEvent event)

def postEventRetrying (event : LifecycleEvent) : Us Unit := do
  let posted ← postEvent event
  if posted then
    modifyOwn fun own => { own with eventRetryArmed := false }
  else do
    modifyOwn fun own => { own with eventRetryArmed := true, eventRetryType := event }
    let now ← getTickCount
    modifyOwn fun own => { own with eventRetryAt := now + usEventRetryMs }

/-- A full queue is retried, then the report is given up. -/
def reportAttempts (rep : UsOtaReport) : Nat -> Nat -> Us Unit
  | 0, _ => pure ()
  | left + 1, attempt => do
      let sent ← Program.perform (I := usCalls) (.report rep attempt)
      if sent then
        pure ()
      else do
        let _ ← Program.perform (I := usCalls) (.delay usReportRetryMs)
        reportAttempts rep left (attempt + 1)

def report (result : UsResult) (reason : UsReason) (job : Option UInt32) : Us Unit := do
  let us ← get
  reportAttempts
    { job := job
      result := result
      reason := reason
      version := us.own.boot.runningVersion
      rollbackCount := us.own.boot.rollbackCount }
    usReportRetryMax 0

/-- End of an update that got past the start. -/
def fail (reason : UsReason) : Us Unit := do
  let _ ← store .discard
  let us ← get
  report .failed reason (some us.own.cmd.job)
  postEventRetrying .otaFinished
  modifyOwn fun own => { own with startArmed := false, reqArmed := false, paused := false }
  freeSlot
  setState .idle

/-!
## Command intake
-/

def reject (cmd : UsOtaCommand) (reason : UsReason) : Us Unit :=
  report .rejected reason (some cmd.job)

/-- The update that a valid command asks for.  The job is recorded and the state set before the
event is posted; a refused event undoes both. -/
def awaitStart (cmd : UsOtaCommand) (target : FirmwareSlot) (size : UInt32) : Us Unit := do
  modifyOwn fun own =>
    { own with cmd := cmd, targetSlot := target, fileLen := size, startArmed := true }
  let now ← getTickCount
  modifyOwn fun own => { own with startDeadline := now + usStartTimeoutMs }
  let before ← Program.perform (I := usCalls) (.update fun us =>
    { us with own := { us.own with activeJob := cmd.job }, state := .awaitingStart })
  let posted ← postEvent (.otaRequested cmd.job)
  if posted then
    pure ()
  else do
    modify fun us =>
      { us with own := { us.own with activeJob := before.own.activeJob }, state := .idle }
    modifyOwn fun own => { own with startArmed := false }
    reject cmd .busy

/-- No slot runs, or the image that runs is not confirmed. -/
def notOtaCapable (boot : FirmwareBootInfo) : Bool :=
  !boot.otaCapable || boot.state ≠ .confirmed ||
    (boot.runningSlot ≠ .a && boot.runningSlot ≠ .b)

def badCommand (cmd : UsOtaCommand) (size : UInt32) : Bool :=
  cmd.job = usJobInvalidLow || cmd.job = usJobInvalidErased || size < usFileMin ||
    usFileMax < size

def processInbox : Us Unit := do
  let (cmd, state) ← Program.perform (I := usCalls) .takeInbox
  if state ≠ .idle then
    -- the update in progress is not touched
    reject cmd .busy
  else do
    let us ← get
    if notOtaCapable us.own.boot then
      reject cmd .notOtaCapable
    else do
      let lc ← Program.perform (I := usCalls) .getState
      if lc ≠ .operational ∧ lc ≠ .editingConfig then
        reject cmd .notReady
      else
        let target := fsOtherSlot us.own.boot.runningSlot
        let size := if target = .b then cmd.sizeB else cmd.sizeA
        if badCommand cmd size then
          reject cmd .badCommand
        else
          awaitStart cmd target size

/-!
## Validation, installation, activation
-/

def verifyReason : FirmwareStoreErr -> UsReason
  | .tooLarge => .tooLarge
  | .badHeader => .badHeader
  | .wrongSlot => .wrongSlot
  | .sigInvalid => .sigInvalid
  | .hashMismatch => .hashMismatch
  | .badImage => .badImage
  | .crypto => .crypto
  | .flashRead => .verifyIo
  | _ => .stagingError

/-- The pages of the longest image: as often as `install_step` can answer that there is more. -/
abbrev installPages : Nat := 240

def installSteps : Nat -> Us FirmwareStoreErr
  | 0 => pure .ok
  | pages + 1 => do
      let (answer, _) ← store .installStep
      let _ ← Program.perform (I := usCalls) (.delay 1)
      if answer.err = .ok ∧ answer.done = false then
        installSteps pages
      else
        pure answer.err

def installAttempts : Nat -> FirmwareStoreErr -> Us FirmwareStoreErr
  | 0, rc => pure rc
  | attempts + 1, rc =>
      if rc = .ok then
        pure .ok
      else do
        let (begun, _) ← store .installBegin
        if begun.err = .ok then do
          let rc ← installSteps installPages
          installAttempts attempts rc
        else
          installAttempts attempts begun.err

def installAndActivate : Us Unit := do
  setState .installing
  let rc ← installAttempts usInstallAttempts .installVerify
  if rc ≠ .ok then
    fail .installFailed
  else do
    let (activated, _) ← store .activate
    if activated.err ≠ .ok then
      fail .activateFailed
    else do
      -- no report before the reset: success is known only on the new image
      setState .activated
      postEventRetrying .otaResetRequested

/-- A failed call of the crypto library and a failed read are worth one more try. -/
def verifyAttempts : Nat -> FirmwareStoreErr × FirmwareSlot ->
    Us (FirmwareStoreErr × FirmwareSlot)
  | 0, last => pure last
  | attempts + 1, _ => do
      let (answer, slot) ← store .verify
      if answer.err ≠ .crypto ∧ answer.err ≠ .flashRead then
        pure (answer.err, slot)
      else
        verifyAttempts attempts (answer.err, slot)

def validate : Us Unit := do
  setState .validating
  let (rc, slot) ← verifyAttempts usVerifyAttempts (.crypto, .none)
  if rc ≠ .ok then
    fail (verifyReason rc)
  else do
    -- the running slot is never written: refuse anything but the inactive one
    let us ← get
    if slot ≠ us.own.targetSlot then
      fail .stagingError
    else
      installAndActivate

/-!
## Download
-/

/-- The link is down: stop requesting and wait, without counting a failure. -/
def pauseDownload : Us Unit := do
  modifyOwn fun own => { own with paused := true, reqArmed := false }
  let now ← getTickCount
  modifyOwn fun own => { own with nextPoll := now + usSelfCheckPollMs }
  freeSlot

/-- The length of the next chunk; the subtraction wraps. -/
def UsOwn.chunkLen (own : UsOwn) : UInt32 :=
  if own.fileLen - own.offset < usChunkSize then own.fileLen - own.offset else usChunkSize

def request : Us Unit := do
  let connected ← isConnected
  if connected then do
    let us ← get
    modify fun us =>
      { us with
        slotState := .expecting
        own := { us.own with expOffset := us.own.offset, expLen := us.own.chunkLen } }
    -- a refused request is treated as sent: the deadline turns it into a retry
    let _ ← Program.perform (I := usCalls) (.requestChunk
      ⟨us.own.cmd.job, us.own.targetSlot, us.own.offset, us.own.chunkLen⟩)
    let now ← getTickCount
    modifyOwn fun own => { own with reqDeadline := now + usChunkTimeoutMs, reqArmed := true }
  else
    pauseDownload

def validateOrRequest : Us Unit := do
  let us ← get
  if us.own.fileLen ≤ us.own.offset then validate else request

/-- Return the write position to the last checkpoint of the store. -/
def resync : Us Bool := do
  let us ← get
  let (answer, _) ← store (.resume us.own.cmd.job us.own.fileLen.toNat)
  if answer.err ≠ .ok then do
    fail .stagingError
    pure false
  else do
    modifyOwn fun own => { own with offset := UInt32.ofNat (answer.offset.getD 0) }
    pure true

def resyncAndRequest : Us Unit := do
  let resumed ← resync
  if resumed then request else pure ()

/-- `begin_download` once the session is resumed or begun. -/
def startDownload (rc : FirmwareStoreErr) (offset : UInt32) : Us Unit :=
  if rc ≠ .ok then
    fail .stagingError
  else do
    modifyOwn fun own => { own with offset := offset, failures := 0, paused := false }
    let now ← getTickCount
    modifyOwn fun own => { own with lastProgress := now }
    let us ← get
    report .accepted .none (some us.own.cmd.job)
    setState .downloading
    validateOrRequest

def beginDownload : Us Unit := do
  let us ← get
  if us.state ≠ .awaitingStart then
    pure ()
  else do
    modifyOwn fun own => { own with startArmed := false }
    let us ← get
    let (resumed, _) ← store (.resume us.own.cmd.job us.own.fileLen.toNat)
    if resumed.err = .noSession then do
      let (begun, _) ← store (.begin us.own.cmd.job us.own.fileLen.toNat)
      startDownload begun.err 0
    else
      startDownload resumed.err (UInt32.ofNat (resumed.offset.getD 0))

/-- `on_chunk_ready` once the chunk is handed to the store. -/
def chunkWritten (rc : FirmwareStoreErr) (len : UInt32) : Us Unit :=
  if rc = .ok then do
    modifyOwn fun own => { own with offset := own.offset + len, failures := 0 }
    let now ← getTickCount
    modifyOwn fun own => { own with lastProgress := now }
    validateOrRequest
  else if rc = .badParam then
    -- out of order: defensive
    resyncAndRequest
  else if rc = .flashRead ∨ rc = .flashErase ∨ rc = .flashWrite then do
    modifyOwn fun own => { own with failures := own.failures + 1 }
    let us ← get
    if usMaxRetries ≤ us.own.failures then fail .downloadFailed else resyncAndRequest
  else
    fail .stagingError

def onChunkReady : Us Unit := do
  let us ← get
  if us.slotState ≠ .full then
    pure ()
  else do
    modifyOwn fun own => { own with reqArmed := false }
    let now ← get
    if now.state ≠ .downloading then
      freeSlot
    else do
      let (answer, _) ← store
        (.writeChunk now.own.offset.toNat (now.chunk.take us.gotLen.toNat))
      freeSlot
      chunkWritten answer.err us.gotLen

/-!
## After the reset
-/

/-- Commit, report, tidy up, tell LifecycleController. -/
def selfCheckPass : Us Unit := do
  modify fun us => { us with checkArmed := false }
  let (confirmed, _) ← store .confirm
  if confirmed.err ≠ .ok then
    postEventRetrying .selfCheckFail
  else do
    refreshBoot
    report .success .none none
    let _ ← store .discard
    postEventRetrying .selfCheckPass
    setState .idle

def selfCheckPoll (now : UInt32) : Us Unit := do
  let sensors ← Program.perform (I := usCalls) .sensorsReady
  let modbus ← Program.perform (I := usCalls) .modbusReady
  let cloud ← isConnected
  if sensors && modbus && cloud then
    selfCheckPass
  else do
    let us ← get
    if expired now us.own.checkDeadline then do
      modify fun us => { us with checkArmed := false }
      postEventRetrying .selfCheckFail
    else
      modifyOwn fun own => { own with nextPoll := now + usSelfCheckPollMs }

def startSelfCheck : Us Unit := do
  let now ← getTickCount
  modify fun us =>
    { us with checkArmed := true, own := { us.own with checkDeadline := now + usSelfCheckTimeoutMs } }
  selfCheckPoll now

/-- The image that was rolled back to reports, acknowledges and tidies up. -/
def afterRollback : Us Unit := do
  report .rolledBack .rollback none
  let _ ← store .acknowledgeRollback
  let _ ← store .discard
  refreshBoot
  setState .idle

/-!
## Deadlines and the pass
-/

def checkRequestDeadline (now : UInt32) : Us Unit := do
  let us ← get
  if us.own.reqArmed ∧ expired now us.own.reqDeadline then do
    let connected ← isConnected
    if !connected then
      pauseDownload
    else do
      modifyOwn fun own => { own with failures := own.failures + 1 }
      let us ← get
      if usMaxRetries ≤ us.own.failures then fail .downloadFailed else request
  else
    pure ()

def checkDownloadDeadlines (now : UInt32) : Us Unit := do
  let us ← get
  if usStallLimitMs < now - us.own.lastProgress then
    fail .stalled
  else if us.own.paused then
    if expired now us.own.nextPoll then do
      let connected ← isConnected
      if connected then do
        modifyOwn fun own => { own with paused := false }
        request
      else
        modifyOwn fun own => { own with nextPoll := now + usSelfCheckPollMs }
    else
      pure ()
  else
    checkRequestDeadline now

def checkEventRetry (now : UInt32) : Us Unit := do
  let us ← get
  if us.own.eventRetryArmed ∧ expired now us.own.eventRetryAt then do
    let posted ← postEvent us.own.eventRetryType
    if posted then
      modifyOwn fun own => { own with eventRetryArmed := false }
    else
      modifyOwn fun own => { own with eventRetryAt := now + usEventRetryMs }
  else
    pure ()

def startTimedOut : Us Unit := do
  modifyOwn fun own => { own with startArmed := false }
  let us ← get
  report .rejected .startTimeout (some us.own.cmd.job)
  setState .idle

/-- `check_deadlines` for the state that was read under the lock. -/
def checkStateDeadline (now : UInt32) (state : UsState) : Us Unit := do
  let us ← get
  if state = .awaitingStart ∧ us.own.startArmed ∧ expired now us.own.startDeadline then
    startTimedOut
  else if state = .downloading then
    checkDownloadDeadlines now
  else if state = .selfChecking ∧ us.checkArmed ∧
      (expired now us.own.nextPoll ∨ expired now us.own.checkDeadline) then
    selfCheckPoll now
  else
    pure ()

def checkDeadlines : Us Unit := do
  let now ← getTickCount
  let us ← get
  checkStateDeadline now us.state
  checkEventRetry now

def usTaskPass : Us Unit := do
  let bits ← Program.perform (I := usCalls) .takePending
  if bits.command then processInbox else pure ()
  if bits.start then beginDownload else pure ()
  if bits.chunk then onChunkReady else pure ()
  if bits.selfCheck then startSelfCheck else pure ()
  if bits.afterRollback then afterRollback else pure ()
  checkDeadlines

end EnvMonitor.Gateway.UpdateService
