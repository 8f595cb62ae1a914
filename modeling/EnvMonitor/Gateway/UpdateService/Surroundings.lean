import EnvMonitor.Device.Interleaved
import EnvMonitor.Gateway.FirmwareStore.Resume
import EnvMonitor.Gateway.UpdateService.Service

/-!
# What surrounds UpdateServiceTask

CloudPublisherTask hands over commands and chunks, LifecycleTask starts updates and steers the boot
after one, and the store works on flash that may fail.  At any time power can be lost, also within a
call of the store.
-/

namespace EnvMonitor.Gateway.UpdateService

open Device Drivers FirmwareStore LifecycleController
open CloudPublisher.Published (UsChunkRequest)

structure World where
  us : UsInst
  /-- Bits that a caller is about to set. -/
  notifying : Notices
  /-- LifecycleController has not told yet what the boot was. -/
  starting : Bool
  fs : FsInst
  flash : Memory
  bank : Memory

def World.stores (w : World) : storeDevice.State :=
  (w.bank, w.flash, ())

/-- The store and its flash after a call. -/
def World.called (w : World) (fs : FsInst) (s : storeDevice.State) : World :=
  { w with fs := fs, flash := s.2.1, bank := s.1 }

def Notices.union (a b : Notices) : Notices where
  command := a.command || b.command
  start := a.start || b.start
  chunk := a.chunk || b.chunk
  selfCheck := a.selfCheck || b.selfCheck
  afterRollback := a.afterRollback || b.afterRollback

def Notices.inter (a b : Notices) : Notices where
  command := a.command && b.command
  start := a.start && b.start
  chunk := a.chunk && b.chunk
  selfCheck := a.selfCheck && b.selfCheck
  afterRollback := a.afterRollback && b.afterRollback

def Notices.without (a b : Notices) : Notices where
  command := a.command && !b.command
  start := a.start && !b.start
  chunk := a.chunk && !b.chunk
  selfCheck := a.selfCheck && !b.selfCheck
  afterRollback := a.afterRollback && !b.afterRollback

/-- `handle_command` takes a command. -/
def World.commanded (w : World) (cmd : UsOtaCommand) : World :=
  { w with
    us := { w.us with inbox := cmd, inboxFull := true }
    notifying := { w.notifying with command := true } }

/-- `on_chunk` takes the chunk that is expected. -/
def World.answered (w : World) (len : UInt32) (data : List UInt8) : World :=
  { w with
    us :=
      { w.us with
        chunk := data ++ w.us.chunk.drop data.length, gotLen := len, slotState := .full }
    notifying := { w.notifying with chunk := true } }

/-- `start` finds the job that is waited for. -/
def World.starts (w : World) : World :=
  { w with notifying := { w.notifying with start := true } }

/-- The second half of `notify`, for callers that have got so far. -/
def World.notified (w : World) (bits : Notices) : World :=
  { w with
    us := { w.us with pending := w.us.pending.union (w.notifying.inter bits) }
    notifying := w.notifying.without bits }

/-- The steps of the other tasks.  Every chunk that comes in for a job is part of its file. -/
inductive OthersStep (crypto : OtaCrypto) (files : UInt32 -> List UInt8) : World -> World -> Prop
  where
  | handleCommand {w : World} (cmd : UsOtaCommand) : w.us.inboxFull = false ->
      OthersStep crypto files w (w.commanded cmd)
  | onChunk {w : World} {job offset len : UInt32} {data : List UInt8} :
      data.length = len.toNat -> len ≠ 0 -> len ≤ usChunkSize ->
      data = ((files job).drop offset.toNat).take data.length ->
      w.us.slotState = .expecting -> job = w.us.own.activeJob -> offset = w.us.own.expOffset ->
      len = w.us.own.expLen -> OthersStep crypto files w (w.answered len data)
  | start {w : World} : w.us.state = .awaitingStart ->
      OthersStep crypto files w w.starts
  | resumeSelfChecking {w : World} : w.starting = true -> w.us.own.boot.otaCapable = true ->
      w.us.own.boot.state = .trialRunning ->
      OthersStep crypto files w
        { w with
          us := { w.us with state := .selfChecking }
          starting := false
          notifying := { w.notifying with selfCheck := true } }
  | resumeAfterRollback {w : World} : w.starting = true -> w.us.own.boot.otaCapable = true ->
      w.us.own.boot.state = .rolledBack ->
      OthersStep crypto files w
        { w with starting := false, notifying := { w.notifying with afterRollback := true } }
  | resumeRollback {w : World} : w.us.state = .selfChecking ->
      OthersStep crypto files w
        { w with us := { w.us with state := .rollingBack, checkArmed := false } }
  | rollback {w : World} {F : Faults storeIo} {answer : FsAnswer} {fs : FsInst}
      {s : storeDevice.State} :
      Program.Exec storeDevice F (fsPerform crypto w.fs .rollback) w.stores (some (answer, fs)) s ->
      OthersStep crypto files w (w.called fs s)
  | notify {w : World} (bits : Notices) : OthersStep crypto files w (w.notified bits)

/-- What a call answers and changes. -/
def usEffect (crypto : OtaCrypto) (w : World) : (op : UsOp) -> UsResp op -> World -> Prop
  | .update f, before, w' => before = w.us ∧ w' = { w with us := f w.us }
  | .takePending, bits, w' =>
      bits = w.us.pending ∧ w' = { w with us := { w.us with pending := Notices.none } }
  | .takeInbox, taken, w' =>
      taken = (w.us.inbox, w.us.state) ∧ w' = { w with us := { w.us with inboxFull := false } }
  | .store call, answer, w' => exists F fs s,
      Program.Exec storeDevice F (fsPerform crypto w.fs call) w.stores (some (answer.1, fs)) s ∧
        answer.2 = fs.targetSlot ∧ w' = w.called fs s
  | .getBootInfo, info, w' => info = w.fs.boot ∧ w' = w
  | _, _, w' => w' = w

/-- Power is lost during a call of the store. -/
def usLost (crypto : OtaCrypto) (w : World) (op : UsOp) (w' : World) : Prop :=
  exists call F s, op = .store call ∧
    Program.Exec storeDevice F (fsPerform crypto w.fs call) w.stores none s ∧
      w' = w.called w.fs s

def createdService (boot : FirmwareBootInfo) : UsInst where
  own :=
    { boot := boot
      activeJob := 0
      expOffset := 0
      expLen := 0
      cmd := ⟨0, 0, 0⟩
      targetSlot := .none
      fileLen := 0
      offset := 0
      failures := 0
      startArmed := false
      reqArmed := false
      paused := false
      eventRetryArmed := false
      eventRetryType := .configEditEnter
      startDeadline := 0
      reqDeadline := 0
      lastProgress := 0
      checkDeadline := 0
      nextPoll := 0
      eventRetryAt := 0 }
  state := .idle
  inboxFull := false
  inbox := ⟨0, 0, 0⟩
  slotState := .free
  gotLen := 0
  chunk := List.replicate 1024 0
  checkArmed := false
  pending := Notices.none

def createdWorld (fs : FsInst) (flash bank : Memory) : World where
  us := createdService fs.boot
  notifying := Notices.none
  starting := true
  fs := fs
  flash := flash
  bank := bank

/-- After a reset the boot core leaves some on-chip flash, from which the store is created, and then
the service. -/
inductive UsBoot (w : World) : World -> Prop where
  | boot {F : Faults iflash} {bank bank' : Memory} {base : Nat} {fs : FsInst} :
      Program.Exec internalFlash F (firmwareStoreCreate base) bank (some (some fs)) bank' ->
      UsBoot w (createdWorld fs w.flash bank')

def usSurroundings (crypto : OtaCrypto) (files : UInt32 -> List UInt8) :
    Program.Surroundings usCalls World where
  others := OthersStep crypto files
  effect := usEffect crypto
  lost := usLost crypto
  boot := UsBoot

/-!
## What is demanded
-/

/-- The whole file of the session is staged. -/
def WholeStaged (files : UInt32 -> List UInt8) (fs : FsInst) (flash : Memory) : Prop :=
  StagedPrefix (files fs.imageId) flash fs.fileLen

/-- What the guards of the store ask for before a call that works on the staged file, and what is
handed over or staged then. -/
def InOrder (files : UInt32 -> List UInt8) (fs : FsInst) (flash : Memory) :
    FsCall -> Prop
  | .writeChunk offset data =>
      fs.op = .receiving ∧ offset = fs.writeOffset ∧ 0 < data.length ∧
        data.length ≤ fs.fileLen - offset ∧
          data = ((files fs.imageId).drop offset).take data.length
  | .verify => fs.op = .received ∧ WholeStaged files fs flash
  | .installBegin => fs.op = .verified
  | .installStep => fs.op = .installing
  | .activate => fs.op = .installed ∧ fs.boot.otaCapable = true ∧ fs.boot.state = .confirmed
  | _ => True

/-- The request is for the bytes that the store expects next. -/
structure NextPiece (fs : FsInst) (req : UsChunkRequest) : Prop where
  job : req.job = fs.imageId
  offset : req.offset.toNat = fs.writeOffset
  inside : fs.writeOffset ≤ fs.fileLen
  len : req.len.toNat = min 1024 (fs.fileLen - fs.writeOffset)

def Allowed (files : UInt32 -> List UInt8) (w : World) : UsOp -> Prop
  | .store call => InOrder files w.fs w.flash call
  | .requestChunk req => NextPiece w.fs req
  | _ => True

def usDemand (files : UInt32 -> List UInt8) : Program.Demand usCalls World where
  safe := fun w => StageInv files w.fs w.flash
  lasting := fun w => JournalSound files w.flash
  lasting_of_safe := fun _ h => h.sound
  allowed := Allowed files

end EnvMonitor.Gateway.UpdateService
