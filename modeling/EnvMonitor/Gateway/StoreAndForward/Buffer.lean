import EnvMonitor.Gateway.CircularFlashLog.Client

/-!
# The store-and-forward buffer

The operations of `store_and_forward.c` as programs over the calls of the circular flash
log.  The log handle is the device; an operation takes the instance's own fields and
answers the error code and the new fields.
-/

namespace EnvMonitor.Gateway.StoreAndForward

open Device CircularFlashLog

abbrev safTopicMax : Nat := 64

/-- Serialised header bytes at maximum topic length. -/
abbrev safHeaderOverheadMax : Nat := 68

abbrev safPayloadMax : Nat := cflMaxRecordBytes - safHeaderOverheadMax

abbrev safBlobMinSz : Nat := 1 + 1 + 1 + 2 + 1

inductive SafErr where
  | ok
  | nullPtr
  | noResource
  | notInit
  | tooLarge
  | empty
  | flash
  deriving DecidableEq, Repr

structure SafEntry where
  topic : List UInt8
  payload : List UInt8
  qos : UInt8
  deriving DecidableEq, Repr

structure SafInst where
  capacity : Nat
  entryCount : Nat
  hasPending : Bool
  /-- `pending_hdr` and `pending_payload`. -/
  pending : SafEntry
  deriving DecidableEq, Repr

/-!
## Blobs
-/

/-- Topic length, topic, QoS, payload length, payload. -/
def safSerialise (topic buf : List UInt8) (qos : UInt8) : List UInt8 :=
  putLe 1 topic.length ++ (topic ++ ([qos] ++ (putLe 2 buf.length ++ buf)))

/-- Parse a blob into the pending entry.  A blob that is refused late has already replaced
the topic and the QoS. -/
def safDeserialise (pending : SafEntry) (blob : List UInt8) : Bool × SafEntry :=
  if blob.length < safBlobMinSz then
    (false, pending)
  else
    let topicLen := fieldAt blob 0 1
    if topicLen = 0 ∨ topicLen > safTopicMax ∨ 1 + topicLen + 1 + 2 > blob.length then
      (false, pending)
    else
      let named :=
        { pending with
          topic := (blob.drop 1).take topicLen
          qos := blob.getD (1 + topicLen) 0 }
      let payloadLen := fieldAt blob (1 + topicLen + 1) 2
      if payloadLen = 0 ∨ payloadLen > safPayloadMax ∨
          1 + topicLen + 1 + 2 + payloadLen ≠ blob.length then
        (false, named)
      else
        (true, { named with payload := (blob.drop (1 + topicLen + 1 + 2)).take payloadLen })

/-!
## Public operations
-/

/-- The fields `saf_create` sets from the occupancy of the log. -/
def safCreate (entries capacity : Nat) : SafInst where
  capacity := capacity
  entryCount := entries
  hasPending := false
  pending := ⟨[], [], 0⟩

def safEntryRemoved (inst : SafInst) : SafInst :=
  if inst.entryCount > 0 then { inst with entryCount := inst.entryCount - 1 } else inst

/-- More than the records of the ring, for the two loops that remove records. -/
abbrev safLoopFuel : Nat := 254 * 256 + 1

/-- How the drop-oldest loop ends: with the code of the last append, or at a drop that
failed.  `every_safAppendLoop` excludes the third. -/
inductive SafDropExit where
  | append (rc : CflErr)
  | dropFailed
  | outOfFuel
  deriving DecidableEq, Repr

/-- Drop the oldest entries until the append fits. -/
def safDropLoop (raw : List UInt8) :
    Nat -> CflErr -> SafInst -> Program cflApi (SafDropExit × SafInst)
  | 0, _, inst => pure (.outOfFuel, inst)
  | fuel + 1, rc, inst =>
      if rc = .full then do
        let drop ← cflCall .drop
        if drop.err = .empty then
          pure (.append rc, inst)
        else if drop.err ≠ .ok then
          pure (.dropFailed, inst)
        else do
          let append ← cflCall (.append raw)
          safDropLoop raw fuel append.err (safEntryRemoved { inst with hasPending := false })
      else
        pure (.append rc, inst)

def safAppendLoop (inst : SafInst) (raw : List UInt8) :
    Program cflApi (SafDropExit × SafInst) := do
  let append ← cflCall (.append raw)
  safDropLoop raw safLoopFuel append.err inst

def safEnqueue (inst : SafInst) (topic buf : List UInt8) (qos : UInt8) :
    Program cflApi (SafErr × SafInst) :=
  if buf.length = 0 ∨ buf.length > safPayloadMax ∨ topic.length = 0 ∨
      topic.length > safTopicMax then
    pure (.tooLarge, inst)
  else do
    let (exit, after) ← safAppendLoop inst (safSerialise topic buf qos)
    if exit = .append .ok then
      pure (.ok, { after with entryCount := u32 (after.entryCount + 1) })
    else
      pure (.flash, after)

/-- Peek until a record parses; unusable records are consumed, and a failed consume stops
the loop.  `none` stands for a loop that outran its fuel, which `every_safPeekLoop`
excludes. -/
def safPeekLoop : Nat -> SafInst -> Program cflApi (Option SafErr × SafInst)
  | 0, inst => pure (none, inst)
  | fuel + 1, inst => do
      let peek ← cflCall (.peek cflMaxRecordBytes)
      if peek.err = .empty then
        pure (some .empty, inst)
      else if peek.err = .ok ∨ peek.err = .corrupt then
        let parsed :=
          if peek.err = .ok then safDeserialise inst.pending (peek.data.getD [])
          else (false, inst.pending)
        if parsed.1 then
          pure (some .ok, { inst with pending := parsed.2, hasPending := true })
        else do
          let consume ← cflCall .consume
          if consume.err ≠ .ok then
            pure (some .flash, { inst with pending := parsed.2 })
          else
            safPeekLoop fuel (safEntryRemoved { inst with pending := parsed.2 })
      else
        pure (some .flash, inst)

def safDequeue (inst : SafInst) : Program cflApi (SafErr × SafInst) :=
  if inst.hasPending then
    pure (.ok, inst)
  else do
    let (err, after) ← safPeekLoop safLoopFuel inst
    pure (err.getD .flash, after)

def safConfirm (inst : SafInst) : Program cflApi (SafErr × SafInst) :=
  if inst.hasPending = false then
    pure (.ok, inst)
  else do
    let consume ← cflCall .consume
    if consume.err ≠ .ok then
      pure (.flash, inst)
    else
      pure (.ok, safEntryRemoved { inst with hasPending := false })

inductive SafCall where
  | enqueue (topic buf : List UInt8) (qos : UInt8)
  | dequeue
  | confirm
  deriving DecidableEq, Repr

/-- The code of a call and, of `saf_dequeue`, the entry it publishes. -/
structure SafAnswer where
  err : SafErr
  out : Option SafEntry
  deriving DecidableEq, Repr

def safPerform (inst : SafInst) : SafCall -> Program cflApi (SafAnswer × SafInst)
  | .enqueue topic buf qos => do
      let (err, after) ← safEnqueue inst topic buf qos
      pure (⟨err, none⟩, after)
  | .dequeue => do
      let (err, after) ← safDequeue inst
      pure (⟨err, if err = .ok then some after.pending else none⟩, after)
  | .confirm => do
      let (err, after) ← safConfirm inst
      pure (⟨err, none⟩, after)

end EnvMonitor.Gateway.StoreAndForward
