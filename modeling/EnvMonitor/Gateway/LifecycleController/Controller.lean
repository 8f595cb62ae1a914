import Mathlib.Data.List.Basic

/-!
# LifecycleController of the gateway

The event loop of LifecycleTask, from the end of the init sequence on: its states, the queue of
events and the list of those held back during an edit session.
-/

namespace EnvMonitor.Gateway.LifecycleController

inductive LifecycleState where
  | init
  | operational
  | editingConfig
  | restarting
  | updatingFw
  | faulted
  deriving DecidableEq, Repr

/-- `lifecycle_event_type_t`, with the parameter where a handler reads it. -/
inductive LifecycleEvent where
  | configEditEnter
  | configEditApply
  | configEditCancel
  | configEditTimeout
  | restartRequested
  | restartConfirmed
  | restartTimeout
  | otaRequested (job : UInt32)
  | selfCheckPass
  | selfCheckFail
  | unrecoverableFault (param : UInt32)
  | otaResetRequested
  | otaFinished
  deriving DecidableEq, Repr

abbrev lifecycleQueueDepth : Nat := 4

abbrev lcDeferredDepth : Nat := lifecycleQueueDepth

def lcFaultSelfCheck : UInt32 := 12

def lcFaultOtaStart : UInt32 := 13

/-- An event on its way; `tag` is what a proof wants to know about it, nothing in the code. -/
structure Posted (tag : Type) where
  event : LifecycleEvent
  tag : tag
  deriving DecidableEq, Repr

structure Controller (tag : Type) where
  state : LifecycleState
  awaitingSelfCheck : Bool
  queue : List (Posted tag)
  deferred : List (Posted tag)

/-- What a handler calls, in order. -/
inductive LcCall where
  | editTimerStart
  | editTimerStop
  | restartTimerStart
  | restartTimerStop
  | initTimerStop
  | snapshot
  | restoreSnapshot
  | commit
  | reconfigure
  | persistPending
  | cloudFlush
  | updateStart (job : UInt32)
  | confirmSelfCheck
  | resumeRollback
  | rollback
  | updateLifecycle (state : LifecycleState)
  | pushFault (code : UInt32)
  | setLedFault
  | openStartGate
  | resetGrace
  | softReset
  deriving DecidableEq, Repr

/-- Which of the calls that a handler looks at return `LC_DEP_OK`. -/
structure LcReplies where
  snapshot : Bool
  commit : Bool
  updateStart : Bool
  confirmSelfCheck : Bool

variable {tag : Type}

abbrev Handled (tag : Type) := List LcCall × Controller tag

def Handled.after (calls : List LcCall) (h : Handled tag) : Handled tag := (calls ++ h.1, h.2)

/-!
## State helpers
-/

@[simp] theorem Handled.after_fst (calls : List LcCall) (h : Handled tag) :
    (Handled.after calls h).1 = calls ++ h.1 := rfl

@[simp] theorem Handled.after_snd (calls : List LcCall) (h : Handled tag) :
    (Handled.after calls h).2 = h.2 := rfl

def setState (state : LifecycleState) (c : Controller tag) : Handled tag :=
  ([.updateLifecycle state], { c with state := state })

def stopAllTimers : List LcCall := [.editTimerStop, .initTimerStop, .restartTimerStop]

def resetSystem (c : Controller tag) : Handled tag := ([.persistPending, .softReset], c)

def enterFaulted (faultCode : UInt32) (c : Controller tag) : Handled tag :=
  if c.state = .faulted then ([], c)
  else
    Handled.after (stopAllTimers ++ [.pushFault faultCode, .persistPending, .setLedFault])
      (setState .faulted { c with awaitingSelfCheck := false })

def enterOperational (c : Controller tag) : Handled tag :=
  let (calls, c) := setState .operational { c with awaitingSelfCheck := false }
  ([.initTimerStop] ++ calls ++ [.openStartGate], c)

/-!
## Event handling
-/

def rollBackAndReset (c : Controller tag) : Handled tag :=
  Handled.after [.resumeRollback, .rollback] (resetSystem c)

def handleSelfCheckEvent (replies : LcReplies) (ev : Posted tag) (c : Controller tag) :
    Handled tag :=
  match ev.event with
  | .selfCheckPass =>
      Handled.after [.confirmSelfCheck]
        (if !replies.confirmSelfCheck then enterFaulted lcFaultSelfCheck c
        else enterOperational c)
  | .selfCheckFail => rollBackAndReset c
  | .unrecoverableFault param => enterFaulted param c
  | _ => ([], c)

def handleInitEvent (replies : LcReplies) (ev : Posted tag) (c : Controller tag) : Handled tag :=
  if c.awaitingSelfCheck then handleSelfCheckEvent replies ev c
  else
    match ev.event with
    | .unrecoverableFault param => enterFaulted param c
    | _ => ([], c)

def deferEvent (ev : Posted tag) (c : Controller tag) : Controller tag :=
  if lcDeferredDepth ≤ c.deferred.length then c
  else { c with deferred := c.deferred ++ [ev] }

def leaveEditing (c : Controller tag) : Handled tag :=
  Handled.after [.editTimerStop] (setState .operational c)

def handleEditingEvent (replies : LcReplies) (ev : Posted tag) (c : Controller tag) :
    Handled tag :=
  match ev.event with
  | .configEditApply =>
      Handled.after (if !replies.commit then [.commit, .restoreSnapshot] else [.commit, .reconfigure])
        (leaveEditing c)
  | .configEditCancel | .configEditTimeout => Handled.after [.restoreSnapshot] (leaveEditing c)
  | .restartRequested | .otaRequested _ => ([], deferEvent ev c)
  | .unrecoverableFault param => enterFaulted param c
  | _ => ([], c)

def handleOperationalEvent (replies : LcReplies) (ev : Posted tag) (c : Controller tag) :
    Handled tag :=
  match ev.event with
  | .configEditEnter =>
      if !replies.snapshot then ([.snapshot], c)
      else Handled.after [.snapshot, .editTimerStart] (setState .editingConfig c)
  | .restartRequested =>
      Handled.after [.cloudFlush, .restartTimerStart] (setState .restarting c)
  | .otaRequested job =>
      Handled.after [.updateStart job]
        (if !replies.updateStart then enterFaulted lcFaultOtaStart c
        else setState .updatingFw c)
  | .unrecoverableFault param => enterFaulted param c
  | _ => ([], c)

def handleRestartingEvent (ev : Posted tag) (c : Controller tag) : Handled tag :=
  match ev.event with
  | .restartConfirmed | .restartRequested => Handled.after [.restartTimerStop] (resetSystem c)
  | .restartTimeout => setState .operational c
  | .unrecoverableFault param => enterFaulted param c
  | _ => ([], c)

def otaReset (c : Controller tag) : Handled tag :=
  Handled.after [.cloudFlush, .resetGrace] (resetSystem c)

def handleUpdatingEvent (replies : LcReplies) (ev : Posted tag) (c : Controller tag) :
    Handled tag :=
  match ev.event with
  | .otaRequested _ => ([], c)
  | .otaFinished => setState .operational c
  | .otaResetRequested => otaReset c
  | _ => handleSelfCheckEvent replies ev c

def processEvent (replies : LcReplies) (ev : Posted tag) (c : Controller tag) : Handled tag :=
  if (ev.event = .otaResetRequested ∨ ev.event = .otaFinished) ∧ c.state ≠ .updatingFw then
    ([], c)
  else
    match c.state with
    | .init => handleInitEvent replies ev c
    | .operational => handleOperationalEvent replies ev c
    | .editingConfig => handleEditingEvent replies ev c
    | .restarting => handleRestartingEvent ev c
    | .updatingFw => handleUpdatingEvent replies ev c
    | .faulted => ([], c)

def popDeferred (c : Controller tag) : Option (Posted tag × Controller tag) :=
  match c.deferred with
  | [] => none
  | ev :: rest => some (ev, { c with deferred := rest })

def xQueueReceive (c : Controller tag) : Option (Posted tag × Controller tag) :=
  match c.queue with
  | [] => none
  | ev :: rest => some (ev, { c with queue := rest })

/-- The event of the coming pass, if there is one: a deferred one in Operational, or else the
oldest of the queue. -/
def nextEvent (c : Controller tag) : Option (Posted tag × Controller tag) :=
  if c.state = .operational then (popDeferred c).or (xQueueReceive c) else xQueueReceive c

def runEventLoopOnce (replies : LcReplies) (c : Controller tag) : Handled tag :=
  let (calls, c) :=
    match nextEvent c with
    | none => ([], c)
    | some (ev, c) => processEvent replies ev c
  (if c.state = .operational then calls ++ [.persistPending] else calls, c)

/-!
## Posting
-/

/-- `xQueueSend` without waiting: `false` where the queue is full. -/
def xQueueSend (ev : Posted tag) (c : Controller tag) : Bool × Controller tag :=
  if c.queue.length < lifecycleQueueDepth then (true, { c with queue := c.queue ++ [ev] })
  else (false, c)

def vtblPostEvent (ev : Posted tag) (c : Controller tag) : Bool × Controller tag :=
  match ev.event, c.state with
  | .otaRequested _, .updatingFw => (false, c)
  | _, _ => xQueueSend ev c

/-- `post_from_timer`, as `edit_timer_cb` and `restart_timer_cb` call it. -/
def postFromTimer (ev : Posted tag) (c : Controller tag) : Controller tag := (xQueueSend ev c).2

end EnvMonitor.Gateway.LifecycleController
