import EnvMonitor.Concurrency.SharedQueue
import EnvMonitor.Gateway.LifecycleController.Passes
import Mathlib.Data.List.Pairwise

/-!
# Whose time-out ends a session

A run of LifecycleTask, the timer service and the posting tasks.  The record kept beside it says
which session or window each time-out event comes from, and what became of the deferred events.
-/

namespace EnvMonitor.Gateway.LifecycleController

open Concurrency (FirstEnd)

/-- What the record knows of an event: its place in the order of arrival, and for an event of a
timer the number of the edit session or restart window that started it. -/
structure Origin where
  arrival : Nat
  timer : Option Nat
  deriving DecidableEq, Repr

abbrev Event := Posted Origin

structure Watch where
  lc : Controller Origin
  /-- Posts so far. -/
  arrivals : Nat
  /-- Edit sessions so far; the latest has this number. -/
  edits : Nat
  /-- Restart windows so far. -/
  windows : Nat
  /-- The sessions whose timer may still run its callback. -/
  editTimers : List Nat
  restartTimers : List Nat
  /-- The edit sessions that ended, and how many events had arrived by then. -/
  ended : List (Nat × Nat)
  /-- The requests that came to an edit session, with its number. -/
  requests : List (Nat × Event)
  replayed : List Event
  /-- The events handled from the queue, and how many deferred ones had been handled by then. -/
  taken : List (Event × Nat)
  /-- The time-out events that ended an edit session, with its number. -/
  editTimeouts : List (Event × Nat)
  restartTimeouts : List (Event × Nat)
  reset : Bool

inductive WatchStep where
  /-- Another task posts an event. -/
  | post (event : LifecycleEvent)
  | editTimer (session : Nat)
  | restartTimer (window : Nat)
  /-- A pass of the event loop; `late`: its stops of timers come too late for a callback. -/
  | pass (replies : LcReplies) (late : Bool)

/-- The event that the coming pass takes from the queue. -/
def fromQueue (c : Controller Origin) : Option Event :=
  if c.state = .operational ∧ c.deferred ≠ [] then none else c.queue.head?

def stopTimers (late : Bool) (stop : LcCall) (calls : List LcCall) (timers : List Nat) : List Nat :=
  if stop ∈ calls ∧ late = false then [] else timers

/-- The record after a pass that made `calls` and left `lc`. -/
def Watch.after (late : Bool) (calls : List LcCall) (lc : Controller Origin) (w : Watch) : Watch :=
  let edits := if .editTimerStart ∈ calls then w.edits + 1 else w.edits
  let windows := if .restartTimerStart ∈ calls then w.windows + 1 else w.windows
  { lc := lc
    arrivals := w.arrivals
    edits := edits
    windows := windows
    editTimers := stopTimers late .editTimerStop calls w.editTimers ++
      (if .editTimerStart ∈ calls then [edits] else [])
    restartTimers := stopTimers late .restartTimerStop calls w.restartTimers ++
      (if .restartTimerStart ∈ calls then [windows] else [])
    ended :=
      if w.lc.state = .editingConfig ∧ lc.state ≠ .editingConfig then
        w.ended ++ [(w.edits, w.arrivals)]
      else w.ended
    requests :=
      if w.lc.state = .editingConfig then
        w.requests ++ ((fromQueue w.lc).toList.filter (·.event.isRequest)).map (w.edits, ·)
      else w.requests
    replayed :=
      if w.lc.state = .operational then w.replayed ++ w.lc.deferred.take 1 else w.replayed
    taken := w.taken ++ (fromQueue w.lc).toList.map (·, w.replayed.length)
    editTimeouts :=
      if w.lc.state = .editingConfig then
        w.editTimeouts ++
          ((fromQueue w.lc).toList.filter (·.event = .configEditTimeout)).map (·, w.edits)
      else w.editTimeouts
    restartTimeouts :=
      if w.lc.state = .restarting then
        w.restartTimeouts ++
          ((fromQueue w.lc).toList.filter (·.event = .restartTimeout)).map (·, w.windows)
      else w.restartTimeouts
    reset := w.reset || decide (.softReset ∈ calls) }

def Watch.pass (replies : LcReplies) (late : Bool) (w : Watch) : Watch :=
  w.after late (runEventLoopOnce replies w.lc).1 (runEventLoopOnce replies w.lc).2

def Watch.perform (w : Watch) : WatchStep -> Watch
  | .post event =>
      { w with
        lc := (vtblPostEvent ⟨event, w.arrivals, none⟩ w.lc).2
        arrivals := w.arrivals + 1 }
  | .editTimer session =>
      { w with
        lc := postFromTimer ⟨.configEditTimeout, w.arrivals, some session⟩ w.lc
        arrivals := w.arrivals + 1
        editTimers := w.editTimers.erase session }
  | .restartTimer window =>
      { w with
        lc := postFromTimer ⟨.restartTimeout, w.arrivals, some window⟩ w.lc
        arrivals := w.arrivals + 1
        restartTimers := w.restartTimers.erase window }
  | .pass replies late => w.pass replies late

def LifecycleEvent.isTimeout (event : LifecycleEvent) : Bool :=
  event = .configEditTimeout || event = .restartTimeout

/-- Only the callbacks post time-outs, each timer that was started runs its callback at most once,
and nothing runs after a reset. -/
def Possible (w : Watch) : WatchStep -> Prop
  | .post event => event.isTimeout = false
  | .editTimer session => session ∈ w.editTimers
  | .restartTimer window => window ∈ w.restartTimers
  | .pass _ _ => w.reset = false

/-- What the init sequence leaves: no timer of these was started, so the queue has no time-out. -/
structure Started (w : Watch) : Prop where
  state : w.lc.state = .init ∨ w.lc.state = .operational ∨ w.lc.state = .faulted
  deferred : w.lc.deferred = []
  noTimeout : forall ev, ev ∈ w.lc.queue -> ev.event.isTimeout = false
  order : (w.lc.queue.map (·.tag.arrival)).Pairwise (· < ·)
  arrivals : forall ev, ev ∈ w.lc.queue -> ev.tag.arrival < w.arrivals
  editTimers : w.editTimers = []
  restartTimers : w.restartTimers = []
  ended : w.ended = []
  requests : w.requests = []
  replayed : w.replayed = []
  taken : w.taken = []
  editTimeouts : w.editTimeouts = []
  restartTimeouts : w.restartTimeouts = []
  reset : w.reset = false

inductive WatchRun (allowed : Watch -> WatchStep -> Prop) : Watch -> Prop
  | start {w : Watch} (started : Started w) : WatchRun allowed w
  | step {w : Watch} (run : WatchRun allowed w) (step : WatchStep) (possible : Possible w step)
      (ok : allowed w step) : WatchRun allowed (w.perform step)

/-!
## The promise and its condition
-/

/-- A time-out event is of session `number`. -/
def OfSession (number : Nat) (ev : Event) : Prop :=
  ev.event = .configEditTimeout -> ev.tag.timer = some number

/-- A request that was not handled before `ev` belongs to no session that ended before `ev`
arrived. -/
def DeferredFirst (w : Watch) : Prop :=
  forall ev count, (ev, count) ∈ w.taken -> forall i number request,
    count ≤ i -> w.requests[i]? = some (number, request) -> forall arrivals,
    (number, arrivals) ∈ w.ended -> ev.tag.arrival < arrivals

structure KeepsSessions (w : Watch) : Prop where
  /-- A time-out ends the edit session whose timer posted it. -/
  edit : forall ev number, (ev, number) ∈ w.editTimeouts -> ev.tag.timer = some number
  window : forall ev number, (ev, number) ∈ w.restartTimeouts -> ev.tag.timer = some number
  /-- No deferred event is lost, doubled or overtaken by another. -/
  once : w.replayed ++ w.lc.deferred = w.requests.map Prod.snd
  order : (w.requests.map (·.2.tag.arrival)).Pairwise (· < ·)
  /-- What waits after the session is handled by the next pass. -/
  next : w.lc.deferred ≠ [] ->
    w.lc.state = .editingConfig ∨ (w.lc.state = .operational ∧ w.reset = false)
  first : DeferredFirst w

/-- A session begins only where no time-out of an earlier one would be the first event to end it, no
such time-out is posted into it as the first event to end it, and it holds back at most one event
until it ends, none if a fault ends it. -/
def SessionsApart (w : Watch) : WatchStep -> Prop
  | .post _ => True
  | .editTimer session =>
      w.lc.state = .editingConfig -> w.lc.queue.length < lifecycleQueueDepth ->
        (forall ev, ev ∈ w.lc.queue -> endsEdit ev = false) -> session = w.edits
  | .restartTimer _ => True
  | .pass replies _ =>
      forall ev rest, w.lc.queue = ev :: rest ->
        (w.lc.state = .operational -> w.lc.deferred = [] -> ev.event = .configEditEnter ->
          replies.snapshot = true -> FirstEnd endsEdit (·.event ≠ .configEditTimeout) rest) ∧
        (w.lc.state = .editingConfig ->
          (ev.event.isRequest = true -> w.lc.deferred.length < lcDeferredDepth) ∧
          (ev.event.closesEdit = true -> w.lc.deferred.length ≤ 1) ∧
          (ev.event.isFault = true -> w.lc.deferred = []))

/-!
## What a step adds to the record
-/

variable {ev : Event} {c : Controller Origin} {tag : Type}

theorem fromQueue_eq_some (h : fromQueue c = some ev) : exists rest, c.queue = ev :: rest := by
  unfold fromQueue at h
  split at h
  · cases h
  · exact List.head?_eq_some_iff.mp h

theorem fromQueue_none (hstate : c.state = .operational) (hdeferred : c.deferred ≠ []) :
    fromQueue c = none :=
  if_pos ⟨hstate, hdeferred⟩

theorem fromQueue_some {rest : List Event} (hdeferred : c.state = .operational -> c.deferred = [])
    (hqueue : c.queue = ev :: rest) : fromQueue c = some ev := by
  unfold fromQueue
  rw [if_neg (fun h => h.2 (hdeferred h.1)), hqueue]
  rfl

section

variable {w : Watch} {late : Bool} {calls : List LcCall} {lc : Controller Origin}

variable {number : Nat} {ev : Event}

theorem mem_editTimeouts_after (h : (ev, number) ∈ (w.after late calls lc).editTimeouts) :
    (ev, number) ∈ w.editTimeouts ∨ (w.lc.state = .editingConfig ∧
      (exists rest, w.lc.queue = ev :: rest) ∧ ev.event = .configEditTimeout ∧
      number = w.edits) := by
  change (ev, number) ∈ (if _ then _ else _) at h
  split at h
  · next hstate =>
      rcases List.mem_append.mp h with hold | hnew
      · exact Or.inl hold
      · rcases List.mem_map.mp hnew with ⟨ev', hmem, heq⟩
        rcases List.mem_filter.mp hmem with ⟨hfrom, hevent⟩
        cases heq
        exact Or.inr ⟨hstate, fromQueue_eq_some (Option.mem_toList.mp hfrom),
          of_decide_eq_true hevent, rfl⟩
  · exact Or.inl h

theorem mem_restartTimeouts_after (h : (ev, number) ∈ (w.after late calls lc).restartTimeouts) :
    (ev, number) ∈ w.restartTimeouts ∨ (w.lc.state = .restarting ∧
      (exists rest, w.lc.queue = ev :: rest) ∧ ev.event = .restartTimeout ∧
      number = w.windows) := by
  change (ev, number) ∈ (if _ then _ else _) at h
  split at h
  · next hstate =>
      rcases List.mem_append.mp h with hold | hnew
      · exact Or.inl hold
      · rcases List.mem_map.mp hnew with ⟨ev', hmem, heq⟩
        rcases List.mem_filter.mp hmem with ⟨hfrom, hevent⟩
        cases heq
        exact Or.inr ⟨hstate, fromQueue_eq_some (Option.mem_toList.mp hfrom),
          of_decide_eq_true hevent, rfl⟩
  · exact Or.inl h

theorem mem_taken_after {count : Nat} (h : (ev, count) ∈ (w.after late calls lc).taken) :
    (ev, count) ∈ w.taken ∨ (fromQueue w.lc = some ev ∧ count = w.replayed.length) := by
  rcases List.mem_append.mp h with hold | hnew
  · exact Or.inl hold
  · rcases List.mem_map.mp hnew with ⟨ev', hfrom, heq⟩
    cases heq
    exact Or.inr ⟨Option.mem_toList.mp hfrom, rfl⟩

theorem mem_ended_after {arrivals : Nat} (h : (number, arrivals) ∈ (w.after late calls lc).ended) :
    (number, arrivals) ∈ w.ended ∨ (w.lc.state = .editingConfig ∧ lc.state ≠ .editingConfig ∧
      number = w.edits ∧ arrivals = w.arrivals) := by
  change (number, arrivals) ∈ (if _ then _ else _) at h
  split at h
  · next hstates =>
      rcases List.mem_append.mp h with hold | hnew
      · exact Or.inl hold
      · cases List.mem_singleton.mp hnew
        exact Or.inr ⟨hstates.1, hstates.2, rfl, rfl⟩
  · exact Or.inl h

theorem after_edits (hcalls : LcCall.editTimerStart ∉ calls) :
    (w.after late calls lc).edits = w.edits :=
  if_neg hcalls

theorem after_windows (hcalls : LcCall.restartTimerStart ∉ calls) :
    (w.after late calls lc).windows = w.windows :=
  if_neg hcalls

theorem stopTimers_sublist (late : Bool) (stop : LcCall) (calls : List LcCall)
    (timers : List Nat) :
    (stopTimers late stop calls timers).Sublist timers := by
  unfold stopTimers
  split
  · exact List.nil_sublist timers
  · exact List.Sublist.refl timers

theorem after_restartTimers (hcalls : LcCall.restartTimerStart ∉ calls) :
    (w.after late calls lc).restartTimers.Sublist w.restartTimers := by
  change List.Sublist (_ ++ (if _ then _ else _)) _
  rw [if_neg hcalls, List.append_nil]
  exact stopTimers_sublist _ _ _ _

end

theorem xQueueSend_cases (ev : Posted tag) (c : Controller tag) :
    (xQueueSend ev c).2 = c ∨ (c.queue.length < lifecycleQueueDepth ∧
      (xQueueSend ev c).2 = { c with queue := c.queue ++ [ev] }) := by
  unfold xQueueSend
  split
  · next hroom => exact Or.inr ⟨hroom, rfl⟩
  · exact Or.inl rfl

theorem vtblPostEvent_cases (ev : Posted tag) (c : Controller tag) :
    (vtblPostEvent ev c).2 = c ∨ (c.queue.length < lifecycleQueueDepth ∧
      (vtblPostEvent ev c).2 = { c with queue := c.queue ++ [ev] }) := by
  unfold vtblPostEvent
  split
  · exact Or.inl rfl
  · exact xQueueSend_cases ev c

end EnvMonitor.Gateway.LifecycleController
