import EnvMonitor.Concurrency.SharedQueue
import EnvMonitor.FieldDevice.EditSession

/-!
# Whose time-out ends an edit session of the field device

The steps of the device with the timer service in between.  The record kept beside the device says
which session each event of the queue comes from.
-/

namespace EnvMonitor.FieldDevice

open Modbus
open Concurrency (FirstEnd)
open ConfigService (SaveOutcome ConfigBlob opCalls)

def FieldDeviceState.lifecycle (d : FieldDeviceState) : Lifecycle := d.rest.others.lifecycle

structure EditWatch where
  device : FieldDeviceState
  /-- For each event of the queue, the session whose timer posted it. -/
  origins : List (Option Nat)
  /-- Edit sessions so far; the latest has this number. -/
  edits : Nat
  /-- The sessions whose timer may still run its callback. -/
  timers : List Nat
  /-- The time-outs that ended a session: whose they were, and which session they ended. -/
  timeouts : List (Option Nat × Nat)

inductive EditWatchStep where
  /-- A step of a task; `late`: a stop of the timer comes too late for its callback. -/
  | fd (step : FdStep) (late : Bool)
  | timer (session : Nat)

def callsOf (d : FieldDeviceState) : FdStep -> List LcCall
  | .lifecyclePass saves => (runEventLoopOnce (d.withSaves saves)).1
  | _ => []

/-- The time-out that ends the session in the coming pass. -/
def timeoutOf (w : EditWatch) : FdStep -> List (Option Nat × Nat)
  | .lifecyclePass _ =>
      if w.device.lifecycle.state = .editingConfig ∧
          nextEvent w.device = some .configEditTimeout then
        [(w.origins.head?.join, w.edits)]
      else []
  | _ => []

def originsAfter (w : EditWatch) (d : FieldDeviceState) : FdStep -> List (Option Nat)
  | .lifecyclePass _ => w.origins.tail
  | _ => w.origins ++
      List.replicate (d.lifecycle.eventQueue.length - w.device.lifecycle.eventQueue.length) none

def EditWatch.perform (version : FirmwareVersion) (w : EditWatch) : EditWatchStep -> EditWatch
  | .fd step late =>
      let calls := callsOf w.device step
      let d := w.device.after version step
      let edits := if .editTimerStart ∈ calls then w.edits + 1 else w.edits
      { device := d
        origins := originsAfter w d step
        edits := edits
        timers :=
          (if .editTimerStop ∈ calls ∧ late = false then [] else w.timers) ++
            (if .editTimerStart ∈ calls then [edits] else [])
        timeouts := w.timeouts ++ timeoutOf w step }
  | .timer session =>
      -- `edit_timer_cb`
      let (sent, l) := queueSend .configEditTimeout w.device.lifecycle
      { w with
        device := w.device.withLifecycle l
        origins := if sent then w.origins ++ [some session] else w.origins
        timers := w.timers.erase session }

/-- Only the callback posts time-outs, and it runs at most once each time the timer is started. -/
def PossibleEdit (w : EditWatch) : EditWatchStep -> Prop
  | .fd (.post event) _ => event ≠ .configEditTimeout
  | .fd _ _ => True
  | .timer session => session ∈ w.timers

inductive EditRun (version : FirmwareVersion) (allowed : EditWatch -> EditWatchStep -> Prop) :
    EditWatch -> Prop
  | start (stored : Option ConfigBlob) (d : FieldDeviceState) :
      EditRun version allowed ⟨startUp stored d, [], 0, [], []⟩
  | step {w : EditWatch} (run : EditRun version allowed w) (step : EditWatchStep)
      (possible : PossibleEdit w step) (ok : allowed w step) :
      EditRun version allowed (w.perform version step)

/-- A time-out ends the session whose timer posted it. -/
def KeepsEdits (w : EditWatch) : Prop :=
  forall origin number, (origin, number) ∈ w.timeouts -> origin = some number

/-- The events that end an edit session. -/
def endsEditing : LifecycleEvent -> Bool
  | .configEditApply | .configEditCancel | .configEditTimeout | .unrecoverableFault _ => true
  | _ => false

/-- A session begins only where no time-out of an earlier one would be the first event to end it, and
no such time-out is posted into it as the first event to end it. -/
def EditsApart (w : EditWatch) : EditWatchStep -> Prop
  | .fd (.lifecyclePass _) _ =>
      w.device.lifecycle.state = .operational -> forall rest,
        w.device.lifecycle.eventQueue = .configEditEnter :: rest ->
        FirstEnd endsEditing (· ≠ .configEditTimeout) rest
  | .fd _ _ => True
  | .timer session =>
      w.device.lifecycle.state = .editingConfig ->
        w.device.lifecycle.eventQueue.length < lcQueueDepth ->
        (forall event, event ∈ w.device.lifecycle.eventQueue -> endsEditing event = false) ->
        session = w.edits

/-!
## What the other steps do to LifecycleController
-/

/-- LifecycleController goes on as it was, with more in its queue, but no time-outs. -/
structure OnlyPosts (l l' : Lifecycle) : Prop where
  state : l'.state = l.state
  queue : exists more, l'.eventQueue = l.eventQueue ++ more ∧
    forall event, event ∈ more -> event ≠ .configEditTimeout

theorem OnlyPosts.refl (l : Lifecycle) : OnlyPosts l l :=
  ⟨rfl, [], (List.append_nil _).symm, fun _ h => nomatch h⟩

theorem OnlyPosts.trans {l l' l'' : Lifecycle} (h : OnlyPosts l l') (h' : OnlyPosts l' l'') :
    OnlyPosts l l'' := by
  rcases h.queue with ⟨more, hqueue, hmore⟩
  rcases h'.queue with ⟨more', hqueue', hmore'⟩
  refine ⟨h'.state.trans h.state, more ++ more', ?_, ?_⟩
  · rw [hqueue', hqueue, List.append_assoc]
  · intro event hmem
    rcases List.mem_append.mp hmem with hl | hr
    · exact hmore event hl
    · exact hmore' event hr

variable {event : LifecycleEvent} {version : FirmwareVersion} {d : FieldDeviceState}

theorem queueSend_onlyPosts (hevent : event ≠ .configEditTimeout) (l : Lifecycle) :
    OnlyPosts l (queueSend event l).2 := by
  unfold queueSend
  split
  · refine ⟨rfl, [event], rfl, ?_⟩
    intro event' hmem
    rw [List.mem_singleton.mp hmem]
    exact hevent
  · exact .refl l

theorem postEvent_onlyPosts (hevent : event ≠ .configEditTimeout) (l : Lifecycle) :
    OnlyPosts l (postEvent event l).2 := by
  unfold postEvent
  split
  · exact .refl l
  · exact queueSend_onlyPosts hevent l

theorem lcHandleRemoteCommand_onlyPosts (cmd : RemoteCommand) (l : Lifecycle) :
    OnlyPosts l (lcHandleRemoteCommand cmd l).2 := by
  change OnlyPosts l (vtblHandleRemoteCommand cmd l).2
  unfold vtblHandleRemoteCommand
  split
  · exact .refl l
  · cases cmd with
    | resetMetrics => exact .refl l
    | softRestart =>
        have hposts : OnlyPosts l (queueSend .restartRequested l).2 :=
          queueSend_onlyPosts (by decide) l
        dsimp only
        split <;> exact hposts

theorem othersSteps_onlyPosts {b b' : Board}
    (h : ConfigService.OthersSteps (boardServices version) b b') :
    OnlyPosts b.lifecycle b'.lifecycle := by
  induction h with
  | refl _ => exact .refl _
  | ackAll _ ih => exact ih
  | remote cmd _ ih => exact ih.trans (lcHandleRemoteCommand_onlyPosts cmd _)
  | setTime epoch _ ih =>
      rename_i r' _
      rcases boardServices_setTime version epoch r' with ⟨clock, hsame⟩
      rw [hsame]
      exact ih

theorem perform_onlyPosts (version : FirmwareVersion) (d : FieldDeviceState) (op : Operation) :
    OnlyPosts d.lifecycle (FieldDeviceState.lifecycle (perform (fdServices version) d op).2) := by
  rcases ConfigService.perform_rest (boardServices version) onConfigChanged d op with hleaves | hcalls
  · rcases hleaves with ⟨b, hsteps, heq⟩
    unfold fdServices FieldDeviceState.lifecycle
    rw [heq]
    exact othersSteps_onlyPosts hsteps
  · have hkept := (runCalls_keepsSnapshot (opCalls op) d.rest).2
    rw [← hcalls] at hkept
    unfold FieldDeviceState.lifecycle fdServices
    rw [hkept]
    exact .refl _

theorem after_onlyPosts (version : FirmwareVersion) (d : FieldDeviceState) {step : FdStep}
    (hpass : forall saves, step ≠ .lifecyclePass saves)
    (hpost : step ≠ .post .configEditTimeout) :
    OnlyPosts d.lifecycle (d.after version step).lifecycle := by
  cases step with
  | modbus op saves => exact perform_onlyPosts version (d.withSaves saves) op
  | setParam call saves =>
      have hkept := (setParam_keepsSnapshot call (d.withSaves saves).rest).2
      unfold FieldDeviceState.lifecycle FieldDeviceState.after
      rw [hkept]
      exact .refl _
  | post event =>
      apply postEvent_onlyPosts
      intro h
      exact hpost (congrArg FdStep.post h)
  | lifecyclePass saves => exact absurd rfl (hpass saves)
  | sensorCycle readings => exact .refl _

/-!
## The invariant of a run
-/

def OfEdit (number : Nat) (tagged : LifecycleEvent × Option Nat) : Prop :=
  tagged.1 = .configEditTimeout -> tagged.2 = some number

def EditWatch.queue (w : EditWatch) : List (LifecycleEvent × Option Nat) :=
  w.device.lifecycle.eventQueue.zip w.origins

structure EditWatchInv (w : EditWatch) : Prop where
  length : w.device.lifecycle.eventQueue.length = w.origins.length
  guarded : w.device.lifecycle.state = .editingConfig ->
    FirstEnd (endsEditing ∘ Prod.fst) (OfEdit w.edits) w.queue
  keeps : KeepsEdits w

theorem EditWatchInv.start (stored : Option ConfigBlob) (d : FieldDeviceState) :
    EditWatchInv ⟨startUp stored d, [], 0, [], []⟩ := by
  have hlifecycle : (startUp stored d).lifecycle.eventQueue = [] := by
    unfold startUp
    dsimp only
    split <;> rfl
  constructor
  · exact congrArg List.length hlifecycle
  · intro _
    unfold EditWatch.queue
    rw [hlifecycle]
    exact FirstEnd.nil
  · intro origin number hmem
    cases hmem

theorem handleEvent_editing {state : LifecycleState}
    (h : (handleEvent state event).2 = .editingConfig) :
    (state = .editingConfig ∧ endsEditing event = false ∧
      LcCall.editTimerStart ∉ (handleEvent state event).1) ∨
    (state = .operational ∧ event = .configEditEnter ∧
      LcCall.editTimerStart ∈ (handleEvent state event).1) := by
  cases state with
  | init => cases h
  | faulted => cases h
  | operational =>
      cases event with
      | configEditEnter => exact Or.inr ⟨rfl, rfl, by decide⟩
      | _ => cases h
  | editingConfig =>
      left
      cases event with
      | configEditApply | configEditCancel | configEditTimeout | unrecoverableFault param => cases h
      | _ => exact ⟨rfl, rfl, List.not_mem_nil⟩

theorem pass_lifecycle {rest : List LifecycleEvent}
    (hqueue : d.lifecycle.eventQueue = event :: rest) (saves : List SaveOutcome) :
    (runEventLoopOnce (d.withSaves saves)).1 = (handleEvent d.lifecycle.state event).1 ∧
      FieldDeviceState.lifecycle (runEventLoopOnce (d.withSaves saves)).2 =
        { d.lifecycle with
          eventQueue := rest
          state := (handleEvent d.lifecycle.state event).2 } := by
  have hqueue' : (d.withSaves saves).rest.others.lifecycle.eventQueue = event :: rest := hqueue
  unfold runEventLoopOnce
  dsimp only
  rw [hqueue']
  refine ⟨rfl, ?_⟩
  unfold FieldDeviceState.lifecycle
  dsimp only
  rw [lcCalls_others]
  rfl

theorem pass_nothing (hqueue : d.lifecycle.eventQueue = []) (saves : List SaveOutcome) :
    runEventLoopOnce (d.withSaves saves) = ([], d.withSaves saves) :=
  pass_idle (List.head?_eq_none_iff.mpr hqueue) saves

section

variable {version : FirmwareVersion} {w : EditWatch}

theorem KeepsEdits.append (h : KeepsEdits w) {w' : EditWatch} (more : List (Option Nat × Nat))
    (heq : w'.timeouts = w.timeouts ++ more)
    (hmore : forall origin number, (origin, number) ∈ more -> origin = some number) :
    KeepsEdits w' := by
  intro origin number hmem
  rw [heq] at hmem
  rcases List.mem_append.mp hmem with hold | hnew
  · exact h origin number hold
  · exact hmore origin number hnew

theorem EditWatchInv.posts {step : FdStep} (hinv : EditWatchInv w) (late : Bool)
    (hpass : forall saves, step ≠ .lifecyclePass saves)
    (hpost : step ≠ .post .configEditTimeout) :
    EditWatchInv (w.perform version (.fd step late)) := by
  have hcalls : callsOf w.device step = [] := by
    cases step with
    | lifecyclePass saves => exact absurd rfl (hpass saves)
    | _ => rfl
  have htimeout : timeoutOf w step = [] := by
    cases step with
    | lifecyclePass saves => exact absurd rfl (hpass saves)
    | _ => rfl
  have horigins : forall d, originsAfter w d step = w.origins ++ List.replicate
      (d.lifecycle.eventQueue.length - w.device.lifecycle.eventQueue.length) none := by
    intro d
    cases step with
    | lifecyclePass saves => exact absurd rfl (hpass saves)
    | _ => rfl
  have hedits : (w.perform version (.fd step late)).edits = w.edits := by
    change (if LcCall.editTimerStart ∈ callsOf w.device step then _ else _) = _
    rw [hcalls]
    exact if_neg List.not_mem_nil
  have honly := after_onlyPosts version w.device hpass hpost
  rcases honly.queue with ⟨more, hqueue, hmore⟩
  have hreplicate : originsAfter w (w.device.after version step) step =
      w.origins ++ List.replicate more.length none := by
    rw [horigins, hqueue, List.length_append, Nat.add_sub_cancel_left]
  constructor
  · change (w.device.after version step).lifecycle.eventQueue.length = (originsAfter _ _ _).length
    rw [hreplicate, hqueue, List.length_append, List.length_append, List.length_replicate,
      hinv.length]
  · intro hstate
    change (w.device.after version step).lifecycle.state = _ at hstate
    rw [honly.state] at hstate
    rw [hedits]
    change FirstEnd _ _ ((w.device.after version step).lifecycle.eventQueue.zip
      (originsAfter _ _ _))
    rw [hreplicate, hqueue, List.zip_append hinv.length]
    apply (hinv.guarded hstate).append
    intro _
    apply FirstEnd.of_forall
    intro tagged hmem htimeout
    exact absurd htimeout (hmore _ (List.of_mem_zip hmem).1)
  · apply hinv.keeps.append (timeoutOf w step) rfl
    rw [htimeout]
    intro origin number hmem
    cases hmem

theorem EditWatchInv.pass {saves : List SaveOutcome} {late : Bool} (hinv : EditWatchInv w)
    (hok : EditsApart w (.fd (.lifecyclePass saves) late)) :
    EditWatchInv (w.perform version (.fd (.lifecyclePass saves) late)) := by
  cases hqueue : w.device.lifecycle.eventQueue with
  | nil =>
      have hpass := pass_nothing hqueue saves
      have hdevice : (w.perform version (.fd (.lifecyclePass saves) late)).device.lifecycle =
          w.device.lifecycle := by
        change FieldDeviceState.lifecycle (runEventLoopOnce (w.device.withSaves saves)).2 = _
        rw [hpass]
        rfl
      constructor
      · rw [hdevice, hinv.length]
        change _ = w.origins.tail.length
        rw [List.eq_nil_of_length_eq_zero (hinv.length.symm.trans (congrArg List.length hqueue))]
        rfl
      · intro _
        unfold EditWatch.queue
        rw [hdevice, hqueue]
        exact FirstEnd.nil
      · apply hinv.keeps.append (timeoutOf w (.lifecyclePass saves)) rfl
        intro origin number hmem
        have hnone : nextEvent w.device = none := List.head?_eq_none_iff.mpr hqueue
        change (origin, number) ∈ (if _ then _ else _) at hmem
        rw [hnone] at hmem
        split at hmem
        · next hends => cases hends.2
        · cases hmem
  | cons event rest =>
      rcases pass_lifecycle hqueue saves with ⟨hcalls, hdevice⟩
      cases horigins : w.origins with
      | nil =>
          have hlength := hinv.length
          rw [hqueue, horigins] at hlength
          cases hlength
      | cons first more =>
          have hzip : w.queue = (event, first) :: rest.zip more := by
            unfold EditWatch.queue
            rw [hqueue, horigins, List.zip_cons_cons]
          have hlength : rest.length = more.length := by
            have hlength := hinv.length
            rw [hqueue, horigins] at hlength
            exact Nat.succ.inj hlength
          have hafter : (w.perform version (.fd (.lifecyclePass saves) late)).device.lifecycle =
              { w.device.lifecycle with
                eventQueue := rest
                state := (handleEvent w.device.lifecycle.state event).2 } := hdevice
          have htail : (w.perform version (.fd (.lifecyclePass saves) late)).origins = more := by
            change w.origins.tail = more
            rw [horigins]
            rfl
          have hedits : (w.perform version (.fd (.lifecyclePass saves) late)).edits =
              if LcCall.editTimerStart ∈ (handleEvent w.device.lifecycle.state event).1 then
                w.edits + 1
              else w.edits := by
            rw [← hcalls]
            rfl
          constructor
          · rw [hafter, htail]
            exact hlength
          · rw [hedits]
            intro hstate
            unfold EditWatch.queue
            rw [hafter] at hstate ⊢
            rw [htail]
            rcases handleEvent_editing hstate with ⟨hediting, hgoes, hstart⟩ |
              ⟨hoperational, henter, hstart⟩
            · rw [if_neg hstart]
              have hguarded := hinv.guarded hediting
              rw [hzip] at hguarded
              exact hguarded.tail hgoes
            · rw [henter] at hqueue
              have hfirst := hok hoperational rest hqueue
              have hmap : ((rest.zip more).map Prod.fst) = rest :=
                List.map_fst_zip (Nat.le_of_eq hlength)
              rw [← hmap] at hfirst
              intro tagged htagged htimeout
              exact absurd htimeout (hfirst.of_map tagged htagged)
          · apply hinv.keeps.append (timeoutOf w (.lifecyclePass saves)) rfl
            intro origin number hmem
            change (origin, number) ∈ (if _ then _ else _) at hmem
            split at hmem
            · next hends =>
                cases List.mem_singleton.mp hmem
                have hguarded := hinv.guarded hends.1
                have hevent : event = .configEditTimeout := by
                  have hnext : nextEvent w.device = some event := by
                    change w.device.lifecycle.eventQueue.head? = _
                    rw [hqueue]
                    rfl
                  exact Option.some.inj (hnext.symm.trans hends.2)
                rw [hzip] at hguarded
                rw [horigins]
                apply hguarded.head _ hevent
                change endsEditing event = true
                rw [hevent]
                rfl
            · cases hmem

theorem EditWatchInv.timer {session : Nat} (hinv : EditWatchInv w)
    (hok : EditsApart w (.timer session)) :
    EditWatchInv (w.perform version (.timer session)) := by
  by_cases hroom : w.device.lifecycle.eventQueue.length < lcQueueDepth
  · have hsend : queueSend .configEditTimeout w.device.lifecycle =
        (true, { w.device.lifecycle with
          eventQueue := w.device.lifecycle.eventQueue ++ [.configEditTimeout] }) := if_pos hroom
    have hstep : w.perform version (.timer session) =
        { w with
          device := w.device.withLifecycle { w.device.lifecycle with
            eventQueue := w.device.lifecycle.eventQueue ++ [.configEditTimeout] }
          origins := w.origins ++ [some session]
          timers := w.timers.erase session } := by
      unfold EditWatch.perform
      rw [hsend]
      rfl
    rw [hstep]
    constructor
    · change (w.device.lifecycle.eventQueue ++ [_]).length = (w.origins ++ [_]).length
      rw [List.length_append, List.length_append, hinv.length]
      rfl
    · intro hstate
      change FirstEnd _ _ ((w.device.lifecycle.eventQueue ++ [_]).zip (w.origins ++ [_]))
      rw [List.zip_append hinv.length]
      apply (hinv.guarded hstate).snoc
      intro _ hquiet _
      have hsession : session = w.edits := by
        apply hok hstate hroom
        intro event hevent
        have hmem : event ∈ w.queue.map Prod.fst := by
          unfold EditWatch.queue
          rw [List.map_fst_zip (Nat.le_of_eq hinv.length)]
          exact hevent
        rcases List.mem_map.mp hmem with ⟨tagged, htagged, heq⟩
        rw [← heq]
        exact hquiet tagged htagged
      exact congrArg some hsession
    · exact hinv.keeps
  · have hsend : queueSend .configEditTimeout w.device.lifecycle = (false, w.device.lifecycle) :=
      if_neg hroom
    have hstep : w.perform version (.timer session) =
        { w with timers := w.timers.erase session } := by
      unfold EditWatch.perform
      rw [hsend]
      rfl
    rw [hstep]
    exact ⟨hinv.length, hinv.guarded, hinv.keeps⟩

theorem EditWatchInv.perform {step : EditWatchStep} (hinv : EditWatchInv w)
    (hpossible : PossibleEdit w step) (hok : EditsApart w step) :
    EditWatchInv (w.perform version step) := by
  cases step with
  | timer session => exact hinv.timer hok
  | fd step late =>
      cases step with
      | lifecyclePass saves => exact hinv.pass hok
      | modbus op saves => exact hinv.posts late (fun _ h => nomatch h) (fun h => nomatch h)
      | setParam call saves => exact hinv.posts late (fun _ h => nomatch h) (fun h => nomatch h)
      | post event =>
          refine hinv.posts late (fun _ h => nomatch h) ?_
          intro h
          cases h
          exact hpossible rfl
      | sensorCycle readings => exact hinv.posts late (fun _ h => nomatch h) (fun h => nomatch h)

end

theorem EditRun.inv {w : EditWatch} (run : EditRun version EditsApart w) : EditWatchInv w := by
  induction run with
  | start stored d => exact .start stored d
  | step _ step possible ok ih => exact ih.perform possible ok

end EnvMonitor.FieldDevice
