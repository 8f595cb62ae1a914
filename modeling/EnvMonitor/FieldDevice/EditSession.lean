import EnvMonitor.FieldDevice.Consumers

/-!
# Edit sessions

What the end of a session, or a reset in the middle of it, leaves of the writes made during the
session: those of the editor, which go to the store at once, and those of Modbus masters.
-/

namespace EnvMonitor.FieldDevice

open Modbus
open ConfigService

/-- What a session was expected to leave, kept beside the run. -/
structure Session where
  /-- The live configuration at `CONFIG_EDIT_ENTER`. -/
  before : ConfigService.ConfigParams
  storedBefore : Option ConfigBlob
  /-- `before` with every write acknowledged to a Modbus master since. -/
  expected : ConfigService.ConfigParams
  /-- New values that the editor has set, latest first. -/
  edits : List Call

structure Traced where
  device : FieldDeviceState
  session : Option Session

inductive TracedStep where
  | fd (step : FdStep)
  | reset

def applyCalls (p : ConfigService.ConfigParams) (calls : List Call) : ConfigService.ConfigParams :=
  calls.foldl (fun p call => applyParamToStruct p call.1 call.2) p

/-- The answer to a request is no exception. -/
def acknowledged (version : FirmwareVersion) (d : FieldDeviceState) (op : Operation) : Bool :=
  match (perform (fdServices version) d op).1 with
  | .ok _ => true
  | .error _ => false

/-- The event that the next pass of LifecycleController handles. -/
def nextEvent (d : FieldDeviceState) : Option LifecycleEvent :=
  d.rest.others.lifecycle.eventQueue.head?

def sessionAfter (version : FirmwareVersion) (d : FieldDeviceState) (session : Option Session)
    (step : FdStep) : Option Session :=
  match step, session with
  | .modbus op saves, some s =>
      if acknowledged version (d.withSaves saves) op then
        some { s with expected := applyCalls s.expected (opCalls op) }
      else some s
  | .setParam call _, some s =>
      if validateParamInternal call.1 call.2 d.rest.config.params = true ∧
          d.rest.config.params.get call.1 ≠ call.2 then
        some { s with edits := call :: s.edits }
      else some s
  | .lifecyclePass _, some s =>
      match nextEvent d with
      | some .configEditApply | some .configEditCancel | some .configEditTimeout
      | some (.unrecoverableFault _) => none
      | _ => some s
  | .lifecyclePass _, none =>
      if d.rest.others.lifecycle.state = .operational ∧ nextEvent d = some .configEditEnter then
        some ⟨d.rest.config.params, d.rest.config.stored, d.rest.config.params, []⟩
      else none
  | _, session => session

def Traced.after (version : FirmwareVersion) (t : Traced) : TracedStep -> Traced
  | .fd step => ⟨t.device.after version step, sessionAfter version t.device t.session step⟩
  | .reset => ⟨startUp t.device.rest.config.stored t.device, none⟩

inductive TracedRun (version : FirmwareVersion) (allowed : Traced -> TracedStep -> Prop) :
    Traced -> Prop
  | start (stored : Option ConfigBlob) (d : FieldDeviceState) :
      TracedRun version allowed ⟨startUp stored d, none⟩
  | step {t : Traced} (run : TracedRun version allowed t) (step : TracedStep)
      (ok : allowed t step) : TracedRun version allowed (t.after version step)

/-!
## What a session promises
-/

def IsAbort (event : LifecycleEvent) : Prop :=
  event = .configEditCancel ∨ event = .configEditTimeout

def storedBlob (p : ConfigService.ConfigParams) : Option ConfigBlob := some (.full configSchemaVersion p)

/-- The store has an edit of the session that was neither there before nor set over Modbus. -/
def HoldsEdit (s : Session) (stored : Option ConfigBlob) : Prop :=
  exists call schemaVersion q, call ∈ s.edits ∧ stored = some (.full schemaVersion q) ∧
    q.get call.1 = call.2 ∧ s.expected.get call.1 ≠ call.2 ∧
    forall schemaVersion' q', s.storedBefore = some (.full schemaVersion' q') ->
      q'.get call.1 ≠ call.2

structure KeepsPromise (version : FirmwareVersion) (t : Traced) (step : TracedStep) : Prop where
  aborted : forall s saves event, t.session = some s -> step = .fd (.lifecyclePass saves) ->
    nextEvent t.device = some event -> IsAbort event ->
    (t.after version step).device.rest.config.params = s.expected ∧
      (t.after version step).device.rest.config.stored = storedBlob s.expected
  saved : forall s saves event, t.session = some s -> step = .fd (.lifecyclePass saves) ->
    nextEvent t.device = some event -> IsAbort event ∨ event = .configEditApply ->
    (t.after version step).device.rest.config.stored =
      storedBlob (t.after version step).device.rest.config.params
  reset : forall s, t.session = some s -> step = .reset ->
    ¬HoldsEdit s t.device.rest.config.stored

/-- The save leaves the blob in the store. -/
def Leaves (outcome : SaveOutcome) (p : ConfigService.ConfigParams) : Prop :=
  outcome = .saved ∨ outcome = .failed (storedBlob p)

/-- A session is aborted only if no acknowledged write changed anything, its end is saved, and a
reset comes only before an edit is in the store. -/
def SessionOk (t : Traced) : TracedStep -> Prop
  | .fd (.lifecyclePass saves) =>
      forall s, t.session = some s -> forall event, nextEvent t.device = some event ->
        (IsAbort event -> s.expected = s.before ∧ Leaves (saves.headD .saved) s.before) ∧
        (event = .configEditApply -> Leaves (saves.headD .saved) t.device.rest.config.params)
  | .reset =>
      forall s, t.session = some s ->
        s.edits = [] ∨ t.device.rest.config.stored = s.storedBefore
  | _ => True

/-!
## The snapshot of a running session
-/

structure SnapshotKept (d d' : FieldDeviceState) : Prop where
  state : d'.rest.others.lifecycle.state = d.rest.others.lifecycle.state
  snapshot : d'.rest.config.snapshot = d.rest.config.snapshot

theorem onConfigChanged_lifecycle (id : ConfigParamId) (p : ConfigService.ConfigParams)
    (b : Board) : (onConfigChanged id p b).lifecycle = b.lifecycle := by
  unfold onConfigChanged
  split <;> rfl

theorem setParam_keepsSnapshot (call : Call) (c : Configured Board) :
    (setParam onConfigChanged call c).2.config.snapshot = c.config.snapshot ∧
      (setParam onConfigChanged call c).2.others.lifecycle = c.others.lifecycle := by
  unfold setParam
  by_cases hvalid : validateParamInternal call.1 call.2 c.config.params = true
  · rw [configServiceSetParam_accepted hvalid]
    cases c.saves.headD .saved with
    | saved => exact ⟨rfl, onConfigChanged_lifecycle _ _ _⟩
    | failed left => exact ⟨rfl, rfl⟩
  · rw [configServiceSetParam_rejected hvalid]
    exact ⟨rfl, rfl⟩

theorem runCalls_keepsSnapshot (calls : List Call) (c : Configured Board) :
    (runCalls onConfigChanged calls c).2.config.snapshot = c.config.snapshot ∧
      (runCalls onConfigChanged calls c).2.others.lifecycle =
        c.others.lifecycle := by
  induction calls generalizing c with
  | nil => exact ⟨rfl, rfl⟩
  | cons call calls ih =>
      have hone := setParam_keepsSnapshot call c
      cases hset : (setParam onConfigChanged call c).1 with
      | true =>
          rw [runCalls_cons_ok onConfigChanged hset]
          exact ⟨(ih _).1.trans hone.1, (ih _).2.trans hone.2⟩
      | false =>
          rw [runCalls_cons_stop onConfigChanged hset]
          exact hone

theorem vtblHandleRemoteCommand_state (cmd : RemoteCommand) (l : Lifecycle) :
    (vtblHandleRemoteCommand cmd l).2.state = l.state := by
  unfold vtblHandleRemoteCommand
  split
  · rfl
  · cases cmd with
    | resetMetrics => rfl
    | softRestart =>
        unfold queueSend
        dsimp only
        split <;> rfl

variable {version : FirmwareVersion} {t : Traced} {event : LifecycleEvent} {d : FieldDeviceState}
variable {saves : List SaveOutcome}

theorem othersSteps_state {b b' : Board}
    (h : OthersSteps (boardServices version) b b') :
    b'.lifecycle.state = b.lifecycle.state := by
  induction h with
  | refl _ => rfl
  | ackAll _ ih => exact ih
  | remote cmd _ ih => exact (vtblHandleRemoteCommand_state cmd _).trans ih
  | setTime epoch _ ih =>
      rename_i r' _
      rcases boardServices_setTime version epoch r' with ⟨clock, hsame⟩
      rw [hsame]
      exact ih

theorem perform_keepsSnapshot (version : FirmwareVersion) (d : FieldDeviceState) (op : Operation) :
    SnapshotKept d (perform (fdServices version) d op).2 := by
  rcases perform_rest (boardServices version) onConfigChanged d op with hleaves | hcalls
  · rcases hleaves with ⟨b, hsteps, heq⟩
    constructor
    · unfold fdServices
      rw [heq]
      exact othersSteps_state hsteps
    · unfold fdServices
      rw [heq]
  · have hkept := runCalls_keepsSnapshot (opCalls op) d.rest
    rw [← hcalls] at hkept
    exact ⟨congrArg (·.state) hkept.2, hkept.1⟩

/-- A session is open exactly while LifecycleController is editing, and the snapshot is the
configuration it began with. -/
structure SessionInv (t : Traced) : Prop where
  editing : t.session ≠ none ↔ t.device.rest.others.lifecycle.state = .editingConfig
  snapshot : forall s, t.session = some s -> t.device.rest.config.snapshot = some s.before

theorem SessionInv.congr {t' : Traced} (h : SessionInv t) (hkept : SnapshotKept t.device t'.device)
    (hsession : t'.session = none ↔ t.session = none)
    (hbefore : forall s', t'.session = some s' -> exists s, t.session = some s ∧ s'.before = s.before)
    : SessionInv t' where
  editing := by
    rw [hkept.state]
    exact Iff.trans (not_congr hsession) h.editing
  snapshot s' hs' := by
    rcases hbefore s' hs' with ⟨s, hs, hsame⟩
    rw [hkept.snapshot, h.snapshot s hs, hsame]

theorem sessionAfter_before (version : FirmwareVersion) (d : FieldDeviceState)
    (session : Option Session) {step : FdStep} (hpass : forall saves, step ≠ .lifecyclePass saves) :
    (sessionAfter version d session step = none ↔ session = none) ∧
      forall s', sessionAfter version d session step = some s' ->
        exists s, session = some s ∧ s'.before = s.before := by
  cases session with
  | none =>
      cases step with
      | lifecyclePass saves => exact absurd rfl (hpass saves)
      | modbus op saves => exact ⟨Iff.rfl, fun s' h => nomatch h⟩
      | setParam call saves => exact ⟨Iff.rfl, fun s' h => nomatch h⟩
      | post event => exact ⟨Iff.rfl, fun s' h => nomatch h⟩
      | sensorCycle readings => exact ⟨Iff.rfl, fun s' h => nomatch h⟩
  | some s =>
      cases step with
      | lifecyclePass saves => exact absurd rfl (hpass saves)
      | modbus op saves =>
          unfold sessionAfter
          dsimp only
          split
          · exact ⟨iff_of_false (fun h => nomatch h) (fun h => nomatch h),
              fun s' h => ⟨s, rfl, by cases h; rfl⟩⟩
          · exact ⟨Iff.rfl, fun s' h => ⟨s, rfl, by cases h; rfl⟩⟩
      | setParam call saves =>
          unfold sessionAfter
          dsimp only
          split
          · exact ⟨iff_of_false (fun h => nomatch h) (fun h => nomatch h),
              fun s' h => ⟨s, rfl, by cases h; rfl⟩⟩
          · exact ⟨Iff.rfl, fun s' h => ⟨s, rfl, by cases h; rfl⟩⟩
      | post event => exact ⟨Iff.rfl, fun s' h => ⟨s, rfl, by cases h; rfl⟩⟩
      | sensorCycle readings => exact ⟨Iff.rfl, fun s' h => ⟨s, rfl, by cases h; rfl⟩⟩

/-!
## Passes of LifecycleController
-/

theorem lcCall_others (call : LcCall) (d : FieldDeviceState) :
    (lcCall call d).rest.others = d.rest.others := by
  cases call with
  | setAddress =>
      change (modbusSlaveSetAddress _ d).rest.others = _
      rw [(modbusSlaveSetAddress_rest _ d).1]
  | _ => rfl

theorem lcCalls_others (calls : List LcCall) (d : FieldDeviceState) :
    (calls.foldl (fun d call => lcCall call d) d).rest.others = d.rest.others := by
  induction calls generalizing d with
  | nil => rfl
  | cons call calls ih => exact (ih (lcCall call d)).trans (lcCall_others call d)

theorem pass_event (h : nextEvent d = some event) (saves : List SaveOutcome) :
    exists queue, runEventLoopOnce (d.withSaves saves) =
      ((handleEvent d.rest.others.lifecycle.state event).1,
        (handleEvent d.rest.others.lifecycle.state event).1.foldl (fun d call => lcCall call d)
          ((d.withSaves saves).withLifecycle
            { d.rest.others.lifecycle with
              eventQueue := queue
              state := (handleEvent d.rest.others.lifecycle.state event).2 })) := by
  unfold nextEvent at h
  cases hqueue : d.rest.others.lifecycle.eventQueue with
  | nil =>
      rw [hqueue] at h
      cases h
  | cons first queue =>
      rw [hqueue] at h
      cases h
      refine ⟨queue, ?_⟩
      have hsaves : (d.withSaves saves).rest.others.lifecycle.eventQueue = event :: queue := hqueue
      unfold runEventLoopOnce
      dsimp only
      rw [hsaves]
      rfl

theorem pass_idle (h : nextEvent d = none) (saves : List SaveOutcome) :
    runEventLoopOnce (d.withSaves saves) = ([], d.withSaves saves) := by
  unfold nextEvent at h
  have hsaves : (d.withSaves saves).rest.others.lifecycle.eventQueue = [] :=
    List.head?_eq_none_iff.mp h
  unfold runEventLoopOnce
  dsimp only
  rw [hsaves]

theorem pass_state (h : nextEvent d = some event) (saves : List SaveOutcome) :
    (runEventLoopOnce (d.withSaves saves)).2.rest.others.lifecycle.state =
      (handleEvent d.rest.others.lifecycle.state event).2 := by
  rcases pass_event h saves with ⟨queue, hpass⟩
  rw [hpass]
  dsimp only
  rw [lcCalls_others]
  rfl

theorem SessionInv.pass (version : FirmwareVersion) (h : SessionInv t) (saves : List SaveOutcome) :
    SessionInv (t.after version (.fd (.lifecyclePass saves))) := by
  rcases t with ⟨d, session⟩
  change SessionInv ⟨(runEventLoopOnce (d.withSaves saves)).2,
    sessionAfter version d session (.lifecyclePass saves)⟩
  cases hnext : nextEvent d with
  | none =>
      rw [pass_idle hnext]
      have hsession : sessionAfter version d session (.lifecyclePass saves) = session := by
        cases session with
        | none =>
            unfold sessionAfter
            rw [hnext]
            exact if_neg fun hboth => nomatch hboth.2
        | some s =>
            unfold sessionAfter
            rw [hnext]
      rw [hsession]
      exact ⟨h.editing, h.snapshot⟩
  | some event =>
      have hstate := pass_state hnext saves
      cases hs : session with
      | none =>
          have hnot : d.rest.others.lifecycle.state ≠ .editingConfig :=
            fun hediting => h.editing.mpr hediting hs
          by_cases hopen : d.rest.others.lifecycle.state = .operational ∧
              nextEvent d = some .configEditEnter
          · have hsession : sessionAfter version d none (.lifecyclePass saves) =
                some ⟨d.rest.config.params, d.rest.config.stored, d.rest.config.params, []⟩ :=
              if_pos hopen
            rw [hsession]
            have hevent : event = .configEditEnter := by
              have heq := hnext.symm.trans hopen.2
              cases heq
              rfl
            rw [hevent, hopen.1] at hstate
            rcases pass_event hnext saves with ⟨queue, hpass⟩
            rw [hevent, hopen.1] at hpass
            refine ⟨iff_of_true (fun hnone => nomatch hnone) hstate, fun s' hs' => ?_⟩
            cases hs'
            rw [hpass]
            rfl
          · have hsession : sessionAfter version d none (.lifecyclePass saves) = none :=
              if_neg hopen
            rw [hsession]
            refine ⟨iff_of_false (fun hnone => hnone rfl) ?_, fun s' hs' => nomatch hs'⟩
            rw [hstate]
            cases hlc : d.rest.others.lifecycle.state with
            | init => exact fun heq => nomatch heq
            | faulted => exact fun heq => nomatch heq
            | editingConfig => exact absurd hlc hnot
            | operational =>
                have hother : event ≠ .configEditEnter :=
                  fun heq => hopen ⟨hlc, by rw [hnext, heq]⟩
                cases event with
                | configEditEnter => exact absurd rfl hother
                | unrecoverableFault param => exact fun heq => nomatch heq
                | _ => exact fun heq => nomatch heq
      | some s =>
          have hediting : d.rest.others.lifecycle.state = .editingConfig :=
            h.editing.mp (by rw [hs]; exact Option.some_ne_none s)
          have hsnapshot : d.rest.config.snapshot = some s.before := h.snapshot s hs
          rw [hediting] at hstate
          rcases pass_event hnext saves with ⟨queue, hpass⟩
          rw [hediting] at hpass
          have hends : forall state, sessionAfter version d (some s) (.lifecyclePass saves) = none ->
              (handleEvent .editingConfig event).2 = state -> state ≠ .editingConfig ->
              SessionInv ⟨(runEventLoopOnce (d.withSaves saves)).2,
                sessionAfter version d (some s) (.lifecyclePass saves)⟩ := by
            intro state hsession hnew hne
            rw [hsession]
            refine ⟨iff_of_false (fun hnone => hnone rfl) ?_, fun s' hs' => nomatch hs'⟩
            rw [hstate, hnew]
            exact hne
          have hgoes : sessionAfter version d (some s) (.lifecyclePass saves) = some s ->
              handleEvent .editingConfig event = ([], .editingConfig) ->
              SessionInv ⟨(runEventLoopOnce (d.withSaves saves)).2,
                sessionAfter version d (some s) (.lifecyclePass saves)⟩ := by
            intro hsession hnew
            rw [hsession]
            rw [hnew] at hstate hpass
            refine ⟨iff_of_true (Option.some_ne_none s) hstate, fun s' hs' => ?_⟩
            cases hs'
            rw [hpass]
            exact hsnapshot
          have hsession : sessionAfter version d (some s) (.lifecyclePass saves) =
              match some event with
              | some .configEditApply | some .configEditCancel | some .configEditTimeout
              | some (.unrecoverableFault _) => none
              | _ => some s := by
            unfold sessionAfter
            rw [hnext]
          cases event with
          | configEditApply => exact hends .operational hsession rfl (fun heq => nomatch heq)
          | configEditCancel => exact hends .operational hsession rfl (fun heq => nomatch heq)
          | configEditTimeout => exact hends .operational hsession rfl (fun heq => nomatch heq)
          | unrecoverableFault param =>
              exact hends .faulted hsession rfl (fun heq => nomatch heq)
          | _ => exact hgoes hsession rfl

theorem startUp_state (stored : Option ConfigBlob) (d : FieldDeviceState) :
    (startUp stored d).rest.others.lifecycle.state ≠ .editingConfig := by
  unfold startUp
  dsimp only
  split
  · exact fun heq => nomatch heq
  · exact fun heq => nomatch heq

theorem SessionInv.after (version : FirmwareVersion) (h : SessionInv t) (step : TracedStep) :
    SessionInv (t.after version step) := by
  have hother : forall step, (forall saves, step ≠ FdStep.lifecyclePass saves) ->
      SnapshotKept t.device (t.device.after version step) ->
      SessionInv (t.after version (.fd step)) := by
    intro step hpass hkept
    have hsession := sessionAfter_before version t.device t.session hpass
    exact h.congr hkept hsession.1 hsession.2
  cases step with
  | reset =>
      exact ⟨iff_of_false (fun hnone => hnone rfl) (startUp_state _ _), fun s hs => nomatch hs⟩
  | fd step =>
      cases step with
      | lifecyclePass saves => exact h.pass version saves
      | modbus op saves =>
          exact hother _ (fun _ heq => nomatch heq)
            ⟨(perform_keepsSnapshot version (t.device.withSaves saves) op).state,
              (perform_keepsSnapshot version (t.device.withSaves saves) op).snapshot⟩
      | setParam call saves =>
          have hkept := setParam_keepsSnapshot call (t.device.withSaves saves).rest
          exact hother _ (fun _ heq => nomatch heq) ⟨congrArg (·.state) hkept.2, hkept.1⟩
      | post event =>
          refine hother _ (fun _ heq => nomatch heq) ⟨?_, rfl⟩
          change (postEvent event t.device.rest.others.lifecycle).2.state = _
          unfold postEvent queueSend
          split
          · rfl
          · split <;> rfl
      | sensorCycle readings => exact hother _ (fun _ heq => nomatch heq) ⟨rfl, rfl⟩

/-!
## The promise
-/

theorem persist_leaves {outcome : SaveOutcome} {s : Service}
    (h : Leaves outcome s.params) :
    (persistToStore outcome s).2.stored = storedBlob s.params := by
  rcases h with h | h
  · rw [h]
    rfl
  · rw [h]
    rfl

theorem abort_restores (hnext : nextEvent d = some event) (habort : IsAbort event)
    (hediting : d.rest.others.lifecycle.state = .editingConfig)
    {before : ConfigService.ConfigParams} (hsnapshot : d.rest.config.snapshot = some before)
    (hsave : Leaves (saves.headD .saved) before) :
    (runEventLoopOnce (d.withSaves saves)).2.rest.config.params = before ∧
      (runEventLoopOnce (d.withSaves saves)).2.rest.config.stored = storedBlob before := by
  have hcalls : (handleEvent .editingConfig event).1 = [.editTimerStop, .restoreSnapshot] := by
    rcases habort with heq | heq
    · rw [heq]
      rfl
    · rw [heq]
      rfl
  rcases pass_event hnext saves with ⟨queue, hpass⟩
  rw [hpass, hediting, hcalls]
  change (configServiceRestoreSnapshot (saves.headD .saved) d.rest.config).2.params =
      before ∧
    (configServiceRestoreSnapshot (saves.headD .saved) d.rest.config).2.stored =
      storedBlob before
  have hrestore : configServiceRestoreSnapshot (saves.headD .saved) d.rest.config =
      persistToStore (saves.headD .saved) { d.rest.config with params := before } := by
    unfold configServiceRestoreSnapshot
    split
    · rename_i hnone
      rw [hsnapshot] at hnone
      cases hnone
    · rename_i p hsome
      have heq := hsnapshot.symm.trans hsome
      cases heq
      rfl
  rw [hrestore, persistToStore_params]
  exact ⟨rfl, @persist_leaves _ { d.rest.config with params := before } hsave⟩

theorem apply_saves (hnext : nextEvent d = some .configEditApply)
    (hediting : d.rest.others.lifecycle.state = .editingConfig)
    (hsave : Leaves (saves.headD .saved) d.rest.config.params) :
    (runEventLoopOnce (d.withSaves saves)).2.rest.config.stored =
      storedBlob (runEventLoopOnce (d.withSaves saves)).2.rest.config.params := by
  rcases pass_event hnext saves with ⟨queue, hpass⟩
  rw [hpass, hediting]
  change (modbusSlaveSetAddress _ (lcCall .flush _)).rest.config.stored =
    storedBlob (modbusSlaveSetAddress _ (lcCall .flush _)).rest.config.params
  rw [(modbusSlaveSetAddress_rest _ _).1]
  change (persistToStore (saves.headD .saved) d.rest.config).2.stored =
    storedBlob (persistToStore (saves.headD .saved) d.rest.config).2.params
  rw [persistToStore_params]
  exact persist_leaves hsave

theorem tracedRun_inv {allowed : Traced -> TracedStep -> Prop} (h : TracedRun version allowed t) :
    SessionInv t := by
  induction h with
  | start stored d =>
      exact ⟨iff_of_false (fun hnone => hnone rfl) (startUp_state stored d),
        fun s hs => nomatch hs⟩
  | step _ step _ ih => exact ih.after version step

/-- In a run whose sessions end without a Modbus change to undo and with a save, and are not reset
after an edit, every step keeps the promise of the session. -/
theorem sessions_restore_their_own_changes (version : FirmwareVersion) {t : Traced}
    (h : TracedRun version SessionOk t) {step : TracedStep} (hok : SessionOk t step) :
    KeepsPromise version t step := by
  have hinv := tracedRun_inv h
  have hsession : forall s, t.session = some s ->
      t.device.rest.others.lifecycle.state = .editingConfig :=
    fun s hs => hinv.editing.mp (by rw [hs]; exact Option.some_ne_none s)
  exact
    { aborted := by
        intro s saves event hs hstep hnext habort
        subst hstep
        have hend := (hok s hs event hnext).1 habort
        rw [hend.1]
        exact abort_restores hnext habort (hsession s hs) (hinv.snapshot s hs) hend.2
      saved := by
        intro s saves event hs hstep hnext hevent
        subst hstep
        rcases hevent with habort | happly
        · have hend := (hok s hs event hnext).1 habort
          have hrestored := abort_restores hnext habort (hsession s hs) (hinv.snapshot s hs) hend.2
          change (runEventLoopOnce (t.device.withSaves saves)).2.rest.config.stored =
            storedBlob (runEventLoopOnce (t.device.withSaves saves)).2.rest.config.params
          rw [hrestored.1, hrestored.2]
        · rw [happly] at hnext
          exact apply_saves hnext (hsession s hs) ((hok s hs _ hnext).2 rfl)
      reset := by
        intro s hs hstep hholds
        subst hstep
        rcases hholds with ⟨call, schemaVersion, q, hcall, hstored, hvalue, _, hold⟩
        rcases hok s hs with hnone | hsame
        · rw [hnone] at hcall
          cases hcall
        · exact hold schemaVersion q (by rw [← hsame]; exact hstored) hvalue }

/-- A device with the default configuration stored, and the steps made on it. -/
def tracedAfter (steps : List TracedStep) : Traced :=
  steps.foldl (fun t step => t.after ⟨1, 0, 0⟩ step)
    ⟨startUp (storedBlob applyDefaults) idleDevice, none⟩

def limitEdit : Call := ⟨.channel .temperature .alarmHigh, (4100 : Int16)⟩

/-- The upper limit is edited, and the session is about to be cancelled. -/
def editedSession : Traced :=
  tracedAfter [.fd (.post .configEditEnter), .fd (.lifecyclePass []),
    .fd (.setParam limitEdit [.saved]), .fd (.post .configEditCancel)]

/-- The limit that is live. -/
def Traced.upperLimit (t : Traced) : Int :=
  t.device.rest.config.params.num (.channel .temperature .alarmHigh)

/-- The edit is live and saved until the cancel undoes it. -/
theorem sessions_restore_their_own_changes_cancelled :
    editedSession.upperLimit = 4100 ∧
      KeepsPromise ⟨1, 0, 0⟩ editedSession (.fd (.lifecyclePass [.saved])) ∧
      (editedSession.after ⟨1, 0, 0⟩ (.fd (.lifecyclePass [.saved]))).upperLimit = 4000 := by
  have hsession : exists s, editedSession.session = some s ∧ s.edits = [limitEdit] ∧
      s.expected = s.before ∧ nextEvent editedSession.device = some .configEditCancel := by
    have hopen : exists s, (tracedAfter [.fd (.post .configEditEnter),
        .fd (.lifecyclePass [])]).session = some s ∧ s.edits = [] ∧ s.expected = s.before :=
      ⟨_, rfl, rfl, rfl⟩
    rcases hopen with ⟨s, hs, hedits, hsame⟩
    refine ⟨{ s with edits := limitEdit :: s.edits }, ?_, by rw [hedits], hsame, by decide +kernel⟩
    change sessionAfter ⟨1, 0, 0⟩ _ (tracedAfter [.fd (.post .configEditEnter),
      .fd (.lifecyclePass [])]).session (.setParam limitEdit [.saved]) = _
    rw [hs]
    exact if_pos (by decide +kernel)
  refine ⟨by decide +kernel, ?_, by decide +kernel⟩
  apply sessions_restore_their_own_changes ⟨1, 0, 0⟩
  · exact .step (.step (.step (.step
      (.start (storedBlob applyDefaults) idleDevice)
      (.fd (.post .configEditEnter)) trivial) (.fd (.lifecyclePass [])) fun s hs => nomatch hs)
      (.fd (.setParam limitEdit [.saved])) trivial) (.fd (.post .configEditCancel)) trivial
  · rcases hsession with ⟨s, hs, _, hsame, hcancel⟩
    intro s' hs' event hevent
    rw [hs] at hs'
    cases hs'
    rw [hcancel] at hevent
    cases hevent
    exact ⟨fun _ => ⟨hsame, Or.inl rfl⟩, fun heq => (by cases heq)⟩

/-- An upper limit set over Modbus during the session is acknowledged, and gone after a cancel. -/
theorem acknowledged_write_is_undone :
    ¬forall t, TracedRun ⟨1, 0, 0⟩ (fun _ _ => True) t -> forall step, KeepsPromise ⟨1, 0, 0⟩ t step := by
  intro hclaim
  have hall := hclaim _ (.step (.step (.step (.step
    (.start (storedBlob applyDefaults) idleDevice)
    (.fd (.post .configEditEnter)) trivial) (.fd (.lifecyclePass [])) trivial)
    (.fd (.modbus (.writeSingle 0x0101 4100) [])) trivial)
    (.fd (.post .configEditCancel)) trivial) (.fd (.lifecyclePass []))
  have hexpected : (tracedAfter [.fd (.post .configEditEnter), .fd (.lifecyclePass []),
      .fd (.modbus (.writeSingle 0x0101 4100) []), .fd (.post .configEditCancel)]).session.map
        (fun s => s.expected.num (.channel .temperature .alarmHigh)) = some 4100 := by
    decide +kernel
  have hnext : nextEvent (tracedAfter [.fd (.post .configEditEnter), .fd (.lifecyclePass []),
      .fd (.modbus (.writeSingle 0x0101 4100) []), .fd (.post .configEditCancel)]).device =
        some .configEditCancel := by
    decide +kernel
  rcases Option.map_eq_some_iff.mp hexpected with ⟨s, hs, hnum⟩
  have hlive := (hall.aborted s [] .configEditCancel hs rfl hnext (Or.inl rfl)).1
  rw [← hlive] at hnum
  revert hnum
  decide +kernel

end EnvMonitor.FieldDevice
