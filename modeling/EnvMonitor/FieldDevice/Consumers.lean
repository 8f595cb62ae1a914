import EnvMonitor.FieldDevice.Board

/-!
# The consumers of the live configuration

AlarmService keeps a copy of the alarm limits and the Modbus slave one of its address.  The copies
agree with the live configuration as long as no step changes a copied parameter silently.
-/

namespace EnvMonitor.FieldDevice

open Modbus
open ConfigService

/-- The parameters that are copied. -/
def Watched : ConfigParamId -> Prop
  | .channel _ .alarmHigh | .channel _ .alarmLow | .channel _ .hysteresis => True
  | .modbusSlaveAddr => True
  | _ => False

/-- The alarm limits in use are the live ones. -/
structure AlarmsInSync (c : Configured Board) : Prop where
  initialised : c.others.alarms.initialised = true
  thresholds : forall sensor, c.others.alarms.thresholds sensor = c.config.params.threshold sensor

structure InSync (d : FieldDeviceState) : Prop where
  alarms : AlarmsInSync d.rest
  address : d.slaveAddr = d.rest.config.params.get .modbusSlaveAddr

/-!
## Steps that change no copied parameter silently
-/

/-- A call whose save fails changes no copied parameter. -/
def FailuresKeepCopies : ConfigService.ConfigParams -> List SaveOutcome -> List Call -> Prop
  | _, _, [] => True
  | p, saves, call :: calls =>
      validateParamInternal call.1 call.2 p = true ->
        match saves.headD .saved with
        | .failed _ => p.get call.1 = call.2 ∨ ¬Watched call.1
        | .saved => FailuresKeepCopies (applyParamToStruct p call.1 call.2) saves.tail calls

/-- No step changes a copied parameter without its consumer: no failed save of a new alarm limit
or address, no new address from the console, no snapshot restored over other limits or another
address. -/
def KeepsCopies (version : FirmwareVersion) (d : FieldDeviceState) : FdStep -> Prop
  | .modbus op saves =>
      ReachesApply (fdServices version) (d.withSaves saves) op ->
        FailuresKeepCopies d.rest.config.params saves (opCalls op)
  | .setParam call saves =>
      FailuresKeepCopies d.rest.config.params saves [call] ∧
        (call.1 = .modbusSlaveAddr -> validateParamInternal call.1 call.2 d.rest.config.params = true ->
          d.rest.config.params.get call.1 = call.2)
  | .lifecyclePass _ =>
      d.rest.others.lifecycle.state = .editingConfig ->
        forall event, d.rest.others.lifecycle.eventQueue.head? = some event ->
          event = .configEditCancel ∨ event = .configEditTimeout ->
          forall p, d.rest.config.snapshot = some p ->
            forall id, Watched id -> p.get id = d.rest.config.params.get id
  | _ => True

/-!
## Thresholds
-/

variable {p : ConfigService.ConfigParams} {c : Configured Board} {id : ConfigParamId} {call : Call}
variable {d : FieldDeviceState}

theorem threshold_congr {p' : ConfigService.ConfigParams}
    (h : forall id, Watched id -> p.get id = p'.get id) (sensor : SensorId) :
    p.threshold sensor = p'.threshold sensor := by
  unfold ConfigService.ConfigParams.threshold ConfigService.ConfigParams.num
  rw [h (.channel sensor .alarmHigh) trivial, h (.channel sensor .alarmLow) trivial,
    h (.channel sensor .hysteresis) trivial]

theorem applyAlarmThresholds_spec (p : ConfigService.ConfigParams) {s : AlarmService}
    (h : s.initialised = true) :
    (applyAlarmThresholds p s).initialised = true ∧
      forall sensor, (applyAlarmThresholds p s).thresholds sensor = p.threshold sensor := by
  have hset : forall sensor threshold (s : AlarmService), s.initialised = true ->
      alarmServiceSetThresholds sensor threshold s =
        { s with thresholds := Function.update s.thresholds sensor threshold } :=
    fun _ _ _ hinit => if_pos hinit
  unfold applyAlarmThresholds
  rw [hset .temperature _ s h, hset .humidity, hset .pressure]
  · refine ⟨h, fun sensor => ?_⟩
    cases sensor with
    | temperature => rfl
    | humidity => rfl
    | pressure => rfl
  · exact h
  · exact h

theorem AlarmsInSync.congr {c' : Configured Board} (h : AlarmsInSync c)
    (hinit : c'.others.alarms.initialised = c.others.alarms.initialised)
    (hthresholds : c'.others.alarms.thresholds = c.others.alarms.thresholds)
    (hparams : forall id, Watched id -> c'.config.params.get id = c.config.params.get id) :
    AlarmsInSync c' where
  initialised := hinit.trans h.initialised
  thresholds sensor := by
    rw [hthresholds, h.thresholds sensor]
    exact (threshold_congr hparams sensor).symm

/-!
## One call
-/

theorem get_other {other : ConfigParamId} {value : id.Value} (hid : ¬Watched id)
    (hother : Watched other) : (applyParamToStruct p id value).get other = p.get other := by
  apply applyParamToStruct_other
  intro heq
  rw [heq] at hother
  exact hid hother

theorem onConfigChanged_alarm (h : Watched id) (hne : id ≠ .modbusSlaveAddr)
    (p : ConfigService.ConfigParams) (b : Board) :
    onConfigChanged id p b = { b with alarms := applyAlarmThresholds p b.alarms } := by
  cases id with
  | channel sensor field =>
      cases field with
      | alarmHigh => rfl
      | alarmLow => rfl
      | hysteresis => rfl
      | rangeMin => exact h.elim
      | rangeMax => exact h.elim
  | modbusSlaveAddr => exact absurd rfl hne
  | pollInterval => exact h.elim
  | filterAlpha => exact h.elim
  | modbusPollPeriod => exact h.elim

theorem onConfigChanged_other (h : ¬Watched id ∨ id = .modbusSlaveAddr)
    (p : ConfigService.ConfigParams) (b : Board) : onConfigChanged id p b = b := by
  cases id with
  | channel sensor field =>
      rcases h with h | h
      · cases field with
        | alarmHigh => exact absurd trivial h
        | alarmLow => exact absurd trivial h
        | hysteresis => exact absurd trivial h
        | rangeMin => rfl
        | rangeMax => rfl
      · cases h
  | modbusSlaveAddr => rfl
  | pollInterval => rfl
  | filterAlpha => rfl
  | modbusPollPeriod => rfl

theorem threshold_slaveAddr (p : ConfigService.ConfigParams) (value : UInt8) (sensor : SensorId) :
    (applyParamToStruct p .modbusSlaveAddr value).threshold sensor = p.threshold sensor := rfl

theorem setParam_alarmsInSync (h : AlarmsInSync c)
    (hkeeps : FailuresKeepCopies c.config.params c.saves [call]) :
    AlarmsInSync (setParam onConfigChanged call c).2 := by
  by_cases hvalid : validateParamInternal call.1 call.2 c.config.params = true
  · have hkeeps := hkeeps hvalid
    unfold setParam
    rw [configServiceSetParam_accepted hvalid]
    cases hsave : c.saves.headD .saved with
    | failed left =>
        rw [hsave] at hkeeps
        change AlarmsInSync ⟨⟨applyParamToStruct c.config.params call.1 call.2, c.config.snapshot,
          left⟩, c.saves.tail, c.others⟩
        have hsame : forall id, Watched id ->
            (applyParamToStruct c.config.params call.1 call.2).get id = c.config.params.get id := by
          intro id hid
          rcases hkeeps with hsame | hother
          · rw [applyParamToStruct_eq_self.mpr hsame]
          · exact get_other hother hid
        exact h.congr rfl rfl hsame
    | saved =>
        change AlarmsInSync ⟨_, _, onConfigChanged call.1
          (applyParamToStruct c.config.params call.1 call.2) c.others⟩
        by_cases haddr : call.1 = .modbusSlaveAddr
        · rw [onConfigChanged_other (Or.inr haddr)]
          refine ⟨h.initialised, fun sensor => (h.thresholds sensor).trans ?_⟩
          rcases call with ⟨id, value⟩
          cases haddr
          exact (threshold_slaveAddr c.config.params value sensor).symm
        · by_cases hwatched : Watched call.1
          · rw [onConfigChanged_alarm hwatched haddr]
            have hspec := applyAlarmThresholds_spec
              (applyParamToStruct c.config.params call.1 call.2) h.initialised
            exact ⟨hspec.1, hspec.2⟩
          · rw [onConfigChanged_other (Or.inl hwatched)]
            exact h.congr rfl rfl fun id hid => get_other hwatched hid
  · rw [setParam_rejected onConfigChanged hvalid]
    exact h

theorem runCalls_alarmsInSync {calls : List Call} (h : AlarmsInSync c)
    (hkeeps : FailuresKeepCopies c.config.params c.saves calls) :
    AlarmsInSync (runCalls onConfigChanged calls c).2 := by
  induction calls generalizing c with
  | nil => exact h
  | cons call calls ih =>
      have hfirst : FailuresKeepCopies c.config.params c.saves [call] := by
        intro hvalid
        have hcall := hkeeps hvalid
        cases hsave : c.saves.headD .saved with
        | failed left =>
            rw [hsave] at hcall
            exact hcall
        | saved => trivial
      have hsync := setParam_alarmsInSync h hfirst
      rcases setParam_cases onConfigChanged call c with hrej | hfail | hsaved
      · rw [runCalls_cons_stop onConfigChanged (by rw [hrej.2])]
        exact hsync
      · rcases hfail with ⟨_, left, _, hstop, _⟩
        rw [runCalls_cons_stop onConfigChanged hstop]
        exact hsync
      · rcases hsaved with ⟨hvalid, hsave, hok, hparams, _, hsaves⟩
        rw [runCalls_cons_ok onConfigChanged hok]
        have hrest := hkeeps hvalid
        rw [hsave] at hrest
        apply ih hsync
        rw [hparams, hsaves]
        exact hrest

/-!
## Modbus requests
-/

section Requests

variable (version : FirmwareVersion)

theorem othersSteps_alarms {b b' : Board}
    (h : OthersSteps (boardServices version) b b') :
    b'.alarms.initialised = b.alarms.initialised ∧ b'.alarms.thresholds = b.alarms.thresholds := by
  induction h with
  | refl _ => exact ⟨rfl, rfl⟩
  | ackAll _ ih =>
      refine ⟨Eq.trans ?_ ih.1, Eq.trans ?_ ih.2⟩
      · change (alarmServiceAckAll _).initialised = _
        unfold alarmServiceAckAll
        split <;> rfl
      · change (alarmServiceAckAll _).thresholds = _
        unfold alarmServiceAckAll
        split <;> rfl
  | remote cmd _ ih => exact ih
  | setTime epoch _ ih =>
      rename_i r' _
      rcases boardServices_setTime version epoch r' with ⟨clock, hsame⟩
      rw [hsame]
      exact ih

theorem leavesConfig_alarmsInSync {c c' : Configured Board}
    (h : LeavesConfig (boardServices version) c c') (hsync : AlarmsInSync c) :
    AlarmsInSync c' := by
  rcases h with ⟨b, hsteps, rfl⟩
  have halarms := othersSteps_alarms version hsteps
  exact hsync.congr halarms.1 halarms.2 fun _ _ => rfl

variable {op : Operation} {d : FieldDeviceState}

theorem addressWrite_of_mem (hreach : ReachesApply (fdServices version) d op)
    (hmem : mrmRegModbusSlaveAddr ∈
      blockAddrs (opBlock op).1 (opBlock op).2.length) :
    exists value, opBlock op = (mrmRegModbusSlaveAddr, [value]) := by
  cases op with
  | readInput start count => exact hreach.elim
  | writeSingle reg value =>
      have heq : mrmRegModbusSlaveAddr = reg := List.mem_singleton.mp hmem
      exact ⟨value, by rw [heq]; rfl⟩
  | writeMultiple start values =>
      have hvalid := hreach.2.2.2.2
      cases values with
      | nil => cases hmem
      | cons value rest =>
          cases rest with
          | nil =>
              have heq : mrmRegModbusSlaveAddr = start := List.mem_singleton.mp hmem
              exact ⟨value, by rw [heq]; rfl⟩
          | cons second rest =>
              exact absurd hvalid
                (validateAll_slaveAddr (fdServices version) hmem (Nat.le_add_left 2 rest.length))

theorem addressWrite_none (hreach : ReachesApply (fdServices version) d op)
    (hmem : mrmRegModbusSlaveAddr ∉
      blockAddrs (opBlock op).1 (opBlock op).2.length) :
    addressWrite op = none := by
  cases op with
  | readInput start count => exact hreach.elim
  | writeSingle reg value =>
      exact if_neg fun heq => hmem (List.mem_singleton.mpr heq.symm)
  | writeMultiple start values =>
      cases values with
      | nil => rfl
      | cons value rest =>
          cases rest with
          | nil => exact if_neg fun heq => hmem (List.mem_singleton.mpr heq.symm)
          | cons second rest => rfl

theorem applyAll_addressOther (hreach : ReachesApply (fdServices version) d op)
    (hmem : mrmRegModbusSlaveAddr ∉
      blockAddrs (opBlock op).1 (opBlock op).2.length)
    (hparams : forall a,
      a ∈ blockAddrs (opBlock op).1 (opBlock op).2.length ->
      registerParam a ≠ none) :
    (perform (fdServices version) d op).2.rest.config.params.get .modbusSlaveAddr =
      d.rest.config.params.get .modbusSlaveAddr := by
  rcases perform_reaches hreach with ⟨words, hperform⟩
  have happly := applyAll_calls (boardServices version) onConfigChanged
    (reaches_writable hreach) hparams d
  rw [hperform, writeAnswer_state]
  change (applyAll (configuredServices (boardServices version) onConfigChanged)
    (opBlock op).1 (opBlock op).2 d).2.rest.config.params.get _ = _
  rw [happly.2.1]
  apply runCalls_other
  intro call hcall hid
  rcases List.mem_filterMap.mp hcall with ⟨w, hw, hwrite⟩
  have haddr := paramRegister_call hwrite
  rw [hid] at haddr
  have hin := mem_blockAddrs hw
  rw [← haddr] at hin
  exact hmem hin

theorem writeModbusSlaveAddrReg_address {value : UInt16}
    (hsync : d.slaveAddr = d.rest.config.params.get .modbusSlaveAddr)
    (hvalid : validateSlaveAddr value d = .none)
    (hkeeps : FailuresKeepCopies d.rest.config.params d.rest.saves
      [⟨.modbusSlaveAddr, value.toUInt8⟩]) :
    (writeModbusSlaveAddrReg (fdServices version) value d).2.slaveAddr =
      (writeModbusSlaveAddrReg (fdServices version) value d).2.rest.config.params.get
        .modbusSlaveAddr := by
  have hset : (fdServices version).setParam (.modbusSlaveAddr value.toUInt8) d.rest =
      setParam onConfigChanged ⟨.modbusSlaveAddr, value.toUInt8⟩ d.rest := rfl
  unfold writeModbusSlaveAddrReg
  rw [hset]
  dsimp only
  rcases setParam_cases onConfigChanged ⟨.modbusSlaveAddr, value.toUInt8⟩ d.rest with
    hrej | hfail | hsaved
  · rw [hrej.2]
    exact hsync
  · rcases hfail with ⟨haccepted, left, hsave, hstop, hparams, _⟩
    have hsame := hkeeps haccepted
    rw [hsave] at hsame
    rw [hstop, if_neg Bool.false_ne_true]
    dsimp only
    rw [hparams, applyParamToStruct_eq_self.mpr (hsame.resolve_right fun h => h trivial)]
    exact hsync
  · rcases hsaved with ⟨_, _, hok, hparams, _⟩
    rw [hok, if_pos rfl, modbusSlaveSetAddress_valid hvalid,
      (modbusSlaveSetAddress_rest _ _).1]
    dsimp only
    rw [hparams]
    exact (applyParamToStruct_self d.rest.config.params .modbusSlaveAddr
      value.toUInt8).symm

theorem perform_inSync (h : InSync d) (hkeeps : ReachesApply (fdServices version) d op ->
      FailuresKeepCopies d.rest.config.params d.rest.saves (opCalls op)) :
    InSync (perform (fdServices version) d op).2 := by
  by_cases hreach : ReachesApply (fdServices version) d op
  · rcases perform_reaches hreach with ⟨words, hperform⟩
    have hwritable := reaches_writable hreach
    have huniform := fun a => @block_uniform (opBlock op).1
      (fun a => registerParam a = none) registerParam_next
      (opBlock op).2.length
      (fun b hb => mem_writableAddrs (hwritable b hb)) a
    by_cases hfirst : registerParam (opBlock op).1 = none
    · have hplain := (applyAll_plain (boardServices version) onConfigChanged hwritable
        (fun a ha => (huniform a ha).mpr hfirst) d).1
      have hother : mrmRegModbusSlaveAddr ∉
          blockAddrs (opBlock op).1 (opBlock op).2.length := by
        intro hmem
        have hnone := (huniform mrmRegModbusSlaveAddr hmem).mpr hfirst
        cases hnone
      have haddr := (perform_slaveAddr (fdServices version) d op).mpr
        (not_changesAddress (fdServices version) (addressWrite_none version hreach hother))
      have hrest : LeavesConfig (boardServices version) d.rest
          (perform (fdServices version) d op).2.rest := by
        rw [hperform, writeAnswer_state]
        exact hplain
      refine ⟨leavesConfig_alarmsInSync version hrest h.alarms, ?_⟩
      rw [haddr, hrest.config]
      exact h.address
    · have hparams : forall a,
          a ∈ blockAddrs (opBlock op).1 (opBlock op).2.length ->
          registerParam a ≠ none :=
        fun a ha hnone => hfirst ((huniform a ha).mp hnone)
      have happly := applyAll_calls (boardServices version) onConfigChanged hwritable
        hparams d
      have halarms : AlarmsInSync (perform (fdServices version) d op).2.rest := by
        rw [hperform, writeAnswer_state]
        change AlarmsInSync (applyAll (configuredServices (boardServices version)
          onConfigChanged) (opBlock op).1 (opBlock op).2 d).2.rest
        rw [happly.2.1]
        exact runCalls_alarmsInSync h.alarms (hkeeps hreach)
      refine ⟨halarms, ?_⟩
      by_cases hmem : mrmRegModbusSlaveAddr ∈
          blockAddrs (opBlock op).1 (opBlock op).2.length
      · rcases addressWrite_of_mem version hreach hmem with ⟨value, hblock⟩
        have hcalls : opCalls op = [⟨.modbusSlaveAddr, value.toUInt8⟩] := by
          unfold opCalls
          rw [hblock]
          rfl
        have hvalid : validateSlaveAddr value d = .none := by
          have hwrite : (mrmRegModbusSlaveAddr, value) ∈ regWrites op := by
            unfold regWrites
            rw [hblock]
            exact List.mem_singleton.mpr rfl
          rcases reaches_each hreach hwrite with ⟨slot, hslot, hvalid⟩
          rw [writableSlot_slaveAddr] at hslot
          cases hslot
          exact hvalid
        have hkeeps := hkeeps hreach
        rw [hcalls] at hkeeps
        rw [hperform, hblock, writeAnswer_state, applyAll_alone]
        exact writeModbusSlaveAddrReg_address version h.address hvalid hkeeps
      · rw [applyAll_addressOther version hreach hmem hparams, ← h.address]
        exact (perform_slaveAddr (fdServices version) d op).mpr
          (not_changesAddress (fdServices version) (addressWrite_none version hreach hmem))
  · have hrefused := (perform_notReached (boardServices version) onConfigChanged
      hreach).1
    refine ⟨leavesConfig_alarmsInSync version hrefused.1 h.alarms, ?_⟩
    have haddr : (perform (fdServices version) d op).2.slaveAddr = d.slaveAddr := hrefused.2
    have hconfig : (perform (fdServices version) d op).2.rest.config = d.rest.config :=
      hrefused.1.config
    rw [haddr, hconfig]
    exact h.address

end Requests

/-!
## Edit sessions
-/

theorem InSync.congr {d' : FieldDeviceState} (h : InSync d)
    (hinit : d'.rest.others.alarms = d.rest.others.alarms) (haddr : d'.slaveAddr = d.slaveAddr)
    (hparams : forall id, Watched id ->
      d'.rest.config.params.get id = d.rest.config.params.get id) : InSync d' where
  alarms := h.alarms.congr (congrArg (·.initialised) hinit) (congrArg (·.thresholds) hinit) hparams
  address := by rw [haddr, h.address, hparams .modbusSlaveAddr trivial]

theorem flush_inSync (h : InSync d) : InSync (lcCall .flush d) := by
  have hparams : forall id, Watched id ->
      (lcCall .flush d).rest.config.params.get id = d.rest.config.params.get id := by
    intro id _
    change ((persistToStore _ d.rest.config).2.params).get id = _
    rw [persistToStore_params]
  exact h.congr rfl rfl hparams

theorem setAddress_inSync (h : InSync d) : InSync (lcCall .setAddress d) := by
  change InSync (modbusSlaveSetAddress (d.rest.config.params.get .modbusSlaveAddr) d)
  unfold modbusSlaveSetAddress
  split
  · exact h
  · exact ⟨h.alarms, rfl⟩

theorem restoreSnapshot_inSync (h : InSync d) (hsame : forall p, d.rest.config.snapshot = some p ->
      forall id, Watched id -> p.get id = d.rest.config.params.get id) :
    InSync (lcCall .restoreSnapshot d) := by
  have hparams : forall id, Watched id ->
      (lcCall .restoreSnapshot d).rest.config.params.get id = d.rest.config.params.get id := by
    intro id hid
    change ((configServiceRestoreSnapshot _ d.rest.config).2.params).get id = _
    unfold configServiceRestoreSnapshot
    split
    · rfl
    · rename_i p hsnapshot
      rw [persistToStore_params]
      exact hsame p hsnapshot id hid
  exact h.congr rfl rfl hparams

theorem lcCall_inSync {call : LcCall} (hother : call ≠ .restoreSnapshot) (h : InSync d) :
    InSync (lcCall call d) := by
  cases call with
  | restoreSnapshot => exact absurd rfl hother
  | flush => exact flush_inSync h
  | setAddress => exact setAddress_inSync h
  | snapshot => exact h.congr rfl rfl fun _ _ => rfl
  | _ => exact h

theorem lcCalls_inSync {calls : List LcCall} (hother : LcCall.restoreSnapshot ∉ calls)
    (h : InSync d) : InSync (calls.foldl (fun d call => lcCall call d) d) := by
  induction calls generalizing d with
  | nil => exact h
  | cons call calls ih =>
      rw [List.mem_cons, not_or] at hother
      exact ih hother.2 (lcCall_inSync (Ne.symm hother.1) h)

theorem handleEvent_restores {state : LifecycleState} {event : LifecycleEvent}
    (h : LcCall.restoreSnapshot ∈ (handleEvent state event).1) :
    state = .editingConfig ∧ (event = .configEditCancel ∨ event = .configEditTimeout) ∧
      (handleEvent state event).1 = [.editTimerStop, .restoreSnapshot] := by
  cases state with
  | init => cases h
  | faulted => cases h
  | operational =>
      change LcCall.restoreSnapshot ∈ (handleOperational event).1 at h
      cases event with
      | configEditEnter => exact absurd h (by decide)
      | unrecoverableFault param =>
          have heq := List.mem_singleton.mp h
          cases heq
      | _ => cases h
  | editingConfig =>
      cases event with
      | configEditCancel => exact ⟨rfl, Or.inl rfl, rfl⟩
      | configEditTimeout => exact ⟨rfl, Or.inr rfl, rfl⟩
      | configEditApply => exact absurd h (by decide)
      | unrecoverableFault param =>
          change LcCall.restoreSnapshot ∈ [LcCall.editTimerStop, .pushFault param] at h
          rcases List.mem_cons.mp h with heq | hlast
          · cases heq
          · cases List.mem_singleton.mp hlast
      | _ => cases h

theorem lifecyclePass_inSync (version : FirmwareVersion) (h : InSync d) {saves : List SaveOutcome}
    (hkeeps : KeepsCopies version d (.lifecyclePass saves)) :
    InSync (d.after version (.lifecyclePass saves)) := by
  change InSync (runEventLoopOnce (d.withSaves saves)).2
  have hsaves : InSync (d.withSaves saves) := h.congr rfl rfl fun _ _ => rfl
  unfold runEventLoopOnce
  dsimp only
  cases hqueue : (d.withSaves saves).rest.others.lifecycle.eventQueue with
  | nil => exact hsaves
  | cons event queue =>
      dsimp only
      generalize hhandled :
        handleEvent (d.withSaves saves).rest.others.lifecycle.state event = handled
      have hstate : InSync ((d.withSaves saves).withLifecycle
          { (d.withSaves saves).rest.others.lifecycle with
            eventQueue := queue, state := handled.2 }) :=
        hsaves.congr rfl rfl fun _ _ => rfl
      by_cases hrestore : LcCall.restoreSnapshot ∈ handled.1
      · rw [← hhandled] at hrestore
        rcases handleEvent_restores hrestore with ⟨hediting, hevent, hcalls⟩
        rw [hhandled] at hcalls
        rw [hcalls]
        apply restoreSnapshot_inSync (d := lcCall .editTimerStop _) hstate
        intro p hsnapshot
        exact hkeeps hediting event (by rw [← List.head?_cons (a := event) (l := queue), ← hqueue]; rfl)
          hevent p hsnapshot
      · exact lcCalls_inSync hrestore hstate

/-!
## Runs
-/

theorem loadStored_again (stored : Option ConfigBlob) (s : Service)
    {s' : Service}
    (h : loadStored stored (loadStored stored s).2 = (.ok, s')) :
    s'.params = (loadStored stored s).2.params := by
  cases stored with
  | none => cases h
  | some blob =>
      cases blob with
      | short => cases h
      | full schemaVersion candidate =>
          change configServiceApplyLoaded (.full schemaVersion candidate) _ = _ at h
          change _ = (configServiceApplyLoaded (.full schemaVersion candidate) s).2.params
          unfold configServiceApplyLoaded at h ⊢
          dsimp only at h ⊢
          split at h
          · cases h
            rw [if_pos (by assumption)]
          · cases h
            rw [if_neg (by assumption)]

theorem startUp_inSync (stored : Option ConfigBlob) (d : FieldDeviceState) :
    InSync (startUp stored d) := by
  have hspec := applyAlarmThresholds_spec
    (loadStored stored (configServiceInit stored)).2.params
    (s := alarmServiceInit) rfl
  unfold startUp
  dsimp only
  split
  · rename_i config hload
    have hparams := loadStored_again stored _ hload
    have hconfig : InSync { d with
        slaveAddr := (loadStored stored (configServiceInit stored)).2.params.get
          .modbusSlaveAddr
        rest := { d.rest with
          config := config
          others := { d.rest.others with
            alarms := applyAlarmThresholds
              (loadStored stored (configServiceInit stored)).2.params alarmServiceInit
            lifecycle := ⟨true, .init, []⟩ } } } := by
      refine ⟨⟨hspec.1, ?_⟩, ?_⟩
      · intro sensor
        dsimp only
        rw [hparams]
        exact hspec.2 sensor
      · dsimp only
        rw [hparams]
    exact (setAddress_inSync hconfig).congr rfl rfl fun _ _ => rfl
  · exact ⟨⟨hspec.1, hspec.2⟩, rfl⟩

theorem setParam_address (hkeeps : call.1 = .modbusSlaveAddr ->
      validateParamInternal call.1 call.2 c.config.params = true ->
      c.config.params.get call.1 = call.2) :
    (setParam onConfigChanged call c).2.config.params.get .modbusSlaveAddr =
      c.config.params.get .modbusSlaveAddr := by
  have hwritten : validateParamInternal call.1 call.2 c.config.params = true ->
      (applyParamToStruct c.config.params call.1 call.2).get .modbusSlaveAddr =
        c.config.params.get .modbusSlaveAddr := by
    intro hvalid
    by_cases haddr : call.1 = .modbusSlaveAddr
    · rw [applyParamToStruct_eq_self.mpr (hkeeps haddr hvalid)]
    · exact applyParamToStruct_other call.2 (Ne.symm haddr)
  rcases setParam_cases onConfigChanged call c with hrej | hfail | hsaved
  · rw [hrej.2]
  · rcases hfail with ⟨hvalid, left, _, _, hparams, _⟩
    rw [hparams]
    exact hwritten hvalid
  · rcases hsaved with ⟨hvalid, _, _, hparams, _⟩
    rw [hparams]
    exact hwritten hvalid

theorem after_inSync (version : FirmwareVersion) (h : InSync d) {step : FdStep}
    (hkeeps : KeepsCopies version d step) : InSync (d.after version step) := by
  cases step with
  | modbus op saves =>
      have hsaves : InSync (d.withSaves saves) := h.congr rfl rfl fun _ _ => rfl
      exact perform_inSync version hsaves hkeeps
  | setParam call saves =>
      have hsaves : AlarmsInSync (d.withSaves saves).rest := h.alarms.congr rfl rfl fun _ _ => rfl
      exact ⟨setParam_alarmsInSync hsaves hkeeps.1,
        h.address.trans (@setParam_address (d.withSaves saves).rest call hkeeps.2).symm⟩
  | post event => exact h.congr rfl rfl fun _ _ => rfl
  | lifecyclePass saves => exact lifecyclePass_inSync version h hkeeps
  | sensorCycle readings => exact ⟨⟨h.alarms.initialised, h.alarms.thresholds⟩, h.address⟩

/-- In a run in which no copied parameter changes silently, AlarmService judges by the live limits
and the slave answers to the live address. -/
theorem consumers_use_live_configuration (version : FirmwareVersion) {d : FieldDeviceState}
    (h : RunWith version (KeepsCopies version) d) : InSync d := by
  induction h with
  | start stored d => exact startUp_inSync stored d
  | step _ step ok ih => exact after_inSync version ih ok

def idleDevice : FieldDeviceState where
  slaveAddr := 1
  rxBuf := []
  initialised := true
  cmdAckAlarmLast := 0
  cmdResetMetricsLast := 0
  cmdSoftRestartLast := 0
  cmdSetTimeHiLast := 0
  cmdSetTimeLoLast := 0
  lastStatsSnapshot := ⟨0, 0⟩
  rest :=
    { config := configServiceInit none
      saves := []
      others :=
        { version := ⟨1, 0, 0⟩
          readings := none
          health := ⟨0, 0, 0⟩
          alarms := alarmServiceInit
          lifecycle := ⟨false, .init, []⟩
          clock := ⟨⟨0, 0, fun _ => 0⟩, ⟨true, .unsynchronised⟩⟩
          polls := ⟨true, ⟨true, true⟩⟩ } }

/-- A new upper limit that is saved. -/
theorem consumers_use_live_configuration_limit :
    InSync ((startUp none idleDevice).after ⟨1, 0, 0⟩
      (.setParam ⟨.channel .temperature .alarmHigh, (4100 : Int16)⟩ [.saved])) :=
  consumers_use_live_configuration ⟨1, 0, 0⟩
    (.step (.start none idleDevice) _ ⟨fun _ => trivial, fun h => nomatch h⟩)

/-- A new slave address from the console is live and stored, and the slave keeps its old one. -/
theorem console_address_is_not_used :
    ¬forall d, Run ⟨1, 0, 0⟩ d -> InSync d := by
  intro hclaim
  have hrun : Run ⟨1, 0, 0⟩ ((startUp none idleDevice).after ⟨1, 0, 0⟩
      (.setParam ⟨.modbusSlaveAddr, (5 : UInt8)⟩ [.saved])) :=
    .step (.start none idleDevice) _ trivial
  have haddr := (hclaim _ hrun).address
  revert haddr
  decide +kernel

end EnvMonitor.FieldDevice
