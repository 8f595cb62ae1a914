import EnvMonitor.FieldDevice.ConfigService.AllOrNothing
import EnvMonitor.Gateway.TimeProvider.Provider

/-!
# The board of the field device

The services around the register map and ConfigService: AlarmService, TimeProvider and
LifecycleController, as `main.c` wires them.
-/

namespace EnvMonitor.FieldDevice

open ConfigService

/-!
## AlarmService
-/

/-- `alarm_threshold_t` -/
structure AlarmThreshold where
  high : Int
  low : Int
  hysteresis : Int
  deriving DecidableEq, Repr

/-- `AlarmServiceState`, for the three sensors of this board. -/
structure AlarmService where
  initialised : Bool
  alarmState : SensorId -> AlarmState
  thresholds : SensorId -> AlarmThreshold

def alarmThresholdDefault : SensorId -> AlarmThreshold
  | .temperature => ⟨3500, 0, 200⟩
  | .humidity => ⟨8000, 2000, 500⟩
  | .pressure => ⟨10500, 9500, 50⟩

/-- `alarm_service_init`, where it succeeds. -/
def alarmServiceInit : AlarmService := ⟨true, fun _ => .clear, alarmThresholdDefault⟩

def alarmServiceSetThresholds (sensor : SensorId) (threshold : AlarmThreshold) (s : AlarmService) :
    AlarmService :=
  if s.initialised then { s with thresholds := Function.update s.thresholds sensor threshold }
  else s

def alarmServiceAckAll (s : AlarmService) : AlarmService :=
  if s.initialised then { s with alarmState := fun _ => .clear } else s

/-- One sensor of `alarm_service_evaluate`. -/
def evaluateSensor (threshold : AlarmThreshold) (reading : SensorReading) (state : AlarmState) :
    AlarmState :=
  if !reading.valid then state
  else
    let value := reading.value.toInt
    match state with
    | .clear =>
        if threshold.high < value then .activeHigh
        else if value < threshold.low then .activeLow
        else .clear
    | .activeHigh => if value < threshold.high - threshold.hysteresis then .clear else .activeHigh
    | .activeLow => if threshold.low + threshold.hysteresis < value then .clear else .activeLow

def alarmServiceEvaluate (readings : SensorId -> SensorReading) (s : AlarmService) : AlarmService :=
  { s with alarmState := fun sensor =>
      evaluateSensor (s.thresholds sensor) (readings sensor) (s.alarmState sensor) }

/-- The alarm parameters of one sensor. -/
def ConfigService.ConfigParams.threshold (p : ConfigService.ConfigParams) (sensor : SensorId) :
    AlarmThreshold where
  high := p.num (.channel sensor .alarmHigh)
  low := p.num (.channel sensor .alarmLow)
  hysteresis := p.num (.channel sensor .hysteresis)

/-- `apply_alarm_thresholds` -/
def applyAlarmThresholds (p : ConfigService.ConfigParams) (s : AlarmService) : AlarmService :=
  alarmServiceSetThresholds .pressure (p.threshold .pressure)
    (alarmServiceSetThresholds .humidity (p.threshold .humidity)
      (alarmServiceSetThresholds .temperature (p.threshold .temperature) s))

/-!
## LifecycleController
-/

inductive LifecycleState where
  | init
  | operational
  | editingConfig
  | faulted
  deriving DecidableEq, Repr

/-- `lifecycle_event_type_t`, with the parameter of the fault. -/
inductive LifecycleEvent where
  | configEditEnter
  | configEditApply
  | configEditCancel
  | configEditTimeout
  | restartRequested
  | restartConfirmed
  | restartTimeout
  | otaRequested
  | selfCheckPass
  | selfCheckFail
  | unrecoverableFault (param : UInt32)
  deriving DecidableEq, Repr

inductive LifecycleErr where
  | ok
  | notInit
  | queueFull
  deriving DecidableEq, Repr

abbrev lcQueueDepth : Nat := 4

structure Lifecycle where
  initialised : Bool
  state : LifecycleState
  eventQueue : List LifecycleEvent

/-- `xQueueSend` without waiting: `false` where the queue is full. -/
def queueSend (event : LifecycleEvent) (l : Lifecycle) : Bool × Lifecycle :=
  if l.eventQueue.length < lcQueueDepth then
    (true, { l with eventQueue := l.eventQueue ++ [event] })
  else (false, l)

/-- `vtbl_post_event` -/
def postEvent (event : LifecycleEvent) (l : Lifecycle) : Bool × Lifecycle :=
  if !l.initialised then (false, l) else queueSend event l

/-- `vtbl_handle_remote_command` -/
def vtblHandleRemoteCommand (cmd : RemoteCommand) (l : Lifecycle) : LifecycleErr × Lifecycle :=
  if !l.initialised then (.notInit, l)
  else
    match cmd with
    | .resetMetrics => (.ok, l)
    | .softRestart =>
        let (sent, l) := queueSend .restartRequested l
        if sent then (.ok, l) else (.queueFull, l)

/-- `lc_handle_remote_command` of `main.c`, which drops the result. -/
def lcHandleRemoteCommand (cmd : RemoteCommand) (l : Lifecycle) : LifecycleErr × Lifecycle :=
  (.ok, (vtblHandleRemoteCommand cmd l).2)

/-- What a handler of LifecycleController calls; `systemReset` is `NVIC_SystemReset`. -/
inductive LcCall where
  | editTimerStart
  | editTimerStop
  | snapshot
  | restoreSnapshot
  | flush
  | setAddress
  | reconfigure
  | pushFault (code : UInt32)
  | systemReset
  deriving DecidableEq, Repr

/-- `handle_editing_config`: its calls in order, and the state after them. -/
def handleEditingConfig : LifecycleEvent -> List LcCall × LifecycleState
  | .configEditApply =>
      ([.editTimerStop, .flush, .setAddress, .reconfigure], .operational)
  | .configEditCancel | .configEditTimeout => ([.editTimerStop, .restoreSnapshot], .operational)
  | .unrecoverableFault param => ([.editTimerStop, .pushFault param], .faulted)
  | _ => ([], .editingConfig)

/-- `handle_operational` -/
def handleOperational : LifecycleEvent -> List LcCall × LifecycleState
  | .configEditEnter => ([.snapshot, .editTimerStart], .editingConfig)
  | .unrecoverableFault param => ([.pushFault param], .faulted)
  | _ => ([], .operational)

/-- The switch of `run_event_loop_once`. -/
def handleEvent (state : LifecycleState) (event : LifecycleEvent) : List LcCall × LifecycleState :=
  match state with
  | .operational => handleOperational event
  | .editingConfig => handleEditingConfig event
  | .init | .faulted => ([], state)

/-!
## TimeProvider
-/

/-- How the polls of RTC flags end in the coming call. -/
structure RtcPolls where
  readRsf : Bool
  write : Gateway.RtcFlags

/-- `time_provider_set_time`: as on the gateway, without the check of the range. -/
def timeProviderSetTime (polls : RtcPolls) (newEpoch : Nat) (clock : Gateway.Clock) :
    Except Gateway.TimeProviderErr Unit × Gateway.Clock :=
  if !clock.provider.initialised then (.error .notInit, clock)
  else if clock.provider.syncState = .synchronised then
    match Gateway.rtcGetTime polls.readRsf clock.rtc with
    | .error _ => (.error .rtcFail, clock)
    | .ok currentDt =>
        if Gateway.timeProviderSanityDeltaS <
            Gateway.epochDelta newEpoch (Gateway.datetimeToEpoch currentDt) then
          (.error .rtcFail, clock)
        else Gateway.timeProviderWrite polls.write newEpoch clock
  else Gateway.timeProviderWrite polls.write newEpoch clock

/-!
## The board
-/

structure Board where
  version : FirmwareVersion
  readings : Option (SensorId -> SensorReading)
  health : HealthSnapshot
  alarms : AlarmService
  lifecycle : Lifecycle
  clock : Gateway.Clock
  polls : RtcPolls

/-- The vtables given to `modbus_register_map_init`, but for ConfigService. -/
def boardServices (version : FirmwareVersion) : Services Board where
  version := version
  sensorSnapshot b := b.readings
  alarmStates b := b.alarms.alarmState
  params _ := applyDefaults.registers
  healthSnapshot b := b.health
  setParam _ b := (false, b)
  ackAll b := { b with alarms := alarmServiceAckAll b.alarms }
  handleRemoteCommand cmd b := { b with lifecycle := (lcHandleRemoteCommand cmd b.lifecycle).2 }
  setTime epoch b :=
    match timeProviderSetTime b.polls epoch.toNat b.clock with
    | (.ok _, clock) => (true, { b with clock := clock })
    | (.error _, clock) => (false, { b with clock := clock })

theorem boardServices_setTime (version : FirmwareVersion) (epoch : UInt32) (b : Board) :
    exists clock, ((boardServices version).setTime epoch b).2 = { b with clock := clock } := by
  unfold boardServices
  dsimp only
  split
  · exact ⟨_, rfl⟩
  · exact ⟨_, rfl⟩

/-- `on_config_changed` -/
def onConfigChanged (id : ConfigParamId) (p : ConfigService.ConfigParams) (b : Board) : Board :=
  match id with
  | .channel _ .alarmHigh | .channel _ .alarmLow | .channel _ .hysteresis =>
      { b with alarms := applyAlarmThresholds p b.alarms }
  | _ => b

/-- The register map on this board. -/
def fdServices (version : FirmwareVersion) : Services (Configured Board) :=
  configuredServices (boardServices version) onConfigChanged

abbrev FieldDeviceState : Type := Device (Configured Board)

/-- One call of LifecycleController; those that are not about the configuration change nothing
here. -/
def lcCall (call : LcCall) (d : FieldDeviceState) : FieldDeviceState :=
  let c := d.rest
  match call with
  | .snapshot => { d with rest := { c with config := configServiceSnapshot c.config } }
  | .restoreSnapshot =>
      { d with rest := { c with
          config := (configServiceRestoreSnapshot (c.saves.headD .saved) c.config).2
          -- without a snapshot nothing is saved
          saves := if c.config.snapshot.isSome then c.saves.tail else c.saves } }
  | .flush =>
      { d with rest := { c with
          config := (configServiceFlush (c.saves.headD .saved) c.config).2
          saves := c.saves.tail } }
  | .setAddress => modbusSlaveSetAddress (c.config.params.get .modbusSlaveAddr) d
  | _ => d

def FieldDeviceState.withLifecycle (d : FieldDeviceState) (l : Lifecycle) : FieldDeviceState :=
  { d with rest := { d.rest with others := { d.rest.others with lifecycle := l } } }

/-- `run_event_loop_once`: the calls that were made, and the device after them. -/
def runEventLoopOnce (d : FieldDeviceState) : List LcCall × FieldDeviceState :=
  let l := d.rest.others.lifecycle
  match l.eventQueue with
  | [] => ([], d)
  | event :: queue =>
      let (calls, state) := handleEvent l.state event
      (calls, (calls.foldl (fun d call => lcCall call d)
        (d.withLifecycle { l with eventQueue := queue, state := state })))

/-!
## Start-up
-/

def loadStored (stored : Option ConfigBlob) (s : Service) :
    ConfigServiceErr × Service :=
  match stored with
  | none => (.invalid, s)
  | some blob => configServiceApplyLoaded blob s

/-- `main`, then SensorTask and ModbusTask, then `fd_run_init_sequence`, where the store is
readable and the sensors come up. -/
def startUp (stored : Option ConfigBlob) (d : FieldDeviceState) : FieldDeviceState :=
  let config := (loadStored stored (configServiceInit stored)).2
  let alarms := applyAlarmThresholds config.params alarmServiceInit
  let d : FieldDeviceState := { d with
    slaveAddr := config.params.get .modbusSlaveAddr
    rest := { d.rest with
      config := config
      others := { d.rest.others with alarms := alarms, lifecycle := ⟨true, .init, []⟩ } } }
  -- LoadingConfig applies the blob again
  match loadStored stored config with
  | (.ok, config) =>
      let d := lcCall .setAddress { d with rest := { d.rest with config := config } }
      d.withLifecycle ⟨true, .operational, []⟩
  | _ => d.withLifecycle ⟨true, .faulted, []⟩

/-!
## Steps of the running device
-/

/-- What the tasks do, one operation after another; `saves` is how the saves in it end. -/
inductive FdStep where
  | modbus (op : Modbus.Operation) (saves : List SaveOutcome)
  | setParam (call : Call) (saves : List SaveOutcome)
  | post (event : LifecycleEvent)
  | lifecyclePass (saves : List SaveOutcome)
  | sensorCycle (readings : SensorId -> SensorReading)

def FieldDeviceState.withSaves (d : FieldDeviceState) (saves : List SaveOutcome) :
    FieldDeviceState :=
  { d with rest := { d.rest with saves := saves } }

def FieldDeviceState.after (version : FirmwareVersion) (d : FieldDeviceState) :
    FdStep -> FieldDeviceState
  | .modbus op saves => (perform (fdServices version) (d.withSaves saves) op).2
  | .setParam call saves =>
      let d := d.withSaves saves
      { d with rest := (setParam onConfigChanged call d.rest).2 }
  | .post event => d.withLifecycle (postEvent event d.rest.others.lifecycle).2
  | .lifecyclePass saves => (runEventLoopOnce (d.withSaves saves)).2
  | .sensorCycle readings =>
      { d with rest := { d.rest with
          others := { d.rest.others with
            readings := some readings
            alarms := alarmServiceEvaluate readings d.rest.others.alarms } } }

/-- The states of a run after start-up in which every step is `allowed`. -/
inductive RunWith (version : FirmwareVersion) (allowed : FieldDeviceState -> FdStep -> Prop) :
    FieldDeviceState -> Prop
  | start (stored : Option ConfigBlob) (d : FieldDeviceState) :
      RunWith version allowed (startUp stored d)
  | step {d : FieldDeviceState} (run : RunWith version allowed d) (step : FdStep)
      (ok : allowed d step) : RunWith version allowed (d.after version step)

abbrev Run (version : FirmwareVersion) : FieldDeviceState -> Prop :=
  RunWith version fun _ _ => True

end EnvMonitor.FieldDevice
