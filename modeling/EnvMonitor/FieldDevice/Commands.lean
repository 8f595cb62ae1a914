import EnvMonitor.FieldDevice.CommandBlock
import EnvMonitor.FieldDevice.Consumers

/-!
# Commands over Modbus

What the command block of the register map does: an acknowledged command against its effect, and
what a refused write leaves behind.
-/

namespace EnvMonitor.FieldDevice

open Modbus
open ConfigService

abbrev mrmRegModbusRxOkHi : UInt16 := 0x0034
abbrev cmdSoftRestartMagic : UInt16 := 0xA5A5

/-!
## The device with its frame counters
-/

/-- `stats` are the counters of `s_slave`. -/
structure Monitored where
  device : FieldDeviceState
  stats : StatsSnapshot

/-- `modbus_register_map_poll_stats`, without the copy for HealthMonitor. -/
def modbusRegisterMapPollStats (m : Monitored) : Monitored :=
  { m with device := { m.device with lastStatsSnapshot := m.stats } }

def FieldDeviceState.withClock (d : FieldDeviceState) (clock : Gateway.Clock) : FieldDeviceState :=
  { d with rest := { d.rest with others := { d.rest.others with clock := clock } } }

def FieldDeviceState.withPolls (d : FieldDeviceState) (polls : RtcPolls) : FieldDeviceState :=
  { d with rest := { d.rest with others := { d.rest.others with polls := polls } } }

/-- The steps of the tasks, the frames that reach no write handler, and the hardware clock. -/
inductive MonitoredStep where
  | fd (step : FdStep)
  /-- A valid frame that is not a request of `FdStep`. -/
  | otherFrame
  | crcError
  | pollStats
  | second
  /-- From here on the RTC raises its flags like this. -/
  | rtcPolls (polls : RtcPolls)

/-- The valid frames in a step: they are counted before they are dispatched. -/
def MonitoredStep.validFrames : MonitoredStep -> Nat
  | .fd (.modbus _ _) | .otherFrame => 1
  | _ => 0

def MonitoredStep.crcErrors : MonitoredStep -> Nat
  | .crcError => 1
  | _ => 0

def StatsSnapshot.counting (s : StatsSnapshot) (step : MonitoredStep) : StatsSnapshot where
  validFrames := s.validFrames + UInt32.ofNat step.validFrames
  crcErrors := s.crcErrors + UInt32.ofNat step.crcErrors

def Monitored.after (version : FirmwareVersion) (m : Monitored) (step : MonitoredStep) :
    Monitored :=
  let m := { m with stats := m.stats.counting step }
  match step with
  | .fd step => { m with device := m.device.after version step }
  | .otherFrame | .crcError => m
  | .pollStats => modbusRegisterMapPollStats m
  | .second =>
      let clock := m.device.rest.others.clock
      { m with device := m.device.withClock { clock with rtc := clock.rtc.tick } }
  | .rtcPolls polls => { m with device := m.device.withPolls polls }

def Monitored.run (version : FirmwareVersion) (m : Monitored) (steps : List MonitoredStep) :
    Monitored :=
  steps.foldl (fun m step => m.after version step) m

/-- After `modbus_slave_init`, `modbus_register_map_init` and the start-up of the device. -/
def bootMonitored (stored : Option ConfigBlob) (d : FieldDeviceState) : Monitored where
  device := { startUp stored d with initialised := true, lastStatsSnapshot := ⟨0, 0⟩ }
  stats := ⟨0, 0⟩

inductive MonitoredRun (version : FirmwareVersion) : Monitored -> Prop
  | start (stored : Option ConfigBlob) (d : FieldDeviceState) :
      MonitoredRun version (bootMonitored stored d)
  | step {m : Monitored} (run : MonitoredRun version m) (step : MonitoredStep) :
      MonitoredRun version (m.after version step)

/-!
## Effects
-/

def framesIn (steps : List MonitoredStep) : Nat := (steps.map MonitoredStep.validFrames).sum

def crcErrorsIn (steps : List MonitoredStep) : Nat := (steps.map MonitoredStep.crcErrors).sum

/-- At every later read the counters count at most the frames received since. -/
def CountsAfresh (version : FirmwareVersion) (m : Monitored) : Prop :=
  forall steps, exists valid crc, valid ≤ framesIn steps ∧ crc ≤ crcErrorsIn steps ∧
    mrmReadInputRegs (fdServices version) (m.run version steps).device mrmRegModbusRxOkHi 4 =
      .ok [highWord (UInt32.ofNat valid), lowWord (UInt32.ofNat valid),
        highWord (UInt32.ofNat crc), lowWord (UInt32.ofNat crc)]

/-- The calls of so many passes of LifecycleController. -/
def passCalls : Nat -> FieldDeviceState -> List LcCall
  | 0, _ => []
  | passes + 1, d => (runEventLoopOnce d).1 ++ passCalls passes (runEventLoopOnce d).2

def Restarts (d : FieldDeviceState) : Prop :=
  exists passes, LcCall.systemReset ∈ passCalls passes d

/-- TimeProvider gives the time, whenever the RTC can be read. -/
def ClockShows (d : FieldDeviceState) (epoch : UInt32) : Prop :=
  forall uptime, Gateway.timeProviderGet true uptime d.rest.others.clock =
    .ok ⟨epoch.toNat, .synchronised⟩

/-- The device is as before, but for the registers in which a master reads back what it last wrote
to a command, taken or not. -/
structure NoEffect (d d' : FieldDeviceState) : Prop where
  rest : d'.rest = d.rest
  slaveAddr : d'.slaveAddr = d.slaveAddr
  initialised : d'.initialised = d.initialised
  shownStats : d'.lastStatsSnapshot = d.lastStatsSnapshot

def setTimeEpoch (hi lo : UInt16) : UInt32 := (hi.toUInt32 <<< 16) ||| lo.toUInt32

/-- `m` is the device that receives the write, `saves` how saves in it would end. -/
structure TakesEffect (version : FirmwareVersion) (m : Monitored) (op : Operation)
    (saves : List SaveOutcome) : Prop where
  ackAlarm : forall words value,
    (perform (fdServices version) (m.device.withSaves saves) op).1 = .ok words ->
    (mrmRegCmdAckAlarm, value) ∈ regWrites op -> forall sensor,
      (m.after version (.fd (.modbus op saves))).device.rest.others.alarms.alarmState sensor = .clear
  resetMetrics : forall words value,
    (perform (fdServices version) (m.device.withSaves saves) op).1 = .ok words ->
    (mrmRegCmdResetMetrics, value) ∈ regWrites op ->
    CountsAfresh version (m.after version (.fd (.modbus op saves)))
  softRestart : forall words value,
    (perform (fdServices version) (m.device.withSaves saves) op).1 = .ok words ->
    (mrmRegCmdSoftRestart, value) ∈ regWrites op ->
    Restarts (m.after version (.fd (.modbus op saves))).device
  setTime : forall words addr value,
    (perform (fdServices version) (m.device.withSaves saves) op).1 = .ok words ->
    (addr, value) ∈ regWrites op -> inTimePair addr = true ->
    exists hi lo, (mrmRegCmdSetTimeHi, hi) ∈ regWrites op ∧ (mrmRegCmdSetTimeLo, lo) ∈ regWrites op ∧
      ClockShows (m.after version (.fd (.modbus op saves))).device (setTimeEpoch hi lo)
  refused : forall code,
    (perform (fdServices version) (m.device.withSaves saves) op).1 = .error code ->
    NoEffect (m.device.withSaves saves) (m.after version (.fd (.modbus op saves))).device

/-- TimeProvider finds nothing against the new time. -/
def TimeAccepted (b : Board) (epoch : UInt32) : Prop :=
  b.clock.provider.initialised = true ∧
    (b.clock.provider.syncState = .synchronised -> b.polls.readRsf = true ∧
      Gateway.epochDelta epoch.toNat (Gateway.datetimeToEpoch b.clock.rtc.datetime) ≤
        Gateway.timeProviderSanityDeltaS)

/-- The write of the RTC gets as far as the calendar registers and then times out. -/
def CutShort (b : Board) (epoch : UInt32) : Prop :=
  TimeAccepted b epoch ∧ b.polls.write.initf = true ∧ b.polls.write.rsf = false

/-- When the command block does what it answers: the frame counters wrap to 0 with a reset of the
metrics, no restart is asked for, and a time that cannot be set was there already. -/
structure CommandsWork (m : Monitored) (op : Operation) : Prop where
  resetMetrics : regWrites op = [(mrmRegCmdResetMetrics, 1)] ->
    m.stats.validFrames + 1 = 0 ∧ m.stats.crcErrors = 0
  softRestart : regWrites op ≠ [(mrmRegCmdSoftRestart, cmdSoftRestartMagic)]
  setTime : forall hi lo, op = .writeMultiple mrmRegCmdSetTimeHi [hi, lo] ->
    mrmSetTimeMinEpoch ≤ setTimeEpoch hi lo -> setTimeEpoch hi lo ≤ mrmSetTimeMaxEpoch ->
    CutShort m.device.rest.others (setTimeEpoch hi lo) ->
    m.device.rest.others.clock.rtc.write (Gateway.epochToDatetime (setTimeEpoch hi lo).toNat) =
      m.device.rest.others.clock.rtc

/-!
## What every write keeps
-/

/-- The frame counters that are shown stay or go to 0, and no service is taken down. -/
structure Kept (d d' : FieldDeviceState) : Prop where
  initialised : d'.initialised = d.initialised
  alarms : d'.rest.others.alarms.initialised = d.rest.others.alarms.initialised
  shownStats : d'.lastStatsSnapshot = d.lastStatsSnapshot ∨ d'.lastStatsSnapshot = ⟨0, 0⟩

theorem Kept.refl (d : FieldDeviceState) : Kept d d := ⟨rfl, rfl, Or.inl rfl⟩

theorem Kept.trans {d d' d'' : FieldDeviceState} (h : Kept d d') (h' : Kept d' d'') :
    Kept d d'' where
  initialised := h'.initialised.trans h.initialised
  alarms := h'.alarms.trans h.alarms
  shownStats := by
    rcases h'.shownStats with hsame | hzero
    · rw [hsame]
      exact h.shownStats
    · exact Or.inr hzero

theorem applyAlarmThresholds_initialised (p : ConfigService.ConfigParams) (s : AlarmService) :
    (applyAlarmThresholds p s).initialised = s.initialised := by
  have hset : forall sensor threshold (s : AlarmService),
      (alarmServiceSetThresholds sensor threshold s).initialised = s.initialised := by
    intro sensor threshold s
    unfold alarmServiceSetThresholds
    split
    · rfl
    · rfl
  unfold applyAlarmThresholds
  rw [hset, hset, hset]

theorem onConfigChanged_initialised (id : ConfigParamId)
    (p : ConfigService.ConfigParams) (b : Board) :
    (onConfigChanged id p b).alarms.initialised = b.alarms.initialised := by
  unfold onConfigChanged
  split
  · exact applyAlarmThresholds_initialised p b.alarms
  · exact applyAlarmThresholds_initialised p b.alarms
  · exact applyAlarmThresholds_initialised p b.alarms
  · rfl

theorem setParam_alarms (call : Call) (c : Configured Board) :
    (setParam onConfigChanged call c).2.others.alarms.initialised =
      c.others.alarms.initialised := by
  unfold setParam
  cases configServiceSetParam (c.saves.headD .saved) call.1 call.2 c.config with
  | mk err config =>
      cases err with
      | ok => exact onConfigChanged_initialised call.1 config.params c.others
      | invalid => rfl
      | persist => rfl

section Handlers

variable (version : FirmwareVersion)

theorem writeParam_kept (param : UInt16 -> ConfigParam) (value : UInt16) (d : FieldDeviceState) :
    Kept d (writeParam (fdServices version) param value d).2 :=
  ⟨rfl, setParam_alarms _ d.rest, Or.inl rfl⟩

theorem writeModbusSlaveAddrReg_kept (value : UInt16) (d : FieldDeviceState) :
    Kept d (writeModbusSlaveAddrReg (fdServices version) value d).2 := by
  have hset := setParam_alarms ⟨.modbusSlaveAddr, value.toUInt8⟩ d.rest
  unfold writeModbusSlaveAddrReg
  dsimp only
  split
  · unfold modbusSlaveSetAddress
    split
    · exact ⟨rfl, hset, Or.inl rfl⟩
    · exact ⟨rfl, hset, Or.inl rfl⟩
  · exact ⟨rfl, hset, Or.inl rfl⟩

theorem writeCmdAckAlarm_kept (value : UInt16) (d : FieldDeviceState) :
    Kept d (writeCmdAckAlarm (fdServices version) value d).2 := by
  unfold writeCmdAckAlarm
  dsimp only
  split
  · exact ⟨rfl, rfl, Or.inl rfl⟩
  · refine ⟨rfl, ?_, Or.inl rfl⟩
    change (alarmServiceAckAll d.rest.others.alarms).initialised = _
    unfold alarmServiceAckAll
    split
    · rfl
    · rfl

theorem writeCmdResetMetrics_kept (value : UInt16) (d : FieldDeviceState) :
    Kept d (writeCmdResetMetrics (fdServices version) value d).2 := by
  unfold writeCmdResetMetrics
  dsimp only
  split
  · exact ⟨rfl, rfl, Or.inl rfl⟩
  · exact ⟨rfl, rfl, Or.inr rfl⟩

theorem writeCmdSoftRestart_kept (value : UInt16) (d : FieldDeviceState) :
    Kept d (writeCmdSoftRestart (fdServices version) value d).2 := by
  unfold writeCmdSoftRestart
  dsimp only
  split
  · exact ⟨rfl, rfl, Or.inl rfl⟩
  · exact ⟨rfl, rfl, Or.inl rfl⟩

theorem setTime_alarms (epoch : UInt32) (b : Board) :
    ((boardServices version).setTime epoch b).2.alarms = b.alarms := by
  rcases boardServices_setTime version epoch b with ⟨clock, hsame⟩
  rw [hsame]

theorem applyCmdSetTime_kept (hi lo : UInt16) (d : FieldDeviceState) :
    Kept d (applyCmdSetTime (fdServices version) hi lo d).2 := by
  unfold applyCmdSetTime
  dsimp only
  split
  · exact ⟨rfl, rfl, Or.inl rfl⟩
  · exact ⟨rfl, congrArg AlarmService.initialised (setTime_alarms version _ d.rest.others),
      Or.inl rfl⟩

theorem slot_kept : forall slot, slot ∈ kSlots (fdServices version) -> forall writeFn,
    slot.writeFn = some writeFn -> forall value d, Kept d (writeFn value d).2 := by
  unfold kSlots
  simp only [List.forall_mem_cons, readOnly, configSlot, commandSlot, reduceCtorEq,
    Option.some.injEq, forall_eq', false_implies, implies_true, true_and, List.not_mem_nil]
  exact ⟨writeParam_kept version _, writeParam_kept version _, writeParam_kept version _,
    writeParam_kept version _, writeParam_kept version _, writeParam_kept version _,
    writeParam_kept version _, writeParam_kept version _, writeParam_kept version _,
    writeParam_kept version _, fun _ => .refl, fun _ => .refl,
    writeModbusSlaveAddrReg_kept version, writeCmdAckAlarm_kept version,
    writeCmdResetMetrics_kept version, writeCmdSoftRestart_kept version, fun _ => .refl,
    fun _ => .refl, trivial⟩

theorem perform_kept (d : FieldDeviceState) (op : Operation) :
    Kept d (perform (fdServices version) d op).2 :=
  perform_preserves .refl (fun _ _ _ h h' => h.trans h') (slot_kept version)
    (applyCmdSetTime_kept version) d op

theorem lcCall_kept (call : LcCall) (d : FieldDeviceState) : Kept d (lcCall call d) := by
  cases call with
  | setAddress =>
      change Kept d (modbusSlaveSetAddress _ d)
      unfold modbusSlaveSetAddress
      split
      · exact .refl d
      · exact ⟨rfl, rfl, Or.inl rfl⟩
  | snapshot => exact ⟨rfl, rfl, Or.inl rfl⟩
  | restoreSnapshot => exact ⟨rfl, rfl, Or.inl rfl⟩
  | flush => exact ⟨rfl, rfl, Or.inl rfl⟩
  | _ => exact .refl d

theorem lcCalls_kept (calls : List LcCall) (d : FieldDeviceState) :
    Kept d (calls.foldl (fun d call => lcCall call d) d) := by
  induction calls generalizing d with
  | nil => exact .refl d
  | cons call calls ih => exact (lcCall_kept call d).trans (ih (lcCall call d))

theorem runEventLoopOnce_kept (d : FieldDeviceState) : Kept d (runEventLoopOnce d).2 := by
  unfold runEventLoopOnce
  dsimp only
  split
  · exact .refl d
  · rename_i event queue _
    have hqueue : Kept d (d.withLifecycle { d.rest.others.lifecycle with
        eventQueue := queue, state := (handleEvent d.rest.others.lifecycle.state event).2 }) :=
      ⟨rfl, rfl, Or.inl rfl⟩
    exact hqueue.trans (lcCalls_kept _ _)

theorem fdStep_kept (step : FdStep) (d : FieldDeviceState) : Kept d (d.after version step) := by
  cases step with
  | modbus op saves =>
      have hsaves : Kept d (d.withSaves saves) := ⟨rfl, rfl, Or.inl rfl⟩
      exact hsaves.trans (perform_kept version (d.withSaves saves) op)
  | setParam call saves => exact ⟨rfl, setParam_alarms call (d.withSaves saves).rest, Or.inl rfl⟩
  | post event => exact ⟨rfl, rfl, Or.inl rfl⟩
  | lifecyclePass saves =>
      have hsaves : Kept d (d.withSaves saves) := ⟨rfl, rfl, Or.inl rfl⟩
      exact hsaves.trans (runEventLoopOnce_kept (d.withSaves saves))
  | sensorCycle readings => exact ⟨rfl, rfl, Or.inl rfl⟩

/-- On the running device the services are up. -/
structure ServicesUp (d : FieldDeviceState) : Prop where
  initialised : d.initialised = true
  alarms : d.rest.others.alarms.initialised = true

theorem ServicesUp.kept {d d' : FieldDeviceState} (h : ServicesUp d) (hkept : Kept d d') :
    ServicesUp d' :=
  ⟨hkept.initialised.trans h.initialised, hkept.alarms.trans h.alarms⟩

theorem bootMonitored_servicesUp (stored : Option ConfigBlob) (d : FieldDeviceState) :
    ServicesUp (bootMonitored stored d).device := by
  refine ⟨rfl, ?_⟩
  exact (startUp_inSync stored d).alarms.initialised

theorem MonitoredRun.servicesUp {m : Monitored} (h : MonitoredRun version m) :
    ServicesUp m.device := by
  induction h with
  | start stored d => exact bootMonitored_servicesUp stored d
  | step run step ih =>
      cases step with
      | fd step => exact ih.kept (fdStep_kept version step _)
      | otherFrame => exact ih
      | crcError => exact ih
      | pollStats => exact ⟨ih.initialised, ih.alarms⟩
      | second => exact ⟨ih.initialised, ih.alarms⟩
      | rtcPolls polls => exact ⟨ih.initialised, ih.alarms⟩

end Handlers

/-!
## Frame counters
-/

section Counters

variable {version : FirmwareVersion}

theorem readCounters {d : FieldDeviceState} (hinit : d.initialised = true) :
    mrmReadInputRegs (fdServices version) d mrmRegModbusRxOkHi 4 =
      .ok [highWord d.lastStatsSnapshot.validFrames, lowWord d.lastStatsSnapshot.validFrames,
        highWord d.lastStatsSnapshot.crcErrors, lowWord d.lastStatsSnapshot.crcErrors] := by
  unfold mrmReadInputRegs mrmReadRegs
  rw [hinit]
  rfl

theorem word_eq_zero {value : UInt32} (hhigh : highWord value = 0) (hlow : lowWord value = 0) :
    value = 0 := by
  have hhigh' := congrArg UInt16.toNat hhigh
  have hlow' := congrArg UInt16.toNat hlow
  unfold highWord at hhigh'
  unfold lowWord at hlow'
  rw [UInt32.toNat_toUInt16, UInt32.toNat_shiftRight, Nat.shiftRight_eq_div_pow] at hhigh'
  rw [UInt32.toNat_toUInt16] at hlow'
  change value.toNat / 65536 % 65536 = 0 at hhigh'
  change value.toNat % 65536 = 0 at hlow'
  have hlt := value.toNat_lt
  apply UInt32.toNat_inj.mp
  change value.toNat = 0
  omega

/-- So many frames were counted since the command, and no more are shown. -/
structure Counting (m : Monitored) (frames crcs : Nat) : Prop where
  up : ServicesUp m.device
  validFrames : m.stats.validFrames = UInt32.ofNat frames
  crcErrors : m.stats.crcErrors = UInt32.ofNat crcs
  shown : exists valid crc, valid ≤ frames ∧ crc ≤ crcs ∧
    m.device.lastStatsSnapshot = ⟨UInt32.ofNat valid, UInt32.ofNat crc⟩

variable {crcs frames : Nat} {m : Monitored}

theorem Counting.after (h : Counting m frames crcs) (step : MonitoredStep) :
    Counting (m.after version step) (frames + step.validFrames) (crcs + step.crcErrors) := by
  have hvalid : m.stats.validFrames + UInt32.ofNat step.validFrames =
      UInt32.ofNat (frames + step.validFrames) := by
    rw [h.validFrames, UInt32.ofNat_add]
  have hcrc : m.stats.crcErrors + UInt32.ofNat step.crcErrors =
      UInt32.ofNat (crcs + step.crcErrors) := by
    rw [h.crcErrors, UInt32.ofNat_add]
  rcases h.shown with ⟨valid, crc, hle, hle', hshown⟩
  have hle := Nat.le_trans hle (Nat.le_add_right frames step.validFrames)
  have hle' := Nat.le_trans hle' (Nat.le_add_right crcs step.crcErrors)
  have hkeeps : forall d : FieldDeviceState, Kept m.device d ->
      Counting ⟨d, m.stats.counting step⟩ (frames + step.validFrames)
        (crcs + step.crcErrors) := by
    intro d hkept
    refine ⟨h.up.kept hkept, hvalid, hcrc, ?_⟩
    rcases hkept.shownStats with hsame | hzero
    · exact ⟨valid, crc, hle, hle', hsame.trans hshown⟩
    · exact ⟨0, 0, Nat.zero_le _, Nat.zero_le _, hzero⟩
  cases step with
  | fd step => exact hkeeps _ (fdStep_kept version step m.device)
  | otherFrame => exact hkeeps _ (.refl m.device)
  | crcError => exact hkeeps _ (.refl m.device)
  | pollStats =>
      refine ⟨⟨h.up.initialised, h.up.alarms⟩, hvalid, hcrc, _, _, Nat.le_refl _, Nat.le_refl _, ?_⟩
      change m.stats.counting .pollStats = _
      unfold StatsSnapshot.counting
      rw [hvalid, hcrc]
  | second => exact hkeeps _ ⟨rfl, rfl, Or.inl rfl⟩
  | rtcPolls polls => exact hkeeps _ ⟨rfl, rfl, Or.inl rfl⟩

theorem Counting.run (h : Counting m frames crcs) (steps : List MonitoredStep) :
    Counting (m.run version steps) (frames + framesIn steps) (crcs + crcErrorsIn steps) := by
  induction steps generalizing m frames crcs with
  | nil => exact h
  | cons step steps ih =>
      have hstep : Counting (m.after version step) _ _ := h.after step
      have hrest := ih hstep
      rw [Nat.add_assoc, Nat.add_assoc] at hrest
      exact hrest

theorem countsAfresh_iff (hup : ServicesUp m.device) (hzero : m.device.lastStatsSnapshot = ⟨0, 0⟩) :
    CountsAfresh version m ↔ m.stats.validFrames = 0 ∧ m.stats.crcErrors = 0 := by
  constructor
  · intro h
    rcases h [.pollStats] with ⟨valid, crc, hvalid, hcrc, hread⟩
    cases Nat.le_zero.mp hvalid
    cases Nat.le_zero.mp hcrc
    have hpolled := @readCounters version (m.run version [.pollStats]).device hup.initialised
    rw [hread] at hpolled
    injection hpolled with hwords
    injection hwords with h1 hwords
    injection hwords with h2 hwords
    injection hwords with h3 hwords
    injection hwords with h4 _
    have hshown : (m.run version [.pollStats]).device.lastStatsSnapshot = m.stats := by
      change (⟨m.stats.validFrames + 0, m.stats.crcErrors + 0⟩ : StatsSnapshot) = m.stats
      rw [UInt32.add_zero, UInt32.add_zero]
    rw [hshown] at h1 h2 h3 h4
    exact ⟨word_eq_zero h1.symm h2.symm, word_eq_zero h3.symm h4.symm⟩
  · intro h steps
    have hcounting : Counting m 0 0 :=
      ⟨hup, h.1, h.2, 0, 0, Nat.le_refl 0, Nat.le_refl 0, hzero⟩
    have hrun : Counting (m.run version steps) _ _ := hcounting.run steps
    rcases hrun.shown with ⟨valid, crc, hvalid, hcrc, hshown⟩
    rw [Nat.zero_add] at hvalid hcrc
    refine ⟨valid, crc, hvalid, hcrc, ?_⟩
    rw [readCounters hrun.up.initialised, hshown]

end Counters

/-!
## The restart
-/

theorem handleEvent_noReset (state : LifecycleState) (event : LifecycleEvent) :
    LcCall.systemReset ∉ (handleEvent state event).1 := by
  cases state <;> cases event <;> simp [handleEvent, handleOperational, handleEditingConfig]

theorem runEventLoopOnce_noReset (d : FieldDeviceState) :
    LcCall.systemReset ∉ (runEventLoopOnce d).1 := by
  unfold runEventLoopOnce
  dsimp only
  split
  · exact List.not_mem_nil
  · exact handleEvent_noReset _ _

theorem not_restarts (d : FieldDeviceState) : ¬Restarts d := by
  intro h
  rcases h with ⟨passes, hcall⟩
  induction passes generalizing d with
  | zero => cases hcall
  | succ passes ih =>
      rcases List.mem_append.mp hcall with hfirst | hrest
      · exact runEventLoopOnce_noReset d hfirst
      · exact ih (runEventLoopOnce d).2 hrest

/-!
## The clock
-/

variable {epoch : UInt32} {b : Board}

theorem timeProviderSetTime_accepted (h : TimeAccepted b epoch) :
    timeProviderSetTime b.polls epoch.toNat b.clock =
      Gateway.timeProviderWrite b.polls.write epoch.toNat b.clock := by
  rcases h with ⟨hinit, hsane⟩
  unfold timeProviderSetTime
  rw [hinit]
  by_cases hsync : b.clock.provider.syncState = .synchronised
  · rcases hsane hsync with ⟨hrsf, hdelta⟩
    have hread : Gateway.rtcGetTime b.polls.readRsf b.clock.rtc = .ok b.clock.rtc.datetime :=
      if_pos hrsf
    rw [if_neg (by decide), if_pos hsync, hread]
    exact if_neg (Nat.not_lt.mpr hdelta)
  · rw [if_neg (by decide), if_neg hsync]

theorem timeProviderSetTime_refused (h : ¬TimeAccepted b epoch) :
    exists err, timeProviderSetTime b.polls epoch.toNat b.clock = (.error err, b.clock) := by
  unfold timeProviderSetTime
  cases hinit : b.clock.provider.initialised with
  | false => exact ⟨.notInit, rfl⟩
  | true =>
      by_cases hsync : b.clock.provider.syncState = .synchronised
      · rw [if_neg (by decide), if_pos hsync]
        cases hrsf : b.polls.readRsf with
        | false => exact ⟨.rtcFail, rfl⟩
        | true =>
            have hdelta : ¬Gateway.epochDelta epoch.toNat
                (Gateway.datetimeToEpoch b.clock.rtc.datetime) ≤ Gateway.timeProviderSanityDeltaS :=
              fun hdelta => h ⟨hinit, fun _ => ⟨hrsf, hdelta⟩⟩
            exact ⟨.rtcFail, if_pos (Nat.lt_of_not_le hdelta)⟩
      · exact absurd ⟨hinit, fun hsync' => absurd hsync' hsync⟩ h

theorem timeProviderWrite_taken {flags : Gateway.RtcFlags} {clock : Gateway.Clock} {epoch : Nat}
    (hinit : clock.provider.initialised = true) (hinitf : flags.initf = true)
    (hrsf : flags.rsf = true) (hmin : Gateway.timeProviderEpochMin ≤ epoch)
    (hmax : epoch ≤ Gateway.timeProviderEpochMax) :
    exists clock', Gateway.timeProviderWrite flags epoch clock = (.ok (), clock') ∧
      forall uptime, Gateway.timeProviderGet true uptime clock' = .ok ⟨epoch, .synchronised⟩ := by
  have hset : Gateway.rtcSetTime flags (Gateway.epochToDatetime epoch) clock.rtc =
      (.ok (), clock.rtc.write (Gateway.epochToDatetime epoch)) := by
    unfold Gateway.rtcSetTime
    rw [hinitf, hrsf]
    rfl
  unfold Gateway.timeProviderWrite
  rw [hset]
  refine ⟨_, rfl, fun uptime => ?_⟩
  have hshown : Gateway.datetimeToEpoch
      (clock.rtc.write (Gateway.epochToDatetime epoch)).datetime = epoch := by
    rw [Gateway.Rtc.datetime_write _ (Gateway.epochToDatetime_valid hmin hmax)]
    exact Gateway.datetimeToEpoch_epochToDatetime hmin hmax
  unfold Gateway.timeProviderGet
  dsimp only
  rw [hinit]
  exact congrArg (fun shown => Except.ok (Gateway.TimeProviderTs.mk shown .synchronised)) hshown

theorem setTime_cases (b : Board) (hmin : mrmSetTimeMinEpoch ≤ epoch)
    (hmax : epoch ≤ mrmSetTimeMaxEpoch) :
    (¬CutShort b epoch ∧
      exists err, timeProviderSetTime b.polls epoch.toNat b.clock = (.error err, b.clock)) ∨
    (CutShort b epoch ∧ exists err, timeProviderSetTime b.polls epoch.toNat b.clock =
      (.error err, { b.clock with
        rtc := b.clock.rtc.write (Gateway.epochToDatetime epoch.toNat) })) ∨
    (¬CutShort b epoch ∧ exists clock,
      timeProviderSetTime b.polls epoch.toNat b.clock = (.ok (), clock) ∧
        forall uptime, Gateway.timeProviderGet true uptime clock =
          .ok ⟨epoch.toNat, .synchronised⟩) := by
  by_cases haccepted : TimeAccepted b epoch
  · rw [timeProviderSetTime_accepted haccepted]
    cases hinitf : b.polls.write.initf with
    | false =>
        refine Or.inl ⟨fun hcut => ?_, .rtcFail, ?_⟩
        · have hinit := hcut.2.1
          rw [hinitf] at hinit
          cases hinit
        · unfold Gateway.timeProviderWrite Gateway.rtcSetTime
          rw [hinitf]
          rfl
    | true =>
        cases hrsf : b.polls.write.rsf with
        | false =>
            refine Or.inr (Or.inl ⟨⟨haccepted, hinitf, hrsf⟩, .rtcFail, ?_⟩)
            unfold Gateway.timeProviderWrite Gateway.rtcSetTime
            rw [hinitf, hrsf]
            rfl
        | true =>
            refine Or.inr (Or.inr ⟨fun hcut => ?_,
              timeProviderWrite_taken haccepted.1 hinitf hrsf hmin hmax⟩)
            have hnot := hcut.2.2
            rw [hrsf] at hnot
            cases hnot
  · exact Or.inl ⟨fun hcut => haccepted hcut.1, timeProviderSetTime_refused haccepted⟩

section TimePair

variable {version : FirmwareVersion} {d : FieldDeviceState} {hi lo : UInt16}

theorem applyCmdSetTime_outside
    (h : setTimeEpoch hi lo < mrmSetTimeMinEpoch ∨ mrmSetTimeMaxEpoch < setTimeEpoch hi lo) :
    applyCmdSetTime (fdServices version) hi lo d =
      (.illegalDataValue, { d with cmdSetTimeHiLast := hi, cmdSetTimeLoLast := lo }) :=
  if_pos h

theorem applyCmdSetTime_inside
    (h : ¬(setTimeEpoch hi lo < mrmSetTimeMinEpoch ∨ mrmSetTimeMaxEpoch < setTimeEpoch hi lo)) :
    applyCmdSetTime (fdServices version) hi lo d =
      (requireValue ((fdServices version).setTime (setTimeEpoch hi lo) d.rest).1,
        { d with
          cmdSetTimeHiLast := hi, cmdSetTimeLoLast := lo
          rest := ((fdServices version).setTime (setTimeEpoch hi lo) d.rest).2 }) :=
  if_neg h

variable {result : Except Gateway.TimeProviderErr Unit} {clock : Gateway.Clock}

theorem setTime_service {epoch : UInt32} {c : Configured Board}
    (hset : timeProviderSetTime c.others.polls epoch.toNat c.others.clock = (result, clock)) :
    (fdServices version).setTime epoch c =
      (result.toBool, { c with others := { c.others with clock := clock } }) := by
  have hservice : (boardServices version).setTime epoch c.others =
      (result.toBool, { c.others with clock := clock }) := by
    unfold boardServices
    dsimp only
    rw [hset]
    cases result with
    | ok _ => rfl
    | error err => rfl
  change (((boardServices version).setTime epoch c.others).1,
    ({ c with others := ((boardServices version).setTime epoch c.others).2 } :
      Configured Board)) = _
  rw [hservice]

theorem applyCmdSetTime_clock
    (h : ¬(setTimeEpoch hi lo < mrmSetTimeMinEpoch ∨ mrmSetTimeMaxEpoch < setTimeEpoch hi lo))
    (hset : timeProviderSetTime d.rest.others.polls (setTimeEpoch hi lo).toNat d.rest.others.clock =
      (result, clock)) :
    applyCmdSetTime (fdServices version) hi lo d =
      (requireValue result.toBool,
        { d.withClock clock with cmdSetTimeHiLast := hi, cmdSetTimeLoLast := lo }) := by
  rw [applyCmdSetTime_inside h, setTime_service hset]
  rfl

end TimePair

/-!
## Commands and their effects
-/

section Effects

variable {version : FirmwareVersion} {m : Monitored} {op : Operation}
  {saves : List SaveOutcome}

variable {d : FieldDeviceState} {addr value : UInt16} {words : List UInt16}

theorem takesEffect_refused {code : UInt8}
    (hperform : perform (fdServices version) (m.device.withSaves saves) op = (.error code, d))
    (hsame : NoEffect (m.device.withSaves saves) d) : TakesEffect version m op saves := by
  have hnever : forall words,
      (perform (fdServices version) (m.device.withSaves saves) op).1 ≠ .ok words := by
    intro words hok
    rw [hperform] at hok
    cases hok
  have hstate : (m.after version (.fd (.modbus op saves))).device = d :=
    congrArg Prod.snd hperform
  exact
    { ackAlarm := fun words _ hok => absurd hok (hnever words)
      resetMetrics := fun words _ hok => absurd hok (hnever words)
      softRestart := fun words _ hok => absurd hok (hnever words)
      setTime := fun words _ _ hok => absurd hok (hnever words)
      refused := fun _ _ => by
        rw [hstate]
        exact hsame }

theorem mem_single {addr' value' : UInt16} (hwrites : regWrites op = [(addr, value)])
    (hmem : (addr', value') ∈ regWrites op) : addr' = addr := by
  rw [hwrites] at hmem
  exact congrArg Prod.fst (List.mem_singleton.mp hmem)

theorem takesEffect_single
    (hperform : perform (fdServices version) (m.device.withSaves saves) op = (.ok words, d))
    (hwrites : regWrites op = [(addr, value)]) (htime : inTimePair addr = false)
    (hack : addr = mrmRegCmdAckAlarm ->
      forall sensor, d.rest.others.alarms.alarmState sensor = .clear)
    (hreset : addr = mrmRegCmdResetMetrics ->
      CountsAfresh version (m.after version (.fd (.modbus op saves))))
    (hrestart : addr = mrmRegCmdSoftRestart -> Restarts d) : TakesEffect version m op saves := by
  have hstate : (m.after version (.fd (.modbus op saves))).device = d :=
    congrArg Prod.snd hperform
  exact
    { ackAlarm := fun _ _ _ hmem => by
        rw [hstate]
        exact hack (mem_single hwrites hmem).symm
      resetMetrics := fun _ _ _ hmem => hreset (mem_single hwrites hmem).symm
      softRestart := fun _ _ _ hmem => by
        rw [hstate]
        exact hrestart (mem_single hwrites hmem).symm
      setTime := fun _ _ _ _ hmem hpair => by
        rw [mem_single hwrites hmem, htime] at hpair
        cases hpair
      refused := fun code herror => by
        rw [hperform] at herror
        cases herror }

theorem takesEffect_ackAlarm (hup : ServicesUp m.device)
    (hwrites : regWrites op = [(mrmRegCmdAckAlarm, value)])
    (hperform : perform (fdServices version) (m.device.withSaves saves) op =
      writeAnswer words (writeCmdAckAlarm (fdServices version) value (m.device.withSaves saves))) :
    TakesEffect version m op saves := by
  unfold writeCmdAckAlarm at hperform
  by_cases hvalue : value ≠ 1
  · rw [if_pos hvalue] at hperform
    exact takesEffect_refused hperform ⟨rfl, rfl, rfl, rfl⟩
  · rw [if_neg hvalue] at hperform
    refine takesEffect_single hperform hwrites rfl (fun _ sensor => ?_) (fun h => nomatch h)
      (fun h => nomatch h)
    change (alarmServiceAckAll m.device.rest.others.alarms).alarmState sensor = .clear
    unfold alarmServiceAckAll
    rw [if_pos hup.alarms]

theorem resetMetrics_countsAfresh (hup : ServicesUp m.device)
    (hstate : (m.after version (.fd (.modbus op saves))).device = d)
    (hzero : d.lastStatsSnapshot = ⟨0, 0⟩) :
    CountsAfresh version (m.after version (.fd (.modbus op saves))) ↔
      m.stats.validFrames + 1 = 0 ∧ m.stats.crcErrors = 0 := by
  have hkept := fdStep_kept version (.modbus op saves) m.device
  have hiff := @countsAfresh_iff version (m.after version (.fd (.modbus op saves)))
    (hup.kept hkept) (by rw [hstate]; exact hzero)
  have hcrc : (m.after version (.fd (.modbus op saves))).stats.crcErrors = m.stats.crcErrors :=
    UInt32.add_zero m.stats.crcErrors
  rw [hcrc] at hiff
  exact hiff

theorem takesEffect_resetMetrics (hup : ServicesUp m.device)
    (hwrites : regWrites op = [(mrmRegCmdResetMetrics, value)])
    (hperform : perform (fdServices version) (m.device.withSaves saves) op = writeAnswer words
      (writeCmdResetMetrics (fdServices version) value (m.device.withSaves saves)))
    (hwork : CommandsWork m op) : TakesEffect version m op saves := by
  unfold writeCmdResetMetrics at hperform
  by_cases hvalue : value ≠ 1
  · rw [if_pos hvalue] at hperform
    exact takesEffect_refused hperform ⟨rfl, rfl, rfl, rfl⟩
  · rw [if_neg hvalue] at hperform
    rw [not_not.mp hvalue] at hwrites
    refine takesEffect_single hperform hwrites rfl (fun h => nomatch h) (fun _ => ?_)
      (fun h => nomatch h)
    exact (resetMetrics_countsAfresh hup (congrArg Prod.snd hperform) rfl).mpr
      (hwork.resetMetrics hwrites)

theorem takesEffect_softRestart (hwrites : regWrites op = [(mrmRegCmdSoftRestart, value)])
    (hperform : perform (fdServices version) (m.device.withSaves saves) op = writeAnswer words
      (writeCmdSoftRestart (fdServices version) value (m.device.withSaves saves)))
    (hwork : CommandsWork m op) : TakesEffect version m op saves := by
  unfold writeCmdSoftRestart at hperform
  by_cases hvalue : value ≠ 0xA5A5
  · rw [if_pos hvalue] at hperform
    exact takesEffect_refused hperform ⟨rfl, rfl, rfl, rfl⟩
  · rw [not_not.mp hvalue] at hwrites
    exact absurd hwrites hwork.softRestart

theorem takesEffect_setTime {hi lo : UInt16} (hop : op = .writeMultiple mrmRegCmdSetTimeHi [hi, lo])
    (hperform : perform (fdServices version) (m.device.withSaves saves) op = writeAnswer words
      (applyCmdSetTime (fdServices version) hi lo (m.device.withSaves saves)))
    (hwork : CommandsWork m op) : TakesEffect version m op saves := by
  by_cases hrange : setTimeEpoch hi lo < mrmSetTimeMinEpoch ∨
      mrmSetTimeMaxEpoch < setTimeEpoch hi lo
  · rw [applyCmdSetTime_outside hrange] at hperform
    exact takesEffect_refused hperform ⟨rfl, rfl, rfl, rfl⟩
  · have hmin := UInt32.not_lt.mp fun h => hrange (Or.inl h)
    have hmax := UInt32.not_lt.mp fun h => hrange (Or.inr h)
    rcases setTime_cases m.device.rest.others hmin hmax with hrefused | hcut | htaken
    · rcases hrefused with ⟨_, err, hset⟩
      rw [applyCmdSetTime_clock (d := m.device.withSaves saves) hrange hset] at hperform
      exact takesEffect_refused hperform ⟨rfl, rfl, rfl, rfl⟩
    · rcases hcut with ⟨hcut, err, hset⟩
      have hsame := hwork.setTime hi lo hop hmin hmax hcut
      rw [hsame] at hset
      rw [applyCmdSetTime_clock (d := m.device.withSaves saves) hrange hset] at hperform
      exact takesEffect_refused hperform ⟨rfl, rfl, rfl, rfl⟩
    · rcases htaken with ⟨_, clock, hset, hshows⟩
      rw [applyCmdSetTime_clock (d := m.device.withSaves saves) hrange hset] at hperform
      have hwrites : regWrites op = [(mrmRegCmdSetTimeHi, hi), (mrmRegCmdSetTimeLo, lo)] := by
        rw [hop]
        rfl
      have hpair : forall addr value, (addr, value) ∈ regWrites op -> inTimePair addr = true := by
        intro addr value hmem
        rw [hwrites] at hmem
        rcases List.mem_cons.mp hmem with heq | hmem
        · cases heq
          rfl
        · cases List.mem_singleton.mp hmem
          rfl
      have hclock : (m.after version (.fd (.modbus op saves))).device.rest.others.clock = clock := by
        change (perform (fdServices version) (m.device.withSaves saves) op).2.rest.others.clock = _
        rw [hperform]
        rfl
      exact
        { ackAlarm := fun _ value _ hmem => nomatch hpair _ value hmem
          resetMetrics := fun _ value _ hmem => nomatch hpair _ value hmem
          softRestart := fun _ value _ hmem => nomatch hpair _ value hmem
          setTime := fun _ _ _ _ _ _ => by
            refine ⟨hi, lo, ?_, ?_, ?_⟩
            · rw [hwrites]
              exact List.mem_cons_self
            · rw [hwrites]
              exact List.mem_cons_of_mem _ List.mem_cons_self
            · unfold ClockShows
              rw [hclock]
              exact hshows
          refused := fun code herror => by
            rw [hperform] at herror
            cases herror }

theorem commandsWork_of_takesEffect (hup : ServicesUp m.device) (h : TakesEffect version m op saves) :
    CommandsWork m op where
  resetMetrics := by
    intro hwrites
    rcases @perform_command _ (fdServices version) _ _ op (m.device.withSaves saves) _
      hup.initialised hwrites rfl rfl with ⟨words, hperform⟩
    have hok : (perform (fdServices version) (m.device.withSaves saves) op).1 = .ok words := by
      rw [hperform]
      rfl
    have hafresh := h.resetMetrics words 1 hok (by rw [hwrites]; exact List.mem_cons_self)
    refine (resetMetrics_countsAfresh hup rfl ?_).mp hafresh
    change (perform (fdServices version) (m.device.withSaves saves) op).2.lastStatsSnapshot = _
    rw [hperform]
    rfl
  softRestart := by
    intro hwrites
    rcases @perform_command _ (fdServices version) _ _ op (m.device.withSaves saves) _
      hup.initialised hwrites rfl rfl with ⟨words, hperform⟩
    have hok : (perform (fdServices version) (m.device.withSaves saves) op).1 = .ok words := by
      rw [hperform]
      rfl
    exact not_restarts _
      (h.softRestart words cmdSoftRestartMagic hok (by rw [hwrites]; exact List.mem_cons_self))
  setTime := by
    intro hi lo hop hmin hmax hcut
    subst hop
    have hrange : ¬(setTimeEpoch hi lo < mrmSetTimeMinEpoch ∨
        mrmSetTimeMaxEpoch < setTimeEpoch hi lo) := by
      rw [not_or]
      exact ⟨UInt32.not_lt.mpr hmin, UInt32.not_lt.mpr hmax⟩
    have hperform := @perform_timePair _ (fdServices version) (m.device.withSaves saves)
      hup.initialised hi lo
    rcases setTime_cases m.device.rest.others hmin hmax with hnot | hsame | hnot
    · exact absurd hcut hnot.1
    · rcases hsame with ⟨_, err, hset⟩
      rw [applyCmdSetTime_clock (d := m.device.withSaves saves) hrange hset] at hperform
      have hnone := h.refused modbusExcIllegalValue (by rw [hperform]; rfl)
      have hrest := hnone.rest
      change (perform (fdServices version) (m.device.withSaves saves) _).2.rest = _ at hrest
      rw [hperform] at hrest
      exact congrArg (fun c : Configured Board => c.others.clock.rtc) hrest
    · exact absurd hcut hnot.1

/-- Which writes to the command block do what they are answered with. -/
theorem commands_take_effect_iff (hrun : MonitoredRun version m) (hcommand : WritesCommandBlock op)
    (saves : List SaveOutcome) :
    TakesEffect version m op saves ↔ CommandsWork m op := by
  have hup := hrun.servicesUp
  constructor
  · exact commandsWork_of_takesEffect hup
  · intro hwork
    have hanswer := @commandAnswer _ (fdServices version) op (m.device.withSaves saves)
      hup.initialised hcommand
    cases hanswer with
    | refused code answer => exact takesEffect_refused answer ⟨rfl, rfl, rfl, rfl⟩
    | ackAlarm value words writes answer => exact takesEffect_ackAlarm hup writes answer
    | resetMetrics value words writes answer => exact takesEffect_resetMetrics hup writes answer hwork
    | softRestart value words writes answer => exact takesEffect_softRestart writes answer hwork
    | setTime hi lo words writes answer => exact takesEffect_setTime writes answer hwork

end Effects

/-- A hot sensor has raised its alarm. -/
def alarmRaised : Monitored :=
  (bootMonitored none idleDevice).after ⟨1, 0, 0⟩
    (.fd (.sensorCycle fun _ => ⟨9700, true⟩))

def Monitored.temperatureAlarm (m : Monitored) : AlarmState :=
  m.device.rest.others.alarms.alarmState .temperature

/-- The alarm is acknowledged, and the time is set. -/
theorem commands_take_effect_ack :
    (alarmRaised.temperatureAlarm = .activeHigh ∧
      TakesEffect ⟨1, 0, 0⟩ alarmRaised (.writeSingle mrmRegCmdAckAlarm 1) [] ∧
      (alarmRaised.after ⟨1, 0, 0⟩
        (.fd (.modbus (.writeSingle mrmRegCmdAckAlarm 1) []))).temperatureAlarm = .clear) ∧
    TakesEffect ⟨1, 0, 0⟩ alarmRaised (.writeMultiple mrmRegCmdSetTimeHi [0x6A00, 0]) [] ∧
      ClockShows (alarmRaised.after ⟨1, 0, 0⟩
        (.fd (.modbus (.writeMultiple mrmRegCmdSetTimeHi [0x6A00, 0]) []))).device 0x6A000000 := by
  have hrun : MonitoredRun ⟨1, 0, 0⟩ alarmRaised := .step (.start none idleDevice) _
  have hack : TakesEffect ⟨1, 0, 0⟩ alarmRaised (.writeSingle mrmRegCmdAckAlarm 1) [] :=
    (commands_take_effect_iff hrun
      ⟨mrmRegCmdAckAlarm, 1, List.mem_cons_self, by decide⟩ []).mpr
      ⟨(fun h => nomatch h), by decide, (fun _ _ h => nomatch h)⟩
  have htime : TakesEffect ⟨1, 0, 0⟩ alarmRaised
      (.writeMultiple mrmRegCmdSetTimeHi [0x6A00, 0]) [] :=
    (commands_take_effect_iff hrun
      ⟨mrmRegCmdSetTimeHi, 0x6A00, List.mem_cons_self, by decide⟩ []).mpr
      ⟨(fun h => nomatch h), by decide, (fun _ _ _ _ _ hcut => by cases hcut.2.2)⟩
  have hwrites : regWrites (.writeMultiple mrmRegCmdSetTimeHi [0x6A00, 0]) =
      [(mrmRegCmdSetTimeHi, 0x6A00), (mrmRegCmdSetTimeLo, 0)] := rfl
  refine ⟨⟨by decide, hack, hack.ackAlarm [mrmRegCmdAckAlarm, 1] 1 rfl List.mem_cons_self _⟩,
    htime, ?_⟩
  rcases htime.setTime [mrmRegCmdSetTimeHi, 2] mrmRegCmdSetTimeHi 0x6A00 rfl List.mem_cons_self
    (by decide) with ⟨hi, lo, hhi, hlo, hshows⟩
  rw [hwrites] at hhi hlo
  have hhi' : hi = 0x6A00 := by simpa [mrmRegCmdSetTimeHi, mrmRegCmdSetTimeLo] using hhi
  have hlo' : lo = 0 := by simpa [mrmRegCmdSetTimeHi, mrmRegCmdSetTimeLo] using hlo
  rw [hhi', hlo'] at hshows
  exact hshows

/-- The restart command is acknowledged and LifecycleController drops its event. -/
theorem acknowledged_restart_is_dropped :
    ¬forall version m op saves, MonitoredRun version m -> WritesCommandBlock op ->
      TakesEffect version m op saves := by
  intro h
  have hrun : MonitoredRun ⟨1, 0, 0⟩ (bootMonitored none idleDevice) := .start none idleDevice
  have hrestart := (h _ _ (.writeSingle mrmRegCmdSoftRestart cmdSoftRestartMagic) [] hrun
    ⟨mrmRegCmdSoftRestart, cmdSoftRestartMagic, List.mem_cons_self, by decide⟩).softRestart
    [mrmRegCmdSoftRestart, cmdSoftRestartMagic] cmdSoftRestartMagic rfl List.mem_cons_self
  exact not_restarts _ hrestart

end EnvMonitor.FieldDevice
