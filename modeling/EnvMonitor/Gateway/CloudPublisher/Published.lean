import EnvMonitor.Gateway.CloudPublisher.AlarmPayload
import EnvMonitor.Gateway.CloudPublisher.Control
import EnvMonitor.Gateway.FirmwareStore.Metadata
import EnvMonitor.Gateway.LifecycleController.Controller
import EnvMonitor.Json.Printed
import EnvMonitor.Numerics.CheckedInt32

/-!
# The published messages

Every `cp_serialise_*` function is a row of `prv_append` calls and a `prv_close`.  A call whose
argument is undefined has no text; the arguments of a call are evaluated only when the calls before
it fitted.
-/

namespace EnvMonitor.Gateway.CloudPublisher.Published

open FirmwareStore JsonText LifecycleController Numerics TimeProvider

abbrev cpJsonBufSize : Nat := 2048
abbrev healthMonitorMaxTasks : Nat := 8

/-!
## What is published
-/

/-- `sensor_reading_t`; the time of a reading is not published. -/
structure SensorReading where
  value : Int32
  valid : Bool

/-- `sensor_snapshot_t` -/
abbrev SensorSnapshot : Type := SensorId -> SensorReading

/-- `modbus_fd_reading_t` -/
structure FdReading extends FdCache where
  linkOnline : Bool

inductive LifecycleResetCause where
  | powerOn
  | soft
  | watchdog
  | unknown
  deriving DecidableEq, Repr

/-- The fields of `health_snapshot_t` that are published. -/
structure HealthSnapshot where
  uptimeS : UInt32
  lifecycleState : LifecycleState
  lastResetCause : LifecycleResetCause
  sensorFailCount : UInt32
  alarmRaiseCount : UInt32
  configWriteFailed : Bool
  modbusTransactionsOk : UInt32
  modbusTimeouts : UInt32
  modbusLinkOnline : Bool
  mqttPublishesSent : UInt32
  mqttPublishesFailed : UInt32
  mqttReconnectCount : UInt32
  wifiRssiDbm : Int32
  cloudConnected : Bool
  bufferEntryCount : UInt32
  bufferOverflowCount : UInt32
  ntpSyncFailCount : UInt32
  lastNtpSyncEpoch : UInt32
  cpuLoadPct : UInt8
  arenaMinFreeBytes : UInt32
  stackWatermarkWords : Vector UInt16 healthMonitorMaxTasks

/-- `us_chunk_request_t` -/
structure UsChunkRequest where
  job : UInt32
  slot : FirmwareSlot
  offset : UInt32
  len : UInt32

inductive UsResult where
  | accepted
  | rejected
  | failed
  | success
  | rolledBack
  deriving DecidableEq, Repr

inductive UsReason where
  | none
  | busy
  | notOtaCapable
  | notReady
  | badCommand
  | startTimeout
  | downloadFailed
  | stalled
  | stagingError
  | tooLarge
  | badHeader
  | wrongSlot
  | sigInvalid
  | hashMismatch
  | badImage
  | crypto
  | verifyIo
  | installFailed
  | activateFailed
  | rollback
  deriving DecidableEq, Repr

/-- `us_ota_report_t` -/
structure UsOtaReport where
  job : Option UInt32
  result : UsResult
  reason : UsReason
  version : UInt32
  rollbackCount : UInt32

/-- A digit of `%08lx`. -/
def hexDigit (n : Nat) : UInt8 := if n < 10 then UInt8.ofNat (48 + n) else UInt8.ofNat (87 + n)

/-- `%08lx` -/
def hexWord (w : UInt32) : List UInt8 :=
  [7, 6, 5, 4, 3, 2, 1, 0].map fun i => hexDigit (w.toNat / 16 ^ i % 16)

/-- `prv_read_device_serial`, from the words of the unique identifier. -/
def prvReadDeviceSerial (uid0 uid1 uid2 : UInt32) : DeviceSerial where
  text := hexWord uid0 ++ hexWord uid1 ++ hexWord uid2
  short := by
    unfold hexWord
    simp only [List.length_append, List.length_map, List.length_cons, List.length_nil]
    decide

/-!
## Appending
-/

/-- One call of `prv_append`: its text, if its arguments are defined. -/
abbrev AppendCall : Type := Option (List UInt8)

/-- The calls in their order, until one does not fit. -/
def appendAll (size : Nat) : List AppendCall -> List UInt8 -> Nat -> Option (List UInt8 × Option Nat)
  | [], buf, len => some (buf, some len)
  | none :: _, _, _ => none
  | some text :: calls, buf, len =>
      match prvAppend size buf len text with
      | (buf, none) => some (buf, none)
      | (buf, some len) => appendAll size calls buf len

/-- A whole serialiser: the buffer, and the length or 0. -/
def serialise (size : Nat) (buf : List UInt8) (calls : List AppendCall) :
    Option (List UInt8 × Nat) :=
  match appendAll size calls buf 0 with
  | none => none
  | some (buf, none) => some (buf, 0)
  | some (buf, some len) => some (prvClose size buf len)

def syncText (sync : TimeSyncState) : List UInt8 :=
  if sync = .synchronised then ascii "synchronised" else ascii "unsynchronised"

/-- `prv_common`; the epoch is a 32-bit field. -/
def prvCommon (serial : DeviceSerial) (ts : TimeProviderTs) : AppendCall :=
  some (format ("\x7b\"schema_version\":\"1.1\",\"device_id\":\"%s\"," ++
    "\"timestamp\":%lu,\"sync_state\":\"%s\"").toList
    [.s serial.text, .lu (ts.epoch % 2 ^ 32), .s (syncText ts.syncState)])

/-- `prv_append_opt` -/
def prvAppendOpt (name : String) (valid : Bool) (value : Option Int) : AppendCall :=
  value.map fun value =>
    if valid then format ",\"%s\":%ld".toList [.s (ascii name), .ld value]
    else format ",\"%s\":null".toList [.s (ascii name)]

/-- `prv_append` with a format string of its own. -/
def prvPrint (fmt : String) (args : List Arg) : AppendCall := some (format fmt.toList args)

def boolText (b : Bool) : List UInt8 := if b then ascii "true" else ascii "false"

/-!
## Units
-/

/-- `prv_div_round` -/
def prvDivRound (value divisor : Int) : Option Int :=
  let half := divisor.tdiv 2
  if 0 ≤ value then (int32Add value half).bind fun sum => int32Div sum divisor
  else
    (int32 (-value)).bind fun mirrored =>
      (int32Add mirrored half).bind fun sum =>
        (int32Div sum divisor).bind fun quotient => int32 (-quotient)

def prvClamp (value lo hi : Int) : Int :=
  if value < lo then lo else if hi < value then hi else value

def prvWireTemp (centiC : Int) : Option Int := prvDivRound centiC 10

def prvWireHumidity (centiPct : Int) : Option Int :=
  (prvDivRound centiPct 100).map fun pct => prvClamp pct 0 100

def prvWirePressure (deciHpa : Int) : Option Int :=
  (prvDivRound deciHpa 10).map fun hpa => prvClamp hpa 0 65535

/-!
## Telemetry
-/

/-- `prv_append_field_device` -/
def prvAppendFieldDevice : Option FdReading -> List AppendCall
  | none => [prvPrint ",\"field_device\":null" []]
  | some fd =>
      let online := fd.linkOnline && fd.hasData
      [prvPrint ",\"field_device\":\x7b\"online\":%s" [.s (boolText online)],
        prvAppendOpt "temperature_deci_c" (online && fd.temperatureValid)
          (prvWireTemp fd.temperatureCentiC.toInt),
        prvAppendOpt "humidity_pct" (online && fd.humidityValid)
          (prvWireHumidity fd.humidityCentiPct.toNat),
        prvAppendOpt "pressure_hpa" (online && fd.pressureValid)
          (prvWirePressure fd.pressureDeciHpa.toNat),
        prvPrint "\x7d" []]

/-- A channel that is published as it was read. -/
def appendRaw (name : String) (r : SensorReading) : AppendCall :=
  prvAppendOpt name r.valid (some r.value.toInt)

/-- The channels of the gateway itself. -/
def onboardCalls (snap : SensorSnapshot) : List AppendCall :=
  [prvAppendOpt "temperature_deci_c" (snap .temperature).valid
      (prvWireTemp (snap .temperature).value.toInt),
    prvAppendOpt "humidity_pct" (snap .humidity).valid
      (prvWireHumidity (snap .humidity).value.toInt),
    prvAppendOpt "pressure_hpa" (snap .pressure).valid
      (prvWirePressure (snap .pressure).value.toInt),
    appendRaw "accel_x_mg" (snap .accelX),
    appendRaw "accel_y_mg" (snap .accelY),
    appendRaw "accel_z_mg" (snap .accelZ),
    appendRaw "gyro_x_mdps" (snap .gyroX),
    appendRaw "gyro_y_mdps" (snap .gyroY),
    appendRaw "gyro_z_mdps" (snap .gyroZ),
    appendRaw "mag_x_mgauss" (snap .magX),
    appendRaw "mag_y_mgauss" (snap .magY),
    appendRaw "mag_z_mgauss" (snap .magZ)]

def cpSerialiseTelemetry (size : Nat) (buf : List UInt8) (snap : SensorSnapshot)
    (fd : Option FdReading) (ts : TimeProviderTs) (serial : DeviceSerial) :
    Option (List UInt8 × Nat) :=
  serialise size buf (prvCommon serial ts :: (onboardCalls snap ++ prvAppendFieldDevice fd))

/-!
## Health
-/

def prvLifecycleStr : LifecycleState -> List UInt8
  | .init => ascii "init"
  | .operational => ascii "operational"
  | .editingConfig => ascii "editing_config"
  | .restarting => ascii "restarting"
  | .updatingFw => ascii "updating_firmware"
  | .faulted => ascii "faulted"

def prvResetCauseStr : LifecycleResetCause -> List UInt8
  | .powerOn => ascii "power_on"
  | .soft => ascii "soft"
  | .watchdog => ascii "watchdog"
  | .unknown => ascii "unknown"

/-- `prv_stack_count`: what is left of `count` slots without the zeros at the end. -/
def prvStackCount (words : List UInt16) : Nat -> Nat
  | 0 => 0
  | count + 1 => if words.getD count 0 = 0 then prvStackCount words count else count + 1

/-- The major, minor and patch number of a version. -/
def versionMajor (v : UInt32) : Nat := (v >>> 24).toNat

def versionMinor (v : UInt32) : Nat := ((v >>> 16) &&& 0xFF).toNat

def versionPatch (v : UInt32) : Nat := (v &&& 0xFFFF).toNat

def stackCalls (words : List UInt16) : List AppendCall :=
  (List.range (prvStackCount words healthMonitorMaxTasks)).map fun i =>
    prvPrint "%s%u" [.s (if 0 < i then ascii "," else []), .u (words.getD i 0).toNat]

/-- The format string that ends with a comma. -/
def healthStateFmt : String :=
  ",\"fw_version\":\"%u.%u.%u\",\"uptime_s\":%lu," ++
    "\"lifecycle_state\":\"%s\",\"last_reset_cause\":\"%s\"," ++
    "\"sensor_fail_count\":%lu,\"alarm_raise_count\":%lu," ++
    "\"config_write_failed\":%s,"

/-- The format string that opens the table. -/
def healthCounterFmt : String :=
  "\"modbus_transactions_ok\":%lu,\"modbus_timeouts\":%lu," ++
    "\"modbus_link_online\":%s,\"mqtt_publishes_sent\":%lu," ++
    "\"mqtt_publishes_failed\":%lu,\"mqtt_reconnect_count\":%lu," ++
    "\"wifi_rssi_dbm\":%ld,\"cloud_connected\":%s," ++
    "\"buffer_entry_count\":%lu,\"buffer_overflow_count\":%lu," ++
    "\"ntp_sync_fail_count\":%lu,\"last_ntp_sync_epoch\":%lu," ++
    "\"cpu_load_pct\":%u,\"arena_min_free_bytes\":%lu," ++
    "\"stack_free_words\":["

def healthStateArgs (snap : HealthSnapshot) (fwVersion : UInt32) : List Arg :=
  [.u (versionMajor fwVersion), .u (versionMinor fwVersion), .u (versionPatch fwVersion),
    .lu snap.uptimeS.toNat, .s (prvLifecycleStr snap.lifecycleState),
    .s (prvResetCauseStr snap.lastResetCause), .lu snap.sensorFailCount.toNat,
    .lu snap.alarmRaiseCount.toNat, .s (boolText snap.configWriteFailed)]

def healthCounterArgs (snap : HealthSnapshot) : List Arg :=
  [.lu snap.modbusTransactionsOk.toNat, .lu snap.modbusTimeouts.toNat,
    .s (boolText snap.modbusLinkOnline), .lu snap.mqttPublishesSent.toNat,
    .lu snap.mqttPublishesFailed.toNat, .lu snap.mqttReconnectCount.toNat,
    .ld snap.wifiRssiDbm.toInt, .s (boolText snap.cloudConnected),
    .lu snap.bufferEntryCount.toNat, .lu snap.bufferOverflowCount.toNat,
    .lu snap.ntpSyncFailCount.toNat, .lu snap.lastNtpSyncEpoch.toNat,
    .u snap.cpuLoadPct.toNat, .lu snap.arenaMinFreeBytes.toNat]

def healthCalls (snap : HealthSnapshot) (fwVersion : UInt32) : List AppendCall :=
  [prvPrint healthStateFmt (healthStateArgs snap fwVersion),
    prvPrint healthCounterFmt (healthCounterArgs snap)] ++
    stackCalls snap.stackWatermarkWords.toList ++ [prvPrint "]" []]

def cpSerialiseHealth (size : Nat) (buf : List UInt8) (snap : HealthSnapshot) (fwVersion : UInt32)
    (ts : TimeProviderTs) (serial : DeviceSerial) : Option (List UInt8 × Nat) :=
  serialise size buf (prvCommon serial ts :: healthCalls snap fwVersion)

/-!
## Alarms
-/

def alarmCalls (event : AlarmEvent) : List AppendCall :=
  [prvPrint (",\"sensor_id\":\"%s\",\"alarm_type\":\"%s\"," ++
    "\"measured_value_raw\":%ld,\"threshold_value_raw\":%ld," ++
    "\"source\":\"%s\"")
    [.s event.sensorName, .s (prvAlarmTypeStr event.alarmType),
      .ld event.measuredValueRaw.toInt, .ld event.thresholdValueRaw.toInt,
      .s (prvAlarmSourceStr event.source)]]

def cpSerialiseAlarm (size : Nat) (buf : List UInt8) (event : AlarmEvent) (serial : DeviceSerial) :
    Option (List UInt8 × Nat) :=
  serialise size buf (prvCommon serial event.timestamp :: alarmCalls event)

/-!
## Results of commands
-/

def cpCfgReasonString : CpCfgStatus -> List UInt8
  | .unknownKey => ascii "unknown_key"
  | .notRemote => ascii "not_remote"
  | .tooManyKeys => ascii "too_many_keys"
  | .invalidValue => ascii "invalid_value"
  | .busy => ascii "busy"
  | _ => ascii "bad_json"

/-- A member that is there only when the request had a number. -/
def appendReq : Option Nat -> List AppendCall
  | none => []
  | some req => [prvPrint ",\"req\":%lu" [.lu req]]

/-- The rejections that name a key. -/
def namesKey (status : CpCfgStatus) : Bool :=
  status = .unknownKey || status = .notRemote || status = .invalidValue

/-- The outcome of a /config command; a key that is not passed is an empty one. -/
def appendConfigOutcome (status : CpCfgStatus) (key : List UInt8) : List AppendCall :=
  if status = .ok then [prvPrint ",\"result\":\"applied\"" []]
  else
    [prvPrint ",\"result\":\"rejected\",\"reason\":\"%s\"" [.s (cpCfgReasonString status)]] ++
      if key ≠ [] ∧ namesKey status = true then [prvPrint ",\"key\":\"%s\"" [.s key]] else []

def configCalls (result : ConfigResult) : List AppendCall :=
  prvPrint ",\"event\":\"config\"" [] ::
    (appendReq result.req ++ appendConfigOutcome result.status result.key)

def cpSerialiseConfigResult (size : Nat) (buf : List UInt8) (result : ConfigResult)
    (ts : TimeProviderTs) (serial : DeviceSerial) : Option (List UInt8 × Nat) :=
  serialise size buf (prvCommon serial ts :: configCalls result)

def cpControlName : CpControlCmd -> List UInt8
  | .read => ascii "read"
  | .restart => ascii "restart"
  | .restartConfirm => ascii "restart_confirm"
  | .resetMetrics => ascii "reset_metrics"
  | _ => ascii "unknown"

/-- The reasons that `prv_handle_control` passes. -/
def controlReasonText : ControlReason -> List UInt8
  | .badFormat => ascii "bad_format"
  | .unknownCommand => ascii "unknown_command"
  | .failed => ascii "failed"

def acceptedText (accepted : Bool) : List UInt8 :=
  if accepted then ascii "accepted" else ascii "rejected"

def appendControlReason : Option ControlReason -> List AppendCall
  | none => []
  | some reason => [prvPrint ",\"reason\":\"%s\"" [.s (controlReasonText reason)]]

def controlCalls (cmd : CpControlCmd) (req : Option UInt32) (accepted : Bool)
    (reason : Option ControlReason) : List AppendCall :=
  [prvPrint ",\"event\":\"control\",\"command\":\"%s\"" [.s (cpControlName cmd)]] ++
    appendReq (req.map UInt32.toNat) ++
    [prvPrint ",\"result\":\"%s\"" [.s (acceptedText accepted)]] ++ appendControlReason reason

def cpSerialiseControlResult (size : Nat) (buf : List UInt8) (cmd : CpControlCmd)
    (req : Option UInt32) (accepted : Bool) (reason : Option ControlReason)
    (ts : TimeProviderTs) (serial : DeviceSerial) : Option (List UInt8 × Nat) :=
  serialise size buf (prvCommon serial ts :: controlCalls cmd req accepted reason)

/-!
## Firmware updates
-/

def slotLetter (slot : FirmwareSlot) : UInt8 := if slot = .b then 0x42 else 0x41

def otaRequestCalls (req : UsChunkRequest) : List AppendCall :=
  [prvPrint ",\"job\":%lu,\"slot\":\"%c\",\"offset\":%lu,\"len\":%lu"
    [.lu req.job.toNat, .c (slotLetter req.slot), .lu req.offset.toNat, .lu req.len.toNat]]

def cpSerialiseOtaRequest (size : Nat) (buf : List UInt8) (req : UsChunkRequest)
    (ts : TimeProviderTs) (serial : DeviceSerial) : Option (List UInt8 × Nat) :=
  serialise size buf (prvCommon serial ts :: otaRequestCalls req)

def prvResultStr : UsResult -> List UInt8
  | .accepted => ascii "accepted"
  | .rejected => ascii "rejected"
  | .failed => ascii "failed"
  | .success => ascii "success"
  | .rolledBack => ascii "rolled_back"

def updateServiceReasonString : UsReason -> List UInt8
  | .none => ascii ""
  | .busy => ascii "busy"
  | .notOtaCapable => ascii "not_ota_capable"
  | .notReady => ascii "not_ready"
  | .badCommand => ascii "bad_command"
  | .startTimeout => ascii "start_timeout"
  | .downloadFailed => ascii "download_failed"
  | .stalled => ascii "stalled"
  | .stagingError => ascii "staging_error"
  | .tooLarge => ascii "too_large"
  | .badHeader => ascii "bad_header"
  | .wrongSlot => ascii "wrong_slot"
  | .sigInvalid => ascii "sig_invalid"
  | .hashMismatch => ascii "hash_mismatch"
  | .badImage => ascii "bad_image"
  | .crypto => ascii "crypto"
  | .verifyIo => ascii "verify_io"
  | .installFailed => ascii "install_failed"
  | .activateFailed => ascii "activate_failed"
  | .rollback => ascii "rollback"

def appendJob : Option UInt32 -> List AppendCall
  | none => []
  | some job => [prvPrint ",\"job\":%lu" [.lu job.toNat]]

def appendReason (reason : UsReason) : List AppendCall :=
  if reason = .none then []
  else [prvPrint ",\"reason\":\"%s\"" [.s (updateServiceReasonString reason)]]

/-- A report of version 0 carries neither the version nor the rollbacks. -/
def appendVersion (version rollbackCount : UInt32) : List AppendCall :=
  if version = 0 then []
  else
    [prvPrint ",\"version\":\"%u.%u.%u\",\"rollbacks\":%lu"
      [.u (versionMajor version), .u (versionMinor version), .u (versionPatch version),
        .lu rollbackCount.toNat]]

def otaReportCalls (rep : UsOtaReport) : List AppendCall :=
  [prvPrint ",\"event\":\"ota\"" []] ++ appendJob rep.job ++
    [prvPrint ",\"result\":\"%s\"" [.s (prvResultStr rep.result)]] ++
    appendReason rep.reason ++ appendVersion rep.version rep.rollbackCount

def cpSerialiseOtaReport (size : Nat) (buf : List UInt8) (rep : UsOtaReport)
    (ts : TimeProviderTs) (serial : DeviceSerial) : Option (List UInt8 × Nat) :=
  serialise size buf (prvCommon serial ts :: otaReportCalls rep)

end EnvMonitor.Gateway.CloudPublisher.Published
