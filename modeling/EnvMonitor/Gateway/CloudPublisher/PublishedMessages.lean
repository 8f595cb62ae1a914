import EnvMonitor.Gateway.CloudPublisher.PublishedInputs
import EnvMonitor.Numerics.RoundAway
import Mathlib.Data.List.DropRight

/-!
# The messages

Every message as the members it is to have, with their values.  The wire values are rounded and
bounded integers, in the units that the keys name.
-/

namespace EnvMonitor.Gateway.CloudPublisher.Published

open JsonText Numerics

/-- A message with all that its serialiser reads, less the serial number. -/
inductive Payload where
  | telemetry (snap : SensorSnapshot) (fd : Option FdReading) (ts : TimeProviderTs)
  | health (snap : HealthSnapshot) (fwVersion : UInt32) (ts : TimeProviderTs)
  | alarm (raised : RaisedAlarm)
  | configResult (echoed : EchoedResult) (ts : TimeProviderTs)
  | controlResult (cmd : CpControlCmd) (req : Option UInt32) (accepted : Bool)
      (reason : Option ControlReason) (ts : TimeProviderTs)
  | otaRequest (req : UsChunkRequest) (ts : TimeProviderTs)
  | otaReport (rep : UsOtaReport) (ts : TimeProviderTs)

def Payload.serialise (size : Nat) (buf : List UInt8) (serial : DeviceSerial) :
    Payload -> Option (List UInt8 × Nat)
  | .telemetry snap fd ts => cpSerialiseTelemetry size buf snap fd ts serial
  | .health snap fwVersion ts => cpSerialiseHealth size buf snap fwVersion ts serial
  | .alarm raised => cpSerialiseAlarm size buf raised.event serial
  | .configResult echoed ts => cpSerialiseConfigResult size buf echoed.result ts serial
  | .controlResult cmd req accepted reason ts =>
      cpSerialiseControlResult size buf cmd req accepted reason ts serial
  | .otaRequest req ts => cpSerialiseOtaRequest size buf req ts serial
  | .otaReport rep ts => cpSerialiseOtaReport size buf rep ts serial

/-- The size that the caller passes. -/
def Payload.bufSize : Payload -> Nat
  | .alarm _ => cpAlarmJsonBufSize
  | _ => cpJsonBufSize

/-- The text that came from outside. -/
def Payload.echo : Payload -> List UInt8
  | .configResult echoed _ => echoed.result.key
  | _ => []

/-- The readings that are rounded stay in 32 bits with half a step added. -/
def Payload.Convertible : Payload -> Prop
  | .telemetry snap _ _ =>
      (snap .temperature).value.toInt.natAbs + 5 < 2 ^ 31 ∧
        (snap .humidity).value.toInt.natAbs + 50 < 2 ^ 31 ∧
        (snap .pressure).value.toInt.natAbs + 5 < 2 ^ 31
  | _ => True

/-- A channel that may be invalid. -/
def channel (valid : Bool) (value : Int) : Json := if valid then .int value else .null

def commonMessage (serial : DeviceSerial) (ts : TimeProviderTs) : List (List UInt8 × Json) :=
  [(ascii "schema_version", .str (ascii "1.1")),
    (ascii "device_id", .str serial.text),
    (ascii "timestamp", .int (ts.epoch % 2 ^ 32 : Nat)),
    (ascii "sync_state", .str (syncText ts.syncState))]

/-- Deci-degrees, whole percent and whole hectopascal from hundredths, hundredths and tenths. -/
def onboardMessage (snap : SensorSnapshot) : List (List UInt8 × Json) :=
  let raw := fun sensor => channel (snap sensor).valid (snap sensor).value.toInt
  [(ascii "temperature_deci_c", channel (snap .temperature).valid
      (roundAway (snap .temperature).value.toInt 10)),
    (ascii "humidity_pct", channel (snap .humidity).valid
      (clamp 0 100 (roundAway (snap .humidity).value.toInt 100))),
    (ascii "pressure_hpa", channel (snap .pressure).valid
      (clamp 0 65535 (roundAway (snap .pressure).value.toInt 10))),
    (ascii "accel_x_mg", raw .accelX),
    (ascii "accel_y_mg", raw .accelY),
    (ascii "accel_z_mg", raw .accelZ),
    (ascii "gyro_x_mdps", raw .gyroX),
    (ascii "gyro_y_mdps", raw .gyroY),
    (ascii "gyro_z_mdps", raw .gyroZ),
    (ascii "mag_x_mgauss", raw .magX),
    (ascii "mag_y_mgauss", raw .magY),
    (ascii "mag_z_mgauss", raw .magZ)]

def fieldDeviceMessage (fd : FdReading) : List (List UInt8 × Json) :=
  let online := fd.linkOnline && fd.hasData
  [(ascii "online", .bool online),
    (ascii "temperature_deci_c", channel (online && fd.temperatureValid)
      (roundAway fd.temperatureCentiC.toInt 10)),
    (ascii "humidity_pct", channel (online && fd.humidityValid)
      (clamp 0 100 (roundAway fd.humidityCentiPct.toNat 100))),
    (ascii "pressure_hpa", channel (online && fd.pressureValid)
      (clamp 0 65535 (roundAway fd.pressureDeciHpa.toNat 10)))]

def versionText (v : UInt32) : Json :=
  .str (Content.dotted (versionMajor v) (versionMinor v) (versionPatch v))

/-- The zeros at the end of the table are not published. -/
def healthMessage (snap : HealthSnapshot) (fwVersion : UInt32) : List (List UInt8 × Json) :=
  [(ascii "fw_version", versionText fwVersion),
    (ascii "uptime_s", .int snap.uptimeS.toNat),
    (ascii "lifecycle_state", .str (prvLifecycleStr snap.lifecycleState)),
    (ascii "last_reset_cause", .str (prvResetCauseStr snap.lastResetCause)),
    (ascii "sensor_fail_count", .int snap.sensorFailCount.toNat),
    (ascii "alarm_raise_count", .int snap.alarmRaiseCount.toNat),
    (ascii "config_write_failed", .bool snap.configWriteFailed),
    (ascii "modbus_transactions_ok", .int snap.modbusTransactionsOk.toNat),
    (ascii "modbus_timeouts", .int snap.modbusTimeouts.toNat),
    (ascii "modbus_link_online", .bool snap.modbusLinkOnline),
    (ascii "mqtt_publishes_sent", .int snap.mqttPublishesSent.toNat),
    (ascii "mqtt_publishes_failed", .int snap.mqttPublishesFailed.toNat),
    (ascii "mqtt_reconnect_count", .int snap.mqttReconnectCount.toNat),
    (ascii "wifi_rssi_dbm", .int snap.wifiRssiDbm.toInt),
    (ascii "cloud_connected", .bool snap.cloudConnected),
    (ascii "buffer_entry_count", .int snap.bufferEntryCount.toNat),
    (ascii "buffer_overflow_count", .int snap.bufferOverflowCount.toNat),
    (ascii "ntp_sync_fail_count", .int snap.ntpSyncFailCount.toNat),
    (ascii "last_ntp_sync_epoch", .int snap.lastNtpSyncEpoch.toNat),
    (ascii "cpu_load_pct", .int snap.cpuLoadPct.toNat),
    (ascii "arena_min_free_bytes", .int snap.arenaMinFreeBytes.toNat),
    (ascii "stack_free_words", .arr ((snap.stackWatermarkWords.toList.rdropWhile (· = 0)).map
      fun words => .int words.toNat))]

def alarmMessage (event : AlarmEvent) : List (List UInt8 × Json) :=
  [(ascii "sensor_id", .str event.sensorName),
    (ascii "alarm_type", .str (prvAlarmTypeStr event.alarmType)),
    (ascii "measured_value_raw", .int event.measuredValueRaw.toInt),
    (ascii "threshold_value_raw", .int event.thresholdValueRaw.toInt),
    (ascii "source", .str (prvAlarmSourceStr event.source))]

/-- A member with a number that may be missing. -/
def optional (key : String) (n : Option Nat) : List (List UInt8 × Json) :=
  n.toList.map fun n => (ascii key, .int n)

def configMessage (result : ConfigResult) : List (List UInt8 × Json) :=
  (ascii "event", .str (ascii "config")) :: (optional "req" result.req ++
    if result.status = .ok then [(ascii "result", .str (ascii "applied"))]
    else
      [(ascii "result", .str (ascii "rejected")),
        (ascii "reason", .str (cpCfgReasonString result.status))] ++
        if result.key ≠ [] ∧ namesKey result.status = true then
          [(ascii "key", .str result.key)]
        else [])

def controlMessage (cmd : CpControlCmd) (req : Option UInt32) (accepted : Bool)
    (reason : Option ControlReason) : List (List UInt8 × Json) :=
  [(ascii "event", .str (ascii "control")), (ascii "command", .str (cpControlName cmd))] ++
    optional "req" (req.map UInt32.toNat) ++
    [(ascii "result", .str (acceptedText accepted))] ++
    reason.toList.map fun reason => (ascii "reason", .str (controlReasonText reason))

def otaRequestMessage (req : UsChunkRequest) : List (List UInt8 × Json) :=
  [(ascii "job", .int req.job.toNat),
    (ascii "slot", .str [slotLetter req.slot]),
    (ascii "offset", .int req.offset.toNat),
    (ascii "len", .int req.len.toNat)]

def otaReportMessage (rep : UsOtaReport) : List (List UInt8 × Json) :=
  [(ascii "event", .str (ascii "ota"))] ++ optional "job" (rep.job.map UInt32.toNat) ++
    [(ascii "result", .str (prvResultStr rep.result))] ++
    (if rep.reason = .none then []
      else [(ascii "reason", .str (updateServiceReasonString rep.reason))]) ++
    if rep.version = 0 then []
    else
      [(ascii "version", versionText rep.version),
        (ascii "rollbacks", .int rep.rollbackCount.toNat)]

/-- The members a message says it has. -/
def Payload.message (serial : DeviceSerial) : Payload -> List (List UInt8 × Json)
  | .telemetry snap fd ts =>
      commonMessage serial ts ++ onboardMessage snap ++
        [(ascii "field_device", match fd with
          | none => .null
          | some fd => .obj (fieldDeviceMessage fd))]
  | .health snap fwVersion ts => commonMessage serial ts ++ healthMessage snap fwVersion
  | .alarm raised => commonMessage serial raised.event.timestamp ++ alarmMessage raised.event
  | .configResult echoed ts => commonMessage serial ts ++ configMessage echoed.result
  | .controlResult cmd req accepted reason ts =>
      commonMessage serial ts ++ controlMessage cmd req accepted reason
  | .otaRequest req ts => commonMessage serial ts ++ otaRequestMessage req
  | .otaReport rep ts => commonMessage serial ts ++ otaReportMessage rep

end EnvMonitor.Gateway.CloudPublisher.Published
