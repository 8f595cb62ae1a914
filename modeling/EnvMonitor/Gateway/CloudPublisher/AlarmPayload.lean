import Mathlib.Data.Nat.Digits.Defs
import EnvMonitor.Gateway.CloudPublisher.Inbound
import EnvMonitor.Gateway.ModbusPoller.Identity
import EnvMonitor.Gateway.TimeProvider.Provider

/-!
# Alarm events and their payload

What the two alarm callbacks build, and the JSON text that `cp_serialise_alarm` writes for it into
the shared alarm buffer.
-/

namespace EnvMonitor.Gateway.CloudPublisher

open TimeProvider

/-- `sensor_id_t` -/
inductive SensorId where
  | temperature
  | humidity
  | pressure
  | accelX
  | accelY
  | accelZ
  | gyroX
  | gyroY
  | gyroZ
  | magX
  | magY
  | magZ
  deriving DecidableEq, Repr

/-- `alarm_event_t` -/
inductive AlarmTransition where
  | raisedHigh
  | raisedLow
  | cleared
  deriving DecidableEq, Repr

inductive CpAlarmType where
  | high
  | low
  | clear
  deriving DecidableEq, Repr

inductive CpAlarmSource where
  | gateway
  | fieldDevice
  deriving DecidableEq, Repr

abbrev cpAlarmSensorNameMax : Nat := 16
abbrev cpDeviceSerialLen : Nat := 25
abbrev cpAlarmJsonBufSize : Nat := 512
abbrev cpAlarmQueueLen : Nat := 8
abbrev cpFdAlarmBits : Nat := 6

/-- `cp_alarm_event_t`; the name fits its field with the end of the string. -/
structure AlarmEvent where
  sensorName : List UInt8
  alarmType : CpAlarmType
  measuredValueRaw : Int32
  thresholdValueRaw : Int32
  source : CpAlarmSource
  timestamp : TimeProviderTs
  name_short : sensorName.length < cpAlarmSensorNameMax

/-- The serial number as a text that fits `device_serial`. -/
structure DeviceSerial where
  text : List UInt8
  short : text.length < cpDeviceSerialLen

/-!
## The callbacks
-/

/-- `prv_sensor_name`: the other channels never alarm. -/
def prvSensorName : SensorId -> Option String
  | .temperature => some "temperature"
  | .humidity => some "humidity"
  | .pressure => some "pressure"
  | _ => none

/-- `strncpy` into the name field. -/
def nameField (name : String) : List UInt8 := (ascii name).take (cpAlarmSensorNameMax - 1)

theorem nameField_short (name : String) :
    (nameField name).length < cpAlarmSensorNameMax := by
  unfold nameField
  rw [List.length_take]
  exact Nat.lt_of_le_of_lt (Nat.min_le_left _ _) (by decide)

/-- The side remembered for each sensor, as a callback leaves it. -/
def noteRaised (lastRaised : SensorId -> AlarmTransition) (sensor : SensorId)
    (event : AlarmTransition) : SensorId -> AlarmTransition :=
  if event = .cleared then lastRaised
  else fun other => if other = sensor then event else lastRaised other

/-- `prv_alarm_event_cb`: the event for a reading, if the sensor has alarms. -/
def prvAlarmEventCb (getLimit : SensorId -> AlarmTransition -> Option Int32)
    (lastRaised : SensorId -> AlarmTransition) (sensor : SensorId) (event : AlarmTransition)
    (value : Int32) (timestamp : TimeProviderTs) : Option AlarmEvent :=
  (prvSensorName sensor).map fun name =>
    { sensorName := nameField name
      alarmType :=
        match event with
        | .raisedHigh => .high
        | .raisedLow => .low
        | .cleared => .clear
      measuredValueRaw := value
      thresholdValueRaw := (getLimit sensor (noteRaised lastRaised sensor event sensor)).getD 0
      source := .gateway
      timestamp := timestamp
      name_short := nameField_short name }

def fdChannelName (channel : Nat) : String :=
  if channel = 0 then "temperature" else if channel = 1 then "humidity" else "pressure"

/-- The event for one changed bit of `ALARM_FLAGS`. -/
def fdAlarmEvent (flagsNow : UInt16) (fd : Option FdCache) (ts : TimeProviderTs)
    (bit : Nat) : AlarmEvent where
  sensorName := nameField (fdChannelName (bit / 2))
  alarmType :=
    if !flagsNow.toNat.testBit bit then .clear else if bit % 2 = 0 then .low else .high
  measuredValueRaw :=
    match fd with
    | none => 0
    | some fd =>
        if bit / 2 = 0 then fd.temperatureCentiC.toInt32
        else if bit / 2 = 1 then fd.humidityCentiPct.toUInt32.toInt32
        else fd.pressureDeciHpa.toUInt32.toInt32
  thresholdValueRaw := 0
  source := .fieldDevice
  timestamp := ts
  name_short := nameField_short _

/-- `prv_fd_alarm_cb`: one event for each bit that changed. -/
def prvFdAlarmCb (flagsBefore flagsNow : UInt16) (fd : Option FdCache)
    (ts : TimeProviderTs) : List AlarmEvent :=
  ((List.range cpFdAlarmBits).filter fun bit =>
    flagsBefore.toNat.testBit bit != flagsNow.toNat.testBit bit).map
      (fdAlarmEvent flagsNow fd ts)

/-!
## The text
-/

/-- `%lu` -/
def decimal (n : Nat) : List UInt8 := (Nat.toDigits 10 n).map fun c => UInt8.ofNat c.toNat

/-- `%ld` -/
def decimalInt (v : Int) : List UInt8 :=
  if v < 0 then 0x2D :: decimal v.natAbs else decimal v.natAbs

/-- What `prv_common` writes; the epoch is a 32-bit field. -/
def commonText (serial : DeviceSerial) (ts : TimeProviderTs) : List UInt8 :=
  ascii "\x7b\"schema_version\":\"1.1\",\"device_id\":\"" ++ serial.text ++
    ascii "\",\"timestamp\":" ++ decimal (ts.epoch % 2 ^ 32) ++ ascii ",\"sync_state\":\"" ++
    (if ts.syncState = .synchronised then ascii "synchronised" else ascii "unsynchronised") ++
    ascii "\""

def prvAlarmTypeStr : CpAlarmType -> List UInt8
  | .high => ascii "HIGH"
  | .low => ascii "LOW"
  | .clear => ascii "CLEAR"

def prvAlarmSourceStr : CpAlarmSource -> List UInt8
  | .fieldDevice => ascii "field_device"
  | .gateway => ascii "gateway"

/-- The members of an alarm after the common block. -/
def alarmFields (ev : AlarmEvent) : List UInt8 :=
  ascii ",\"sensor_id\":\"" ++ ev.sensorName ++ ascii "\",\"alarm_type\":\"" ++
    prvAlarmTypeStr ev.alarmType ++ ascii "\",\"measured_value_raw\":" ++
    decimalInt ev.measuredValueRaw.toInt ++ ascii ",\"threshold_value_raw\":" ++
    decimalInt ev.thresholdValueRaw.toInt ++ ascii ",\"source\":\"" ++
    prvAlarmSourceStr ev.source ++ ascii "\""

/-- The serialisation of an event. -/
def alarmText (serial : DeviceSerial) (ev : AlarmEvent) : List UInt8 :=
  commonText serial ev.timestamp ++ alarmFields ev ++ [0x7D]

/-!
## Writing it into the buffer
-/

/-- `buf` with `text` written at `pos`. -/
def putText (buf : List UInt8) (pos : Nat) (text : List UInt8) : List UInt8 :=
  buf.take pos ++ text ++ buf.drop (pos + text.length)

/-- `prv_append`: the buffer, and the length if the text fits. -/
def prvAppend (size : Nat) (buf : List UInt8) (len : Nat) (text : List UInt8) :
    List UInt8 × Option Nat :=
  if size - len ≤ text.length then
    (putText buf len (text.take (size - len - 1) ++ [0]), none)
  else (putText buf len (text ++ [0]), some (len + text.length))

/-- `prv_close` -/
def prvClose (size : Nat) (buf : List UInt8) (len : Nat) : List UInt8 × Nat :=
  if size < len + 2 then (buf, 0) else (putText buf len [0x7D, 0], len + 1)

/-- `cp_serialise_alarm`: the buffer, and the length or 0. -/
def cpSerialiseAlarm (serial : DeviceSerial) (ev : AlarmEvent) (buf : List UInt8) :
    List UInt8 × Nat :=
  match prvAppend cpAlarmJsonBufSize buf 0 (commonText serial ev.timestamp) with
  | (buf, none) => (buf, 0)
  | (buf, some len) =>
      match prvAppend cpAlarmJsonBufSize buf len (alarmFields ev) with
      | (buf, none) => (buf, 0)
      | (buf, some len) => prvClose cpAlarmJsonBufSize buf len

theorem putText_append (head tail text : List UInt8) :
    exists rest, putText (head ++ tail) head.length text = head ++ text ++ rest := by
  unfold putText
  rw [List.take_left]
  exact ⟨_, rfl⟩

theorem prvAppend_fits {size : Nat} {head text : List UInt8} (tail : List UInt8)
    (hfits : head.length + text.length < size) :
    exists rest, prvAppend size (head ++ tail) head.length text =
      (head ++ text ++ rest, some (head ++ text).length) := by
  have hroom : ¬size - head.length ≤ text.length := by omega
  unfold prvAppend
  rw [if_neg hroom]
  rcases putText_append head tail (text ++ [0]) with ⟨rest, hput⟩
  rw [hput, List.length_append]
  exact ⟨0 :: rest, by simp⟩

theorem cpSerialiseAlarm_of_fits {serial : DeviceSerial} {ev : AlarmEvent}
    (hfits : (alarmText serial ev).length < cpAlarmJsonBufSize) (buf : List UInt8) :
    (cpSerialiseAlarm serial ev buf).2 = (alarmText serial ev).length ∧
      (cpSerialiseAlarm serial ev buf).1.take (alarmText serial ev).length =
        alarmText serial ev := by
  have hlen : (alarmText serial ev).length =
      (commonText serial ev.timestamp).length + (alarmFields ev).length + 1 := by
    unfold alarmText
    simp only [List.length_append, List.length_singleton]
  rw [hlen] at hfits
  have hcommon : ([] : List UInt8).length + (commonText serial ev.timestamp).length <
      cpAlarmJsonBufSize := by
    rw [List.length_nil]
    omega
  rcases prvAppend_fits buf hcommon with ⟨rest, hfirst⟩
  have hfields : (commonText serial ev.timestamp).length + (alarmFields ev).length <
      cpAlarmJsonBufSize := by
    omega
  rcases prvAppend_fits rest hfields with ⟨rest', hsecond⟩
  rcases putText_append (commonText serial ev.timestamp ++ alarmFields ev) rest' [0x7D, 0] with
    ⟨rest'', hclose⟩
  have hresult : cpSerialiseAlarm serial ev buf =
      (commonText serial ev.timestamp ++ alarmFields ev ++ [0x7D, 0] ++ rest'',
        (commonText serial ev.timestamp ++ alarmFields ev).length + 1) := by
    have hroom : ¬cpAlarmJsonBufSize <
        (commonText serial ev.timestamp ++ alarmFields ev).length + 2 := by
      rw [List.length_append]
      omega
    unfold cpSerialiseAlarm
    simp only [List.nil_append, List.length_nil] at hfirst
    rw [hfirst]
    dsimp only
    rw [hsecond]
    dsimp only
    unfold prvClose
    rw [if_neg hroom, hclose]
  rw [hresult]
  constructor
  · rw [hlen, List.length_append]
  · rw [show commonText serial ev.timestamp ++ alarmFields ev ++ [0x7D, 0] ++ rest'' =
        alarmText serial ev ++ (0 :: rest'') by simp [alarmText]]
    exact List.take_left

/-!
## Every alarm fits
-/

theorem decimal_length {n : Nat} (hn : n < 10 ^ 10) : (decimal n).length ≤ 10 := by
  unfold decimal
  rw [List.length_map]
  exact Nat.toDigits_length 10 n 10 (by decide) hn

theorem decimalInt_length (v : Int32) : (decimalInt v.toInt).length ≤ 11 := by
  have hlow := v.le_toInt
  have hhigh := v.toInt_lt
  have habs : v.toInt.natAbs < 10 ^ 10 := by omega
  have hdigits := decimal_length habs
  unfold decimalInt
  split
  · rw [List.length_cons]
    omega
  · omega

theorem commonText_length (serial : DeviceSerial) (ts : TimeProviderTs) :
    (commonText serial ts).length ≤ 140 := by
  have hserial : serial.text.length < 25 := serial.short
  have hepoch : (decimal (ts.epoch % 2 ^ 32)).length ≤ 10 :=
    decimal_length (Nat.lt_trans (Nat.mod_lt _ (by decide)) (by decide))
  have hsync : (if ts.syncState = .synchronised then ascii "synchronised"
      else ascii "unsynchronised").length ≤ 14 := by
    split
    · decide
    · decide
  have hconst : (ascii "\x7b\"schema_version\":\"1.1\",\"device_id\":\"").length = 37 ∧
      (ascii "\",\"timestamp\":").length = 14 ∧
      (ascii ",\"sync_state\":\"").length = 15 ∧ (ascii "\"").length = 1 := by decide
  unfold commonText
  simp only [List.length_append]
  omega

theorem alarmFields_length (ev : AlarmEvent) : (alarmFields ev).length ≤ 170 := by
  have hname : ev.sensorName.length < 16 := ev.name_short
  have hmeasured := decimalInt_length ev.measuredValueRaw
  have hthreshold := decimalInt_length ev.thresholdValueRaw
  have htype : (prvAlarmTypeStr ev.alarmType).length ≤ 5 := by
    cases ev.alarmType <;> decide
  have hsource : (prvAlarmSourceStr ev.source).length ≤ 12 := by
    cases ev.source <;> decide
  have hconst : (ascii ",\"sensor_id\":\"").length = 14 ∧
      (ascii "\",\"alarm_type\":\"").length = 16 ∧
      (ascii "\",\"measured_value_raw\":").length = 23 ∧
      (ascii ",\"threshold_value_raw\":").length = 23 ∧
      (ascii ",\"source\":\"").length = 11 ∧ (ascii "\"").length = 1 := by decide
  unfold alarmFields
  simp only [List.length_append]
  omega

theorem alarmText_fits (serial : DeviceSerial) (ev : AlarmEvent) :
    (alarmText serial ev).length < cpAlarmJsonBufSize := by
  have hcommon := commonText_length serial ev.timestamp
  have hfields := alarmFields_length ev
  unfold alarmText
  simp only [List.length_append, List.length_singleton]
  change _ < 512
  omega

theorem cpSerialiseAlarm_length (serial : DeviceSerial) (ev : AlarmEvent) (buf : List UInt8) :
    (cpSerialiseAlarm serial ev buf).2 = (alarmText serial ev).length :=
  (cpSerialiseAlarm_of_fits (alarmText_fits serial ev) buf).1

theorem cpSerialiseAlarm_take (serial : DeviceSerial) (ev : AlarmEvent) (buf : List UInt8) :
    (cpSerialiseAlarm serial ev buf).1.take (alarmText serial ev).length =
      alarmText serial ev :=
  (cpSerialiseAlarm_of_fits (alarmText_fits serial ev) buf).2

theorem alarmText_length_pos (serial : DeviceSerial) (ev : AlarmEvent) :
    0 < (alarmText serial ev).length := by
  unfold alarmText
  simp only [List.length_append, List.length_singleton]
  omega

end EnvMonitor.Gateway.CloudPublisher
