import Mathlib
import EnvMonitor.FieldDevice.RegisterMap

/-!
# Configuration parameters of the field device

The parameters of its ConfigService by identifier, the rules a new value is checked against, and
the rules a loaded value is checked against.
-/

namespace EnvMonitor.FieldDevice.ConfigService

inductive ChannelField where
  | rangeMin
  | rangeMax
  | alarmHigh
  | alarmLow
  | hysteresis
  deriving DecidableEq, Repr

/-- `config_param_id_t`: `.channel .temperature .rangeMin` is `CONFIG_PARAM_TEMP_RANGE_MIN`, and
so on. -/
inductive ConfigParamId where
  | pollInterval
  | filterAlpha
  | channel (sensor : SensorId) (field : ChannelField)
  | modbusSlaveAddr
  | modbusPollPeriod
  deriving DecidableEq, Repr

/-- The C type of a parameter. -/
abbrev ConfigParamId.Value : ConfigParamId -> Type
  | .pollInterval => UInt32
  | .filterAlpha => UInt16
  | .channel .temperature _ => Int16
  | .channel .humidity _ => UInt16
  | .channel .pressure _ => UInt16
  | .modbusSlaveAddr => UInt8
  | .modbusPollPeriod => UInt32

/-- The number a value stands for. -/
def ConfigParamId.num : (id : ConfigParamId) -> id.Value -> Int
  | .pollInterval, v => (UInt32.toNat v : Int)
  | .filterAlpha, v => (UInt16.toNat v : Int)
  | .channel .temperature _, v => Int16.toInt v
  | .channel .humidity _, v => (UInt16.toNat v : Int)
  | .channel .pressure _, v => (UInt16.toNat v : Int)
  | .modbusSlaveAddr, v => (UInt8.toNat v : Int)
  | .modbusPollPeriod, v => (UInt32.toNat v : Int)

theorem ConfigParamId.num_injective (id : ConfigParamId) : Function.Injective id.num := by
  intro v w h
  cases id with
  | pollInterval => exact UInt32.toNat_inj.mp (Int.ofNat.inj h)
  | filterAlpha => exact UInt16.toNat_inj.mp (Int.ofNat.inj h)
  | channel sensor field =>
      cases sensor with
      | temperature => exact Int16.toInt_inj.mp h
      | humidity => exact UInt16.toNat_inj.mp (Int.ofNat.inj h)
      | pressure => exact UInt16.toNat_inj.mp (Int.ofNat.inj h)
  | modbusSlaveAddr => exact UInt8.toNat_inj.mp (Int.ofNat.inj h)
  | modbusPollPeriod => exact UInt32.toNat_inj.mp (Int.ofNat.inj h)

instance (id : ConfigParamId) : DecidableEq id.Value :=
  fun v w => decidable_of_iff (id.num v = id.num w) id.num_injective.eq_iff

/-- `config_params_t` -/
@[ext]
structure ConfigParams where
  get : (id : ConfigParamId) -> id.Value

def ConfigParams.num (p : ConfigParams) (id : ConfigParamId) : Int := id.num (p.get id)

/-- `apply_param_to_struct` -/
def applyParamToStruct (p : ConfigParams) (id : ConfigParamId) (value : id.Value) :
    ConfigParams :=
  { get := Function.update p.get id value }

/-!
## Validation of a new value
-/

/-- Hard limits of a channel, and the smallest distance of its range limits. -/
structure ChannelRule where
  absMin : Int
  absMax : Int
  gap : Int

def channelRule : SensorId -> ChannelRule
  | .temperature => ⟨-5500, 12500, 100⟩
  | .humidity => ⟨0, 10000, 100⟩
  | .pressure => ⟨0, 12000, 10⟩

/-- `alarm_high - alarm_low`: of signed integers for the temperature, of unsigned ones for the
other two. -/
def alarmSpan (sensor : SensorId) (high low : Int) : Int :=
  match sensor with
  | .temperature => high - low
  | .humidity | .pressure => (high - low) % 2 ^ 32

def inRange (v lo hi : Int) : Bool := lo ≤ v && v ≤ hi

@[simp] theorem inRange_eq_true {v lo hi : Int} : inRange v lo hi = true ↔ lo ≤ v ∧ v ≤ hi := by
  simp [inRange]

/-- The cases of `validate_param_internal` for one channel. -/
def validateChannel (sensor : SensorId) (field : ChannelField) (v : Int) (cur : ConfigParams) :
    Bool :=
  let rule := channelRule sensor
  let rmin := cur.num (.channel sensor .rangeMin)
  let rmax := cur.num (.channel sensor .rangeMax)
  let high := cur.num (.channel sensor .alarmHigh)
  let low := cur.num (.channel sensor .alarmLow)
  let hyst := cur.num (.channel sensor .hysteresis)
  match field with
  | .rangeMin => inRange v rule.absMin (rmax - rule.gap)
  | .rangeMax => inRange v (rmin + rule.gap) rule.absMax
  | .alarmHigh => inRange v rmin rmax && low + hyst < v
  | .alarmLow => rmin ≤ v && v + hyst < high
  | .hysteresis => 0 < v && 2 * v < alarmSpan sensor high low

/-- `validate_param_internal` -/
def validateParamInternal (id : ConfigParamId) (value : id.Value) (cur : ConfigParams) : Bool :=
  match id with
  | .pollInterval | .modbusPollPeriod => inRange (ConfigParamId.num _ value) 100 60000
  | .filterAlpha => inRange (ConfigParamId.num _ value) 1 999
  | .channel sensor field => validateChannel sensor field (ConfigParamId.num _ value) cur
  | .modbusSlaveAddr => inRange (ConfigParamId.num _ value) 1 247

/-!
## Repair of a loaded value
-/

/-- The conditions of `config_service_apply_loaded` for one channel.  A temperature range exactly
the gap wide is replaced, a humidity or pressure range of that width is not. -/
def channelNeedsRepair (sensor : SensorId) (field : ChannelField) (candidate : ConfigParams) :
    Bool :=
  let rule := channelRule sensor
  let rmin := candidate.num (.channel sensor .rangeMin)
  let rmax := candidate.num (.channel sensor .rangeMax)
  let high := candidate.num (.channel sensor .alarmHigh)
  let low := candidate.num (.channel sensor .alarmLow)
  let hyst := candidate.num (.channel sensor .hysteresis)
  match field with
  | .rangeMin =>
      match sensor with
      | .temperature => rmin < rule.absMin || rmax - rule.gap ≤ rmin
      | .humidity | .pressure => rmax < rmin + rule.gap
  | .rangeMax =>
      match sensor with
      | .temperature => rule.absMax < rmax || rmax ≤ rmin + rule.gap
      | .humidity | .pressure => rule.absMax < rmax || rmax < rmin + rule.gap
  | .alarmHigh => high < rmin || rmax < high
  | .alarmLow => low < rmin || high ≤ low
  | .hysteresis => hyst ≤ 0 || alarmSpan sensor high low ≤ 2 * hyst

def needsRepair (id : ConfigParamId) (candidate : ConfigParams) : Bool :=
  match id with
  | .pollInterval => candidate.num .pollInterval < 100 || 60000 < candidate.num .pollInterval
  | .filterAlpha => candidate.num .filterAlpha = 0 || 1000 ≤ candidate.num .filterAlpha
  | .channel sensor field => channelNeedsRepair sensor field candidate
  | .modbusSlaveAddr =>
      candidate.num .modbusSlaveAddr < 1 || 247 < candidate.num .modbusSlaveAddr
  | .modbusPollPeriod =>
      candidate.num .modbusPollPeriod < 100 || 60000 < candidate.num .modbusPollPeriod

/-- The order in which `config_service_apply_loaded` checks the fields. -/
def repairOrder : List ConfigParamId := [
  .pollInterval, .filterAlpha,
  .channel .temperature .rangeMin, .channel .temperature .rangeMax,
  .channel .humidity .rangeMin, .channel .humidity .rangeMax,
  .channel .pressure .rangeMin, .channel .pressure .rangeMax,
  .channel .temperature .alarmHigh, .channel .temperature .alarmLow,
  .channel .temperature .hysteresis,
  .channel .humidity .alarmHigh, .channel .humidity .alarmLow, .channel .humidity .hysteresis,
  .channel .pressure .alarmHigh, .channel .pressure .alarmLow, .channel .pressure .hysteresis,
  .modbusSlaveAddr, .modbusPollPeriod]

theorem repairOrder_nodup : repairOrder.Nodup := by decide

theorem mem_repairOrder (id : ConfigParamId) : id ∈ repairOrder := by
  cases id with
  | channel sensor field => cases sensor <;> cases field <;> decide
  | _ => decide

/-!
## Defaults
-/

def channelDefault : (sensor : SensorId) -> (field : ChannelField) ->
    (ConfigParamId.channel sensor field).Value
  | .temperature, .rangeMin => (-4000 : Int16)
  | .temperature, .rangeMax => (8500 : Int16)
  | .temperature, .alarmHigh => (4000 : Int16)
  | .temperature, .alarmLow => (0 : Int16)
  | .temperature, .hysteresis => (100 : Int16)
  | .humidity, .rangeMin => (0 : UInt16)
  | .humidity, .rangeMax => (10000 : UInt16)
  | .humidity, .alarmHigh => (8000 : UInt16)
  | .humidity, .alarmLow => (2000 : UInt16)
  | .humidity, .hysteresis => (200 : UInt16)
  | .pressure, .rangeMin => (3000 : UInt16)
  | .pressure, .rangeMax => (11000 : UInt16)
  | .pressure, .alarmHigh => (10500 : UInt16)
  | .pressure, .alarmLow => (9500 : UInt16)
  | .pressure, .hysteresis => (50 : UInt16)

/-- `apply_defaults` -/
def applyDefaults : ConfigParams where
  get
    | .pollInterval => (1000 : UInt32)
    | .filterAlpha => (100 : UInt16)
    | .channel sensor field => channelDefault sensor field
    | .modbusSlaveAddr => (1 : UInt8)
    | .modbusPollPeriod => (1000 : UInt32)

theorem applyDefaults_valid (id : ConfigParamId) :
    validateParamInternal id (applyDefaults.get id) applyDefaults = true ∧
      needsRepair id applyDefaults = false := by
  cases id with
  | channel sensor field => cases sensor <;> cases field <;> decide
  | _ => decide

end EnvMonitor.FieldDevice.ConfigService
