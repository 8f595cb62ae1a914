import EnvMonitor.Gateway.ModbusPoller.Requests

/-!
# Configuration parameters

The parameters of ConfigService by identifier, and the rules a value is checked against.
-/

namespace EnvMonitor.Gateway.ConfigService

/-- Sensor channels, which share one rule set. -/
inductive Channel where
  | temp
  | humidity
  | pressure
  deriving DecidableEq, Repr

inductive ChannelField where
  | rangeMin
  | rangeMax
  | alarmHigh
  | alarmLow
  | hysteresis
  deriving DecidableEq, Repr

/-- Identifiers of the parameters that hold a number: `.channel .temp .rangeMin` is
`CONFIG_PARAM_TEMP_RANGE_MIN`, and so on. -/
inductive NumericParam where
  | pollInterval
  | filterAlpha
  | channel (channel : Channel) (field : ChannelField)
  | modbusSlaveAddr
  | modbusPollPeriod
  | mqttPort
  | telemetryInterval
  | healthInterval
  | ntpServerCount
  | ntpIntervalMin
  deriving DecidableEq, Repr

/-- `config_param_id_t` -/
inductive ConfigParamId where
  | numeric (param : NumericParam)
  | mqttBroker
  | ntpServers
  deriving DecidableEq, Repr

inductive FieldKind where
  | u8
  | u16
  | i16
  | u32
  deriving DecidableEq, Repr

def FieldKind.lo : FieldKind -> Int
  | .i16 => -32768
  | _ => 0

def FieldKind.hi : FieldKind -> Int
  | .u8 => 255
  | .u16 => 65535
  | .i16 => 32767
  | .u32 => 4294967295

def NumericParam.kind : NumericParam -> FieldKind
  | .pollInterval | .modbusPollPeriod | .telemetryInterval | .healthInterval => .u32
  | .channel .temp _ => .i16
  | .modbusSlaveAddr | .ntpServerCount => .u8
  | _ => .u16

/-- Numbers the field of a parameter can hold. -/
abbrev NumericParam.Value (param : NumericParam) : Type :=
  { v : Int // param.kind.lo ≤ v ∧ v ≤ param.kind.hi }

abbrev configMaxNtpServers : Nat := 4
abbrev configMaxBrokerLen : Nat := 128
abbrev configMaxNtpHostLen : Nat := 64

/-- What the value pointer of `config_service_set_param` points to. -/
abbrev ConfigParamId.Value : ConfigParamId -> Type
  | .numeric param => param.Value
  | .mqttBroker => List UInt8
  | .ntpServers => Fin configMaxNtpServers -> List UInt8

/-- `config_params_t`, the character arrays with all their bytes. -/
@[ext]
structure ConfigParams where
  numeric : (param : NumericParam) -> param.Value
  mqttBroker : List UInt8
  ntpServers : Fin configMaxNtpServers -> List UInt8

/-- The bytes that `strnlen` counts. -/
def cString (size : Nat) (bytes : List UInt8) : List UInt8 :=
  (bytes.take size).takeWhile (· ≠ 0)

/-- `prv_field_ptr` -/
def ConfigParams.get (p : ConfigParams) : (id : ConfigParamId) -> id.Value
  | .numeric param => p.numeric param
  | .mqttBroker => p.mqttBroker
  | .ntpServers => p.ntpServers

/-- `prv_get_numeric` -/
def ConfigParams.num (p : ConfigParams) (param : NumericParam) : Int := (p.numeric param).val

/-- `prv_write_field`; a string field is cleared first. -/
def prvWriteField (p : ConfigParams) : (id : ConfigParamId) -> id.Value -> ConfigParams
  | .numeric param, value => { p with numeric := Function.update p.numeric param value }
  | .mqttBroker, value =>
      let text := cString (configMaxBrokerLen - 1) value
      { p with mqttBroker := text ++ List.replicate (configMaxBrokerLen - text.length) 0 }
  | .ntpServers, value => { p with ntpServers := value }

/-!
## Validation
-/

/-- Hard limits of a channel, and the smallest distance of its range limits. -/
structure ChannelRule where
  absMin : Int
  absMax : Int
  gap : Int

def Channel.rule : Channel -> ChannelRule
  | .temp => ⟨-5500, 12500, 100⟩
  | .humidity => ⟨0, 10000, 100⟩
  | .pressure => ⟨2600, 12600, 10⟩

abbrev hysteresisBandFactor : Int := 2

def prvInRange (v lo hi : Int) : Bool := lo ≤ v && v ≤ hi

/-- `prv_validate_channel` -/
def prvValidateChannel (ch : Channel) (field : ChannelField) (v : Int) (ctx : ConfigParams) :
    Bool :=
  let rmin := ctx.num (.channel ch .rangeMin)
  let rmax := ctx.num (.channel ch .rangeMax)
  let high := ctx.num (.channel ch .alarmHigh)
  let low := ctx.num (.channel ch .alarmLow)
  let hyst := ctx.num (.channel ch .hysteresis)
  match field with
  | .rangeMin => prvInRange v ch.rule.absMin (rmax - ch.rule.gap)
  | .rangeMax => prvInRange v (rmin + ch.rule.gap) ch.rule.absMax
  | .alarmHigh => prvInRange v rmin rmax && hysteresisBandFactor * hyst < v - low
  | .alarmLow => prvInRange v rmin rmax && hysteresisBandFactor * hyst < high - v
  | .hysteresis => 0 < v && hysteresisBandFactor * v < high - low

def prvStringsTerminated (block : Fin configMaxNtpServers -> List UInt8) : Bool :=
  (List.finRange configMaxNtpServers).all fun i =>
    (cString configMaxNtpHostLen (block i)).length < configMaxNtpHostLen

/-- Each of the first `count` servers has a name. -/
def ConfigParams.serversNamed (p : ConfigParams) (count : Int) : Bool :=
  (List.finRange configMaxNtpServers).all fun i =>
    !((i.val : Int) < count && (p.ntpServers i).headD 0 == 0)

def prvValidateNtpCount (count : Int) (ctx : ConfigParams) : Bool :=
  prvInRange count 1 configMaxNtpServers && ctx.serversNamed count

/-- `prv_validate_scalar`, with `prv_validate_channel` for the parameters of a channel. -/
def prvValidateNumeric (param : NumericParam) (v : Int) (ctx : ConfigParams) : Bool :=
  match param with
  | .channel ch field => prvValidateChannel ch field v ctx
  | .pollInterval | .modbusPollPeriod => prvInRange v 100 60000
  | .filterAlpha => prvInRange v 1 999
  | .modbusSlaveAddr => prvInRange v 1 247
  | .mqttPort => prvInRange v 1 65535
  | .telemetryInterval => prvInRange v 1000 3600000
  | .healthInterval => prvInRange v 10000 86400000
  | .ntpServerCount => prvValidateNtpCount v ctx
  | .ntpIntervalMin => prvInRange v 1 1440

/-- `prv_validate` -/
def prvValidate : (id : ConfigParamId) -> id.Value -> ConfigParams -> Bool
  | .numeric param, value, ctx => prvValidateNumeric param value.val ctx
  | .mqttBroker, value, _ =>
      let len := (cString configMaxBrokerLen value).length
      0 < len && len < configMaxBrokerLen
  | .ntpServers, value, _ => prvStringsTerminated value

/-!
## Defaults
-/

def NumericParam.default : NumericParam -> Int
  | .pollInterval => 1000
  | .filterAlpha => 100
  | .channel .temp .rangeMin => -4000
  | .channel .temp .rangeMax => 8500
  | .channel .temp .alarmHigh => 4000
  | .channel .temp .alarmLow => 0
  | .channel .temp .hysteresis => 100
  | .channel .humidity .rangeMin => 0
  | .channel .humidity .rangeMax => 10000
  | .channel .humidity .alarmHigh => 8000
  | .channel .humidity .alarmLow => 2000
  | .channel .humidity .hysteresis => 200
  | .channel .pressure .rangeMin => 3000
  | .channel .pressure .rangeMax => 11000
  | .channel .pressure .alarmHigh => 10500
  | .channel .pressure .alarmLow => 9500
  | .channel .pressure .hysteresis => 50
  | .modbusSlaveAddr => 1
  | .modbusPollPeriod => 200
  | .mqttPort => 8883
  | .telemetryInterval => 60000
  | .healthInterval => 300000
  | .ntpServerCount => 0
  | .ntpIntervalMin => 60

theorem NumericParam.default_fits (param : NumericParam) :
    param.kind.lo ≤ param.default ∧ param.default ≤ param.kind.hi := by
  cases param with
  | channel ch field => cases ch <;> cases field <;> decide
  | _ => decide

/-- `prv_apply_defaults` -/
def prvApplyDefaults : ConfigParams where
  numeric := fun param => ⟨param.default, param.default_fits⟩
  mqttBroker := List.replicate configMaxBrokerLen 0
  ntpServers := fun _ => List.replicate configMaxNtpHostLen 0

end EnvMonitor.Gateway.ConfigService
