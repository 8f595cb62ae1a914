import EnvMonitor.Modbus.Frame

/-!
# Register map of the field device

The slot table and the handlers behind it.  The services the map mediates between are a record
of functions over the state of the rest of the device.
-/

namespace EnvMonitor.FieldDevice

open Modbus

/-- `modbus_exception_t` -/
inductive ModbusException where
  | none
  | illegalFunction
  | illegalDataAddr
  | illegalDataValue
  deriving DecidableEq, Repr

inductive SensorId where
  | temperature
  | humidity
  | pressure
  deriving DecidableEq, Repr

inductive AlarmState where
  | clear
  | activeHigh
  | activeLow
  deriving DecidableEq, Repr

inductive RemoteCommand where
  | softRestart
  | resetMetrics
  deriving DecidableEq, Repr

structure SensorReading where
  value : Int32
  valid : Bool

/-- The parameters of `config_params_t` that have a register. -/
structure ConfigParams where
  tempAlarmLow : Int16
  tempAlarmHigh : Int16
  tempHysteresis : Int16
  humidityAlarmLow : UInt16
  humidityAlarmHigh : UInt16
  humidityHysteresis : UInt16
  pressureAlarmLow : UInt16
  pressureAlarmHigh : UInt16
  pressureHysteresis : UInt16
  pollingIntervalMs : UInt32
  modbusSlaveAddr : UInt8

/-- A parameter id with the value handed to `set_param`. -/
inductive ConfigParam where
  | tempAlarmLow (value : Int16)
  | tempAlarmHigh (value : Int16)
  | tempHysteresis (value : Int16)
  | humidityAlarmLow (value : UInt16)
  | humidityAlarmHigh (value : UInt16)
  | humidityHysteresis (value : UInt16)
  | pressureAlarmLow (value : UInt16)
  | pressureAlarmHigh (value : UInt16)
  | pressureHysteresis (value : UInt16)
  | pollInterval (value : UInt32)
  | modbusSlaveAddr (value : UInt8)
  deriving DecidableEq, Repr

structure HealthSnapshot where
  lifecycleState : UInt16
  uptimeS : UInt32
  sensorFailCount : UInt32

/-- `firmware_version.h`, generated by the build. -/
structure FirmwareVersion where
  major : UInt16
  minor : UInt16
  patch : UInt16

/-- The interfaces injected by `modbus_register_map_init`; `sigma` is the rest of the device. -/
structure Services (sigma : Type) where
  version : FirmwareVersion
  /-- `none` where `get_snapshot` does not return OK. -/
  sensorSnapshot : sigma -> Option (SensorId -> SensorReading)
  alarmStates : sigma -> SensorId -> AlarmState
  params : sigma -> ConfigParams
  healthSnapshot : sigma -> HealthSnapshot
  /-- `true` for `CONFIG_SERVICE_OK`. -/
  setParam : ConfigParam -> sigma -> Bool × sigma
  ackAll : sigma -> sigma
  handleRemoteCommand : RemoteCommand -> sigma -> sigma
  /-- `true` for `TIME_PROVIDER_ERR_OK`. -/
  setTime : UInt32 -> sigma -> Bool × sigma

/-- The counters of `modbus_slave_stats_t` that have a register. -/
structure StatsSnapshot where
  validFrames : UInt32
  crcErrors : UInt32

/-- `s_slave` (address and receive buffer), `s_mrm` and what the services keep. -/
structure Device (sigma : Type) where
  slaveAddr : UInt8
  rxBuf : List UInt8
  initialised : Bool
  cmdAckAlarmLast : UInt16
  cmdResetMetricsLast : UInt16
  cmdSoftRestartLast : UInt16
  cmdSetTimeHiLast : UInt16
  cmdSetTimeLoLast : UInt16
  lastStatsSnapshot : StatsSnapshot
  rest : sigma

section Handlers

variable {sigma : Type} (svc : Services sigma)

/-!
## Read handlers
-/

abbrev mrmMapVersion : UInt16 := 1
abbrev mrmDeviceIdHi : UInt16 := 0
abbrev mrmDeviceIdLo : UInt16 := 0
abbrev mrmHardwareRev : UInt16 := 1
abbrev mrmVendorCode : UInt16 := 0x1A45

abbrev ReadFn (sigma : Type) := Device sigma -> Except ModbusException UInt16

def readConst (value : UInt16) : ReadFn sigma :=
  fun _ => .ok value

def readMapVersion : ReadFn sigma := readConst mrmMapVersion

def readDeviceIdHi : ReadFn sigma := readConst mrmDeviceIdHi

def readDeviceIdLo : ReadFn sigma := readConst mrmDeviceIdLo

def readHardwareRev : ReadFn sigma := readConst mrmHardwareRev

def readFwVerMajor : ReadFn sigma := readConst svc.version.major

def readFwVerMinor : ReadFn sigma := readConst svc.version.minor

def readFwVerPatch : ReadFn sigma := readConst svc.version.patch

def readVendorCode : ReadFn sigma := readConst mrmVendorCode

def readZero : ReadFn sigma := readConst 0

def readSensor (id : SensorId) (invalid : UInt16) (word : Int32 -> UInt16) : ReadFn sigma :=
  fun d =>
    match svc.sensorSnapshot d.rest with
    | none => .ok invalid
    | some readings =>
        if (readings id).valid then .ok (word (readings id).value) else .ok invalid

def readTemperature : ReadFn sigma :=
  readSensor svc .temperature 0x8000 (fun value => value.toInt16.toUInt16)

def readHumidity : ReadFn sigma :=
  readSensor svc .humidity 0xFFFF (fun value => value.toUInt32.toUInt16)

def readPressure : ReadFn sigma :=
  readSensor svc .pressure 0xFFFF (fun value => value.toUInt32.toUInt16)

def readHealth (word : HealthSnapshot -> UInt16) : ReadFn sigma :=
  fun d => .ok (word (svc.healthSnapshot d.rest))

def highWord (value : UInt32) : UInt16 := (value >>> 16).toUInt16

def lowWord (value : UInt32) : UInt16 := value.toUInt16

def readDeviceState : ReadFn sigma := readHealth svc (·.lifecycleState)

def readUptimeHi : ReadFn sigma := readHealth svc (highWord ·.uptimeS)

def readUptimeLo : ReadFn sigma := readHealth svc (lowWord ·.uptimeS)

def readSensorErrHi : ReadFn sigma := readHealth svc (highWord ·.sensorFailCount)

def readSensorErrLo : ReadFn sigma := readHealth svc (lowWord ·.sensorFailCount)

def flagIf (cond : Bool) (flag : UInt16) : UInt16 :=
  if cond then flag else 0

def sensorFault (snapshot : Option (SensorId -> SensorReading)) : Bool :=
  match snapshot with
  | none => true
  | some readings =>
      !((readings .temperature).valid && (readings .humidity).valid && (readings .pressure).valid)

def readAlarmFlags : ReadFn sigma :=
  fun d =>
    let states := svc.alarmStates d.rest
    .ok (flagIf (states .temperature = .activeLow) 0x01 |||
      flagIf (states .temperature = .activeHigh) 0x02 |||
      flagIf (states .humidity = .activeLow) 0x04 |||
      flagIf (states .humidity = .activeHigh) 0x08 |||
      flagIf (states .pressure = .activeLow) 0x10 |||
      flagIf (states .pressure = .activeHigh) 0x20 |||
      flagIf (sensorFault (svc.sensorSnapshot d.rest)) 0x40)

def readStats (word : StatsSnapshot -> UInt16) : ReadFn sigma :=
  fun d => .ok (word d.lastStatsSnapshot)

def readModbusRxOkHi : ReadFn sigma := readStats (highWord ·.validFrames)

def readModbusRxOkLo : ReadFn sigma := readStats (lowWord ·.validFrames)

def readModbusCrcErrHi : ReadFn sigma := readStats (highWord ·.crcErrors)

def readModbusCrcErrLo : ReadFn sigma := readStats (lowWord ·.crcErrors)

def readParam (word : ConfigParams -> UInt16) : ReadFn sigma :=
  fun d => .ok (word (svc.params d.rest))

def readTempAlarmLow : ReadFn sigma := readParam svc (·.tempAlarmLow.toUInt16)

def readTempAlarmHigh : ReadFn sigma := readParam svc (·.tempAlarmHigh.toUInt16)

def readTempHysteresis : ReadFn sigma := readParam svc (·.tempHysteresis.toUInt16)

def readHumAlarmLow : ReadFn sigma := readParam svc (·.humidityAlarmLow)

def readHumAlarmHigh : ReadFn sigma := readParam svc (·.humidityAlarmHigh)

def readHumHysteresis : ReadFn sigma := readParam svc (·.humidityHysteresis)

def readPressAlarmLow : ReadFn sigma := readParam svc (·.pressureAlarmLow)

def readPressAlarmHigh : ReadFn sigma := readParam svc (·.pressureAlarmHigh)

def readPressHysteresis : ReadFn sigma := readParam svc (·.pressureHysteresis)

def readSamplingPeriod : ReadFn sigma := readParam svc (·.pollingIntervalMs.toUInt16)

def readModbusSlaveAddr : ReadFn sigma := readParam svc (·.modbusSlaveAddr.toUInt16)

/-- Placeholder of the source: the LCD is not wired to the map. -/
def readLcdBrightness : ReadFn sigma := readConst 80

def readLcdTimeout : ReadFn sigma := readConst 0

def readCmdAckAlarm : ReadFn sigma :=
  fun d => .ok d.cmdAckAlarmLast

def readCmdResetMetrics : ReadFn sigma :=
  fun d => .ok d.cmdResetMetricsLast

def readCmdSoftRestart : ReadFn sigma :=
  fun d => .ok d.cmdSoftRestartLast

def readCmdSetTimeHi : ReadFn sigma :=
  fun d => .ok d.cmdSetTimeHiLast

def readCmdSetTimeLo : ReadFn sigma :=
  fun d => .ok d.cmdSetTimeLoLast

/-!
## Validation of configuration writes
-/

abbrev tempFixedMin : Int16 := -4000
abbrev tempFixedMax : Int16 := 8500
abbrev tempHysMax : UInt16 := 1000
abbrev humFixedMax : UInt16 := 10000
abbrev humHysMax : UInt16 := 1000
abbrev pressFixedMin : UInt16 := 3000
abbrev pressFixedMax : UInt16 := 11000
abbrev pressHysMax : UInt16 := 100
abbrev sampPeriodMin : UInt16 := 100
abbrev sampPeriodMax : UInt16 := 60000
abbrev lcdBrightMax : UInt16 := 100
abbrev lcdTimeoutMax : UInt16 := 3600
abbrev slaveAddrMin : UInt16 := 1
abbrev slaveAddrMax : UInt16 := 247

abbrev ValidateFn (sigma : Type) := UInt16 -> Device sigma -> ModbusException

def requireValue (cond : Bool) : ModbusException :=
  if cond then .none else .illegalDataValue

def validateTempAlarmLow : ValidateFn sigma :=
  fun v d =>
    if v.toInt16 < tempFixedMin ∨ tempFixedMax < v.toInt16 then .illegalDataValue
    else requireValue (v.toInt16 < (svc.params d.rest).tempAlarmHigh)

def validateTempAlarmHigh : ValidateFn sigma :=
  fun v d =>
    if v.toInt16 < tempFixedMin ∨ tempFixedMax < v.toInt16 then .illegalDataValue
    else requireValue ((svc.params d.rest).tempAlarmLow < v.toInt16)

def validateHumAlarmLow : ValidateFn sigma :=
  fun v d =>
    if humFixedMax < v then .illegalDataValue
    else requireValue (v < (svc.params d.rest).humidityAlarmHigh)

def validateHumAlarmHigh : ValidateFn sigma :=
  fun v d =>
    if humFixedMax < v then .illegalDataValue
    else requireValue ((svc.params d.rest).humidityAlarmLow < v)

def validatePressAlarmLow : ValidateFn sigma :=
  fun v d =>
    if v < pressFixedMin ∨ pressFixedMax < v then .illegalDataValue
    else requireValue (v < (svc.params d.rest).pressureAlarmHigh)

def validatePressAlarmHigh : ValidateFn sigma :=
  fun v d =>
    if v < pressFixedMin ∨ pressFixedMax < v then .illegalDataValue
    else requireValue ((svc.params d.rest).pressureAlarmLow < v)

def validateSpan (low high : UInt16) : ValidateFn sigma :=
  fun v _ => requireValue (low ≤ v ∧ v ≤ high)

def validateTempHysteresis : ValidateFn sigma := validateSpan 0 tempHysMax

def validateHumHysteresis : ValidateFn sigma := validateSpan 0 humHysMax

def validatePressHysteresis : ValidateFn sigma := validateSpan 0 pressHysMax

def validateSamplingPeriod : ValidateFn sigma := validateSpan sampPeriodMin sampPeriodMax

def validateLcdBrightness : ValidateFn sigma := validateSpan 0 lcdBrightMax

def validateLcdTimeout : ValidateFn sigma := validateSpan 0 lcdTimeoutMax

def validateSlaveAddr : ValidateFn sigma := validateSpan slaveAddrMin slaveAddrMax

/-!
## Write handlers
-/

abbrev WriteFn (sigma : Type) := UInt16 -> Device sigma -> ModbusException × Device sigma

def writeParam (param : UInt16 -> ConfigParam) : WriteFn sigma :=
  fun v d =>
    let (ok, rest) := svc.setParam (param v) d.rest
    (requireValue ok, { d with rest := rest })

def writeTempAlarmLow : WriteFn sigma := writeParam svc (fun v => .tempAlarmLow v.toInt16)

def writeTempAlarmHigh : WriteFn sigma := writeParam svc (fun v => .tempAlarmHigh v.toInt16)

def writeTempHysteresis : WriteFn sigma := writeParam svc (fun v => .tempHysteresis v.toInt16)

def writeHumAlarmLow : WriteFn sigma := writeParam svc .humidityAlarmLow

def writeHumAlarmHigh : WriteFn sigma := writeParam svc .humidityAlarmHigh

def writeHumHysteresis : WriteFn sigma := writeParam svc .humidityHysteresis

def writePressAlarmLow : WriteFn sigma := writeParam svc .pressureAlarmLow

def writePressAlarmHigh : WriteFn sigma := writeParam svc .pressureAlarmHigh

def writePressHysteresis : WriteFn sigma := writeParam svc .pressureHysteresis

def writeSamplingPeriod : WriteFn sigma := writeParam svc (fun v => .pollInterval v.toUInt32)

def writeLcdBrightness : WriteFn sigma :=
  fun _ d => (.none, d)

def writeLcdTimeout : WriteFn sigma :=
  fun _ d => (.none, d)

/-- `modbus_slave_set_address` -/
def modbusSlaveSetAddress (newAddr : UInt8) (d : Device sigma) : Device sigma :=
  if newAddr < 1 ∨ 247 < newAddr then d else { d with slaveAddr := newAddr }

def writeModbusSlaveAddrReg : WriteFn sigma :=
  fun v d =>
    let (ok, rest) := svc.setParam (.modbusSlaveAddr v.toUInt8) d.rest
    if ok then (.none, modbusSlaveSetAddress v.toUInt8 { d with rest := rest })
    else (.illegalDataValue, { d with rest := rest })

def writeCmdAckAlarm : WriteFn sigma :=
  fun v d =>
    -- cached before validation
    let d := { d with cmdAckAlarmLast := v }
    if v ≠ 0x0001 then (.illegalDataValue, d)
    else (.none, { d with rest := svc.ackAll d.rest })

def writeCmdResetMetrics : WriteFn sigma :=
  fun v d =>
    let d := { d with cmdResetMetricsLast := v }
    if v ≠ 0x0001 then (.illegalDataValue, d)
    else (.none, { d with lastStatsSnapshot := ⟨0, 0⟩,
                          rest := svc.handleRemoteCommand .resetMetrics d.rest })

def writeCmdSoftRestart : WriteFn sigma :=
  fun v d =>
    let d := { d with cmdSoftRestartLast := v }
    if v ≠ 0xA5A5 then (.illegalDataValue, d)
    else (.none, { d with rest := svc.handleRemoteCommand .softRestart d.rest })

/-- One half of the time pair on its own is refused. -/
def writeCmdSetTimeSingle : WriteFn sigma :=
  fun _ d => (.illegalDataValue, d)

abbrev mrmSetTimeMinEpoch : UInt32 := 946684800
abbrev mrmSetTimeMaxEpoch : UInt32 := 4102444799

def applyCmdSetTime (hi lo : UInt16) (d : Device sigma) : ModbusException × Device sigma :=
  let d := { d with cmdSetTimeHiLast := hi, cmdSetTimeLoLast := lo }
  let epoch := (hi.toUInt32 <<< 16) ||| lo.toUInt32
  if epoch < mrmSetTimeMinEpoch ∨ mrmSetTimeMaxEpoch < epoch then (.illegalDataValue, d)
  else
    let (ok, rest) := svc.setTime epoch d.rest
    (requireValue ok, { d with rest := rest })

/-!
## Slot table
-/

inductive RegAccess where
  | r
  | rw
  deriving DecidableEq, Repr

structure RegSlot (sigma : Type) where
  addr : UInt16
  access : RegAccess
  readFn : ReadFn sigma
  writeFn : Option (WriteFn sigma)
  validateFn : Option (ValidateFn sigma)

def readOnly (addr : UInt16) (readFn : ReadFn sigma) : RegSlot sigma :=
  { addr := addr, access := .r, readFn := readFn, writeFn := none, validateFn := none }

def configSlot (addr : UInt16) (readFn : ReadFn sigma) (writeFn : WriteFn sigma)
    (validateFn : ValidateFn sigma) : RegSlot sigma :=
  { addr := addr, access := .rw, readFn := readFn, writeFn := some writeFn,
    validateFn := some validateFn }

def commandSlot (addr : UInt16) (readFn : ReadFn sigma) (writeFn : WriteFn sigma) :
    RegSlot sigma :=
  { addr := addr, access := .rw, readFn := readFn, writeFn := some writeFn, validateFn := none }

abbrev mrmRegModbusSlaveAddr : UInt16 := 0x0150
abbrev mrmRegCmdSetTimeHi : UInt16 := 0x0210
abbrev mrmRegCmdSetTimeLo : UInt16 := 0x0211

/-- `k_slots` -/
def kSlots : List (RegSlot sigma) := [
  readOnly 0x0000 readMapVersion,
  readOnly 0x0001 readDeviceIdHi,
  readOnly 0x0002 readDeviceIdLo,
  readOnly 0x0003 readHardwareRev,
  readOnly 0x0004 (readFwVerMajor svc),
  readOnly 0x0005 (readFwVerMinor svc),
  readOnly 0x0006 (readFwVerPatch svc),
  readOnly 0x0007 readVendorCode,
  readOnly 0x0010 (readTemperature svc),
  readOnly 0x0011 (readHumidity svc),
  readOnly 0x0012 (readPressure svc),
  readOnly 0x0030 (readDeviceState svc),
  readOnly 0x0031 (readAlarmFlags svc),
  readOnly 0x0032 (readUptimeHi svc),
  readOnly 0x0033 (readUptimeLo svc),
  readOnly 0x0034 readModbusRxOkHi,
  readOnly 0x0035 readModbusRxOkLo,
  readOnly 0x0036 readModbusCrcErrHi,
  readOnly 0x0037 readModbusCrcErrLo,
  readOnly 0x0038 readZero,
  readOnly 0x0039 readZero,
  readOnly 0x003A (readSensorErrHi svc),
  readOnly 0x003B (readSensorErrLo svc),
  configSlot 0x0100 (readTempAlarmLow svc) (writeTempAlarmLow svc) (validateTempAlarmLow svc),
  configSlot 0x0101 (readTempAlarmHigh svc) (writeTempAlarmHigh svc) (validateTempAlarmHigh svc),
  configSlot 0x0102 (readTempHysteresis svc) (writeTempHysteresis svc) validateTempHysteresis,
  configSlot 0x0110 (readHumAlarmLow svc) (writeHumAlarmLow svc) (validateHumAlarmLow svc),
  configSlot 0x0111 (readHumAlarmHigh svc) (writeHumAlarmHigh svc) (validateHumAlarmHigh svc),
  configSlot 0x0112 (readHumHysteresis svc) (writeHumHysteresis svc) validateHumHysteresis,
  configSlot 0x0120 (readPressAlarmLow svc) (writePressAlarmLow svc) (validatePressAlarmLow svc),
  configSlot 0x0121 (readPressAlarmHigh svc) (writePressAlarmHigh svc)
    (validatePressAlarmHigh svc),
  configSlot 0x0122 (readPressHysteresis svc) (writePressHysteresis svc) validatePressHysteresis,
  configSlot 0x0130 (readSamplingPeriod svc) (writeSamplingPeriod svc) validateSamplingPeriod,
  configSlot 0x0140 readLcdBrightness writeLcdBrightness validateLcdBrightness,
  configSlot 0x0141 readLcdTimeout writeLcdTimeout validateLcdTimeout,
  configSlot mrmRegModbusSlaveAddr (readModbusSlaveAddr svc) (writeModbusSlaveAddrReg svc)
    validateSlaveAddr,
  commandSlot 0x0200 readCmdAckAlarm (writeCmdAckAlarm svc),
  commandSlot 0x0201 readCmdResetMetrics (writeCmdResetMetrics svc),
  commandSlot 0x0202 readCmdSoftRestart (writeCmdSoftRestart svc),
  commandSlot mrmRegCmdSetTimeHi readCmdSetTimeHi writeCmdSetTimeSingle,
  commandSlot mrmRegCmdSetTimeLo readCmdSetTimeLo writeCmdSetTimeSingle]

def findSlot (addr : UInt16) : Option (RegSlot sigma) :=
  (kSlots svc).find? (fun slot => slot.addr = addr)

end Handlers

end EnvMonitor.FieldDevice
