import EnvMonitor.Gateway.ModbusMaster
import EnvMonitor.Modbus.Operation

/-!
# Requests of the poller

Everything `modbus_poller.c` hands to `modbus_master_transact`: the identity read, the telemetry
read, the alarm flags and the write commands.
-/

namespace EnvMonitor.Gateway

open Modbus

abbrev deviceProfileDescMax : Nat := 32

/-- `device_profile_t`; `description` is the whole array. -/
structure DeviceProfile where
  slaveAddr : UInt8
  mapVersion : UInt16
  vendorCode : UInt16
  description : List UInt8
  deriving DecidableEq, Repr

/-- The profile that `seed_default` writes. -/
def defaultProfile : DeviceProfile where
  slaveAddr := 1
  mapVersion := 1
  vendorCode := 0x1A45
  description :=
    let text := "Field Device 1 (default)".toList.map fun c => UInt8.ofNat c.toNat
    text ++ List.replicate (deviceProfileDescMax - text.length) 0

/-- The FC04 span polled for one map version. -/
structure MapEntry where
  mapVersion : UInt16
  inputRegStart : UInt16
  inputRegCount : UInt16
  deriving DecidableEq, Repr

def kMapTable : List MapEntry := [⟨1, 0x0010, 3⟩]

def mapFor (profile : DeviceProfile) : Option MapEntry :=
  kMapTable.find? (fun entry => entry.mapVersion = profile.mapVersion)

abbrev identityRegStart : UInt16 := 0x0000
abbrev identityRegCount : UInt16 := 8
abbrev fdRegAlarmFlags : UInt16 := 0x0031

/-- An FC04 request. -/
def readRequest (slaveAddr : UInt8) (start count : UInt16) : ModbusFrame :=
  ⟨slaveAddr, fcReadInput, [highByte start, lowByte start, highByte count, lowByte count]⟩

/-- The request of `ensure_identity`. -/
def identityRequest (profile : DeviceProfile) : ModbusFrame :=
  readRequest profile.slaveAddr identityRegStart identityRegCount

def buildPollRequest (profile : DeviceProfile) (map : MapEntry) : ModbusFrame :=
  readRequest profile.slaveAddr map.inputRegStart map.inputRegCount

/-- The request of `poll_alarm_flags`. -/
def alarmFlagsRequest (profile : DeviceProfile) : ModbusFrame :=
  ⟨profile.slaveAddr, fcReadInput, [highByte fdRegAlarmFlags, lowByte fdRegAlarmFlags, 0, 1]⟩

/-- `modbus_command_t` without the response queue; `data` is the 125-word array. -/
structure ModbusCommand where
  slaveAddr : UInt8
  functionCode : UInt8
  startReg : UInt16
  regCount : UInt16
  data : List UInt16
  deriving DecidableEq, Repr

abbrev modbusPollerFc16MaxCount : UInt16 := 123

def commandIsEncodable (cmd : ModbusCommand) : Bool :=
  cmd.functionCode = fcWriteSingle ∨
    (cmd.functionCode = fcWriteMultiple ∧ cmd.regCount ≠ 0 ∧
      cmd.regCount ≤ modbusPollerFc16MaxCount)

/-- The first `reg_count` words of the command. -/
def ModbusCommand.values (cmd : ModbusCommand) : List UInt16 :=
  (List.range cmd.regCount.toNat).map (fun i => cmd.data.getD i 0)

def buildCommandRequest (cmd : ModbusCommand) : ModbusFrame :=
  let reg := [highByte cmd.startReg, lowByte cmd.startReg]
  if cmd.functionCode = fcWriteSingle then
    let value := cmd.data.getD 0 0
    ⟨cmd.slaveAddr, cmd.functionCode, reg ++ [highByte value, lowByte value]⟩
  else
    ⟨cmd.slaveAddr, cmd.functionCode,
      reg ++ [highByte cmd.regCount, lowByte cmd.regCount, (cmd.regCount * 2).toUInt8] ++
        wordsBytes cmd.values⟩

/-- `transact_command` -/
def transactCommand (cmd : ModbusCommand) (attempts : List Attempt) : Transacted :=
  if commandIsEncodable cmd then modbusMasterTransact (buildCommandRequest cmd) attempts
  else (.invalidArg, none)

/-- Big-endian word at register index `index` of an FC04 response. -/
def responseWord (response : ModbusFrame) (index : Nat) : UInt16 :=
  wordAt response.data (1 + index * 2)

/-!
## What the requests mean
-/

/-- The operation a command stands for. -/
def ModbusCommand.operation (cmd : ModbusCommand) : Operation :=
  if cmd.functionCode = fcWriteSingle then .writeSingle cmd.startReg (cmd.data.getD 0 0)
  else .writeMultiple cmd.startReg cmd.values

/-- Every request the poller can issue. -/
inductive PollerRequest where
  | identity (profile : DeviceProfile)
  | telemetry (profile : DeviceProfile) (map : MapEntry) (known : mapFor profile = some map)
  | alarmFlags (profile : DeviceProfile)
  | command (cmd : ModbusCommand) (encodable : commandIsEncodable cmd)

namespace PollerRequest

/-- The frame that goes to `modbus_master_transact`. -/
def frame : PollerRequest -> ModbusFrame
  | identity profile => identityRequest profile
  | telemetry profile map _ => buildPollRequest profile map
  | alarmFlags profile => alarmFlagsRequest profile
  | command cmd _ => buildCommandRequest cmd

def slaveAddr : PollerRequest -> UInt8
  | identity profile => profile.slaveAddr
  | telemetry profile _ _ => profile.slaveAddr
  | alarmFlags profile => profile.slaveAddr
  | command cmd _ => cmd.slaveAddr

def operation : PollerRequest -> Operation
  | identity _ => .readInput identityRegStart identityRegCount
  | telemetry _ map _ => .readInput map.inputRegStart map.inputRegCount
  | alarmFlags _ => .readInput fdRegAlarmFlags 1
  | command cmd _ => cmd.operation

end PollerRequest

theorem mapFor_known {profile : DeviceProfile} {map : MapEntry} (h : mapFor profile = some map) :
    map = ⟨1, 0x0010, 3⟩ := by
  have hmem := List.mem_of_find?_eq_some h
  exact List.mem_singleton.mp hmem

theorem values_length (cmd : ModbusCommand) : cmd.values.length = cmd.regCount.toNat := by
  unfold ModbusCommand.values
  rw [List.length_map, List.length_range]

theorem commandIsEncodable_cases {cmd : ModbusCommand} (h : commandIsEncodable cmd) :
    cmd.functionCode = fcWriteSingle ∨
      (cmd.functionCode = fcWriteMultiple ∧ 1 ≤ cmd.regCount.toNat ∧ cmd.regCount.toNat ≤ 123) := by
  have h' := of_decide_eq_true h
  rcases h' with hsingle | ⟨hmultiple, hzero, hmax⟩
  · exact Or.inl hsingle
  · have hpos : cmd.regCount.toNat ≠ 0 := fun hz => hzero (UInt16.toNat_inj.mp hz)
    exact Or.inr ⟨hmultiple, Nat.pos_of_ne_zero hpos, hmax⟩

theorem byteCount_eq (count : UInt16) :
    (count * 2).toUInt8 = Operation.byteCount count.toNat := by
  apply UInt8.toNat_inj.mp
  unfold Operation.byteCount
  rw [UInt16.toNat_toUInt8, UInt16.toNat_mul, UInt8.toNat_ofNat']
  change count.toNat * 2 % 65536 % 256 = 2 * count.toNat % 256
  omega

theorem buildCommandRequest_eq {cmd : ModbusCommand} (h : commandIsEncodable cmd) :
    buildCommandRequest cmd = cmd.operation.request cmd.slaveAddr := by
  unfold buildCommandRequest ModbusCommand.operation
  rcases commandIsEncodable_cases h with hsingle | ⟨hmultiple, hlow, hhigh⟩
  · rw [if_pos hsingle, if_pos hsingle, hsingle]
    rfl
  · have hother : cmd.functionCode ≠ fcWriteSingle := by
      rw [hmultiple]
      decide
    have hcount : UInt16.ofNat cmd.values.length = cmd.regCount := by
      rw [values_length, UInt16.ofNat_toNat]
    rw [if_neg hother, if_neg hother, hmultiple]
    change _ = ModbusFrame.mk cmd.slaveAddr fcWriteMultiple
      (wordsBytes [cmd.startReg, UInt16.ofNat cmd.values.length] ++
        Operation.byteCount cmd.values.length :: wordsBytes cmd.values)
    rw [hcount, byteCount_eq, values_length]
    rfl

theorem operation_fits (req : PollerRequest) : req.operation.Fits := by
  cases req with
  | identity profile =>
      change 1 ≤ (8 : UInt16).toNat ∧ (8 : UInt16).toNat ≤ 125
      decide
  | telemetry profile map known =>
      change 1 ≤ map.inputRegCount.toNat ∧ map.inputRegCount.toNat ≤ 125
      rw [mapFor_known known]
      decide
  | alarmFlags profile =>
      change 1 ≤ (1 : UInt16).toNat ∧ (1 : UInt16).toNat ≤ 125
      decide
  | command cmd encodable =>
      change cmd.operation.Fits
      unfold ModbusCommand.operation
      rcases commandIsEncodable_cases encodable with hsingle | ⟨hmultiple, hlow, hhigh⟩
      · rw [if_pos hsingle]
        trivial
      · have hother : cmd.functionCode ≠ fcWriteSingle := by
          rw [hmultiple]
          decide
        rw [if_neg hother]
        change 1 ≤ cmd.values.length ∧ cmd.values.length ≤ 123
        rw [values_length]
        exact ⟨hlow, hhigh⟩

theorem frame_eq (req : PollerRequest) :
    req.frame = req.operation.request req.slaveAddr := by
  cases req with
  | identity profile => rfl
  | telemetry profile map known => rfl
  | alarmFlags profile =>
      have hdata : [highByte fdRegAlarmFlags, lowByte fdRegAlarmFlags, 0, 1] =
          (Operation.readInput fdRegAlarmFlags 1).data := by
        decide
      exact congrArg (ModbusFrame.mk profile.slaveAddr fcReadInput) hdata
  | command cmd encodable => exact buildCommandRequest_eq encodable

end EnvMonitor.Gateway
