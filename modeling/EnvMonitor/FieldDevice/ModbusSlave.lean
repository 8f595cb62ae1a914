import EnvMonitor.FieldDevice.RegisterMap

/-!
# Modbus slave of the field device

The dispatch functions of the register map, the bridge of `main.c` and `modbus_slave_process`.
-/

namespace EnvMonitor.FieldDevice

open Modbus

section Dispatch

variable {sigma : Type} (svc : Services sigma)

/-!
## Dispatch of the register map
-/

abbrev mrmMaxRegsPerRead : Nat := 125
abbrev mrmMaxRegsPerWrite : Nat := 123

/-- One round of the read loop. -/
def mrmReadReg (access : RegAccess) (d : Device sigma) (addr : UInt16) :
    Except ModbusException UInt16 :=
  match findSlot svc addr with
  | none => .error .illegalDataAddr
  | some slot => if slot.access = access then slot.readFn d else .error .illegalDataAddr

def mrmReadLoop (access : RegAccess) (d : Device sigma) :
    UInt16 -> Nat -> Except ModbusException (List UInt16)
  | _, 0 => .ok []
  | addr, count + 1 => do
      let value <- mrmReadReg svc access d addr
      let values <- mrmReadLoop access d (addr + 1) count
      .ok (value :: values)

def mrmReadRegs (access : RegAccess) (d : Device sigma) (addr : UInt16) (count : Nat) :
    Except ModbusException (List UInt16) :=
  if !d.initialised then .error .illegalDataValue
  else if count = 0 ∨ mrmMaxRegsPerRead < count then .error .illegalDataValue
  else mrmReadLoop svc access d addr count

def mrmReadInputRegs (d : Device sigma) (addr : UInt16) (count : Nat) :
    Except ModbusException (List UInt16) :=
  mrmReadRegs svc .r d addr count

def mrmReadHoldingRegs (d : Device sigma) (addr : UInt16) (count : Nat) :
    Except ModbusException (List UInt16) :=
  mrmReadRegs svc .rw d addr count

/-- The slot's write handler, if the register can be written. -/
def writableSlot (addr : UInt16) : Option (WriteFn sigma × Option (ValidateFn sigma)) :=
  match findSlot svc addr with
  | none => none
  | some slot =>
      if slot.access = .rw then slot.writeFn.map (fun writeFn => (writeFn, slot.validateFn))
      else none

def validateWith (validateFn : Option (ValidateFn sigma)) (value : UInt16) (d : Device sigma) :
    ModbusException :=
  match validateFn with
  | none => .none
  | some validate => validate value d

def mrmWriteSingleReg (addr value : UInt16) (d : Device sigma) :
    ModbusException × Device sigma :=
  if !d.initialised then (.illegalDataValue, d)
  else
    match writableSlot svc addr with
    | none => (.illegalDataAddr, d)
    | some (writeFn, validateFn) =>
        if validateWith validateFn value d = .none then writeFn value d
        else (validateWith validateFn value d, d)

abbrev mrmCmdBlockFirst : UInt16 := 0x0200
abbrev mrmCmdBlockLast : UInt16 := 0x02FF

def blockAddrs (addr : UInt16) : Nat -> List UInt16
  | 0 => []
  | count + 1 => addr :: blockAddrs (addr + 1) count

def inCmdBlock (addr : UInt16) : Bool :=
  mrmCmdBlockFirst ≤ addr ∧ addr ≤ mrmCmdBlockLast

def inTimePair (addr : UInt16) : Bool :=
  addr = mrmRegCmdSetTimeHi ∨ addr = mrmRegCmdSetTimeLo

/-- Phase 1: no side effects. -/
def validateAll (d : Device sigma) : UInt16 -> List UInt16 -> ModbusException
  | _, [] => .none
  | addr, value :: values =>
      match writableSlot svc addr with
      | none => .illegalDataAddr
      | some (_, validateFn) =>
          if validateWith validateFn value d = .none then validateAll d (addr + 1) values
          else validateWith validateFn value d

/-- Phase 2. -/
def applyAll : UInt16 -> List UInt16 -> Device sigma -> ModbusException × Device sigma
  | _, [], d => (.none, d)
  | addr, value :: values, d =>
      match writableSlot svc addr with
      -- cannot happen after phase 1
      | none => (.illegalDataAddr, d)
      | some (writeFn, _) =>
          match writeFn value d with
          | (.none, d) => applyAll (addr + 1) values d
          | (rc, d) => (rc, d)

def mrmWriteMultipleRegs (addr : UInt16) (values : List UInt16) (d : Device sigma) :
    ModbusException × Device sigma :=
  let addrs := blockAddrs addr values.length
  if !d.initialised then (.illegalDataValue, d)
  else if values.length = 0 ∨ mrmMaxRegsPerWrite < values.length then (.illegalDataValue, d)
  else if addr = mrmRegCmdSetTimeHi ∧ values.length = 2 then
    applyCmdSetTime svc (values.getD 0 0) (values.getD 1 0) d
  else if addrs.any inTimePair ∨ 1 < addrs.countP inCmdBlock then (.illegalDataValue, d)
  else if validateAll svc d addr values = .none then applyAll svc addr values d
  else (validateAll svc d addr values, d)

/-!
## Bridge of `main.c`
-/

/-- `modbus_slave_err_t`, as far as the register map returns it. -/
inductive ModbusSlaveErr where
  | ok
  | invalidAddr
  | invalidValue
  | deviceFail
  deriving DecidableEq, Repr

def bridgeRead (read : Except ModbusException (List UInt16)) : Except ModbusSlaveErr UInt16 :=
  match read with
  | .ok values => .ok (values.getD 0 0)
  | .error _ => .error .invalidAddr

def bridgeReadInput (d : Device sigma) (addr : UInt16) : Except ModbusSlaveErr UInt16 :=
  bridgeRead (mrmReadInputRegs svc d addr 1)

def bridgeReadHolding (d : Device sigma) (addr : UInt16) : Except ModbusSlaveErr UInt16 :=
  bridgeRead (mrmReadHoldingRegs svc d addr 1)

def bridgeExcToErr : ModbusException -> ModbusSlaveErr
  | .none => .ok
  | .illegalDataValue => .invalidValue
  | _ => .invalidAddr

def bridgeWriteHolding (addr value : UInt16) (d : Device sigma) : ModbusSlaveErr × Device sigma :=
  let (exc, d) := mrmWriteSingleReg svc addr value d
  (bridgeExcToErr exc, d)

def bridgeWriteBlock (addr : UInt16) (values : List UInt16) (d : Device sigma) :
    ModbusSlaveErr × Device sigma :=
  let (exc, d) := mrmWriteMultipleRegs svc addr values d
  (bridgeExcToErr exc, d)

/-!
## Protocol
-/

abbrev modbusExcIllegalFc : UInt8 := 0x01
abbrev modbusExcIllegalAddr : UInt8 := 0x02
abbrev modbusExcIllegalValue : UInt8 := 0x03
abbrev modbusExcDeviceFail : UInt8 := 0x04
abbrev modbusSlaveMaxWriteRegs : UInt16 := 123

def appendCrc (body : List UInt8) : List UInt8 :=
  body ++ crcBytes (modbusCrc16 body)

def buildExceptionResponse (d : Device sigma) (fc code : UInt8) : List UInt8 :=
  appendCrc [d.slaveAddr, fc ||| exceptionFlag, code]

/-- The exception code of an error of the register map. -/
def ModbusSlaveErr.code : ModbusSlaveErr -> Option UInt8
  | .ok => none
  | .invalidAddr => some modbusExcIllegalAddr
  | .invalidValue => some modbusExcIllegalValue
  | .deviceFail => some modbusExcDeviceFail

def readLoop (read : UInt16 -> Except ModbusSlaveErr UInt16) :
    UInt16 -> Nat -> Except ModbusSlaveErr (List UInt16)
  | _, 0 => .ok []
  | addr, count + 1 => do
      let value <- read addr
      let values <- readLoop read (addr + 1) count
      .ok (value :: values)

/-- The bridge's reads fail with `invalidAddr` only. -/
def buildReadResponse (d : Device sigma) (fc : UInt8) (startAddr regCount : UInt16) :
    List UInt8 :=
  if regCount = 0 ∨ 128 < regCount then buildExceptionResponse d fc modbusExcIllegalAddr
  else
    let byteCount := (regCount * 2).toUInt8
    let read := if fc = fcReadInput then bridgeReadInput svc d else bridgeReadHolding svc d
    match readLoop read startAddr regCount.toNat with
    | .error err =>
        buildExceptionResponse d fc
          (if err = .deviceFail then modbusExcDeviceFail else modbusExcIllegalAddr)
    | .ok values =>
        appendCrc
          (([d.slaveAddr, fc, byteCount] ++ wordsBytes values).take (3 + byteCount.toNat))

/-- The end of both write handlers: an exception, or the acknowledgement of two words.  The
address is the one the device has after the write. -/
def buildWriteResponse (fc : UInt8) (first second : UInt16)
    (result : ModbusSlaveErr × Device sigma) : List UInt8 × Device sigma :=
  let (err, d) := result
  match err.code with
  | some code => (buildExceptionResponse d fc code, d)
  | none => (appendCrc ([d.slaveAddr, fc] ++ wordsBytes [first, second]), d)

def buildWriteSingleResponse (d : Device sigma) : List UInt8 × Device sigma :=
  let regAddr := wordAt d.rxBuf 2
  let value := wordAt d.rxBuf 4
  buildWriteResponse fcWriteSingle regAddr value (bridgeWriteHolding svc regAddr value d)

/-- The `values[]` of a write of `count` registers. -/
def blockValues (rxBuf : List UInt8) (count : Nat) : List UInt16 :=
  (List.range count).map (fun i => wordAt rxBuf (7 + i * 2))

/-- `write_block` is never NULL in the map of `main.c`. -/
def buildWriteMultipleResponse (d : Device sigma) : List UInt8 × Device sigma :=
  let startAddr := wordAt d.rxBuf 2
  let regCount := wordAt d.rxBuf 4
  let byteCount := d.rxBuf.getD 6 0
  if byteCount ≠ (regCount * 2).toUInt8 then
    (buildExceptionResponse d fcWriteMultiple modbusExcIllegalValue, d)
  else if regCount = 0 ∨ modbusSlaveMaxWriteRegs < regCount then
    (buildExceptionResponse d fcWriteMultiple modbusExcIllegalValue, d)
  else
    buildWriteResponse fcWriteMultiple startAddr regCount
      (bridgeWriteBlock svc startAddr (blockValues d.rxBuf regCount.toNat) d)

/-- `modbus_uart_get_rx_frame` into the buffer: what an earlier frame left behind it stays. -/
def Device.received (d : Device sigma) (frame : List UInt8) : Device sigma :=
  { d with rxBuf := frame ++ d.rxBuf.drop frame.length }

/-- Function code dispatch of a valid frame. -/
def dispatch (d : Device sigma) : List UInt8 × Device sigma :=
  let fc := d.rxBuf.getD 1 0
  let startAddr := wordAt d.rxBuf 2
  let regCount := wordAt d.rxBuf 4
  if fc = fcReadHolding then (buildReadResponse svc d fcReadHolding startAddr regCount, d)
  else if fc = fcReadInput then (buildReadResponse svc d fcReadInput startAddr regCount, d)
  else if fc = fcWriteSingle then buildWriteSingleResponse svc d
  else if fc = fcWriteMultiple then buildWriteMultipleResponse svc d
  else (buildExceptionResponse d fc modbusExcIllegalFc, d)

/-- `modbus_slave_process` on a received frame: what it transmits, if anything. -/
def modbusSlaveProcess (frame : List UInt8) (d : Device sigma) :
    Option (List UInt8) × Device sigma :=
  let d := d.received frame
  if frame.length < 4 then (none, d)
  else if d.rxBuf.getD 0 0 ≠ d.slaveAddr then (none, d)
  else if modbusCrc16 (frame.take (frame.length - 2)) ≠ crcAt frame (frame.length - 2) then
    (none, d)
  else
    let (response, d) := dispatch svc d
    (some response, d)

end Dispatch

end EnvMonitor.FieldDevice
