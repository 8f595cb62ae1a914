import EnvMonitor.Device.IndexedBuffer
import EnvMonitor.FieldDevice.ModbusSlave

/-!
# Modbus slave of the field device, over any register map

`modbus_slave.c` with its transmit buffer, written by index, and its statistics.  The register map
is whatever stands behind `IModbusRegisterMap`: its functions may fail, change their own state and
call `modbus_slave_set_address`.
-/

namespace EnvMonitor.FieldDevice.ModbusSlave

open Modbus EnvMonitor.Device

/-- `modbus_slave_err_t` -/
inductive SlaveErr where
  | ok
  | notInit
  | nullArg
  | invalidAddr
  | invalidValue
  | deviceFail
  deriving DecidableEq, Repr

/-- What a function of the register map can change. -/
structure Shared (map : Type) where
  slaveAddr : UInt8
  map : map

section Slave

variable {map : Type}

/-- A read gives the value left in `*value_out`, which the slave has set to zero before. -/
structure IModbusRegisterMap (map : Type) where
  readInput : UInt16 -> Shared map -> SlaveErr × UInt16 × Shared map
  readHolding : UInt16 -> Shared map -> SlaveErr × UInt16 × Shared map
  writeHolding : UInt16 -> UInt16 -> Shared map -> SlaveErr × Shared map
  writeBlock : Option (UInt16 -> List UInt16 -> Shared map -> SlaveErr × Shared map)

/-- `modbus_slave_stats_t` -/
structure SlaveStats where
  validFrames : UInt32
  crcErrors : UInt32
  addressMismatches : UInt32
  exceptionResponses : UInt32
  unsupportedFc : UInt32
  successfulResponses : UInt32
  deriving DecidableEq, Repr

def SlaveStats.zero : SlaveStats := ⟨0, 0, 0, 0, 0, 0⟩

abbrev modbusMaxFrameBytes : Nat := 256

/-- `modbus_slave_t`.  `rxBuf` and `txBuf` go on behind their 256 bytes with whatever memory lies
there. -/
structure Slave (map : Type) where
  initialised : Bool
  shared : Shared map
  rxBuf : Nat -> UInt8
  txBuf : IndexedBuffer UInt8
  txLen : Nat
  stats : SlaveStats

variable (regMap : IModbusRegisterMap map)

def Slave.rxWord (s : Slave map) (i : Nat) : UInt16 := wordOf (s.rxBuf i) (s.rxBuf (i + 1))

def Slave.countException (s : Slave map) : Slave map :=
  { s with stats.exceptionResponses := s.stats.exceptionResponses + 1 }

def Slave.countSuccess (s : Slave map) : Slave map :=
  { s with stats.successfulResponses := s.stats.successfulResponses + 1 }

/-!
## Response builders
-/

/-- `append_crc` -/
def appendCrc (frame : IndexedBuffer UInt8) (len : Nat) : IndexedBuffer UInt8 :=
  frame.putAll len (crcBytes (modbusCrc16 (frame.read len)))

/-- The header of a response, what follows it being there already, its CRC and its length. -/
def Slave.finish (s : Slave map) (pduLen : Nat) : Slave map :=
  { s with txBuf := appendCrc s.txBuf pduLen, txLen := pduLen + 2 }

/-- The bytes from the start of the transmit buffer on. -/
def Slave.fill (s : Slave map) (bytes : List UInt8) : Slave map :=
  { s with txBuf := s.txBuf.putAll 0 bytes }

def buildExceptionResponse (fc exceptionCode : UInt8) (s : Slave map) : Slave map :=
  ((s.fill [s.shared.slaveAddr, fc ||| exceptionFlag, exceptionCode]).finish 3).countException

/-- The rounds `i`, `i + 1`, … of the loop; the flag says that none has failed. -/
def readRegs (read : UInt16 -> Shared map -> SlaveErr × UInt16 × Shared map) (fc : UInt8)
    (startAddr : UInt16) : Nat -> Nat -> Slave map -> Bool × Slave map
  | 0, _, s => (true, s)
  | rounds + 1, i, s =>
      match read (startAddr + UInt16.ofNat i) s.shared with
      | (.invalidAddr, _, shared) =>
          (false, buildExceptionResponse fc modbusExcIllegalAddr { s with shared := shared })
      | (.deviceFail, _, shared) =>
          (false, buildExceptionResponse fc modbusExcDeviceFail { s with shared := shared })
      -- every other error counts as a value
      | (_, value, shared) =>
          readRegs read fc startAddr rounds (i + 1)
            { s with
              shared := shared
              txBuf := s.txBuf.putAll (3 + i * 2) (wordBytes value) }

def buildReadResponse (fc : UInt8) (startAddr regCount : UInt16) (s : Slave map) : Slave map :=
  if regCount = 0 ∨ modbusMaxFrameBytes / 2 < regCount.toNat then
    buildExceptionResponse fc modbusExcIllegalAddr s
  else
    let byteCount := (regCount * 2).toUInt8
    let s := s.fill [s.shared.slaveAddr, fc, byteCount]
    let read := if fc = fcReadInput then regMap.readInput else regMap.readHolding
    match readRegs read fc startAddr regCount.toNat 0 s with
    | (false, s) => s
    | (true, s) => (s.finish (3 + byteCount.toNat)).countSuccess

/-- What both write builders do with the map's answer: an exception, or an acknowledgement that
repeats two words of the request. -/
def acknowledge (fc : UInt8) (first second : UInt16) (err : SlaveErr) (s : Slave map) :
    Slave map :=
  match err with
  | .invalidAddr => buildExceptionResponse fc modbusExcIllegalAddr s
  | .invalidValue => buildExceptionResponse fc modbusExcIllegalValue s
  | .deviceFail => buildExceptionResponse fc modbusExcDeviceFail s
  | _ =>
      ((s.fill ([s.shared.slaveAddr, fc] ++ (wordBytes first ++ wordBytes second))).finish
        6).countSuccess

def buildWriteSingleResponse (s : Slave map) : Slave map :=
  let regAddr := s.rxWord 2
  let value := s.rxWord 4
  let (err, shared) := regMap.writeHolding regAddr value s.shared
  acknowledge fcWriteSingle regAddr value err { s with shared := shared }

/-- The fallback of a map without a block write: register by register up to the first error. -/
def writeRegs (rxWord : Nat -> UInt16) (startAddr : UInt16) :
    Nat -> Nat -> Shared map -> SlaveErr × Shared map
  | 0, _, shared => (.ok, shared)
  | rounds + 1, i, shared =>
      match regMap.writeHolding (startAddr + UInt16.ofNat i) (rxWord (7 + i * 2)) shared with
      | (.ok, shared) => writeRegs rxWord startAddr rounds (i + 1) shared
      | (err, shared) => (err, shared)

def buildWriteMultipleResponse (s : Slave map) : Slave map :=
  let startAddr := s.rxWord 2
  let regCount := s.rxWord 4
  let byteCount := s.rxBuf 6
  if byteCount ≠ (regCount * 2).toUInt8 then
    buildExceptionResponse fcWriteMultiple modbusExcIllegalValue s
  else
    match regMap.writeBlock with
    | some writeBlock =>
        if regCount = 0 ∨ modbusSlaveMaxWriteRegs < regCount then
          buildExceptionResponse fcWriteMultiple modbusExcIllegalValue s
        else
          let values := (List.range regCount.toNat).map (fun i => s.rxWord (7 + i * 2))
          let (err, shared) := writeBlock startAddr values s.shared
          acknowledge fcWriteMultiple startAddr regCount err { s with shared := shared }
    | none =>
        let (err, shared) := writeRegs regMap s.rxWord startAddr regCount.toNat 0 s.shared
        acknowledge fcWriteMultiple startAddr regCount err { s with shared := shared }

/-!
## Frames
-/

/-- `modbus_uart_get_rx_frame` into the receive buffer, and an empty transmit buffer. -/
def Slave.received (frame : List UInt8) (s : Slave map) : Slave map :=
  { s with
    rxBuf := fun i => if h : i < frame.length then frame[i] else s.rxBuf i
    txBuf := s.txBuf.rewind
    txLen := 0 }

/-- The switch on the function code. -/
def dispatch (s : Slave map) : Slave map :=
  let fc := s.rxBuf 1
  let startAddr := s.rxWord 2
  let regCount := s.rxWord 4
  if fc = fcReadHolding then buildReadResponse regMap fcReadHolding startAddr regCount s
  else if fc = fcReadInput then buildReadResponse regMap fcReadInput startAddr regCount s
  else if fc = fcWriteSingle then buildWriteSingleResponse regMap s
  else if fc = fcWriteMultiple then buildWriteMultipleResponse regMap s
  else
    let s := buildExceptionResponse fc modbusExcIllegalFc s
    { s with stats.unsupportedFc := s.stats.unsupportedFc + 1 }

/-- `modbus_slave_process` on a received frame: what it hands to `modbus_uart_transmit`, if
anything. -/
def modbusSlaveProcess (frame : List UInt8) (s : Slave map) : Option (List UInt8) × Slave map :=
  if !s.initialised then (none, s)
  else
    let s := s.received frame
    if frame.length < 4 then (none, s)
    else if s.rxBuf 0 ≠ s.shared.slaveAddr then
      (none, { s with stats.addressMismatches := s.stats.addressMismatches + 1 })
    else if modbusCrc16 (frame.take (frame.length - 2)) ≠ crcAt frame (frame.length - 2) then
      (none, { s with stats.crcErrors := s.stats.crcErrors + 1 })
    else
      let s := dispatch regMap { s with stats.validFrames := s.stats.validFrames + 1 }
      if 0 < s.txLen then (some (s.txBuf.read s.txLen), s) else (none, s)

/-!
## Runs
-/

abbrev modbusAddrMin : UInt8 := 1
abbrev modbusAddrMax : UInt8 := 247

def modbusSlaveInit (slaveAddr : UInt8) (s : Slave map) : SlaveErr × Slave map :=
  if slaveAddr < modbusAddrMin ∨ modbusAddrMax < slaveAddr then (.invalidAddr, s)
  else (.ok, { s with shared.slaveAddr := slaveAddr, initialised := true })

def modbusSlaveSetAddress (newAddr : UInt8) (s : Slave map) : SlaveErr × Slave map :=
  if !s.initialised then (.notInit, s)
  else if newAddr < modbusAddrMin ∨ modbusAddrMax < newAddr then (.invalidAddr, s)
  else (.ok, { s with shared.slaveAddr := newAddr })

def modbusSlaveResetStats (s : Slave map) : Slave map := { s with stats := .zero }

/-- The slave from its start on: with the frames of its UART, the calls of its interface and, in
between, anything that other tasks do to the state of the map or that is left behind the two
buffers. -/
inductive Reached : Slave map -> Prop
  | boot (state : map) (rxBuf : Nat -> UInt8) (txBuf : IndexedBuffer UInt8) :
      Reached ⟨false, ⟨0, state⟩, rxBuf, txBuf, 0, .zero⟩
  | init {s : Slave map} (reached : Reached s) (slaveAddr : UInt8) :
      Reached (modbusSlaveInit slaveAddr s).2
  | setAddress {s : Slave map} (reached : Reached s) (newAddr : UInt8) :
      Reached (modbusSlaveSetAddress newAddr s).2
  | resetStats {s : Slave map} (reached : Reached s) : Reached (modbusSlaveResetStats s)
  | process {s : Slave map} (reached : Reached s) (frame : List UInt8) :
      Reached (modbusSlaveProcess regMap frame s).2
  | others {s : Slave map} (reached : Reached s) (state : map) (rxBuf : Nat -> UInt8)
      (txBuf : IndexedBuffer UInt8) :
      Reached { s with shared.map := state, rxBuf := rxBuf, txBuf := txBuf }

end Slave

end EnvMonitor.FieldDevice.ModbusSlave
