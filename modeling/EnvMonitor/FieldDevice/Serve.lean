import EnvMonitor.FieldDevice.ModbusSlave
import EnvMonitor.Modbus.Operation

/-!
# The field device answers an intact request

`perform` is what an operation means for the register map; the slave does exactly that, once, and
answers with the address it has afterwards.
-/

namespace EnvMonitor.FieldDevice

open Modbus

variable {sigma : Type} (svc : Services sigma)

/-- A write that the map took is acknowledged with `words`. -/
def writeAnswer (words : List UInt16) (result : ModbusException × Device sigma) :
    Answer × Device sigma :=
  match (bridgeExcToErr result.1).code with
  | none => (.ok words, result.2)
  | some code => (.error code, result.2)

/-- The operation on the register map: the registers it holds, or one write. -/
def perform (d : Device sigma) : Operation -> Answer × Device sigma
  | .readInput start count =>
      match mrmReadInputRegs svc d start count.toNat with
      | .ok values => (.ok values, d)
      | .error _ => (.error modbusExcIllegalAddr, d)
  | .writeSingle reg value => writeAnswer [reg, value] (mrmWriteSingleReg svc reg value d)
  | .writeMultiple start values =>
      writeAnswer [start, UInt16.ofNat values.length] (mrmWriteMultipleRegs svc start values d)

/-!
## Reads
-/

variable {values : List UInt16} {count : Nat} {addr : UInt16}

theorem mrmReadLoop_length {access : RegAccess} {d : Device sigma}
    (h : mrmReadLoop svc access d addr count = .ok values) : values.length = count := by
  induction count generalizing addr values with
  | zero =>
      cases h
      rfl
  | succ count ih =>
      unfold mrmReadLoop at h
      cases hvalue : mrmReadReg svc access d addr with
      | error exc =>
          rw [hvalue] at h
          cases h
      | ok value =>
          cases hrest : mrmReadLoop svc access d (addr + 1) count with
          | error exc =>
              rw [hvalue, hrest] at h
              cases h
          | ok rest =>
              rw [hvalue, hrest] at h
              cases h
              rw [List.length_cons, ih hrest]

theorem bridgeReadInput_eq {d : Device sigma} (hinit : d.initialised = true) (addr : UInt16) :
    bridgeReadInput svc d addr =
      match mrmReadReg svc .r d addr with
      | .ok value => .ok value
      | .error _ => .error .invalidAddr := by
  unfold bridgeReadInput mrmReadInputRegs mrmReadRegs
  rw [hinit]
  change bridgeRead (mrmReadLoop svc .r d addr 1) = _
  unfold mrmReadLoop
  cases mrmReadReg svc .r d addr with
  | ok value => rfl
  | error exc => rfl

theorem readLoop_bridge {d : Device sigma} (hinit : d.initialised = true) (addr : UInt16)
    (count : Nat) :
    readLoop (bridgeReadInput svc d) addr count =
      match mrmReadLoop svc .r d addr count with
      | .ok values => .ok values
      | .error _ => .error .invalidAddr := by
  induction count generalizing addr with
  | zero => rfl
  | succ count ih =>
      unfold readLoop mrmReadLoop
      rw [bridgeReadInput_eq svc hinit, ih]
      cases mrmReadReg svc .r d addr with
      | error exc => rfl
      | ok value =>
          cases mrmReadLoop svc .r d (addr + 1) count with
          | ok values => rfl
          | error exc => rfl

theorem readLoop_uninitialised {d : Device sigma} (hinit : d.initialised = false) (addr : UInt16)
    (hcount : 1 ≤ count) : readLoop (bridgeReadInput svc d) addr count = .error .invalidAddr := by
  cases count with
  | zero => exact absurd hcount (Nat.not_succ_le_zero 0)
  | succ count =>
      unfold readLoop bridgeReadInput mrmReadInputRegs mrmReadRegs
      rw [hinit]
      rfl

theorem readLoop_eq (d : Device sigma) (addr : UInt16) (hlow : 1 ≤ count) (hhigh : count ≤ 125) :
    readLoop (bridgeReadInput svc d) addr count =
      match mrmReadInputRegs svc d addr count with
      | .ok values => .ok values
      | .error _ => .error .invalidAddr := by
  unfold mrmReadInputRegs mrmReadRegs
  cases hinit : d.initialised with
  | false => exact readLoop_uninitialised svc hinit addr hlow
  | true =>
      have hrange : ¬(count = 0 ∨ mrmMaxRegsPerRead < count) := by
        change ¬(count = 0 ∨ 125 < count)
        omega
      rw [readLoop_bridge svc hinit, if_neg (by simp), if_neg hrange]

theorem mrmReadInputRegs_length {d : Device sigma}
    (h : mrmReadInputRegs svc d addr count = .ok values) : values.length = count := by
  unfold mrmReadInputRegs mrmReadRegs at h
  split at h
  · cases h
  · split at h
    · cases h
    · exact mrmReadLoop_length svc h

/-!
## Frames
-/

theorem appendCrc_body (frame : ModbusFrame) : appendCrc frame.body = frame.onWire := by
  unfold appendCrc ModbusFrame.onWire
  rw [crc16_agree]

theorem buildExceptionResponse_eq (d : Device sigma) (op : Operation) (code : UInt8) :
    buildExceptionResponse d op.functionCode code =
      (op.response d.slaveAddr (.error code)).onWire :=
  appendCrc_body ⟨d.slaveAddr, op.functionCode ||| exceptionFlag, [code]⟩

theorem buildReadResponse_eq (d : Device sigma) (start count : UInt16)
    (hfits : (Operation.readInput start count).Fits) :
    buildReadResponse svc d fcReadInput start count =
      ((Operation.readInput start count).response d.slaveAddr
        (perform svc d (.readInput start count)).1).onWire := by
  have hlow : 1 ≤ count.toNat := hfits.1
  have hhigh : count.toNat ≤ 125 := hfits.2
  have hrange : ¬(count = 0 ∨ 128 < count) := by
    rw [not_or]
    constructor
    · intro hzero
      rw [hzero] at hlow
      exact absurd hlow (by decide)
    · intro hbig
      have : 128 < count.toNat := hbig
      omega
  have hbytes : (count * 2).toUInt8.toNat = 2 * count.toNat := by
    rw [UInt16.toNat_toUInt8, UInt16.toNat_mul]
    change count.toNat * 2 % 65536 % 256 = 2 * count.toNat
    omega
  unfold buildReadResponse perform
  rw [if_neg hrange]
  dsimp only
  rw [if_pos rfl, readLoop_eq svc d start hlow hhigh]
  cases hread : mrmReadInputRegs svc d start count.toNat with
  | error exc => exact buildExceptionResponse_eq d (.readInput start count) modbusExcIllegalAddr
  | ok values =>
      have hlen := mrmReadInputRegs_length svc hread
      have hcount : (count * 2).toUInt8 = Operation.byteCount values.length := by
        apply UInt8.toNat_inj.mp
        unfold Operation.byteCount
        rw [hbytes, UInt8.toNat_ofNat', hlen]
        change 2 * count.toNat = 2 * count.toNat % 256
        omega
      dsimp only
      rw [List.take_of_length_le]
      · rw [hcount]
        exact appendCrc_body ⟨d.slaveAddr, fcReadInput,
          Operation.byteCount values.length :: wordsBytes values⟩
      · rw [List.length_append, wordsBytes_length, hlen, hbytes]
        exact Nat.le_refl _

theorem buildWriteResponse_eq (op : Operation) (first second : UInt16)
    (result : ModbusException × Device sigma)
    (hop : forall addr, op.response addr (.ok [first, second]) =
      ⟨addr, op.functionCode, wordsBytes [first, second]⟩) :
    buildWriteResponse op.functionCode first second (bridgeExcToErr result.1, result.2) =
      ((op.response (writeAnswer [first, second] result).2.slaveAddr
        (writeAnswer [first, second] result).1).onWire,
        (writeAnswer [first, second] result).2) := by
  unfold buildWriteResponse writeAnswer
  dsimp only
  cases (bridgeExcToErr result.1).code with
  | some code =>
      dsimp only
      rw [buildExceptionResponse_eq]
  | none =>
      dsimp only
      rw [hop]
      exact congrArg (fun bytes => (bytes, result.2))
        (appendCrc_body ⟨result.2.slaveAddr, op.functionCode, wordsBytes [first, second]⟩)

theorem blockValues_eq (front rest : List UInt8) (values : List UInt16)
    (hfront : front.length = 7) :
    blockValues (front ++ (wordsBytes values ++ rest)) values.length = values := by
  unfold blockValues
  rw [← hfront]
  exact map_wordAt front rest values

/-- What the slave reads out of its buffer is what was asked. -/
structure Decoded (rxBuf : List UInt8) (slaveAddr : UInt8) (op : Operation) : Prop where
  slaveAddr : rxBuf.getD 0 0 = slaveAddr
  functionCode : rxBuf.getD 1 0 = op.functionCode
  start : wordAt rxBuf 2 = op.start
  countOrValue : wordAt rxBuf 4 = op.countOrValue
  byteCount : forall start values, op = .writeMultiple start values ->
    rxBuf.getD 6 0 = Operation.byteCount values.length
  values : forall start values, op = .writeMultiple start values ->
    blockValues rxBuf values.length = values

theorem decoded_request (op : Operation) (addr : UInt8) (rest : List UInt8) :
    Decoded ((op.request addr).body ++ rest) addr op where
  slaveAddr := rfl
  functionCode := rfl
  start := wordOf_bytes op.start
  countOrValue := wordOf_bytes op.countOrValue
  byteCount := by
    intro start values hop
    rw [hop]
    rfl
  values := by
    intro start values hop
    rw [hop]
    exact blockValues_eq
      [addr, fcWriteMultiple, highByte start, lowByte start,
        highByte (UInt16.ofNat values.length), lowByte (UInt16.ofNat values.length),
        Operation.byteCount values.length] rest values rfl

theorem perform_readInput_state (d : Device sigma) (start count : UInt16) :
    (perform svc d (.readInput start count)).2 = d := by
  unfold perform
  dsimp only
  cases mrmReadInputRegs svc d start count.toNat with
  | ok values => rfl
  | error exc => rfl

theorem dispatch_decoded (d : Device sigma) (op : Operation) (addr : UInt8) (hfits : op.Fits)
    (h : Decoded d.rxBuf addr op) :
    dispatch svc d =
      ((op.response (perform svc d op).2.slaveAddr (perform svc d op).1).onWire,
        (perform svc d op).2) := by
  unfold dispatch
  dsimp only
  rw [h.functionCode, h.start, h.countOrValue]
  cases op with
  | readInput start count =>
      change (if fcReadInput = fcReadHolding then _ else if fcReadInput = fcReadInput then _
        else _) = _
      rw [if_neg (by decide), if_pos rfl, perform_readInput_state]
      exact congrArg (fun bytes => (bytes, d)) (buildReadResponse_eq svc d start count hfits)
  | writeSingle reg value =>
      unfold buildWriteSingleResponse
      rw [h.start, h.countOrValue]
      exact buildWriteResponse_eq (.writeSingle reg value) reg value
        (mrmWriteSingleReg svc reg value d) (fun _ => rfl)
  | writeMultiple start values =>
      have hlow : 1 ≤ values.length := hfits.1
      have hhigh : values.length ≤ 123 := hfits.2
      have hnat : (UInt16.ofNat values.length).toNat = values.length := by
        rw [UInt16.toNat_ofNat']
        change values.length % 65536 = values.length
        omega
      have hbytes : d.rxBuf.getD 6 0 = (UInt16.ofNat values.length * 2).toUInt8 := by
        rw [h.byteCount start values rfl]
        apply UInt8.toNat_inj.mp
        unfold Operation.byteCount
        rw [UInt16.toNat_toUInt8, UInt16.toNat_mul, hnat, UInt8.toNat_ofNat']
        change 2 * values.length % 256 = values.length * 2 % 65536 % 256
        omega
      have hrange : ¬(UInt16.ofNat values.length = 0 ∨
          modbusSlaveMaxWriteRegs < UInt16.ofNat values.length) := by
        rw [not_or]
        constructor
        · intro hzero
          rw [hzero] at hnat
          change 0 = values.length at hnat
          omega
        · intro hbig
          have hbig' : 123 < (UInt16.ofNat values.length).toNat := hbig
          omega
      change buildWriteMultipleResponse svc d = _
      unfold buildWriteMultipleResponse
      rw [h.start, h.countOrValue]
      change (if d.rxBuf.getD 6 0 ≠ (UInt16.ofNat values.length * 2).toUInt8 then _ else
        if UInt16.ofNat values.length = 0 ∨ modbusSlaveMaxWriteRegs < UInt16.ofNat values.length
        then _ else
        buildWriteResponse fcWriteMultiple start (UInt16.ofNat values.length)
          (bridgeWriteBlock svc start
            (blockValues d.rxBuf (UInt16.ofNat values.length).toNat) d)) = _
      rw [if_neg (fun hne => hne hbytes), if_neg hrange, hnat, h.values start values rfl]
      exact buildWriteResponse_eq (.writeMultiple start values) start
        (UInt16.ofNat values.length) (mrmWriteMultipleRegs svc start values d) (fun _ => rfl)

theorem received_request (d : Device sigma) (op : Operation) (addr : UInt8) :
    Decoded (d.received (op.request addr).onWire).rxBuf addr op := by
  have hbuf : (d.received (op.request addr).onWire).rxBuf =
      (op.request addr).body ++ (crcBytes (mbmCrc16 (op.request addr).body) ++
        d.rxBuf.drop (op.request addr).onWire.length) := by
    change (op.request addr).onWire ++ d.rxBuf.drop (op.request addr).onWire.length = _
    unfold ModbusFrame.onWire
    rw [List.append_assoc]
  rw [hbuf]
  exact decoded_request op addr _

theorem modbusSlaveProcess_request (d : Device sigma) (op : Operation) (hfits : op.Fits) :
    modbusSlaveProcess svc (op.request d.slaveAddr).onWire d =
      let received := d.received (op.request d.slaveAddr).onWire
      (some (op.response (perform svc received op).2.slaveAddr
        (perform svc received op).1).onWire, (perform svc received op).2) := by
  have hdecoded := received_request d op d.slaveAddr
  have hcrc : modbusCrc16 ((op.request d.slaveAddr).onWire.take
      ((op.request d.slaveAddr).onWire.length - 2)) =
      crcAt (op.request d.slaveAddr).onWire ((op.request d.slaveAddr).onWire.length - 2) := by
    rw [ModbusFrame.onWire_take, ModbusFrame.onWire_crcAt, crc16_agree]
  unfold modbusSlaveProcess
  dsimp only
  rw [if_neg (by rw [ModbusFrame.onWire_length]; omega), hdecoded.slaveAddr]
  change (if d.slaveAddr ≠ d.slaveAddr then _ else _) = _
  rw [if_neg (fun h => h rfl), if_neg (fun h => h hcrc),
    dispatch_decoded svc _ op d.slaveAddr hfits hdecoded]

end EnvMonitor.FieldDevice
