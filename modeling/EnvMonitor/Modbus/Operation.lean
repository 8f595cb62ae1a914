import EnvMonitor.Modbus.Frame

/-!
# What a request asks for

The meaning of a Modbus request and of its answer, independent of both codecs.
-/

namespace EnvMonitor.Modbus

/-- The requests between the gateway and its field devices. -/
inductive Operation where
  | readInput (start count : UInt16)
  | writeSingle (reg value : UInt16)
  | writeMultiple (start : UInt16) (values : List UInt16)
  deriving DecidableEq, Repr

/-- An exception code, or the words of the answer: register values or the written span. -/
abbrev Answer := Except UInt8 (List UInt16)

namespace Operation

def functionCode : Operation -> UInt8
  | .readInput _ _ => fcReadInput
  | .writeSingle _ _ => fcWriteSingle
  | .writeMultiple _ _ => fcWriteMultiple

/-- The first word of the request. -/
def start : Operation -> UInt16
  | .readInput start _ => start
  | .writeSingle reg _ => reg
  | .writeMultiple start _ => start

/-- The second word: a register count, or the value of a single write. -/
def countOrValue : Operation -> UInt16
  | .readInput _ count => count
  | .writeSingle _ value => value
  | .writeMultiple _ values => UInt16.ofNat values.length

/-- Number of registers as a byte count. -/
def byteCount (count : Nat) : UInt8 :=
  UInt8.ofNat (2 * count)

/-- The request behind address and function code. -/
def data (op : Operation) : List UInt8 :=
  wordsBytes [op.start, op.countOrValue] ++
    match op with
    | .writeMultiple _ values => byteCount values.length :: wordsBytes values
    | _ => []

def request (op : Operation) (slaveAddr : UInt8) : ModbusFrame :=
  ⟨slaveAddr, op.functionCode, op.data⟩

/-- Register counts that fit a frame. -/
def Fits : Operation -> Prop
  | .readInput _ count => 1 ≤ count.toNat ∧ count.toNat ≤ 125
  | .writeSingle _ _ => True
  | .writeMultiple _ values => 1 ≤ values.length ∧ values.length ≤ 123

/-- The response to the operation. -/
def response (op : Operation) (slaveAddr : UInt8) : Answer -> ModbusFrame
  | .error code => ⟨slaveAddr, op.functionCode ||| exceptionFlag, [code]⟩
  | .ok words =>
      match op with
      | .readInput _ _ => ⟨slaveAddr, op.functionCode, byteCount words.length :: wordsBytes words⟩
      | _ => ⟨slaveAddr, op.functionCode, wordsBytes words⟩

theorem response_slaveAddr (op : Operation) (addr : UInt8) (answer : Answer) :
    (op.response addr answer).slaveAddr = addr := by
  cases answer with
  | error code => rfl
  | ok words =>
      cases op with
      | readInput start count => rfl
      | writeSingle reg value => rfl
      | writeMultiple start values => rfl

theorem response_functionCode (op : Operation) (addr : UInt8) (words : List UInt16) :
    (op.response addr (.ok words)).functionCode = op.functionCode := by
  cases op with
  | readInput start count => rfl
  | writeSingle reg value => rfl
  | writeMultiple start values => rfl

theorem functionCode_plain (op : Operation) :
    op.functionCode ≠ op.functionCode ||| exceptionFlag := by
  cases op with
  | readInput start count =>
      change fcReadInput ≠ fcReadInput ||| exceptionFlag
      decide
  | writeSingle reg value =>
      change fcWriteSingle ≠ fcWriteSingle ||| exceptionFlag
      decide
  | writeMultiple start values =>
      change fcWriteMultiple ≠ fcWriteMultiple ||| exceptionFlag
      decide

theorem data_length {op : Operation} (h : op.Fits) : op.data.length ≤ modbusMaxDataBytes := by
  cases op with
  | readInput start count =>
      change 4 ≤ 252
      decide
  | writeSingle reg value =>
      change 4 ≤ 252
      decide
  | writeMultiple start values =>
      have hlen : values.length ≤ 123 := h.2
      unfold data
      rw [List.length_append, List.length_cons, wordsBytes_length, wordsBytes_length]
      change 2 * 2 + (2 * values.length + 1) ≤ 252
      omega

end Operation

end EnvMonitor.Modbus
