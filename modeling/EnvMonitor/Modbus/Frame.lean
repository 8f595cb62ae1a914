import EnvMonitor.Modbus.Crc16

/-!
# Modbus RTU frames

The frame record and the register words that both firmwares share.
-/

namespace EnvMonitor.Modbus

/-- Maximum PDU payload in bytes. -/
abbrev modbusMaxDataBytes : Nat := 252

/-- One request or response without the CRC; `data_len` is the length of `data`. -/
structure ModbusFrame where
  slaveAddr : UInt8
  functionCode : UInt8
  data : List UInt8
  deriving DecidableEq, Repr

abbrev fcReadHolding : UInt8 := 0x03
abbrev fcReadInput : UInt8 := 0x04
abbrev fcWriteSingle : UInt8 := 0x06
abbrev fcWriteMultiple : UInt8 := 0x10
abbrev exceptionFlag : UInt8 := 0x80

def highByte (word : UInt16) : UInt8 :=
  (word >>> 8).toUInt8

def lowByte (word : UInt16) : UInt8 :=
  word.toUInt8

/-- A register word on the wire, high byte first. -/
def wordBytes (word : UInt16) : List UInt8 :=
  [highByte word, lowByte word]

def wordOf (high low : UInt8) : UInt16 :=
  (high.toUInt16 <<< 8) ||| low.toUInt16

/-- The word at byte `i` of a frame. -/
def wordAt (bytes : List UInt8) (i : Nat) : UInt16 :=
  wordOf (bytes.getD i 0) (bytes.getD (i + 1) 0)

/-- Register words on the wire, one after another. -/
def wordsBytes (words : List UInt16) : List UInt8 :=
  words.flatMap wordBytes

/-- The CRC as it follows the frame, low byte first. -/
def crcBytes (crc : BitVec 16) : List UInt8 :=
  [UInt8.ofBitVec (crc.setWidth 8), UInt8.ofBitVec ((crc >>> 8).setWidth 8)]

/-- The CRC field at byte `i` of a frame. -/
def crcAt (bytes : List UInt8) (i : Nat) : BitVec 16 :=
  crcIn (bytes.getD i 0) ||| (crcIn (bytes.getD (i + 1) 0) <<< 8)

theorem high_or_low (word : BitVec 16) :
    ((word >>> 8).setWidth 8).setWidth 16 <<< 8 ||| (word.setWidth 8).setWidth 16 = word := by
  apply BitVec.eq_of_getLsbD_eq
  intro i hi
  simp only [BitVec.getLsbD_or, BitVec.getLsbD_shiftLeft, BitVec.getLsbD_setWidth,
    BitVec.getLsbD_ushiftRight]
  by_cases hlow : i < 8
  · simp [hlow, hi]
  · have hback : 8 + (i - 8) = i := by omega
    have hin : i - 8 < 8 := by omega
    simp [hlow, hi, hback, hin, Nat.lt_trans hin (by decide : 8 < 16)]

theorem wordOf_bytes (word : UInt16) : wordOf (highByte word) (lowByte word) = word :=
  UInt16.toBitVec_inj.mp (high_or_low word.toBitVec)

@[simp] theorem wordBytes_length (word : UInt16) : (wordBytes word).length = 2 := rfl

@[simp] theorem wordsBytes_length (words : List UInt16) :
    (wordsBytes words).length = 2 * words.length := by
  induction words with
  | nil => rfl
  | cons word words ih =>
      change (wordBytes word ++ wordsBytes words).length = _
      rw [List.length_append, ih, wordBytes_length, List.length_cons]
      omega

theorem wordAt_append (front rest : List UInt8) (i : Nat) :
    wordAt (front ++ rest) (front.length + i) = wordAt rest i := by
  unfold wordAt
  rw [List.getD_eq_getElem?_getD, List.getD_eq_getElem?_getD, Nat.add_assoc,
    List.getElem?_append_right (Nat.le_add_right _ _),
    List.getElem?_append_right (Nat.le_add_right _ _), Nat.add_sub_cancel_left,
    Nat.add_sub_cancel_left]
  rfl

theorem wordAt_wordsBytes (words : List UInt16) (rest : List UInt8) {i : Nat}
    (h : i < words.length) : wordAt (wordsBytes words ++ rest) (2 * i) = words.getD i 0 := by
  induction words generalizing i with
  | nil => exact absurd h (Nat.not_lt_zero i)
  | cons word words ih =>
      cases i with
      | zero => exact wordOf_bytes word
      | succ i => exact ih (Nat.lt_of_succ_lt_succ h)

theorem map_wordAt (front rest : List UInt8) (words : List UInt16) :
    (List.range words.length).map
      (fun i => wordAt (front ++ (wordsBytes words ++ rest)) (front.length + i * 2)) = words := by
  apply List.ext_getElem
  · rw [List.length_map, List.length_range]
  · intro i hi hwords
    rw [List.getElem_map, List.getElem_range, wordAt_append, Nat.mul_comm i 2,
      wordAt_wordsBytes words rest hwords, List.getD_eq_getElem?_getD,
      List.getElem?_eq_getElem hwords, Option.getD_some]

@[simp] theorem crcBytes_length (crc : BitVec 16) : (crcBytes crc).length = 2 := rfl

theorem crcAt_crcBytes (body : List UInt8) (crc : BitVec 16) :
    crcAt (body ++ crcBytes crc) body.length = crc := by
  have hlow : (body ++ crcBytes crc).getD body.length 0 = UInt8.ofBitVec (crc.setWidth 8) := by
    rw [List.getD_eq_getElem?_getD, List.getElem?_append_right (Nat.le_refl _), Nat.sub_self]
    rfl
  have hhigh : (body ++ crcBytes crc).getD (body.length + 1) 0 =
      UInt8.ofBitVec ((crc >>> 8).setWidth 8) := by
    rw [List.getD_eq_getElem?_getD, List.getElem?_append_right (Nat.le_succ _),
      Nat.succ_sub (Nat.le_refl _), Nat.sub_self]
    rfl
  unfold crcAt
  rw [hlow, hhigh, BitVec.or_comm]
  exact high_or_low crc

/-!
## Intact frames
-/

namespace ModbusFrame

def body (frame : ModbusFrame) : List UInt8 :=
  frame.slaveAddr :: frame.functionCode :: frame.data

/-- The frame with its CRC. -/
def onWire (frame : ModbusFrame) : List UInt8 :=
  frame.body ++ crcBytes (mbmCrc16 frame.body)

theorem onWire_length (frame : ModbusFrame) : frame.onWire.length = frame.data.length + 4 := by
  unfold onWire
  rw [List.length_append, crcBytes_length]
  rfl

theorem onWire_take (frame : ModbusFrame) :
    frame.onWire.take (frame.onWire.length - 2) = frame.body := by
  unfold onWire
  rw [List.length_append, crcBytes_length, Nat.add_sub_cancel, List.take_left]

theorem onWire_crcAt (frame : ModbusFrame) :
    crcAt frame.onWire (frame.onWire.length - 2) = mbmCrc16 frame.body := by
  unfold onWire
  rw [List.length_append, crcBytes_length, Nat.add_sub_cancel, crcAt_crcBytes]

end ModbusFrame

end EnvMonitor.Modbus
