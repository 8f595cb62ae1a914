import Mathlib.Data.List.Basic
import Mathlib.Tactic.Common

/-!
# CRC-16/MODBUS, twice

The gateway computes the CRC bit by bit, the field device from a table.  Over any width, one
table step is eight bit steps, so the two agree when the table is right.
-/

namespace EnvMonitor.Modbus

/-!
## Bit steps and table steps
-/

section Linear

variable {w : Nat} {poly : BitVec w}

/-- One step of a reflected CRC. -/
def crcBit (poly crc : BitVec w) : BitVec w :=
  if crc.getLsbD 0 then (crc >>> 1) ^^^ poly else crc >>> 1

def crcBits (poly : BitVec w) : Nat -> BitVec w -> BitVec w
  | 0, crc => crc
  | n + 1, crc => crcBits poly n (crcBit poly crc)

theorem crcBit_xor (x y : BitVec w) :
    crcBit poly (x ^^^ y) = crcBit poly x ^^^ crcBit poly y := by
  have hself : poly ^^^ poly = 0#w := BitVec.xor_self
  unfold crcBit
  rw [BitVec.getLsbD_xor, BitVec.ushiftRight_xor_distrib]
  cases hx : x.getLsbD 0 with
  | false =>
      cases hy : y.getLsbD 0 with
      | false => rfl
      | true =>
          simp only [Bool.false_xor, if_true, Bool.false_eq_true, if_false]
          rw [BitVec.xor_assoc]
  | true =>
      cases hy : y.getLsbD 0 with
      | false =>
          simp only [Bool.xor_false, if_true, Bool.false_eq_true, if_false]
          rw [BitVec.xor_assoc, BitVec.xor_assoc, BitVec.xor_comm (y >>> 1)]
      | true =>
          simp only [Bool.xor_self, if_true, Bool.false_eq_true, if_false]
          rw [BitVec.xor_assoc, ← BitVec.xor_assoc poly, BitVec.xor_comm poly,
            BitVec.xor_assoc (y >>> 1), hself, BitVec.xor_zero]

theorem crcBits_xor (n : Nat) (x y : BitVec w) :
    crcBits poly n (x ^^^ y) = crcBits poly n x ^^^ crcBits poly n y := by
  induction n generalizing x y with
  | zero => rfl
  | succ n ih =>
      unfold crcBits
      rw [crcBit_xor, ih]

theorem crcBits_shift (n : Nat) (x : BitVec w) (h : forall i, i < n -> x.getLsbD i = false) :
    crcBits poly n x = x >>> n := by
  induction n generalizing x with
  | zero => exact (BitVec.ushiftRight_zero x).symm
  | succ n ih =>
      have hlow : crcBit poly x = x >>> 1 := by
        unfold crcBit
        rw [h 0 (by omega), if_neg Bool.false_ne_true]
      unfold crcBits
      rw [hlow, ih (x >>> 1), ← BitVec.shiftRight_add, Nat.add_comm 1 n]
      intro i hi
      rw [BitVec.getLsbD_ushiftRight]
      exact h (1 + i) (by omega)

theorem crcBits_byte (x : BitVec w) :
    crcBits poly 8 x = (x >>> 8) ^^^ crcBits poly 8 (x &&& 0xFF#w) := by
  have hsplit : x = (x &&& ~~~ 0xFF#w) ^^^ (x &&& 0xFF#w) := by
    apply BitVec.eq_of_getLsbD_eq
    intro i hi
    rw [BitVec.getLsbD_xor, BitVec.getLsbD_and, BitVec.getLsbD_and, BitVec.getLsbD_not]
    cases x.getLsbD i with
    | false => simp
    | true => cases (0xFF#w).getLsbD i <;> simp [hi]
  have hmask : forall i, (0xFF#w).getLsbD i = (decide (i < w) && decide (i < 8)) := by
    intro i
    rw [BitVec.getLsbD_ofNat]
    congr 1
    exact Nat.testBit_two_pow_sub_one 8 i
  have hhigh : crcBits poly 8 (x &&& ~~~ 0xFF#w) = x >>> 8 := by
    rw [crcBits_shift]
    · apply BitVec.eq_of_getLsbD_eq
      intro i hi
      rw [BitVec.getLsbD_ushiftRight, BitVec.getLsbD_ushiftRight, BitVec.getLsbD_and,
        BitVec.getLsbD_not, hmask]
      by_cases hin : 8 + i < w
      · simp [hin]
      · rw [BitVec.getLsbD_of_ge x (8 + i) (by omega)]
        simp
    · intro i hi
      rw [BitVec.getLsbD_and, BitVec.getLsbD_not, hmask]
      by_cases hin : i < w
      · simp [hin, hi]
      · simp [hin]
  conv =>
    lhs
    rw [hsplit, crcBits_xor, hhigh]

end Linear

/-!
## The two implementations
-/

abbrev crc16Init : BitVec 16 := 0xFFFF
abbrev crc16Poly : BitVec 16 := 0xA001

/-- A byte in the CRC register. -/
def crcIn (byte : UInt8) : BitVec 16 :=
  byte.toBitVec.setWidth 16

/-- `mbm_crc16` of the gateway. -/
def mbmCrc16 (data : List UInt8) : BitVec 16 :=
  data.foldl (fun crc byte => crcBits crc16Poly 8 (crc ^^^ crcIn byte)) crc16Init

/-- CRC-16/IBM lookup table of the field device. -/
def crcTable : Array (BitVec 16) := #[
    0x0000, 0xC0C1, 0xC181, 0x0140, 0xC301, 0x03C0, 0x0280, 0xC241, 0xC601, 0x06C0,
    0x0780, 0xC741, 0x0500, 0xC5C1, 0xC481, 0x0440, 0xCC01, 0x0CC0, 0x0D80, 0xCD41,
    0x0F00, 0xCFC1, 0xCE81, 0x0E40, 0x0A00, 0xCAC1, 0xCB81, 0x0B40, 0xC901, 0x09C0,
    0x0880, 0xC841, 0xD801, 0x18C0, 0x1980, 0xD941, 0x1B00, 0xDBC1, 0xDA81, 0x1A40,
    0x1E00, 0xDEC1, 0xDF81, 0x1F40, 0xDD01, 0x1DC0, 0x1C80, 0xDC41, 0x1400, 0xD4C1,
    0xD581, 0x1540, 0xD701, 0x17C0, 0x1680, 0xD641, 0xD201, 0x12C0, 0x1380, 0xD341,
    0x1100, 0xD1C1, 0xD081, 0x1040, 0xF001, 0x30C0, 0x3180, 0xF141, 0x3300, 0xF3C1,
    0xF281, 0x3240, 0x3600, 0xF6C1, 0xF781, 0x3740, 0xF501, 0x35C0, 0x3480, 0xF441,
    0x3C00, 0xFCC1, 0xFD81, 0x3D40, 0xFF01, 0x3FC0, 0x3E80, 0xFE41, 0xFA01, 0x3AC0,
    0x3B80, 0xFB41, 0x3900, 0xF9C1, 0xF881, 0x3840, 0x2800, 0xE8C1, 0xE981, 0x2940,
    0xEB01, 0x2BC0, 0x2A80, 0xEA41, 0xEE01, 0x2EC0, 0x2F80, 0xEF41, 0x2D00, 0xEDC1,
    0xEC81, 0x2C40, 0xE401, 0x24C0, 0x2580, 0xE541, 0x2700, 0xE7C1, 0xE681, 0x2640,
    0x2200, 0xE2C1, 0xE381, 0x2340, 0xE101, 0x21C0, 0x2080, 0xE041, 0xA001, 0x60C0,
    0x6180, 0xA141, 0x6300, 0xA3C1, 0xA281, 0x6240, 0x6600, 0xA6C1, 0xA781, 0x6740,
    0xA501, 0x65C0, 0x6480, 0xA441, 0x6C00, 0xACC1, 0xAD81, 0x6D40, 0xAF01, 0x6FC0,
    0x6E80, 0xAE41, 0xAA01, 0x6AC0, 0x6B80, 0xAB41, 0x6900, 0xA9C1, 0xA881, 0x6840,
    0x7800, 0xB8C1, 0xB981, 0x7940, 0xBB01, 0x7BC0, 0x7A80, 0xBA41, 0xBE01, 0x7EC0,
    0x7F80, 0xBF41, 0x7D00, 0xBDC1, 0xBC81, 0x7C40, 0xB401, 0x74C0, 0x7580, 0xB541,
    0x7700, 0xB7C1, 0xB681, 0x7640, 0x7200, 0xB2C1, 0xB381, 0x7340, 0xB101, 0x71C0,
    0x7080, 0xB041, 0x5000, 0x90C1, 0x9181, 0x5140, 0x9301, 0x53C0, 0x5280, 0x9241,
    0x9601, 0x56C0, 0x5780, 0x9741, 0x5500, 0x95C1, 0x9481, 0x5440, 0x9C01, 0x5CC0,
    0x5D80, 0x9D41, 0x5F00, 0x9FC1, 0x9E81, 0x5E40, 0x5A00, 0x9AC1, 0x9B81, 0x5B40,
    0x9901, 0x59C0, 0x5880, 0x9841, 0x8801, 0x48C0, 0x4980, 0x8941, 0x4B00, 0x8BC1,
    0x8A81, 0x4A40, 0x4E00, 0x8EC1, 0x8F81, 0x4F40, 0x8D01, 0x4DC0, 0x4C80, 0x8C41,
    0x4400, 0x84C1, 0x8581, 0x4540, 0x8701, 0x47C0, 0x4680, 0x8641, 0x8201, 0x42C0,
    0x4380, 0x8341, 0x4100, 0x81C1, 0x8081, 0x4040]

/-- `modbus_crc16` of the field device. -/
def modbusCrc16 (buf : List UInt8) : BitVec 16 :=
  buf.foldl
    (fun crc byte => (crc >>> 8) ^^^ crcTable.getD ((crc ^^^ crcIn byte) &&& 0xFF).toNat 0)
    crc16Init

theorem crcTable_entry : forall i : Fin 256,
    crcTable.getD i 0 = crcBits crc16Poly 8 (BitVec.ofNat 16 i) := by
  decide +kernel

theorem crcTable_step (crc : BitVec 16) (byte : UInt8) :
    (crc >>> 8) ^^^ crcTable.getD ((crc ^^^ crcIn byte) &&& 0xFF).toNat 0 =
      crcBits crc16Poly 8 (crc ^^^ crcIn byte) := by
  have hin : (crc ^^^ crcIn byte) >>> 8 = crc >>> 8 := by
    apply BitVec.eq_of_getLsbD_eq
    intro i hi
    rw [BitVec.getLsbD_ushiftRight, BitVec.getLsbD_ushiftRight, BitVec.getLsbD_xor]
    unfold crcIn
    rw [BitVec.getLsbD_setWidth, BitVec.getLsbD_of_ge byte.toBitVec (8 + i) (by omega)]
    simp
  have hlt : ((crc ^^^ crcIn byte) &&& 0xFF).toNat < 256 := by
    rw [BitVec.toNat_and]
    exact Nat.lt_of_le_of_lt Nat.and_le_right (by decide)
  have hentry := crcTable_entry ⟨_, hlt⟩
  change crcTable.getD ((crc ^^^ crcIn byte) &&& 0xFF).toNat 0 = crcBits crc16Poly 8
    (BitVec.ofNat 16 ((crc ^^^ crcIn byte) &&& 0xFF).toNat) at hentry
  rw [BitVec.ofNat_toNat, BitVec.setWidth_eq] at hentry
  rw [hentry, crcBits_byte (crc ^^^ crcIn byte), hin]
  rfl

theorem crc16_agree (data : List UInt8) : modbusCrc16 data = mbmCrc16 data := by
  unfold modbusCrc16 mbmCrc16
  congr 1
  funext crc byte
  exact crcTable_step crc byte

end EnvMonitor.Modbus
