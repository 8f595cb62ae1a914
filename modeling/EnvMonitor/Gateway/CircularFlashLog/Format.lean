import EnvMonitor.Device.Bytes

/-!
# Record and metadata formats of the circular flash log

The byte layout of a record and of a metadata slot, and the checks the log makes
on what it reads.  Numbers are little-endian.
-/

namespace EnvMonitor.Gateway.CircularFlashLog

open Device

/-- Partition base as a device byte offset. -/
abbrev cflPartitionBaseAddr : Nat := 0x00020000

abbrev cflSectorSizeBytes : Nat := 4096

/-- First data sector, as a partition sector index. -/
abbrev cflDataSectorBase : Nat := 2

/-- Data ring length in sectors. -/
abbrev cflDataSectorCount : Nat := 254

abbrev cflMetaSlotCount : Nat := 2

/-- Metadata slot bytes covered by the CRC. -/
abbrev cflMetaSlotBodySz : Nat := 12

abbrev cflMetaSlotSz : Nat := 16

abbrev cflMetaMagic : Nat := 0xBEEF5A5B

abbrev cflMagic : Nat := 0xBEEF5A5A

abbrev cflAlignmentBytes : Nat := 4

/-- Smallest record: header, one payload byte and CRC, rounded up. -/
abbrev cflMinRecordBytes : Nat := 16

abbrev cflScanChunkBytes : Nat := 64

abbrev cflMaxRecordBytes : Nat := 4078

abbrev cflRecordHeaderSz : Nat := 12

abbrev cflRecordCrcSz : Nat := 2

/-- Reduction to the width of `uint32_t`. -/
abbrev u32 (n : Nat) : Nat := n % 2 ^ 32

/-!
## Check sums
-/

/-- One bit of the reflected CRC-16 with polynomial 0x8005. -/
def cflCrc16Bit (crc : UInt16) : UInt16 :=
  if crc &&& 1 ≠ 0 then (crc >>> 1) ^^^ 0xA001 else crc >>> 1

def cflCrc16Byte (crc : UInt16) (byte : UInt8) : UInt16 :=
  Nat.iterate cflCrc16Bit 8 (crc ^^^ byte.toUInt16)

def cflCrc16Update (crc : UInt16) (data : List UInt8) : UInt16 :=
  data.foldl cflCrc16Byte crc

theorem cflCrc16Update_append (crc : UInt16) (xs ys : List UInt8) :
    cflCrc16Update crc (xs ++ ys) = cflCrc16Update (cflCrc16Update crc xs) ys :=
  List.foldl_append

/-- One bit of the reflected CRC-32 with polynomial 0x04C11DB7. -/
def cflCrc32Bit (crc : UInt32) : UInt32 :=
  if crc &&& 1 ≠ 0 then (crc >>> 1) ^^^ 0xEDB88320 else crc >>> 1

def cflCrc32Byte (crc : UInt32) (byte : UInt8) : UInt32 :=
  Nat.iterate cflCrc32Bit 8 (crc ^^^ byte.toUInt32)

def cflCrc32 (data : List UInt8) : UInt32 :=
  data.foldl cflCrc32Byte 0xFFFFFFFF ^^^ 0xFFFFFFFF

/-!
## Records
-/

structure CflRecordHdr where
  magic : Nat
  seqNum : Nat
  dataLen : Nat
  deriving DecidableEq, Repr

/-- Flash footprint of a record that carries `len` payload bytes. -/
def cflRecordSize (len : Nat) : Nat :=
  (cflRecordHeaderSz + len + cflRecordCrcSz + (cflAlignmentBytes - 1)) /
    cflAlignmentBytes * cflAlignmentBytes

def cflHeaderBytes (hdr : CflRecordHdr) : List UInt8 :=
  putLe 4 hdr.magic ++ (putLe 4 hdr.seqNum ++ putLe 4 hdr.dataLen)

def cflParseHeader (raw : List UInt8) : CflRecordHdr where
  magic := fieldAt raw 0 4
  seqNum := fieldAt raw 4 4
  dataLen := fieldAt raw 8 4

/-- A header that describes a record which fits its sector. -/
def cflHeaderPlausible (hdr : CflRecordHdr) (offset : Nat) : Prop :=
  hdr.magic = cflMagic ∧ hdr.dataLen ≠ 0 ∧ hdr.dataLen <= cflMaxRecordBytes ∧
    offset + cflRecordSize hdr.dataLen <= cflSectorSizeBytes

/-- Another record could begin at `offset`. -/
def cflRoomForRecord (offset : Nat) : Prop :=
  offset + cflMinRecordBytes <= cflSectorSizeBytes

instance (hdr : CflRecordHdr) (offset : Nat) :
    Decidable (cflHeaderPlausible hdr offset) := by
  unfold cflHeaderPlausible
  infer_instance

instance (offset : Nat) : Decidable (cflRoomForRecord offset) := by
  unfold cflRoomForRecord
  infer_instance

def cflRecordCrc (hdr : CflRecordHdr) (data : List UInt8) : UInt16 :=
  cflCrc16Update (cflCrc16Update 0 (cflHeaderBytes hdr)) data

theorem cflHeaderBytes_length (hdr : CflRecordHdr) :
    (cflHeaderBytes hdr).length = 12 := by
  simp [cflHeaderBytes]

theorem cflParseHeader_headerBytes {hdr : CflRecordHdr} {rest : List UInt8}
    (hmagic : hdr.magic < 2 ^ 32) (hseq : hdr.seqNum < 2 ^ 32)
    (hlen : hdr.dataLen < 2 ^ 32) :
    cflParseHeader (cflHeaderBytes hdr ++ rest) = hdr := by
  have hmagicField : fieldAt (cflHeaderBytes hdr ++ rest) 0 4 = hdr.magic := by
    rw [cflHeaderBytes, List.append_assoc]
    exact fieldAt_putLe hmagic
  have hseqField : fieldAt (cflHeaderBytes hdr ++ rest) 4 4 = hdr.seqNum := by
    rw [cflHeaderBytes, List.append_assoc, fieldAt_append_right (by simp),
      List.append_assoc]
    simpa using fieldAt_putLe hseq
  have hlenField : fieldAt (cflHeaderBytes hdr ++ rest) 8 4 = hdr.dataLen := by
    rw [cflHeaderBytes, List.append_assoc, fieldAt_append_right (by simp),
      List.append_assoc, fieldAt_append_right (by simp)]
    simpa using fieldAt_putLe hlen
  simp only [cflParseHeader, hmagicField, hseqField, hlenField]

theorem not_plausible_of_lastByte_erased {raw : List UInt8} {offset : Nat}
    (hlen : raw.length = 12) (hlast : raw.getLast? = some 0xFF) :
    ¬ cflHeaderPlausible (cflParseHeader raw) offset := by
  rintro ⟨_, _, hmax, _⟩
  have hlast' : raw[11]? = some 0xFF := by
    rw [List.getLast?_eq_getElem?, hlen] at hlast
    exact hlast
  obtain ⟨hbound, hbyte⟩ := List.getElem?_eq_some_iff.mp hlast'
  have hfield : (raw.drop 8).take 4 = [raw[8], raw[9], raw[10], raw[11]] := by
    rw [List.take_of_length_le (by simp [hlen])]
    rw [List.drop_eq_getElem_cons (by omega), List.drop_eq_getElem_cons (by omega),
      List.drop_eq_getElem_cons (by omega), List.drop_eq_getElem_cons (by omega),
      List.drop_of_length_le (by omega)]
  have hval : (cflParseHeader raw).dataLen = getLe [raw[8], raw[9], raw[10], raw[11]] := by
    show getLe ((raw.drop 8).take 4) = _
    rw [hfield]
  rw [hval, hbyte] at hmax
  simp only [getLe, cflMaxRecordBytes] at hmax
  have : (0xFF : UInt8).toNat = 255 := rfl
  omega

theorem not_plausible_of_firstByte_erased {raw : List UInt8} {offset : Nat}
    (hlen : raw.length = 12) (hfirst : raw.head? = some 0xFF) :
    ¬ cflHeaderPlausible (cflParseHeader raw) offset := by
  rintro ⟨hmagic, _⟩
  cases raw with
  | nil => simp at hlen
  | cons b raw =>
      have hb : b = 0xFF := by simpa using hfirst
      subst hb
      have hval : (cflParseHeader (0xFF :: raw)).magic = 255 + 256 * getLe (raw.take 3) := rfl
      rw [hval] at hmagic
      simp only [cflMagic] at hmagic
      omega

/-!
## Metadata slots
-/

def cflMetaBody (seq head : Nat) : List UInt8 :=
  putLe 4 cflMetaMagic ++ (putLe 4 seq ++ putLe 4 head)

/-- The bytes of a metadata slot: magic, sequence number, head sector, CRC-32. -/
def cflMetaBytes (seq head : Nat) : List UInt8 :=
  cflMetaBody seq head ++ putLe 4 (cflCrc32 (cflMetaBody seq head)).toNat

/-- The sequence number and head sector of a slot that passes every check. -/
def cflMetaParse (raw : List UInt8) : Option (Nat × Nat) :=
  if fieldAt raw 0 4 ≠ cflMetaMagic then
    none
  else if fieldAt raw cflMetaSlotBodySz 4 ≠ (cflCrc32 (raw.take cflMetaSlotBodySz)).toNat then
    none
  else if fieldAt raw 8 4 >= cflDataSectorCount then
    none
  else
    some (fieldAt raw 4 4, fieldAt raw 8 4)

end EnvMonitor.Gateway.CircularFlashLog
