import EnvMonitor.Drivers.InternalFlash
import EnvMonitor.Gateway.ConfigStore.Crc32

/-!
# Shared firmware formats

The geometry, the boot metadata record and the slot descriptor that the application and the
bootloader share.
-/

namespace EnvMonitor.Gateway.FirmwareStore

open Device Drivers Gateway.ConfigStore

abbrev firmwarePageSize : Nat := 2048
abbrev firmwareSlotABase : Nat := 0x08006000
abbrev firmwareSlotBBase : Nat := 0x08080000

/-- Bytes in one slot: 240 pages. -/
abbrev firmwareSlotSize : Nat := 491520

abbrev firmwareHeaderSize : Nat := 128
abbrev firmwareMetaAAddr : Nat := 0x08004000
abbrev firmwareMetaBAddr : Nat := 0x08004800
abbrev firmwareDescAAddr : Nat := 0x08005000
abbrev firmwareDescBAddr : Nat := 0x08005800
abbrev firmwareMaxImageLen : Nat := firmwareSlotSize

abbrev firmwareImageMagic : UInt32 := 0x4F544131
abbrev firmwareImageHeaderVersion : Nat := 1
abbrev firmwareDescMagic : UInt32 := 0x46574453
abbrev firmwareMetaMagic : UInt32 := 0xC0DEBEEF

abbrev firmwareBankA : UInt8 := 0x0A
abbrev firmwareBankB : UInt8 := 0x0B

abbrev firmwareMetaStateConfirmed : UInt8 := 1
abbrev firmwareMetaStateTrialPending : UInt8 := 2
abbrev firmwareMetaStateTrialRunning : UInt8 := 3
abbrev firmwareMetaStateRolledBack : UInt8 := 4

abbrev firmwareErasedWord : UInt32 := 0xFFFFFFFF

/-!
## Words
-/

def wordBytes (w : UInt32) : List UInt8 :=
  putLe 4 w.toNat

def wordAt (raw : List UInt8) (i : Nat) : UInt32 :=
  UInt32.ofNat (fieldAt raw i 4)

@[simp] theorem wordBytes_length (w : UInt32) : (wordBytes w).length = 4 := by
  simp [wordBytes]

theorem wordAt_append {p s : List UInt8} {w : UInt32} {i : Nat} (h : p.length = i) :
    wordAt (p ++ (wordBytes w ++ s)) i = w := by
  unfold wordAt
  rw [fieldAt_append_right (by omega), h, Nat.sub_self]
  change UInt32.ofNat (fieldAt (putLe 4 w.toNat ++ s) 0 4) = w
  rw [fieldAt_putLe w.toNat_lt]
  exact UInt32.ofNat_toNat

/-!
## Boot metadata
-/

/-- `firmware_boot_meta_t`. -/
structure FirmwareBootMeta where
  magic : UInt32
  activeBank : UInt8
  bootState : UInt8
  previousBank : UInt8
  reserved : UInt8
  rollbackCount : UInt32
  generation : UInt32
  crc32 : UInt32
  pad : UInt32
  deriving DecidableEq, Repr

namespace FirmwareBootMeta

/-- The bytes the CRC covers. -/
def body (r : FirmwareBootMeta) : List UInt8 :=
  wordBytes r.magic ++ ([r.activeBank, r.bootState, r.previousBank, r.reserved] ++
    (wordBytes r.rollbackCount ++ wordBytes r.generation))

/-- The double word programmed last. -/
def tail (r : FirmwareBootMeta) : List UInt8 :=
  wordBytes r.crc32 ++ wordBytes r.pad

def bytes (r : FirmwareBootMeta) : List UInt8 :=
  r.body ++ r.tail

def ofBytes (raw : List UInt8) : FirmwareBootMeta where
  magic := wordAt raw 0
  activeBank := raw.getD 4 0
  bootState := raw.getD 5 0
  previousBank := raw.getD 6 0
  reserved := raw.getD 7 0
  rollbackCount := wordAt raw 8
  generation := wordAt raw 12
  crc32 := wordAt raw 16
  pad := wordAt raw 20

@[simp] theorem body_length (r : FirmwareBootMeta) : r.body.length = 16 := by
  simp [body]

@[simp] theorem tail_length (r : FirmwareBootMeta) : r.tail.length = 8 := by
  simp [tail]

@[simp] theorem bytes_length (r : FirmwareBootMeta) : r.bytes.length = 24 := by
  simp [bytes]

theorem ofBytes_bytes (r : FirmwareBootMeta) : ofBytes r.bytes = r := by
  cases r with
  | mk magic active state previous reserved count generation crc pad =>
      unfold ofBytes bytes body tail
      simp only [List.append_assoc]
      congr 1
      · exact wordAt_append (p := []) rfl
      · have h := wordAt_append
          (p := wordBytes magic ++ [active, state, previous, reserved])
          (s := wordBytes generation ++ (wordBytes crc ++ wordBytes pad)) (w := count)
          (i := 8) (by simp)
        simpa using h
      · have h := wordAt_append
          (p := wordBytes magic ++ [active, state, previous, reserved] ++ wordBytes count)
          (s := wordBytes crc ++ wordBytes pad) (w := generation) (i := 12) (by simp)
        simpa using h
      · have h := wordAt_append
          (p := wordBytes magic ++ [active, state, previous, reserved] ++ wordBytes count ++
            wordBytes generation)
          (s := wordBytes pad) (w := crc) (i := 16) (by simp)
        simpa using h
      · have h := wordAt_append
          (p := wordBytes magic ++ [active, state, previous, reserved] ++ wordBytes count ++
            wordBytes generation ++ wordBytes crc)
          (s := []) (w := pad) (i := 20) (by simp)
        simpa using h

end FirmwareBootMeta

/-!
## Slot descriptor
-/

/-- `firmware_slot_descriptor_t`. -/
structure FirmwareSlotDescriptor where
  magic : UInt32
  imageLen : UInt32
  version : UInt32
  loadAddr : UInt32
  bodyCrc32 : UInt32
  reserved : UInt32
  descCrc32 : UInt32
  pad : UInt32
  deriving DecidableEq, Repr

namespace FirmwareSlotDescriptor

/-- The bytes `desc_crc32` covers. -/
def body (d : FirmwareSlotDescriptor) : List UInt8 :=
  wordBytes d.magic ++ (wordBytes d.imageLen ++ (wordBytes d.version ++
    (wordBytes d.loadAddr ++ (wordBytes d.bodyCrc32 ++ wordBytes d.reserved))))

def tail (d : FirmwareSlotDescriptor) : List UInt8 :=
  wordBytes d.descCrc32 ++ wordBytes d.pad

def bytes (d : FirmwareSlotDescriptor) : List UInt8 :=
  d.body ++ d.tail

def ofBytes (raw : List UInt8) : FirmwareSlotDescriptor where
  magic := wordAt raw 0
  imageLen := wordAt raw 4
  version := wordAt raw 8
  loadAddr := wordAt raw 12
  bodyCrc32 := wordAt raw 16
  reserved := wordAt raw 20
  descCrc32 := wordAt raw 24
  pad := wordAt raw 28

@[simp] theorem body_length (d : FirmwareSlotDescriptor) : d.body.length = 24 := by
  simp [body]

@[simp] theorem tail_length (d : FirmwareSlotDescriptor) : d.tail.length = 8 := by
  simp [tail]

@[simp] theorem bytes_length (d : FirmwareSlotDescriptor) : d.bytes.length = 32 := by
  simp [bytes]

theorem ofBytes_bytes (d : FirmwareSlotDescriptor) : ofBytes d.bytes = d := by
  cases d with
  | mk magic len version load crc reserved descCrc pad =>
      unfold ofBytes bytes body tail
      simp only [List.append_assoc]
      congr 1
      · exact wordAt_append (p := []) rfl
      · exact wordAt_append (by simp)
      · have h := wordAt_append (p := wordBytes magic ++ wordBytes len) (w := version)
          (s := wordBytes load ++ (wordBytes crc ++ (wordBytes reserved ++
            (wordBytes descCrc ++ wordBytes pad)))) (i := 8) (by simp)
        simpa using h
      · have h := wordAt_append (p := wordBytes magic ++ wordBytes len ++ wordBytes version)
          (s := wordBytes crc ++ (wordBytes reserved ++ (wordBytes descCrc ++ wordBytes pad)))
          (w := load) (i := 12) (by simp)
        simpa using h
      · have h := wordAt_append
          (p := wordBytes magic ++ wordBytes len ++ wordBytes version ++ wordBytes load)
          (s := wordBytes reserved ++ (wordBytes descCrc ++ wordBytes pad))
          (w := crc) (i := 16) (by simp)
        simpa using h
      · have h := wordAt_append
          (p := wordBytes magic ++ wordBytes len ++ wordBytes version ++ wordBytes load ++
            wordBytes crc)
          (s := wordBytes descCrc ++ wordBytes pad) (w := reserved) (i := 20) (by simp)
        simpa using h
      · have h := wordAt_append
          (p := wordBytes magic ++ wordBytes len ++ wordBytes version ++ wordBytes load ++
            wordBytes crc ++ wordBytes reserved)
          (s := wordBytes pad) (w := descCrc) (i := 24) (by simp)
        simpa using h
      · have h := wordAt_append
          (p := wordBytes magic ++ wordBytes len ++ wordBytes version ++ wordBytes load ++
            wordBytes crc ++ wordBytes reserved ++ wordBytes descCrc)
          (s := []) (w := pad) (i := 28) (by simp)
        simpa using h

end FirmwareSlotDescriptor

end EnvMonitor.Gateway.FirmwareStore
