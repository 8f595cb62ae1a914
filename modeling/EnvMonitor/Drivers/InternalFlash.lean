import EnvMonitor.Device.Memory
import EnvMonitor.Device.Program

/-!
# The on-chip flash driver

The interface `IInternalFlash` of the gateway: page erase, program and read.  A double word
can be programmed only while it is erased.  The work of a program is counted in bytes
programmed, the work of an erase in bytes erased.
-/

namespace EnvMonitor.Drivers

open Device

abbrev internalFlashBaseAddr : Nat := 0x08000000

abbrev internalFlashSizeBytes : Nat := 0x100000

abbrev internalFlashPageSizeBytes : Nat := 2048

abbrev internalFlashDwordSizeBytes : Nat := 8

/-- First address above the bootloader. -/
abbrev internalFlashWritableFromAddr : Nat := 0x08004000

inductive IFlashOp where
  | read (addr len : Nat)
  | program (addr : Nat) (data : List UInt8)
  | erasePage (addr : Nat)
  deriving DecidableEq, Repr

/-- A read answers the bytes, or `none` for any error code; the other calls answer whether
they returned `INTERNAL_FLASH_OK`. -/
abbrev IFlashResp : IFlashOp -> Type
  | .read _ _ => Option (List UInt8)
  | .program _ _ => Bool
  | .erasePage _ => Bool

abbrev iflash : Interface where
  Op := IFlashOp
  Resp := IFlashResp

def inFlash (addr len : Nat) : Prop :=
  internalFlashBaseAddr <= addr ∧ addr + len <= internalFlashBaseAddr + internalFlashSizeBytes ∧
    addr < internalFlashBaseAddr + internalFlashSizeBytes

def inWritableFlash (addr len : Nat) : Prop :=
  inFlash addr len ∧ internalFlashWritableFromAddr <= addr

instance (addr len : Nat) : Decidable (inFlash addr len) := by
  unfold inFlash
  infer_instance

instance (addr len : Nat) : Decidable (inWritableFlash addr len) := by
  unfold inWritableFlash
  infer_instance

/-- The checks of `internal_flash_program`. -/
def iflashProgramAccepted (addr len : Nat) : Prop :=
  addr % internalFlashDwordSizeBytes = 0 ∧ len % internalFlashDwordSizeBytes = 0 ∧ len ≠ 0 ∧
    inWritableFlash addr len

/-- The checks of `internal_flash_erase_page`. -/
def iflashEraseAccepted (addr : Nat) : Prop :=
  addr % internalFlashPageSizeBytes = 0 ∧ inWritableFlash addr internalFlashPageSizeBytes

/-- The controller programs erased double words only. -/
def iflashProgrammable (addr : Nat) (data : List UInt8) (m : Memory) : Prop :=
  iflashProgramAccepted addr data.length ∧
    m.slice addr data.length = List.replicate data.length erasedByte

instance (addr len : Nat) : Decidable (iflashProgramAccepted addr len) := by
  unfold iflashProgramAccepted
  infer_instance

instance (addr : Nat) : Decidable (iflashEraseAccepted addr) := by
  unfold iflashEraseAccepted
  infer_instance

instance (addr : Nat) (data : List UInt8) (m : Memory) :
    Decidable (iflashProgrammable addr data m) := by
  unfold iflashProgrammable
  infer_instance

def iflashProgramPart (addr : Nat) (data : List UInt8) (n : Nat) (m : Memory) : Memory :=
  if iflashProgrammable addr data m then m.program addr (data.take n) else m

def iflashErasePart (addr n : Nat) (m : Memory) : Memory :=
  if iflashEraseAccepted addr then m.erase addr (min n internalFlashPageSizeBytes) else m

abbrev internalFlash : Model iflash where
  State := Memory
  complete
    | .read addr len, m =>
        (if len ≠ 0 ∧ inFlash addr len then some (m.slice addr len) else none, m)
    | .program addr data, m =>
        (decide (iflashProgrammable addr data m), iflashProgramPart addr data data.length m)
    | .erasePage addr, m =>
        (decide (iflashEraseAccepted addr),
          iflashErasePart addr internalFlashPageSizeBytes m)
  fail
    | .read _ _, _, m => (none, m)
    | .program addr data, n, m => (false, iflashProgramPart addr data n m)
    | .erasePage addr, n, m => (false, iflashErasePart addr n m)
  lose
    | .read _ _, _, m => m
    | .program addr data, n, m => iflashProgramPart addr data n m
    | .erasePage addr, n, m => iflashErasePart addr n m

abbrev IFlash := Program iflash

def iflashRead (addr len : Nat) : IFlash (Option (List UInt8)) :=
  Program.perform (I := iflash) (.read addr len)

def iflashProgram (addr : Nat) (data : List UInt8) : IFlash Bool :=
  Program.perform (I := iflash) (.program addr data)

def iflashErasePage (addr : Nat) : IFlash Bool :=
  Program.perform (I := iflash) (.erasePage addr)

/-!
## Rules
-/

section Rules

variable {F : Faults iflash} {C : Memory -> Prop} {m : Memory} {addr len : Nat}

theorem wp_iflashRead {Q : Option (List UInt8) -> Memory -> Prop} (hlen : len ≠ 0)
    (hin : inFlash addr len) :
    (iflashRead addr len).wp internalFlash F Q C m ↔
      Q (some (m.slice addr len)) m ∧
        (forall n, F.fails (.read addr len) n -> Q none m) ∧
        (forall n, F.cuts (.read addr len) n -> C m) := by
  have hcall : (iflashRead addr len).wp internalFlash F Q C m ↔
      Q (if len ≠ 0 ∧ inFlash addr len then some (m.slice addr len) else none) m ∧
        (forall n, F.fails (.read addr len) n -> Q none m) ∧
        (forall n, F.cuts (.read addr len) n -> C m) := Iff.rfl
  rw [hcall, if_pos ⟨hlen, hin⟩]

theorem wp_iflashErasePage {Q : Bool -> Memory -> Prop} (hacc : iflashEraseAccepted addr) :
    (iflashErasePage addr).wp internalFlash F Q C m ↔
      Q true (m.erase addr internalFlashPageSizeBytes) ∧
        (forall n, F.fails (.erasePage addr) n ->
          Q false (m.erase addr (min n internalFlashPageSizeBytes))) ∧
        (forall n, F.cuts (.erasePage addr) n ->
          C (m.erase addr (min n internalFlashPageSizeBytes))) := by
  have hpart : forall n, iflashErasePart addr n m =
      m.erase addr (min n internalFlashPageSizeBytes) := fun n => if_pos hacc
  have hcall : (iflashErasePage addr).wp internalFlash F Q C m ↔
      Q (decide (iflashEraseAccepted addr))
          (iflashErasePart addr internalFlashPageSizeBytes m) ∧
        (forall n, F.fails (.erasePage addr) n -> Q false (iflashErasePart addr n m)) ∧
        (forall n, F.cuts (.erasePage addr) n -> C (iflashErasePart addr n m)) := Iff.rfl
  simp only [hcall, hpart, hacc, decide_true, Nat.min_self]

theorem wp_iflashProgram {Q : Bool -> Memory -> Prop} {data : List UInt8}
    (hacc : iflashProgramAccepted addr data.length) (hblank : Memory.Blank m addr data.length) :
    (iflashProgram addr data).wp internalFlash F Q C m ↔
      Q true (m.program addr data) ∧
        (forall n, F.fails (.program addr data) n -> Q false (m.program addr (data.take n))) ∧
        (forall n, F.cuts (.program addr data) n -> C (m.program addr (data.take n))) := by
  have hready : iflashProgrammable addr data m := ⟨hacc, Memory.slice_of_blank hblank⟩
  have hpart : forall n, iflashProgramPart addr data n m = m.program addr (data.take n) :=
    fun n => if_pos hready
  have hcall : (iflashProgram addr data).wp internalFlash F Q C m ↔
      Q (decide (iflashProgrammable addr data m))
          (iflashProgramPart addr data data.length m) ∧
        (forall n, F.fails (.program addr data) n ->
          Q false (iflashProgramPart addr data n m)) ∧
        (forall n, F.cuts (.program addr data) n ->
          C (iflashProgramPart addr data n m)) := Iff.rfl
  simp only [hcall, hpart, hready, decide_true, List.take_length]

end Rules

end EnvMonitor.Drivers
