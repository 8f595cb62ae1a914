import EnvMonitor.Device.Memory
import EnvMonitor.Device.Program

/-!
# The QSPI NOR flash driver

The interface `IQspiFlash` of the gateway: read, page program and sector
erase.  The argument checks are those of the driver; a call they reject leaves
the flash alone.  The work of a page program is counted in bytes programmed, the
work of a sector erase in bytes erased.
-/

namespace EnvMonitor.Drivers

open Device

/-- Capacity of the device in bytes. -/
abbrev qspiFlashDeviceSizeBytes : Nat := 8 * 1024 * 1024

/-- A page program may not cross a multiple of this. -/
abbrev qspiFlashPageSizeBytes : Nat := 256

/-- Granularity of an erase. -/
abbrev qspiFlashSectorSizeBytes : Nat := 4096

inductive QspiOp where
  | read (addr len : Nat)
  | writePage (addr : Nat) (data : List UInt8)
  | eraseSector (addr : Nat)
  deriving DecidableEq, Repr

/-- A read answers the bytes, or `none` for any error code; the other calls
answer whether they returned `QSPI_FLASH_OK`. -/
abbrev QspiResp : QspiOp -> Type
  | .read _ _ => Option (List UInt8)
  | .writePage _ _ => Bool
  | .eraseSector _ => Bool

abbrev qspi : Interface where
  Op := QspiOp
  Resp := QspiResp

/-- The checks of `qspi_flash_read`. -/
def qspiReadAccepted (addr len : Nat) : Prop :=
  len ≠ 0 ∧ addr < qspiFlashDeviceSizeBytes ∧
    len <= qspiFlashDeviceSizeBytes - addr

/-- The checks of `qspi_flash_write_page`. -/
def qspiWriteAccepted (addr len : Nat) : Prop :=
  len ≠ 0 ∧ len <= qspiFlashPageSizeBytes ∧ addr < qspiFlashDeviceSizeBytes ∧
    len <= qspiFlashDeviceSizeBytes - addr ∧
    addr / qspiFlashPageSizeBytes = (addr + len - 1) / qspiFlashPageSizeBytes

instance (addr len : Nat) : Decidable (qspiReadAccepted addr len) := by
  unfold qspiReadAccepted
  infer_instance

instance (addr len : Nat) : Decidable (qspiWriteAccepted addr len) := by
  unfold qspiWriteAccepted
  infer_instance

/-- The driver aligns an erase down to the sector. -/
def qspiSectorBase (addr : Nat) : Nat :=
  addr - addr % qspiFlashSectorSizeBytes

/-- Program the first `n` bytes of `data`, if the driver accepts the call. -/
def qspiProgramPart (addr : Nat) (data : List UInt8) (n : Nat) (m : Memory) :
    Memory :=
  if qspiWriteAccepted addr data.length then m.program addr (data.take n) else m

/-- Erase the first `n` bytes of the sector, if the driver accepts the call. -/
def qspiErasePart (addr n : Nat) (m : Memory) : Memory :=
  if addr < qspiFlashDeviceSizeBytes then
    m.erase (qspiSectorBase addr) (min n qspiFlashSectorSizeBytes)
  else m

abbrev qspiFlash : Model qspi where
  State := Memory
  complete
    | .read addr len, m =>
        (if qspiReadAccepted addr len then some (m.slice addr len) else none, m)
    | .writePage addr data, m =>
        (decide (qspiWriteAccepted addr data.length),
          qspiProgramPart addr data data.length m)
    | .eraseSector addr, m =>
        (decide (addr < qspiFlashDeviceSizeBytes),
          qspiErasePart addr qspiFlashSectorSizeBytes m)
  fail
    | .read _ _, _, m => (none, m)
    | .writePage addr data, n, m => (false, qspiProgramPart addr data n m)
    | .eraseSector addr, n, m => (false, qspiErasePart addr n m)
  lose
    | .read _ _, _, m => m
    | .writePage addr data, n, m => qspiProgramPart addr data n m
    | .eraseSector addr, n, m => qspiErasePart addr n m

abbrev Qspi := Program qspi

def qspiRead (addr len : Nat) : Qspi (Option (List UInt8)) :=
  Program.perform (I := qspi) (.read addr len)

def qspiWritePage (addr : Nat) (data : List UInt8) : Qspi Bool :=
  Program.perform (I := qspi) (.writePage addr data)

def qspiEraseSector (addr : Nat) : Qspi Bool :=
  Program.perform (I := qspi) (.eraseSector addr)

/-!
## Programming a range

The driver takes at most one page at a time, so its clients program a longer
range in pieces that end at the page boundaries.
-/

/-- The client's loop; the fuel bounds the number of pieces. -/
def qspiProgramLoop : Nat -> Nat -> List UInt8 -> Qspi Bool
  | 0, _, _ => pure true
  | fuel + 1, addr, data =>
      if data.length = 0 then
        pure true
      else do
        let pageLeft := qspiFlashPageSizeBytes - addr % qspiFlashPageSizeBytes
        let chunk := min data.length pageLeft
        let ok ← qspiWritePage addr (data.take chunk)
        if ok then
          qspiProgramLoop fuel (addr + chunk) (data.drop chunk)
        else
          pure false

def qspiProgramRange (addr : Nat) (data : List UInt8) : Qspi Bool :=
  qspiProgramLoop data.length addr data

/-!
## Rules
-/

section Rules

variable {F : Faults qspi} {C : Memory -> Prop} {m : Memory} {addr len : Nat}

theorem wp_qspiRead {Q : Option (List UInt8) -> Memory -> Prop}
    (hlen : 0 < len) (hend : addr + len <= qspiFlashDeviceSizeBytes) :
    (qspiRead addr len).wp qspiFlash F Q C m ↔
      Q (some (m.slice addr len)) m ∧
        (forall n, F.fails (.read addr len) n -> Q none m) ∧
        (forall n, F.cuts (.read addr len) n -> C m) := by
  have hacc : qspiReadAccepted addr len :=
    ⟨by omega, by omega, by omega⟩
  have hcall : (qspiRead addr len).wp qspiFlash F Q C m ↔
      Q (if qspiReadAccepted addr len then some (m.slice addr len) else none) m ∧
        (forall n, F.fails (.read addr len) n -> Q none m) ∧
        (forall n, F.cuts (.read addr len) n -> C m) := Iff.rfl
  rw [hcall, if_pos hacc]

theorem reads_qspiRead (hlen : 0 < len) (hend : addr + len <= qspiFlashDeviceSizeBytes) :
    Program.Reads qspiFlash F (qspiRead addr len) m (m.slice addr len) := by
  unfold Program.Reads
  rw [wp_qspiRead hlen hend]
  exact ⟨⟨rfl, .inl rfl⟩, fun n hn => ⟨rfl, .inr ⟨rfl, _, n, hn⟩⟩, fun _ _ => rfl⟩

theorem eval_qspiRead (hlen : 0 < len)
    (hend : addr + len <= qspiFlashDeviceSizeBytes) :
    (qspiRead addr len).eval qspiFlash m = (some (m.slice addr len), m) :=
  (reads_qspiRead hlen hend).eval_eq

variable {Q : Bool -> Memory -> Prop} {data : List UInt8}

theorem wp_qspiEraseSector (haligned : addr % qspiFlashSectorSizeBytes = 0)
    (hin : addr < qspiFlashDeviceSizeBytes) :
    (qspiEraseSector addr).wp qspiFlash F Q C m ↔
      Q true (m.erase addr qspiFlashSectorSizeBytes) ∧
        (forall n, F.fails (.eraseSector addr) n ->
          Q false (m.erase addr (min n qspiFlashSectorSizeBytes))) ∧
        (forall n, F.cuts (.eraseSector addr) n ->
          C (m.erase addr (min n qspiFlashSectorSizeBytes))) := by
  have hpart : forall n, qspiErasePart addr n m =
      m.erase addr (min n qspiFlashSectorSizeBytes) := by
    intro n
    unfold qspiErasePart qspiSectorBase
    rw [if_pos hin, haligned, Nat.sub_zero]
  have hcall : (qspiEraseSector addr).wp qspiFlash F Q C m ↔
      Q (decide (addr < qspiFlashDeviceSizeBytes))
          (qspiErasePart addr qspiFlashSectorSizeBytes m) ∧
        (forall n, F.fails (.eraseSector addr) n -> Q false (qspiErasePart addr n m)) ∧
        (forall n, F.cuts (.eraseSector addr) n -> C (qspiErasePart addr n m)) := Iff.rfl
  simp only [hcall, hpart, hin, decide_true, Nat.min_self]

theorem eval_qspiEraseSector (haligned : addr % qspiFlashSectorSizeBytes = 0)
    (hin : addr < qspiFlashDeviceSizeBytes) :
    (qspiEraseSector addr).eval qspiFlash m = (true, m.erase addr qspiFlashSectorSizeBytes) := by
  have hrule := wp_qspiEraseSector (F := Faults.never qspi) (C := fun _ => True) (m := m)
    (Q := fun b m' => (b, m') = (true, m.erase addr qspiFlashSectorSizeBytes)) haligned hin
  exact Program.wp_never_iff.mp
    (hrule.mpr ⟨rfl, fun _ hn => hn.elim, fun _ hn => hn.elim⟩)

theorem wp_qspiWritePage (hacc : qspiWriteAccepted addr data.length) :
    (qspiWritePage addr data).wp qspiFlash F Q C m ↔
      Q true (m.program addr data) ∧
        (forall n, F.fails (.writePage addr data) n ->
          Q false (m.program addr (data.take n))) ∧
        (forall n, F.cuts (.writePage addr data) n ->
          C (m.program addr (data.take n))) := by
  have hpart : forall n, qspiProgramPart addr data n m =
      m.program addr (data.take n) := by
    intro n
    unfold qspiProgramPart
    rw [if_pos hacc]
  have hcall : (qspiWritePage addr data).wp qspiFlash F Q C m ↔
      Q (decide (qspiWriteAccepted addr data.length))
          (qspiProgramPart addr data data.length m) ∧
        (forall n, F.fails (.writePage addr data) n ->
          Q false (qspiProgramPart addr data n m)) ∧
        (forall n, F.cuts (.writePage addr data) n ->
          C (qspiProgramPart addr data n m)) := Iff.rfl
  simp only [hcall, hpart, hacc, decide_true, List.take_length]

theorem eval_qspiWritePage (hacc : qspiWriteAccepted addr data.length) :
    (qspiWritePage addr data).eval qspiFlash m = (true, m.program addr data) := by
  have hrule := wp_qspiWritePage (F := Faults.never qspi) (C := fun _ => True) (m := m)
    (Q := fun b m' => (b, m') = (true, m.program addr data)) hacc
  exact Program.wp_never_iff.mp
    (hrule.mpr ⟨rfl, fun _ hn => hn.elim, fun _ hn => hn.elim⟩)

theorem qspiWriteAccepted_chunk (hlen : 0 < data.length)
    (hend : addr + data.length <= qspiFlashDeviceSizeBytes) :
    qspiWriteAccepted addr
      (min data.length (qspiFlashPageSizeBytes - addr % qspiFlashPageSizeBytes)) := by
  unfold qspiWriteAccepted
  simp only [qspiFlashDeviceSizeBytes, qspiFlashPageSizeBytes] at hend ⊢
  refine ⟨by omega, by omega, by omega, by omega, by omega⟩

theorem program_take_add (m : Memory) (addr k j : Nat) (data : List UInt8)
    (hk : k <= data.length) :
    (m.program addr (data.take k)).program (addr + k) ((data.drop k).take j) =
      m.program addr (data.take (k + j)) := by
  rw [List.take_add, Memory.program_append, List.length_take, Nat.min_eq_left hk]

theorem wp_qspiProgramLoop (fuel : Nat) (data : List UInt8) (hfuel : data.length <= fuel)
    (hend : addr + data.length <= qspiFlashDeviceSizeBytes) (hok : Q true (m.program addr data))
    (hfail : forall off n w, 0 < n -> off + n <= data.length ->
      F.fails (.writePage (addr + off) ((data.drop off).take n)) w ->
      Q false (m.program addr (data.take (off + min w n))))
    (hcut : forall off n w, 0 < n -> off + n <= data.length ->
      F.cuts (.writePage (addr + off) ((data.drop off).take n)) w ->
      C (m.program addr (data.take (off + min w n)))) :
    (qspiProgramLoop fuel addr data).wp qspiFlash F Q C m := by
  induction fuel generalizing m addr data with
  | zero =>
      have hnil : data = [] := List.length_eq_zero_iff.mp (by omega)
      subst hnil
      simpa [qspiProgramLoop] using hok
  | succ fuel ih =>
      unfold qspiProgramLoop
      apply Program.wp_ite
      · intro hempty
        have hnil : data = [] := List.length_eq_zero_iff.mp hempty
        subst hnil
        simpa using hok
      · intro hlen
        have hacc := qspiWriteAccepted_chunk (Nat.pos_of_ne_zero hlen) hend
        have hle := Nat.min_le_left data.length
          (qspiFlashPageSizeBytes - addr % qspiFlashPageSizeBytes)
        -- the first piece; the rest of the loop starts behind it
        dsimp only
        generalize min data.length
          (qspiFlashPageSizeBytes - addr % qspiFlashPageSizeBytes) = chunk at hacc hle ⊢
        have hlenTake : (data.take chunk).length = chunk := by simp [hle]
        rw [Program.wp_bind, wp_qspiWritePage (by rwa [hlenTake])]
        simp only [if_true, Bool.false_eq_true, if_false, Program.wp_pure, List.take_take]
        refine ⟨?_, ?_, ?_⟩
        · have hpos := hacc.1
          apply ih
          · rw [List.length_drop]
            omega
          · rw [List.length_drop]
            omega
          · have hall := Memory.program_append m addr (data.take chunk) (data.drop chunk)
            rw [List.take_append_drop, hlenTake] at hall
            rw [← hall]
            exact hok
          · intro off n w hn hoff hw
            rw [List.length_drop] at hoff
            rw [List.drop_drop, Nat.add_assoc] at hw
            rw [program_take_add m addr chunk _ data hle, ← Nat.add_assoc]
            exact hfail (chunk + off) n w hn (by omega) hw
          · intro off n w hn hoff hw
            rw [List.length_drop] at hoff
            rw [List.drop_drop, Nat.add_assoc] at hw
            rw [program_take_add m addr chunk _ data hle, ← Nat.add_assoc]
            exact hcut (chunk + off) n w hn (by omega) hw
        · intro w hw
          have h := hfail 0 chunk w (Nat.pos_of_ne_zero hacc.1) (by omega) (by simpa using hw)
          simpa using h
        · intro w hw
          have h := hcut 0 chunk w (Nat.pos_of_ne_zero hacc.1) (by omega) (by simpa using hw)
          simpa using h

theorem wp_qspiProgramRange (data : List UInt8)
    (hend : addr + data.length <= qspiFlashDeviceSizeBytes) (hok : Q true (m.program addr data))
    (hfail : forall off n w, 0 < n -> off + n <= data.length ->
      F.fails (.writePage (addr + off) ((data.drop off).take n)) w ->
      Q false (m.program addr (data.take (off + min w n))))
    (hcut : forall off n w, 0 < n -> off + n <= data.length ->
      F.cuts (.writePage (addr + off) ((data.drop off).take n)) w ->
      C (m.program addr (data.take (off + min w n)))) :
    (qspiProgramRange addr data).wp qspiFlash F Q C m :=
  wp_qspiProgramLoop data.length data (Nat.le_refl _) hend hok hfail hcut

theorem eval_qspiProgramRange (m : Memory) (data : List UInt8)
    (hend : addr + data.length <= qspiFlashDeviceSizeBytes) :
    (qspiProgramRange addr data).eval qspiFlash m = (true, m.program addr data) :=
  Program.wp_never_iff.mp
    (wp_qspiProgramRange (F := Faults.never qspi) (C := fun _ => True)
      (Q := fun ok m' => (ok, m') = (true, m.program addr data)) data hend rfl
      (fun _ _ _ _ _ hn => hn.elim) (fun _ _ _ _ _ hn => hn.elim))

theorem exec_qspiProgramRange_cut (hlen : 0 < data.length)
    (hcut : forall page, F.cuts (.writePage addr page) 0) :
    Program.Exec qspiFlash F (qspiProgramRange addr data) m none m := by
  have hnothing : forall page, qspiProgramPart addr page 0 m = m := by
    intro page
    unfold qspiProgramPart
    rw [List.take_zero, Memory.program_nil, ite_self]
  cases data with
  | nil => exact absurd hlen (Nat.lt_irrefl 0)
  | cons b data =>
      change Program.Exec qspiFlash F (qspiProgramLoop (data.length + 1) addr (b :: data)) m none m
      unfold qspiProgramLoop
      rw [if_neg (Nat.ne_of_gt hlen)]
      apply Program.Exec.bind_cut
      have hexec := Program.Exec.cut (D := qspiFlash) (k := .ret) (s := m)
        (hcut ((b :: data).take (min (b :: data).length
          (qspiFlashPageSizeBytes - addr % qspiFlashPageSizeBytes))))
      change Program.Exec qspiFlash F _ m none (qspiProgramPart addr _ 0 m) at hexec
      rw [hnothing] at hexec
      exact hexec

end Rules

end EnvMonitor.Drivers
