import EnvMonitor.Config.TwoCopies
import EnvMonitor.Drivers.QspiFlash
import EnvMonitor.Gateway.ConfigStore.Crc32

/-!
# One slot of a configuration store

Both devices keep their configuration in two slots of one layout: a header with a magic word,
a sequence number and the length of the blob, the blob, erased bytes, and a CRC-32 over
everything before it.  The magic word and the lengths a reader accepts differ.
-/

namespace EnvMonitor.ConfigStore

open Device Drivers Gateway.ConfigStore
open Config (Side Copy Copies)

abbrev configStoreSlotSize : Nat := 32 * 1024

abbrev configStoreSectorSize : Nat := 4 * 1024

abbrev csSectorsPerSlot : Nat := configStoreSlotSize / configStoreSectorSize

abbrev csHeaderSize : Nat := 16

/-- Offset of the CRC in a slot; the bytes before it are covered. -/
abbrev csCrcOffset : Nat := 0x7FF8

abbrev csCrcSize : Nat := 4

/-- The bytes of a slot that are ever read. -/
abbrev csSlotUsed : Nat := csCrcOffset + csCrcSize

abbrev csDataAreaSize : Nat := csCrcOffset - csHeaderSize

abbrev configStoreMaxDataBytes : Nat := 32712

/-- The partition begins at offset 0 of the flash; slot B follows slot A. -/
def csSlotBase : Side -> Nat
  | .a => 0
  | .b => configStoreSlotSize

/-- What distinguishes the slots of the two devices. -/
structure SlotFormat where
  magic : Nat
  accepts : Nat -> Bool
  magic_lt : magic < 256 ^ 4
  accepts_blob : forall n, n <= configStoreMaxDataBytes -> accepts n = true

/-!
## Contents
-/

def csHeader (fmt : SlotFormat) (seq len : Nat) : List UInt8 :=
  putLe 4 fmt.magic ++ putLe 4 seq ++ putLe 4 len ++ putLe 4 0

/-- Header, blob, and erased bytes up to the CRC. -/
def slotBody (fmt : SlotFormat) (seq : Nat) (data : List UInt8) : List UInt8 :=
  (csHeader fmt seq data.length ++ data) ++
    List.replicate (csDataAreaSize - data.length) erasedByte

/-- A complete slot, CRC included. -/
def slotImage (fmt : SlotFormat) (seq : Nat) (data : List UInt8) : List UInt8 :=
  slotBody fmt seq data ++ putLe 4 (configStoreCrc32 (slotBody fmt seq data)).toNat

/-- The copy a slot holds, if its header and its CRC are right. -/
def decodeSlot (fmt : SlotFormat) (bytes : List UInt8) : Option (Copy (List UInt8)) :=
  if fieldAt bytes 0 4 = fmt.magic ∧ fmt.accepts (fieldAt bytes 8 4) = true ∧
      (configStoreCrc32 (bytes.take csCrcOffset)).toNat = getLe (bytes.drop csCrcOffset) then
    some ⟨fieldAt bytes 4 4, (bytes.drop csHeaderSize).take (fieldAt bytes 8 4)⟩
  else none

/-- What the two slots of a flash hold. -/
def copies (fmt : SlotFormat) (m : Memory) : Copies (List UInt8) :=
  fun s => decodeSlot fmt (m.slice (csSlotBase s) csSlotUsed)

section Contents

variable {fmt : SlotFormat} {seq : Nat} {data : List UInt8}

@[simp] theorem csHeader_length (fmt : SlotFormat) (seq len : Nat) :
    (csHeader fmt seq len).length = csHeaderSize := by
  unfold csHeader
  simp

theorem slotBody_length (fmt : SlotFormat) (seq : Nat)
    (hlen : data.length <= configStoreMaxDataBytes) :
    (slotBody fmt seq data).length = csCrcOffset := by
  unfold slotBody
  simp only [List.length_append, csHeader_length, List.length_replicate]
  simp only [configStoreMaxDataBytes] at hlen
  simp only [csDataAreaSize, csCrcOffset, csHeaderSize]
  omega

theorem csHeader_fields (fmt : SlotFormat) {len : Nat} (rest : List UInt8) (hseq : seq < 256 ^ 4)
    (hlen : len < 256 ^ 4) :
    fieldAt (csHeader fmt seq len ++ rest) 0 4 = fmt.magic ∧
      fieldAt (csHeader fmt seq len ++ rest) 4 4 = seq ∧
      fieldAt (csHeader fmt seq len ++ rest) 8 4 = len := by
  unfold csHeader
  simp only [List.append_assoc]
  constructor
  · exact fieldAt_putLe fmt.magic_lt
  constructor
  · rw [fieldAt_append_right (by simp)]
    simp only [putLe_length, Nat.sub_self]
    exact fieldAt_putLe hseq
  · rw [fieldAt_append_right (by simp)]
    simp only [putLe_length]
    rw [fieldAt_append_right (by simp)]
    simp only [putLe_length]
    exact fieldAt_putLe hlen

theorem decodeSlot_slotImage (hseq : seq < 256 ^ 4)
    (hlen : data.length <= configStoreMaxDataBytes) :
    decodeSlot fmt (slotImage fmt seq data) = some ⟨seq, data⟩ := by
  have hbody := slotBody_length fmt seq hlen
  have hlen' : data.length < 256 ^ 4 := by
    simp only [configStoreMaxDataBytes] at hlen
    omega
  have himage : slotImage fmt seq data =
      csHeader fmt seq data.length ++ (data ++
        (List.replicate (csDataAreaSize - data.length) erasedByte ++
          putLe 4 (configStoreCrc32 (slotBody fmt seq data)).toNat)) := by
    change slotBody fmt seq data ++ _ = _
    unfold slotBody
    simp only [List.append_assoc]
  rcases csHeader_fields fmt (data ++
    (List.replicate (csDataAreaSize - data.length) erasedByte ++
      putLe 4 (configStoreCrc32 (slotBody fmt seq data)).toNat)) hseq hlen' with
    ⟨hmagic, hseqField, hlenField⟩
  rw [← himage] at hmagic hseqField hlenField
  have hcovered : (slotImage fmt seq data).take csCrcOffset = slotBody fmt seq data := by
    unfold slotImage
    rw [← hbody]
    exact List.take_left
  have hstored : (slotImage fmt seq data).drop csCrcOffset =
      putLe 4 (configStoreCrc32 (slotBody fmt seq data)).toNat := by
    unfold slotImage
    rw [← hbody]
    exact List.drop_left
  have hblob : ((slotImage fmt seq data).drop csHeaderSize).take data.length = data := by
    rw [himage, ← csHeader_length fmt seq data.length, List.drop_left]
    exact List.take_left
  have hcrc : (configStoreCrc32 (slotBody fmt seq data)).toNat < 256 ^ 4 :=
    (configStoreCrc32 (slotBody fmt seq data)).toNat_lt
  unfold decodeSlot
  rw [hmagic, hseqField, hlenField, hcovered, hstored, hblob, getLe_putLe_of_lt hcrc,
    if_pos ⟨rfl, fmt.accepts_blob _ hlen, rfl⟩]

end Contents

/-!
## Reading

The CRC of a slot is computed from reads of 256 bytes, the last one shorter.
-/

abbrev csChunkSize : Nat := 256

/-- The loop over the covered bytes from offset `off` on; the fuel bounds the reads. -/
def csSlotCrcLoop (base : Nat) : Nat -> Nat -> UInt32 -> Qspi (Option UInt32)
  | 0, _, crc => pure (some crc)
  | fuel + 1, off, crc =>
      if off < csCrcOffset then do
        let take := min (csCrcOffset - off) csChunkSize
        match ← qspiRead (base + off) take with
        | none => pure none
        | some chunk => csSlotCrcLoop base fuel (off + take) (configStoreCrc32Feed crc chunk)
      else
        pure (some crc)

def csSlotCrc (base : Nat) : Qspi (Option UInt32) :=
  csSlotCrcLoop base csCrcOffset 0 configStoreCrc32Begin

section Reading

variable {F : Faults qspi} {m : Memory} {base : Nat}

theorem csSlotBase_le (s : Side) : csSlotBase s + configStoreSlotSize <=
    qspiFlashDeviceSizeBytes := by
  cases s <;> decide

theorem reads_csSlotCrcLoop (hend : base + csCrcOffset <= qspiFlashDeviceSizeBytes)
    (fuel off : Nat) (crc : UInt32) (hfuel : csCrcOffset - off <= fuel) :
    Program.Reads qspiFlash F (csSlotCrcLoop base fuel off crc) m
      (configStoreCrc32Feed crc (m.slice (base + off) (csCrcOffset - off))) := by
  induction fuel generalizing off crc with
  | zero =>
      have hdone : csCrcOffset - off = 0 := Nat.eq_zero_of_le_zero hfuel
      rw [hdone, Memory.slice_zero, configStoreCrc32Feed_nil]
      exact Program.reads_pure crc
  | succ fuel ih =>
      unfold csSlotCrcLoop
      by_cases hoff : off < csCrcOffset
      · rw [if_pos hoff]
        dsimp only
        have hpos : 0 < min (csCrcOffset - off) csChunkSize := by
          simp only [csChunkSize]
          omega
        have hle := Nat.min_le_left (csCrcOffset - off) csChunkSize
        generalize min (csCrcOffset - off) csChunkSize = take at hpos hle ⊢
        apply Program.Reads.bind (reads_qspiRead hpos (by omega))
        · rfl
        · have hsplit : csCrcOffset - off = take + (csCrcOffset - (off + take)) := by omega
          rw [hsplit, Memory.slice_add, configStoreCrc32Feed_append, Nat.add_assoc]
          exact ih (off + take) _ (by omega)
      · rw [if_neg hoff]
        have hdone : csCrcOffset - off = 0 := by omega
        rw [hdone, Memory.slice_zero, configStoreCrc32Feed_nil]
        exact Program.reads_pure crc

theorem reads_csSlotCrc (s : Side) :
    Program.Reads qspiFlash F (csSlotCrc (csSlotBase s)) m
      (configStoreCrc32Feed configStoreCrc32Begin (m.slice (csSlotBase s) csCrcOffset)) := by
  have hin := csSlotBase_le s
  have hend : csSlotBase s + csCrcOffset <= qspiFlashDeviceSizeBytes :=
    Nat.le_trans (Nat.add_le_add_left (by decide) _) hin
  exact reads_csSlotCrcLoop hend csCrcOffset 0 configStoreCrc32Begin (Nat.sub_le _ _)

theorem slice_csHeader (m : Memory) (base : Nat) :
    m.slice base csHeaderSize = (m.slice base csSlotUsed).take csHeaderSize :=
  Memory.slice_take m base (by decide)

theorem slice_covered (m : Memory) (base : Nat) :
    m.slice base csCrcOffset = (m.slice base csSlotUsed).take csCrcOffset :=
  Memory.slice_take m base (by decide)

theorem slice_csCrc (m : Memory) (base : Nat) :
    m.slice (base + csCrcOffset) csCrcSize = (m.slice base csSlotUsed).drop csCrcOffset := by
  have hsize : csSlotUsed - csCrcOffset = csCrcSize := Nat.add_sub_cancel_left _ _
  rw [← hsize]
  exact Memory.slice_drop m base (Nat.le_add_right _ _)

theorem fieldAt_header (bytes : List UInt8) (i : Nat) (hi : i + 4 <= csHeaderSize) :
    fieldAt (bytes.take csHeaderSize) i 4 = fieldAt bytes i 4 := by
  unfold fieldAt
  rw [List.drop_take, List.take_take, Nat.min_eq_left (by omega)]

theorem slice_blob {fmt : SlotFormat} {s : Side} {x : Copy (List UInt8)}
    (hcopy : copies fmt m s = some x) (hlen : x.value.length <= configStoreMaxDataBytes) :
    fieldAt (m.slice (csSlotBase s) csHeaderSize) 8 4 = x.value.length ∧
      m.slice (csSlotBase s + csHeaderSize) x.value.length = x.value := by
  have hfield := fieldAt_header (m.slice (csSlotBase s) csSlotUsed) 8 (by decide)
  rw [← slice_csHeader] at hfield
  rw [hfield]
  change decodeSlot fmt (m.slice (csSlotBase s) csSlotUsed) = some x at hcopy
  unfold decodeSlot at hcopy
  split at hcopy
  · cases hcopy
    dsimp only at hlen ⊢
    generalize fieldAt (m.slice (csSlotBase s) csSlotUsed) 8 4 = len at hlen ⊢
    have harea := Memory.slice_drop m (csSlotBase s) (k := csHeaderSize) (n := csSlotUsed)
      (by decide)
    rw [← harea] at hlen ⊢
    rw [List.length_take, Memory.slice_length] at hlen ⊢
    have hle : len <= csSlotUsed - csHeaderSize := by
      simp only [configStoreMaxDataBytes] at hlen
      simp only [csSlotUsed, csHeaderSize, csCrcOffset, csCrcSize] at hlen ⊢
      omega
    rw [Nat.min_eq_left hle]
    exact ⟨rfl, Memory.slice_take m _ hle⟩
  · cases hcopy

end Reading

/-!
## Writing

The slot is erased sector by sector, then header, blob and CRC are programmed in that order.
-/

def csEraseSectors : Nat -> Nat -> Qspi Bool
  | 0, _ => pure true
  | n + 1, addr => do
      if ← qspiEraseSector addr then
        csEraseSectors n (addr + configStoreSectorSize)
      else
        pure false

/-- Feed `n` erased bytes in pieces of at most `chunk` bytes; the fuel bounds the pieces. -/
def csCrcFeedPadding (chunk : Nat) : Nat -> Nat -> UInt32 -> UInt32
  | 0, _, crc => crc
  | fuel + 1, n, crc =>
      if 0 < n then
        let take := min n chunk
        csCrcFeedPadding chunk fuel (n - take)
          (configStoreCrc32Feed crc (List.replicate take erasedByte))
      else
        crc

inductive Commit where
  | done
  | eraseFailed
  | writeFailed
  deriving DecidableEq, Repr

/-- Erase a slot and write it; the CRC is computed from RAM in pieces of `padChunk`. -/
def csWriteSlot (fmt : SlotFormat) (padChunk base seq : Nat) (data : List UInt8) :
    Qspi Commit := do
  if ← csEraseSectors csSectorsPerSlot base then
    let hdr := csHeader fmt seq data.length
    if ← qspiProgramRange base hdr then
      if ← qspiProgramRange (base + csHeaderSize) data then
        let padLen := csDataAreaSize - data.length
        let crc := configStoreCrc32Feed (configStoreCrc32Feed configStoreCrc32Begin hdr) data
        let crcVal := configStoreCrc32End (csCrcFeedPadding padChunk padLen padLen crc)
        -- the commit point: until it lands the CRC of the slot is wrong
        if ← qspiProgramRange (base + csCrcOffset) (putLe 4 crcVal.toNat) then
          pure .done
        else
          pure .writeFailed
      else
        pure .writeFailed
    else
      pure .writeFailed
  else
    pure .eraseFailed

section Writing

variable {F : Faults qspi} {m m' : Memory} {base addr : Nat}

theorem csCrcFeedPadding_eq {chunk : Nat} (hchunk : 0 < chunk) (fuel n : Nat) (crc : UInt32)
    (hfuel : n <= fuel) : csCrcFeedPadding chunk fuel n crc =
      configStoreCrc32Feed crc (List.replicate n erasedByte) := by
  induction fuel generalizing n crc with
  | zero =>
      have hn : n = 0 := Nat.eq_zero_of_le_zero hfuel
      rw [hn, List.replicate_zero, configStoreCrc32Feed_nil]
      rfl
  | succ fuel ih =>
      unfold csCrcFeedPadding
      by_cases hn : 0 < n
      · rw [if_pos hn]
        dsimp only
        have hpos : 0 < min n chunk := Nat.lt_min.mpr ⟨hn, hchunk⟩
        have hle := Nat.min_le_left n chunk
        generalize min n chunk = take at hpos hle ⊢
        have hsplit : List.replicate n erasedByte =
            List.replicate take erasedByte ++ List.replicate (n - take) erasedByte := by
          rw [List.replicate_append_replicate, Nat.add_sub_cancel' hle]
        rw [ih (n - take) _ (by omega), hsplit, configStoreCrc32Feed_append]
      · have hzero : n = 0 := by omega
        rw [if_neg hn, hzero, List.replicate_zero, configStoreCrc32Feed_nil]

variable {data : List UInt8} {padChunk seq : Nat} {fmt : SlotFormat}

theorem csCrc_written (hchunk : 0 < padChunk) :
    configStoreCrc32End (csCrcFeedPadding padChunk (csDataAreaSize - data.length)
      (csDataAreaSize - data.length)
      (configStoreCrc32Feed (configStoreCrc32Feed configStoreCrc32Begin
        (csHeader fmt seq data.length)) data)) =
      configStoreCrc32 (slotBody fmt seq data) := by
  rw [csCrcFeedPadding_eq hchunk _ _ _ (Nat.le_refl _), ← configStoreCrc32Feed_append,
    ← configStoreCrc32Feed_append]
  rfl

theorem erase_within (m : Memory) (addr n k : Nat) :
    m.SameOutside (m.erase addr (min k configStoreSectorSize)) addr
      ((n + 1) * configStoreSectorSize) := by
  apply (Memory.erase_sameOutside m addr (min k configStoreSectorSize)).widen (Nat.le_refl addr)
  have hmin := Nat.min_le_right k configStoreSectorSize
  rw [Nat.succ_mul]
  omega

theorem wp_csEraseSectors (n : Nat) (haligned : addr % configStoreSectorSize = 0)
    (hend : addr + n * configStoreSectorSize <= qspiFlashDeviceSizeBytes) :
    (csEraseSectors n addr).wp qspiFlash F
      (fun ok (m' : Memory) => m.SameOutside m' addr (n * configStoreSectorSize) ∧
        (ok = true -> m'.Blank addr (n * configStoreSectorSize)) ∧
        (ok = false -> exists op k, F.fails op k))
      (fun (m' : Memory) => m.SameOutside m' addr (n * configStoreSectorSize)) m := by
  induction n generalizing m addr with
  | zero =>
      constructor
      · exact Memory.SameOutside.refl m addr _
      · exact ⟨fun _ x hlo hhi => by omega, fun h => nomatch h⟩
  | succ n ih =>
      have hpos : 0 < configStoreSectorSize := by decide
      have hfirst := erase_within m addr n configStoreSectorSize
      rw [Nat.min_self] at hfirst
      have hwiden : addr + configStoreSectorSize + n * configStoreSectorSize =
          addr + (n + 1) * configStoreSectorSize := by
        rw [Nat.succ_mul]
        omega
      unfold csEraseSectors
      rw [Program.wp_bind, wp_qspiEraseSector haligned
        (by rw [← hwiden] at hend; omega)]
      refine ⟨?_, fun k hk => ⟨erase_within m addr n k, (fun h => nomatch h), fun _ => ⟨_, k, hk⟩⟩,
        fun k _ => erase_within m addr n k⟩
      -- the first sector is blank and stays so while the others are erased
      rw [if_pos rfl]
      have hrest := @ih (m.erase addr configStoreSectorSize) (addr + configStoreSectorSize) (by rw [Nat.add_mod_right]; exact haligned)
        (by rw [hwiden]; exact hend)
      have hjoin : forall m' : Memory,
          (m.erase addr configStoreSectorSize).SameOutside m' (addr + configStoreSectorSize)
            (n * configStoreSectorSize) ->
          m.SameOutside m' addr ((n + 1) * configStoreSectorSize) :=
        fun m' hsame => hfirst.trans
          (hsame.widen (Nat.le_add_right _ _) (Nat.le_of_eq hwiden))
      apply Program.wp_mono _ hjoin hrest
      intro ok m' hdone
      rcases hdone with ⟨hsame, hblank, hfailed⟩
      constructor
      · exact hjoin m' hsame
      constructor
      · intro hok x hlo hhi
        by_cases hx : x < addr + configStoreSectorSize
        · rw [hsame x (.inl hx)]
          exact Memory.erase_blank m addr configStoreSectorSize x hlo hx
        · exact hblank hok x (Nat.le_of_not_lt hx) (by rw [hwiden]; exact hhi)
      · exact hfailed

theorem wp_qspiProgramRange_within (hend : addr + data.length <= qspiFlashDeviceSizeBytes) :
    (qspiProgramRange addr data).wp qspiFlash F
      (fun ok (m' : Memory) => m.SameOutside m' addr data.length ∧
        (ok = true -> m' = m.program addr data) ∧ (ok = false -> exists op k, F.fails op k))
      (fun (m' : Memory) => m.SameOutside m' addr data.length) m := by
  have hpart : forall k, m.SameOutside (m.program addr (data.take k)) addr data.length := by
    intro k
    apply (Memory.program_sameOutside m addr (data.take k)).widen (Nat.le_refl addr)
    have hlen := List.length_take_le' k data
    omega
  apply wp_qspiProgramRange data hend
  · exact ⟨Memory.program_sameOutside m addr data, (fun _ => rfl), fun h => nomatch h⟩
  · exact fun _ _ k _ _ hk => ⟨hpart _, (fun h => nomatch h), fun _ => ⟨_, k, hk⟩⟩
  · exact fun _ _ _ _ _ _ => hpart _

theorem wp_programInSlot {m₁ : Memory}
    (hin : base + configStoreSlotSize <= qspiFlashDeviceSizeBytes)
    (hsame : m.SameOutside m₁ base configStoreSlotSize)
    (hfit : base <= addr ∧ addr + data.length <= base + configStoreSlotSize) :
    (qspiProgramRange addr data).wp qspiFlash F
      (fun ok (m₂ : Memory) => m.SameOutside m₂ base configStoreSlotSize ∧
        (ok = true -> m₂ = m₁.program addr data) ∧ (ok = false -> exists op k, F.fails op k))
      (fun (m₂ : Memory) => m.SameOutside m₂ base configStoreSlotSize) m₁ := by
  apply Program.wp_mono _ _ (wp_qspiProgramRange_within (Nat.le_trans hfit.2 hin))
  · exact fun _ _ h => ⟨hsame.trans (h.1.widen hfit.1 hfit.2), h.2⟩
  · exact fun _ h => hsame.trans (h.widen hfit.1 hfit.2)

theorem slice_written (hlen : data.length <= configStoreMaxDataBytes)
    (hblank : m.Blank base configStoreSlotSize) :
    (((m.program base (csHeader fmt seq data.length)).program (base + csHeaderSize) data).program
        (base + csCrcOffset) (putLe 4 (configStoreCrc32 (slotBody fmt seq data)).toNat)).slice
      base csSlotUsed = slotImage fmt seq data := by
  have hdata : (m.program base (csHeader fmt seq data.length)).program (base + csHeaderSize) data =
      m.program base (csHeader fmt seq data.length ++ data) := by
    rw [Memory.program_append, csHeader_length]
  have hcrcLen : (putLe 4 (configStoreCrc32 (slotBody fmt seq data)).toNat).length = csCrcSize :=
    putLe_length 4 _
  have himage : slotImage fmt seq data = slotBody fmt seq data ++
      putLe 4 (configStoreCrc32 (slotBody fmt seq data)).toNat := rfl
  rw [hdata, himage]
  generalize putLe 4 (configStoreCrc32 (slotBody fmt seq data)).toNat = crc at hcrcLen ⊢
  have htotal : (csHeader fmt seq data.length ++ data).length = csHeaderSize + data.length := by
    rw [List.length_append, csHeader_length]
  simp only [configStoreMaxDataBytes] at hlen
  have hbody : ((m.program base (csHeader fmt seq data.length ++ data)).program
      (base + csCrcOffset) crc).slice base csCrcOffset = slotBody fmt seq data := by
    rw [Memory.slice_congr (Memory.program_outside (.inl (Nat.le_refl _))),
      Memory.slice_program_blank (hblank.sub (Nat.le_refl base)
        (Nat.add_le_add_left (by decide) base)) (by rw [htotal]; simp only [csHeaderSize, csCrcOffset]; omega),
      htotal, Nat.sub_add_eq]
    rfl
  have hcrc : ((m.program base (csHeader fmt seq data.length ++ data)).program
      (base + csCrcOffset) crc).slice (base + csCrcOffset) csCrcSize = crc := by
    rw [← hcrcLen]
    apply Memory.slice_program
    rw [hcrcLen]
    apply Memory.Blank.congr (hblank.sub (Nat.le_add_right _ _) ?_)
    · apply Memory.program_outside
      rw [htotal]
      simp only [csHeaderSize, csCrcOffset]
      omega
    · simp only [csCrcOffset, csCrcSize, configStoreSlotSize]
      omega
  change Memory.slice _ base (csCrcOffset + csCrcSize) = _
  rw [Memory.slice_add, hbody, hcrc]

/-- A write of a slot changes nothing outside it, a completed one leaves the complete slot, and
it completes unless a call failed. -/
theorem wp_csWriteSlot (s : Side) (hchunk : 0 < padChunk)
    (hlen : data.length <= configStoreMaxDataBytes) :
    (csWriteSlot fmt padChunk (csSlotBase s) seq data).wp qspiFlash F
      (fun r (m' : Memory) => m.SameOutside m' (csSlotBase s) configStoreSlotSize ∧
        (r = .done -> m'.slice (csSlotBase s) csSlotUsed = slotImage fmt seq data) ∧
        (r ≠ .done -> exists op k, F.fails op k))
      (fun (m' : Memory) => m.SameOutside m' (csSlotBase s) configStoreSlotSize) m := by
  have hin := csSlotBase_le s
  have haligned : csSlotBase s % configStoreSectorSize = 0 := by cases s <;> rfl
  generalize csSlotBase s = base at hin haligned ⊢
  have hslot : csSectorsPerSlot * configStoreSectorSize = configStoreSlotSize := rfl
  -- what lies within the slot
  have hhdr : base <= base ∧ base + (csHeader fmt seq data.length).length <=
      base + configStoreSlotSize := by
    rw [csHeader_length]
    exact ⟨Nat.le_refl _, Nat.add_le_add_left (by decide) base⟩
  have hblob : base <= base + csHeaderSize ∧ base + csHeaderSize + data.length <=
      base + configStoreSlotSize := by
    simp only [configStoreMaxDataBytes] at hlen
    simp only [csHeaderSize, configStoreSlotSize]
    omega
  have hcrc : forall v, base <= base + csCrcOffset ∧
      base + csCrcOffset + (putLe 4 v).length <= base + configStoreSlotSize := by
    intro v
    rw [putLe_length]
    simp only [csCrcOffset, configStoreSlotSize]
    omega
  unfold csWriteSlot
  apply Program.wp_seq (R := fun ok (m₁ : Memory) =>
    m.SameOutside m₁ base configStoreSlotSize ∧
      (ok = true -> m₁.Blank base configStoreSlotSize) ∧
      (ok = false -> exists op k, F.fails op k))
  · have hrule := wp_csEraseSectors (F := F) (m := m) csSectorsPerSlot haligned
      (by rw [hslot]; exact hin)
    rw [hslot] at hrule
    exact hrule
  intro ok m₁ herased
  rcases herased with ⟨hsame₁, hblank, hfailed⟩
  cases ok with
  | false => exact ⟨hsame₁, (fun h => nomatch h), fun _ => hfailed rfl⟩
  | true =>
      rw [if_pos rfl]
      dsimp only
      apply Program.wp_seq (wp_programInSlot hin hsame₁ hhdr)
      intro ok m₂ hheader
      rcases hheader with ⟨hsame₂, hm₂, hfailed⟩
      cases ok with
      | false => exact ⟨hsame₂, (fun h => nomatch h), fun _ => hfailed rfl⟩
      | true =>
          rw [if_pos rfl]
          apply Program.wp_seq (wp_programInSlot hin hsame₂ hblob)
          intro ok m₃ hbody
          rcases hbody with ⟨hsame₃, hm₃, hfailed⟩
          cases ok with
          | false => exact ⟨hsame₃, (fun h => nomatch h), fun _ => hfailed rfl⟩
          | true =>
              rw [if_pos rfl, csCrc_written hchunk]
              apply Program.wp_seq (wp_programInSlot hin hsame₃ (hcrc _))
              intro ok m₄ hcommit
              rcases hcommit with ⟨hsame₄, hm₄, hfailed⟩
              cases ok with
              | false => exact ⟨hsame₄, (fun h => nomatch h), fun _ => hfailed rfl⟩
              | true =>
                  constructor
                  · exact hsame₄
                  constructor
                  · intro _
                    rw [hm₄ rfl, hm₃ rfl, hm₂ rfl]
                    exact slice_written hlen (hblank rfl)
                  · exact fun h => absurd rfl h

/-- A slot an interrupted write left neither as it was nor complete has a wrong CRC. -/
def TornRejected (fmt : SlotFormat) (m m' : Memory) (t : Side) (n : Nat) (data : List UInt8) :
    Prop :=
  m'.slice (csSlotBase t) csSlotUsed ≠ m.slice (csSlotBase t) csSlotUsed ->
    m'.slice (csSlotBase t) csSlotUsed ≠ slotImage fmt n data ->
    decodeSlot fmt (m'.slice (csSlotBase t) csSlotUsed) = none

theorem csSlotBase_disjoint (t : Side) :
    csSlotBase t.other + csSlotUsed <= csSlotBase t ∨
      csSlotBase t + configStoreSlotSize <= csSlotBase t.other := by
  cases t
  · exact .inr (by decide)
  · exact .inl (by decide)

theorem written_of_slot {t : Side} {n : Nat} {ok : Prop}
    (hlen : data.length <= configStoreMaxDataBytes) (hn : n < 256 ^ 4)
    (hsame : m.SameOutside m' (csSlotBase t) configStoreSlotSize)
    (hdone : ok -> m'.slice (csSlotBase t) csSlotUsed = slotImage fmt n data)
    (htorn : TornRejected fmt m m' t n data) :
    Copies.Written (copies fmt m) (copies fmt m') t n data ok := by
  constructor
  · unfold copies
    rw [Memory.slice_congr (hsame.sameOn (csSlotBase_disjoint t))]
  · unfold copies
    by_cases hkept : m'.slice (csSlotBase t) csSlotUsed = m.slice (csSlotBase t) csSlotUsed
    · rw [hkept]
      exact .inl rfl
    · by_cases hnew : m'.slice (csSlotBase t) csSlotUsed = slotImage fmt n data
      · rw [hnew]
        exact .inr (.inr (decodeSlot_slotImage hn hlen))
      · exact .inr (.inl (htorn hkept hnew))
  · intro hok
    unfold copies
    rw [hdone hok]
    exact decodeSlot_slotImage hn hlen

end Writing

end EnvMonitor.ConfigStore
