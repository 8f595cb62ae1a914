import EnvMonitor.Gateway.CircularFlashLog.Ring

/-!
# What each operation can do to the ring

For every operation, the list of its exits in terms of records and head
pointers, and the proof that the program over the flash has no others.  An exit
with the answer `none` is a power cut.
-/

namespace EnvMonitor.Gateway.CircularFlashLog

open Device Drivers
open Program (wp wp_bind wp_ite wp_mono wp_pure wp_seq)

/-- The instance and the flash agree: the flash holds the ring, and behind the
tail there is erased space for the next record or no space at all. -/
structure Sim (m : Memory) (R : Ring) (inst : CflInst) : Prop where
  holds : Holds m R
  head_lt : inst.headSector < 254
  tail_lt : inst.tailSector < 254
  slot_lt : inst.metaSlot < 2
  seq_lt : inst.nextSeqNum < 2 ^ 32
  tail_ge : sizes (R.recs inst.tailSector) <= inst.tailOffset
  tail_end : cflRoomForRecord inst.tailOffset ->
    inst.tailOffset = sizes (R.recs inst.tailSector)
  tail_blank : cflRoomForRecord inst.tailOffset ->
    Memory.Blank m (cflDataSectorAddr inst.tailSector + inst.tailOffset)
      (4096 - inst.tailOffset)
  tail_seq : cflRoomForRecord inst.tailOffset ->
    forall l, l ∈ (R.recs inst.tailSector).getLast? -> inst.nextSeqNum = u32 (l.seq + 1)

/-!
## Storing the head pointer
-/

/-- The slot `cfl_meta_store` writes. -/
def targetSlot (inst : CflInst) : Nat :=
  (inst.metaSlot + 1) % cflMetaSlotCount

/-- The head pointer `cfl_meta_store` writes. -/
def headEntry (inst : CflInst) : Nat × Nat :=
  (u32 (inst.metaSeqNum + 1), inst.headSector)

def stored (inst : CflInst) : CflInst :=
  { inst with
    metaSlot := targetSlot inst
    metaSeqNum := u32 (inst.metaSeqNum + 1)
    metaSlotValid := true }

/-- The target slot as it was, or torn, or already valid. -/
def SlotLeft (R : Ring) (inst : CflInst) (x : Option (Nat × Nat)) : Prop :=
  x = R.slot (targetSlot inst) ∨ x = none ∨ x = some (headEntry inst)

/-- A call that changes the flash. -/
def Changes : QspiOp -> Prop
  | .read _ _ => False
  | .writePage _ _ => True
  | .eraseSector _ => True

inductive MetaExit (F : Faults qspi) (R : Ring) (inst : CflInst) :
    Option (CflErr × CflInst) -> Ring -> Prop where
  | stored :
      MetaExit F R inst (some (.ok, stored inst))
        (R.setSlot (targetSlot inst) (some (headEntry inst)))
  | failed (err : CflErr) (x : Option (Nat × Nat)) :
      err = .flashErase ∨ err = .flashWrite -> SlotLeft R inst x ->
      (exists op n, Changes op ∧ F.fails op n) ->
      MetaExit F R inst (some (err, inst)) (R.setSlot (targetSlot inst) x)
  | cut (x : Option (Nat × Nat)) :
      SlotLeft R inst x -> (exists op n, F.cuts op n) ->
      MetaExit F R inst none (R.setSlot (targetSlot inst) x)

theorem erase_cases (m : Memory) (a n : Nat) :
    m.erase a (min n 4096) = m ∨ (m.erase a (min n 4096)) a = erasedByte := by
  by_cases h : n = 0
  · left
    rw [h, Nat.zero_min, Memory.erase_zero]
  · right
    exact Memory.erase_blank m a _ a (Nat.le_refl _) (by omega)

variable {a : Nat} {m : Memory}

theorem slotParse_erased (h : m a = erasedByte) : cflMetaParse (m.slice a 16) = none :=
  cflMetaParse_of_firstByte_erased (by show some (m a) = _; rw [h]; rfl)

theorem slotParse_programmed {k seq head : Nat} (hblank : Memory.Blank m a 16) (hk : k <= 16)
    (hseq : seq < 2 ^ 32) (hhead : head < 254) :
    cflMetaParse ((m.program a ((cflMetaBytes seq head).take k)).slice a 16) = none ∨
      cflMetaParse ((m.program a ((cflMetaBytes seq head).take k)).slice a 16) =
        some (seq, head) := by
  have hlen : ((cflMetaBytes seq head).take k).length = k := by
    rw [List.length_take, cflMetaBytes_length]
    omega
  have hprefix : (m.program a ((cflMetaBytes seq head).take k)).slice a k =
      (cflMetaBytes seq head).take k := by
    have := Memory.slice_program (m := m) (a := a) (d := (cflMetaBytes seq head).take k)
      (by rw [hlen]; exact hblank.sub (Nat.le_refl _) (by omega))
    rwa [hlen] at this
  by_cases hbody : 12 <= k
  · apply cflMetaParse_of_body _ hseq hhead
    rw [← Memory.slice_take _ _ (by omega), Memory.slice_take _ _ hbody, hprefix,
      List.take_take, Nat.min_eq_left hbody, cflMetaBytes,
      List.take_append_of_le_length (by rw [cflMetaBody_length]),
      List.take_of_length_le (by rw [cflMetaBody_length])]
  · left
    apply cflMetaParse_of_head_erased (Memory.slice_length _ _ _)
    have hkeep : (m.program a ((cflMetaBytes seq head).take k)) (a + 11) = erasedByte := by
      rw [Memory.program_sameOutside m a _ (a + 11) (by rw [hlen]; omega)]
      exact hblank (a + 11) (by omega) (by omega)
    have hsplit := Memory.slice_add (m.program a ((cflMetaBytes seq head).take k)) a 11 5
    rw [hsplit, List.getElem?_append_right (by simp)]
    simp only [Memory.slice_length, Nat.sub_self]
    show some ((m.program a ((cflMetaBytes seq head).take k)) (a + 11)) = _
    rw [hkeep]
    rfl

theorem cflMetaStore_eq (inst : CflInst) :
    cflMetaStore inst = (do
      let erased ← qspiEraseSector (cflMetaSlotAddr (targetSlot inst))
      if erased then
        let written ← qspiProgramRange (cflMetaSlotAddr (targetSlot inst))
          (cflMetaBytes (u32 (inst.metaSeqNum + 1)) inst.headSector)
        if written then pure (.ok, stored inst) else pure (.flashWrite, inst)
      else
        pure (.flashErase, inst)) := rfl

theorem wp_cflMetaStore {F : Faults qspi} {R : Ring} {inst : CflInst} (hholds : Holds m R)
    (hhead : inst.headSector < 254) :
    (cflMetaStore inst).wp qspiFlash F
      (fun out m' => exists R', MetaExit F R inst (some out) R' ∧ Holds m' R' ∧
        Memory.SameOutside m m' (cflMetaSlotAddr (targetSlot inst)) 4096)
      (fun m' => exists R', MetaExit F R inst none R' ∧ Holds m' R') m := by
  have hslot : targetSlot inst < 2 := Nat.mod_lt _ (by decide)
  have hseq : u32 (inst.metaSeqNum + 1) < 2 ^ 32 := Nat.mod_lt _ (by decide)
  have haddr := cflMetaSlotAddr_eq (targetSlot inst)
  generalize hat : cflMetaSlotAddr (targetSlot inst) = a at haddr
  generalize hold : R.slot (targetSlot inst) = old
  have hslots := hholds.slots _ hslot
  rw [hat, hold] at hslots
  -- the erase, complete or not
  have herase : forall n, Memory.SameOutside m (m.erase a (min n 4096)) a 4096 :=
    fun n => (Memory.erase_sameOutside m a _).widen (Nat.le_refl _) (by omega)
  have hleft : forall n,
      SlotLeft R inst (cflMetaParse ((m.erase a (min n 4096)).slice a 16)) := by
    intro n
    rcases erase_cases m a n with hsame | hfirst
    · rw [hsame, hslots, ← hold]
      exact .inl rfl
    · rw [slotParse_erased hfirst]
      exact .inr (.inl rfl)
  have hblank : Memory.Blank (m.erase a 4096) a 16 :=
    (Memory.erase_blank m a 4096).sub (Nat.le_refl _) (by omega)
  -- the program, complete or not
  have hprog : forall k, k <= 16 -> Memory.SameOutside m
      ((m.erase a 4096).program a ((cflMetaBytes (u32 (inst.metaSeqNum + 1))
        inst.headSector).take k)) a 4096 := by
    intro k hk
    have hfirst := herase 4096
    rw [Nat.min_self] at hfirst
    apply hfirst.trans
    apply (Memory.program_sameOutside _ _ _).widen (Nat.le_refl _)
    rw [List.length_take, cflMetaBytes_length]
    omega
  have htorn : forall k, k <= 16 -> SlotLeft R inst (cflMetaParse
      (((m.erase a 4096).program a ((cflMetaBytes (u32 (inst.metaSeqNum + 1))
        inst.headSector).take k)).slice a 16)) := by
    intro k hk
    rcases slotParse_programmed hblank hk hseq hhead with hnone | hnew
    · exact .inr (.inl hnone)
    · exact .inr (.inr hnew)
  have hholds' : forall {m' : Memory}, Memory.SameOutside m m' a 4096 ->
      Holds m' (R.setSlot (targetSlot inst) (cflMetaParse (m'.slice a 16))) := by
    intro m' hsame
    rw [← hat] at hsame ⊢
    exact hholds.setSlot hslot hsame
  rw [cflMetaStore_eq, hat, wp_bind, wp_qspiEraseSector (by rw [haddr]; simp only [qspiFlashSectorSizeBytes]; omega)
    (by rw [haddr]; simp only [qspiFlashDeviceSizeBytes]; omega)]
  refine ⟨?_, ?_, ?_⟩
  · simp only [if_true, wp_bind]
    apply wp_qspiProgramRange
    · rw [haddr, cflMetaBytes_length]
      simp only [qspiFlashDeviceSizeBytes]
      omega
    · simp only [if_true, wp_pure]
      refine ⟨_, .stored, ?_, ?_⟩
      · have hdone := hholds' (hprog 16 (by omega))
        rw [List.take_of_length_le (by rw [cflMetaBytes_length])] at hdone
        have hall := Memory.slice_program (m := m.erase a 4096) (a := a)
          (d := cflMetaBytes (u32 (inst.metaSeqNum + 1)) inst.headSector)
          (by rw [cflMetaBytes_length]; exact hblank)
        rw [cflMetaBytes_length] at hall
        rw [hall, cflMetaParse_bytes hseq hhead] at hdone
        exact hdone
      · have hdone := hprog 16 (by omega)
        rwa [List.take_of_length_le (by rw [cflMetaBytes_length])] at hdone
    · intro off n w hn hoff hw
      rw [cflMetaBytes_length] at hoff
      simp only [Bool.false_eq_true, if_false, wp_pure]
      exact ⟨_, .failed _ _ (.inr rfl) (htorn _ (by omega)) ⟨.writePage _ _, w, trivial, hw⟩,
        hholds' (hprog _ (by omega)), hprog _ (by omega)⟩
    · intro off n w hn hoff hw
      rw [cflMetaBytes_length] at hoff
      exact ⟨_, .cut _ (htorn _ (by omega)) ⟨_, w, hw⟩, hholds' (hprog _ (by omega))⟩
  · intro n hn
    simp only [Bool.false_eq_true, if_false, wp_pure]
    exact ⟨_, .failed _ _ (.inl rfl) (hleft n) ⟨.eraseSector _, n, trivial, hn⟩,
      hholds' (herase n), herase n⟩
  · intro n hn
    exact ⟨_, .cut _ (hleft n) ⟨_, n, hn⟩, hholds' (herase n)⟩

/-!
## Writing a record at the tail
-/

/-- The address of the next record. -/
def tailAddr (inst : CflInst) : Nat :=
  cflDataSectorAddr inst.tailSector + inst.tailOffset

/-- The instance after a record was appended. -/
def appended (inst : CflInst) (len : Nat) : CflInst :=
  { inst with
    tailOffset := inst.tailOffset + cflRecordSize len
    nextSeqNum := u32 (inst.nextSeqNum + 1)
    entryCount := u32 (inst.entryCount + 1)
    byteCount := u32 (inst.byteCount + len) }

theorem appended_headSector (inst : CflInst) (len : Nat) :
    (appended inst len).headSector = inst.headSector := rfl

/-- The instance after the tail sector was retired. -/
def retired (inst : CflInst) : CflInst :=
  { inst with tailOffset := cflSectorSizeBytes }

/-- `r` is the record `cfl_append` builds from the payload. -/
def IsNext (inst : CflInst) (data : List UInt8) (r : Rec) : Prop :=
  r.seq = inst.nextSeqNum ∧ r.payload = data

def withNext (R : Ring) (inst : CflInst) (r : Rec) : Ring :=
  R.setRecs inst.tailSector (R.recs inst.tailSector ++ [r])

/-- The first `w` bytes of the page program reach the last byte of the header
at `base`. -/
def EndsHeader (base addr : Nat) (data : List UInt8) (w : Nat) : Prop :=
  addr <= base + 11 ∧ base + 12 <= addr + min w data.length

inductive WriteExit (F : Faults qspi) (R : Ring) (inst : CflInst)
    (data : List UInt8) : Option (CflErr × CflInst) -> Ring -> Prop where
  | done (r : Rec) : IsNext inst data r ->
      WriteExit F R inst data (some (.ok, appended inst data.length)) (withNext R inst r)
  | failed : (exists addr page w, F.fails (.writePage addr page) w) ->
      WriteExit F R inst data (some (.flashWrite, retired inst)) R
  | failedDone (r : Rec) : IsNext inst data r ->
      (exists addr page w, F.fails (.writePage addr page) w ∧
        EndsHeader (tailAddr inst) addr page w) ->
      WriteExit F R inst data (some (.flashWrite, retired inst)) (withNext R inst r)
  | cut : (exists op n, F.cuts op n) -> WriteExit F R inst data none R
  | cutDone (r : Rec) : IsNext inst data r -> (exists op n, F.cuts op n) ->
      WriteExit F R inst data none (withNext R inst r)

section Writing

variable {F : Faults qspi} {m m' : Memory} {R : Ring} {inst : CflInst}
variable {data : List UInt8} {r : Rec}

theorem not_room_of_retired (inst : CflInst) :
    ¬ cflRoomForRecord (retired inst).tailOffset := by
  rw [cflRoomForRecord_iff]
  show ¬ 4096 + 16 <= 4096
  omega

theorem Sim.retire {R' : Ring} (h : Sim m R inst) (hm : Holds m' R') :
    Sim m' R' (retired inst) where
  holds := hm
  head_lt := h.head_lt
  tail_lt := h.tail_lt
  slot_lt := h.slot_lt
  seq_lt := h.seq_lt
  tail_ge := (hm.sectors _ h.tail_lt).fits
  tail_end := fun hroom => (not_room_of_retired inst hroom).elim
  tail_blank := fun hroom => (not_room_of_retired inst hroom).elim
  tail_seq := fun hroom => (not_room_of_retired inst hroom).elim

theorem Sim.torn (h : Sim m R inst) (hroom : inst.tailOffset + 16 <= 4096) {n : Nat}
    (hn : inst.tailOffset + n <= 4096)
    (hsame : Memory.SameOutside m m' (tailAddr inst) n)
    (hlast : m' (tailAddr inst + 11) = erasedByte) : Holds m' R := by
  have hend := h.tail_end hroom
  have hsector := h.holds.sectors _ h.tail_lt
  have hwide : Memory.SameOutside m m' (cflDataSectorAddr inst.tailSector) 4096 :=
    hsame.widen (by unfold tailAddr; omega) (by unfold tailAddr; omega)
  have hkeep : SectorHolds m' (cflDataSectorAddr inst.tailSector) (R.recs inst.tailSector) := by
    apply hsector.torn
    · apply hsame.sameOn
      left
      unfold tailAddr
      omega
    · intro _
      rw [← hend]
      exact hlast
  have hset := h.holds.setRecs hwide hkeep
  rwa [Ring.setRecs_self] at hset

theorem Sim.written (h : Sim m R inst) (hnext : IsNext inst data r)
    (hfit : inst.tailOffset + cflRecordSize data.length <= 4096)
    (hsame : Memory.SameOutside m m' (tailAddr inst) r.bytes.length)
    (hrec : RecAt m' (tailAddr inst) r) :
    Holds m' (withNext R inst r) ∧
      Sim m' (withNext R inst r) (appended inst data.length) := by
  have hsize : r.size = cflRecordSize data.length := by
    rw [Rec.size, hnext.2]
  have hmin := r.size_ge
  have hbytes := r.bytes_le_size
  have hroom : cflRoomForRecord inst.tailOffset := cflRoomForRecord_iff.mpr (by omega)
  have hend := h.tail_end hroom
  have hblank := h.tail_blank hroom
  have hsector := h.holds.sectors _ h.tail_lt
  have hwide : Memory.SameOutside m m' (cflDataSectorAddr inst.tailSector) 4096 :=
    hsame.widen (by unfold tailAddr; omega) (by unfold tailAddr; omega)
  have hblank' : Memory.Blank m'
      (cflDataSectorAddr inst.tailSector + (inst.tailOffset + cflRecordSize data.length))
      (4096 - (inst.tailOffset + cflRecordSize data.length)) := by
    apply Memory.Blank.congr (hblank.sub (by omega) (by omega))
    apply hsame.sameOn
    right
    unfold tailAddr
    omega
  have hextend : SectorHolds m' (cflDataSectorAddr inst.tailSector)
      (R.recs inst.tailSector ++ [r]) := by
    apply hsector.extend
    · apply hsame.sameOn
      left
      unfold tailAddr
      omega
    · rw [← hend]
      exact hrec
    · omega
    · intro l hl
      rw [hnext.1]
      exact h.tail_seq hroom l hl
    · intro hroom'
      have := cflRoomForRecord_iff.mp hroom'
      apply hblank' <;> omega
  have hholds : Holds m' (withNext R inst r) := h.holds.setRecs hwide hextend
  refine ⟨hholds, hholds, h.head_lt, h.tail_lt, h.slot_lt, Nat.mod_lt _ (by decide), ?_, ?_, ?_, ?_⟩
  · simp only [withNext, appended, Ring.setRecs_same, sizes_append, sizes_cons, sizes_nil]
    omega
  · intro _
    simp only [withNext, appended, Ring.setRecs_same, sizes_append, sizes_cons, sizes_nil]
    omega
  · intro _
    exact hblank'
  · intro _ l hl
    simp only [withNext, appended, Ring.setRecs_same, List.getLast?_concat,
      Option.mem_some_iff] at hl
    rw [← hl, hnext.1]
    rfl

/-- The bytes behind the header: payload and check sum. -/
def Rec.body (r : Rec) : List UInt8 :=
  r.payload ++ r.crcBytes

theorem Rec.body_length (r : Rec) : r.body.length = r.payload.length + 2 := by
  simp [Rec.body, Rec.crcBytes]

theorem program_body_outside (m : Memory) (a k : Nat) (r : Rec) :
    Memory.SameOutside m (m.program (a + 12) (r.body.take k)) (a + 12) (r.bytes.length - 12) := by
  apply (Memory.program_sameOutside _ _ _).widen (Nat.le_refl _)
  rw [List.length_take, r.body_length, r.bytes_length]
  omega

theorem program_header_outside (m : Memory) (a k : Nat) (r : Rec) :
    Memory.SameOutside m
      ((m.program (a + 12) r.body).program a ((cflHeaderBytes r.hdr).take k)) a
      r.bytes.length := by
  have hlen := r.bytes_length
  have hbody := program_body_outside m a r.body.length r
  rw [List.take_length] at hbody
  apply (hbody.widen (n := r.bytes.length) (a := a) (by omega) (by omega)).trans
  apply (Memory.program_sameOutside _ _ _).widen (Nat.le_refl _)
  rw [List.length_take, cflHeaderBytes_length]
  omega

theorem recAt_programmed {a : Nat} (hblank : Memory.Blank m a r.bytes.length) :
    RecAt ((m.program (a + 12) r.body).program a (cflHeaderBytes r.hdr)) a r := by
  have hlen := r.bytes_length
  have hheaderLen := cflHeaderBytes_length r.hdr
  have hbodyLen := r.body_length
  have hbody : (m.program (a + 12) r.body).slice (a + 12) r.body.length = r.body :=
    Memory.slice_program (hblank.sub (by omega) (by omega))
  have hheader : ((m.program (a + 12) r.body).program a (cflHeaderBytes r.hdr)).slice a
      (cflHeaderBytes r.hdr).length = cflHeaderBytes r.hdr := by
    apply Memory.slice_program
    apply Memory.Blank.congr (hblank.sub (Nat.le_refl _) (by omega))
    apply Memory.program_outside
    omega
  have hkeep : Memory.SameOn (m.program (a + 12) r.body)
      ((m.program (a + 12) r.body).program a (cflHeaderBytes r.hdr)) (a + 12) r.body.length :=
    Memory.program_outside (by omega)
  unfold RecAt
  rw [show r.bytes.length = (cflHeaderBytes r.hdr).length + r.body.length by omega,
    Memory.slice_add, hheader, hheaderLen, Memory.slice_congr hkeep, hbody]
  rfl

theorem wp_cflWriteRecord (h : Sim m R inst)
    (hfit : inst.tailOffset + cflRecordSize data.length <= 4096)
    (hnext : IsNext inst data r) :
    (cflWriteRecord inst data).wp qspiFlash F
      (fun ok m' => (ok = true ∧ Sim m' (withNext R inst r) (appended inst data.length)) ∨
        (ok = false ∧ exists R', Holds m' R' ∧
          WriteExit F R inst data (some (.flashWrite, retired inst)) R'))
      (fun m' => exists R', WriteExit F R inst data none R' ∧ Holds m' R') m := by
  have hdata := hnext.2
  subst hdata
  have hlen := r.bytes_length
  have hsize : r.bytes.length <= cflRecordSize r.payload.length := r.bytes_le_size
  have hmin : 16 <= cflRecordSize r.payload.length := r.size_ge
  have hroom : inst.tailOffset + 16 <= 4096 := by omega
  have htail := h.tail_lt
  have hblank : Memory.Blank m (tailAddr inst) r.bytes.length :=
    (h.tail_blank (cflRoomForRecord_iff.mpr hroom)).sub (Nat.le_refl _)
      (by unfold tailAddr; omega)
  have hin : tailAddr inst + r.bytes.length <= qspiFlashDeviceSizeBytes := by
    unfold tailAddr
    rw [cflDataSectorAddr_eq]
    simp only [qspiFlashDeviceSizeBytes]
    omega
  have hhdr : { magic := cflMagic, seqNum := inst.nextSeqNum, dataLen := r.payload.length } =
      r.hdr := by
    rw [← hnext.1]
    rfl
  -- the states between: a prefix of the body, or the body and a prefix of the header
  have hbody : forall k, Holds (m.program (tailAddr inst + 12) (r.body.take k)) R := by
    intro k
    apply h.torn hroom (n := r.bytes.length) (by omega)
    · exact (program_body_outside m _ k r).widen (by omega) (by omega)
    · rw [program_body_outside m _ k r _ (by omega)]
      exact hblank _ (by omega) (by omega)
  have hheader : forall k, k < 12 ->
      Holds ((m.program (tailAddr inst + 12) r.body).program (tailAddr inst)
        ((cflHeaderBytes r.hdr).take k)) R := by
    intro k hk
    apply h.torn hroom (n := r.bytes.length) (by omega) (program_header_outside m _ k r)
    have hkeep := Memory.program_sameOutside (m.program (tailAddr inst + 12) r.body)
      (tailAddr inst) ((cflHeaderBytes r.hdr).take k) (tailAddr inst + 11)
      (by rw [List.length_take, cflHeaderBytes_length]; omega)
    have hbefore := program_body_outside m (tailAddr inst) r.body.length r
      (tailAddr inst + 11) (by omega)
    rw [List.take_length] at hbefore
    rw [hkeep, hbefore]
    exact hblank _ (by omega) (by omega)
  have houtside := program_header_outside m (tailAddr inst) 12 r
  rw [List.take_of_length_le (by rw [cflHeaderBytes_length])] at houtside
  have hdone := h.written hnext hfit houtside (recAt_programmed hblank)
  have hpayloadPrefix : forall k, k <= r.payload.length ->
      r.payload.take k = r.body.take k := by
    intro k hk
    rw [Rec.body, List.take_append_of_le_length hk]
  have hcrcPrefix : forall k, (m.program (tailAddr inst + 12) r.payload).program
      (tailAddr inst + 12 + r.payload.length) (r.crcBytes.take k) =
      m.program (tailAddr inst + 12) (r.body.take (r.payload.length + k)) := by
    intro k
    rw [Rec.body, List.take_length_add_append, Memory.program_append]
  have hcrcLen : r.crcBytes.length = 2 := by simp [Rec.crcBytes]
  unfold cflWriteRecord
  simp only [hhdr]
  show wp qspiFlash F _ _ (qspiProgramRange (tailAddr inst + 12) r.payload >>= _) m
  rw [wp_bind]
  apply wp_qspiProgramRange
  · omega
  · rw [if_pos rfl, wp_bind]
    show wp qspiFlash F _ _
      (qspiProgramRange (tailAddr inst + 12 + r.payload.length) r.crcBytes) _
    apply wp_qspiProgramRange
    · omega
    · rw [if_pos rfl]
      have hall := hcrcPrefix r.crcBytes.length
      rw [List.take_length, List.take_of_length_le
        (by rw [r.body_length, hcrcLen])] at hall
      rw [hall]
      show wp qspiFlash F _ _
        (qspiProgramRange (tailAddr inst) (cflHeaderBytes r.hdr)) _
      apply wp_qspiProgramRange
      · rw [cflHeaderBytes_length]
        omega
      · exact .inl ⟨rfl, hdone.2⟩
      · intro off n w hn hoff hw
        rw [cflHeaderBytes_length] at hoff
        by_cases hlast : off + min w n = 12
        · rw [List.take_of_length_le (by rw [cflHeaderBytes_length]; omega)]
          refine .inr ⟨rfl, _, hdone.1, .failedDone r hnext ⟨_, _, w, hw, ?_⟩⟩
          have hpage : (((cflHeaderBytes r.hdr).drop off).take n).length = n := by
            rw [List.length_take, List.length_drop, cflHeaderBytes_length]
            omega
          unfold EndsHeader
          omega
        · exact .inr ⟨rfl, _, hheader _ (by omega), .failed ⟨_, _, w, hw⟩⟩
      · intro off n w hn hoff hw
        rw [cflHeaderBytes_length] at hoff
        by_cases hlast : off + min w n = 12
        · rw [List.take_of_length_le (by rw [cflHeaderBytes_length]; omega)]
          exact ⟨_, .cutDone r hnext ⟨_, w, hw⟩, hdone.1⟩
        · exact ⟨_, .cut ⟨_, w, hw⟩, hheader _ (by omega)⟩
    · intro off n w hn hoff hw
      rw [if_neg (by decide), hcrcPrefix]
      exact .inr ⟨rfl, _, hbody _, .failed ⟨_, _, w, hw⟩⟩
    · intro off n w hn hoff hw
      rw [hcrcPrefix]
      exact ⟨_, .cut ⟨_, w, hw⟩, hbody _⟩
  · intro off n w hn hoff hw
    rw [if_neg (by decide), hpayloadPrefix _ (by omega)]
    exact .inr ⟨rfl, _, hbody _, .failed ⟨_, _, w, hw⟩⟩
  · intro off n w hn hoff hw
    rw [hpayloadPrefix _ (by omega)]
    exact ⟨_, .cut ⟨_, w, hw⟩, hbody _⟩

theorem wp_cflAppendAtTail (h : Sim m R inst) (hpos : 0 < data.length)
    (hmax : data.length <= 4078)
    (hfit : inst.tailOffset + cflRecordSize data.length <= 4096) :
    (cflAppendAtTail inst data).wp qspiFlash F
      (fun out m' => exists R', WriteExit F R inst data (some out) R' ∧ Sim m' R' out.2)
      (fun m' => exists R', WriteExit F R inst data none R' ∧ Holds m' R') m := by
  let r : Rec := ⟨inst.nextSeqNum, data, h.seq_lt, hpos, hmax⟩
  have hnext : IsNext inst data r := ⟨rfl, rfl⟩
  unfold cflAppendAtTail
  apply wp_seq (wp_cflWriteRecord h hfit hnext)
  rintro ok m' (⟨rfl, hdone⟩ | ⟨rfl, R', hholds, hexit⟩)
  · exact ⟨_, .done r hnext, hdone⟩
  · exact ⟨R', hexit, h.retire hholds⟩

end Writing

/-!
## Appending
-/

/-- The tail at the start of the next sector. -/
def advanced (inst : CflInst) : CflInst :=
  { inst with tailSector := cflNextSector inst.tailSector, tailOffset := 0 }

/-- The head of an empty ring on the tail. -/
def headOnTail (inst : CflInst) : CflInst :=
  { inst with headSector := inst.tailSector, headOffset := 0 }

/-- The record does not fit behind the tail. -/
def NeedsSector (inst : CflInst) (data : List UInt8) : Prop :=
  inst.tailOffset + cflRecordSize data.length > cflSectorSizeBytes

/-- The next sector still holds the oldest record. -/
def RingFull (inst : CflInst) : Prop :=
  cflNextSector inst.tailSector = inst.headSector ∧ inst.entryCount ≠ 0

def LengthOk (data : List UInt8) : Prop :=
  0 < data.length ∧ data.length <= 4078

/-- The ring after the sector behind the tail was erased. -/
def nextErased (R : Ring) (inst : CflInst) : Ring :=
  R.setRecs (cflNextSector inst.tailSector) []

/-- Storing the head if its sector changed. -/
inductive PersistExit (F : Faults qspi) (R : Ring) (previous : Nat) (inst : CflInst) :
    Option (CflErr × CflInst) -> Ring -> Prop where
  | same : inst.headSector = previous -> PersistExit F R previous inst (some (.ok, inst)) R
  | stores (out : Option (CflErr × CflInst)) (R' : Ring) :
      inst.headSector ≠ previous -> MetaExit F R inst out R' ->
      PersistExit F R previous inst out R'

inductive AppendExit (F : Faults qspi) (R : Ring) (inst : CflInst)
    (data : List UInt8) : Option (CflErr × CflInst) -> Ring -> Prop where
  | tooLarge : ¬ LengthOk data -> AppendExit F R inst data (some (.tooLarge, inst)) R
  | here (out : Option (CflErr × CflInst)) (R' : Ring) :
      LengthOk data -> ¬ NeedsSector inst data -> WriteExit F R inst data out R' ->
      AppendExit F R inst data out R'
  | full : LengthOk data -> NeedsSector inst data -> RingFull inst ->
      AppendExit F R inst data (some (.full, inst)) R
  | eraseFailed (rs : List Rec) :
      LengthOk data -> NeedsSector inst data -> ¬ RingFull inst ->
      rs = R.recs (cflNextSector inst.tailSector) ∨ rs = [] ->
      (exists op n, F.fails op n) ->
      AppendExit F R inst data (some (.flashErase, inst))
        (R.setRecs (cflNextSector inst.tailSector) rs)
  | eraseCut (rs : List Rec) :
      LengthOk data -> NeedsSector inst data -> ¬ RingFull inst ->
      rs = R.recs (cflNextSector inst.tailSector) ∨ rs = [] ->
      (exists op n, F.cuts op n) ->
      AppendExit F R inst data none (R.setRecs (cflNextSector inst.tailSector) rs)
  | advance (out : Option (CflErr × CflInst)) (R' : Ring) :
      LengthOk data -> NeedsSector inst data -> ¬ RingFull inst -> inst.entryCount ≠ 0 ->
      WriteExit F (nextErased R inst) (advanced inst) data out R' ->
      AppendExit F R inst data out R'
  | moveFailed (err : CflErr) (inst' : CflInst) (R' : Ring) :
      LengthOk data -> NeedsSector inst data -> inst.entryCount = 0 -> err ≠ .ok ->
      PersistExit F (nextErased R inst) inst.headSector (headOnTail (advanced inst)) (some (err, inst')) R' ->
      AppendExit F R inst data (some (err, inst')) R'
  | moveCut (R' : Ring) :
      LengthOk data -> NeedsSector inst data -> inst.entryCount = 0 ->
      PersistExit F (nextErased R inst) inst.headSector (headOnTail (advanced inst)) none R' ->
      AppendExit F R inst data none R'
  | moveDone (inst' : CflInst) (R₁ : Ring) (out : Option (CflErr × CflInst)) (R' : Ring) :
      LengthOk data -> NeedsSector inst data -> inst.entryCount = 0 ->
      PersistExit F (nextErased R inst) inst.headSector (headOnTail (advanced inst)) (some (.ok, inst')) R₁ ->
      WriteExit F R₁ inst' data out R' ->
      AppendExit F R inst data out R'

section Appending

variable {F : Faults qspi} {m m' : Memory} {R R' : Ring} {inst inst' : CflInst}
variable {data : List UInt8}

theorem Sim.keepTail (h : Sim m R inst) (hm : Holds m' R')
    (hhead : inst'.headSector < 254) (hslot : inst'.metaSlot < 2)
    (hsector : inst'.tailSector = inst.tailSector)
    (hoffset : inst'.tailOffset = inst.tailOffset)
    (hseq : inst'.nextSeqNum = inst.nextSeqNum)
    (hrecs : R'.recs inst.tailSector = R.recs inst.tailSector)
    (hsame : Memory.SameOn m m' (cflDataSectorAddr inst.tailSector) 4096) :
    Sim m' R' inst' where
  holds := hm
  head_lt := hhead
  tail_lt := by rw [hsector]; exact h.tail_lt
  slot_lt := hslot
  seq_lt := by rw [hseq]; exact h.seq_lt
  tail_ge := by rw [hsector, hoffset, hrecs]; exact h.tail_ge
  tail_end := by rw [hsector, hoffset, hrecs]; exact h.tail_end
  tail_blank := by
    rw [hsector, hoffset]
    intro hroom
    have hend := cflRoomForRecord_iff.mp hroom
    exact (h.tail_blank hroom).congr (hsame.sub (by omega) (by omega))
  tail_seq := by rw [hsector, hoffset, hseq, hrecs]; exact h.tail_seq

theorem Sim.metaExit {err : CflErr} (h : Sim m R inst)
    (hexit : MetaExit F R inst (some (err, inst')) R') (hm : Holds m' R')
    (hsame : Memory.SameOutside m m' (cflMetaSlotAddr (targetSlot inst)) 4096) :
    Sim m' R' inst' := by
  have hslot : targetSlot inst < 2 := Nat.mod_lt _ (by decide)
  have htail := sameOn_sector hslot hsame inst.tailSector
  cases hexit with
  | stored => exact h.keepTail hm h.head_lt hslot rfl rfl rfl rfl htail
  | failed _ x _ _ _ => exact h.keepTail hm h.head_lt h.slot_lt rfl rfl rfl rfl htail

theorem wp_cflPersistHead (previous : Nat) (h : Sim m R inst) :
    (cflPersistHead previous inst).wp qspiFlash F
      (fun out m' => exists R', PersistExit F R previous inst (some out) R' ∧ Sim m' R' out.2)
      (fun m' => exists R', PersistExit F R previous inst none R' ∧ Holds m' R') m := by
  apply wp_ite
  · intro hne
    apply wp_mono _ _ (wp_cflMetaStore h.holds h.head_lt)
    · rintro out m' ⟨R', hexit, hholds, hsame⟩
      exact ⟨R', .stores _ _ hne hexit, h.metaExit hexit hholds hsame⟩
    · rintro m' ⟨R', hexit, hholds⟩
      exact ⟨R', .stores _ _ hne hexit, hholds⟩
  · intro hsame
    exact ⟨R, .same (by simpa using hsame), h⟩

theorem Sim.headOnTail (h : Sim m R inst) : Sim m R (headOnTail inst) :=
  h.keepTail h.holds h.tail_lt h.slot_lt rfl rfl rfl rfl (Memory.SameOn.refl _ _ _)

theorem cflNextSector_ne {i : Nat} (_ : i < 254) : i ≠ cflNextSector i := by
  rw [cflNextSector_eq]
  omega

theorem Sim.eraseNext (h : Sim m R inst) (n : Nat) :
    exists rs, (rs = R.recs (cflNextSector inst.tailSector) ∨ rs = []) ∧
      Sim (m.erase (cflDataSectorAddr (cflNextSector inst.tailSector)) (min n 4096))
        (R.setRecs (cflNextSector inst.tailSector) rs) inst := by
  have hwide : Memory.SameOutside m
      (m.erase (cflDataSectorAddr (cflNextSector inst.tailSector)) (min n 4096))
      (cflDataSectorAddr (cflNextSector inst.tailSector)) 4096 :=
    (Memory.erase_sameOutside _ _ _).widen (Nat.le_refl _) (by omega)
  have hne := cflNextSector_ne h.tail_lt
  have hkeep : forall rs, Holds
      (m.erase (cflDataSectorAddr (cflNextSector inst.tailSector)) (min n 4096))
      (R.setRecs (cflNextSector inst.tailSector) rs) ->
      Sim (m.erase (cflDataSectorAddr (cflNextSector inst.tailSector)) (min n 4096))
        (R.setRecs (cflNextSector inst.tailSector) rs) inst :=
    fun rs hm => h.keepTail hm h.head_lt h.slot_lt rfl rfl rfl (Ring.setRecs_other hne)
      (sameOn_otherSector hne hwide)
  rcases erase_cases m (cflDataSectorAddr (cflNextSector inst.tailSector)) n with hsame | hfirst
  · refine ⟨_, .inl rfl, ?_⟩
    rw [hsame, Ring.setRecs_self]
    exact h
  · exact ⟨[], .inr rfl, hkeep [] (h.holds.setRecs hwide (.of_firstByte_erased hfirst))⟩

theorem Sim.advance (h : Sim m R inst) :
    Sim (m.erase (cflDataSectorAddr (cflNextSector inst.tailSector)) 4096)
      (nextErased R inst) (advanced inst) := by
  have hblank := Memory.erase_blank m (cflDataSectorAddr (cflNextSector inst.tailSector)) 4096
  have hempty : SectorHolds
      (m.erase (cflDataSectorAddr (cflNextSector inst.tailSector)) 4096)
      (cflDataSectorAddr (cflNextSector inst.tailSector)) [] :=
    .of_firstByte_erased (hblank _ (Nat.le_refl _) (by omega))
  have hrecs : (nextErased R inst).recs (advanced inst).tailSector = [] := Ring.setRecs_same
  refine ⟨h.holds.setRecs (Memory.erase_sameOutside _ _ _) hempty, h.head_lt,
    cflNextSector_lt _, h.slot_lt, h.seq_lt, ?_, ?_, ?_, ?_⟩
  · rw [hrecs]
    exact Nat.le_refl _
  · intro _
    rw [hrecs]
    rfl
  · intro _
    exact hblank
  · intro _ l hl
    rw [hrecs] at hl
    exact absurd hl (by simp)

theorem wp_cflAppend (h : Sim m R inst) (data : List UInt8) :
    (cflAppend inst data).wp qspiFlash F
      (fun out m' => exists R', AppendExit F R inst data (some out) R' ∧ Sim m' R' out.2)
      (fun m' => exists R', AppendExit F R inst data none R' ∧ Holds m' R') m := by
  apply wp_ite
  · intro hlen
    refine ⟨R, .tooLarge ?_, h⟩
    rintro ⟨hpos, hmax⟩
    simp only [cflMaxRecordBytes] at hlen
    omega
  intro hlen
  have hlenOk : LengthOk data := by
    simp only [cflMaxRecordBytes, not_or] at hlen
    exact ⟨by omega, by omega⟩
  have hsize := cflRecordSize_max hlenOk.2
  apply wp_ite
  · intro hneeds
    apply wp_ite
    · intro hfull
      exact ⟨R, .full hlenOk hneeds hfull, h⟩
    intro hfull
    have hlt := cflNextSector_lt inst.tailSector
    have haddr := cflDataSectorAddr_eq (cflNextSector inst.tailSector)
    rw [wp_bind, wp_qspiEraseSector
      (by rw [haddr]; simp only [qspiFlashSectorSizeBytes]; omega)
      (by rw [haddr]; simp only [qspiFlashDeviceSizeBytes]; omega)]
    refine ⟨?_, ?_, ?_⟩
    · have hadv := h.advance
      rw [if_pos rfl]
      apply wp_ite
      · intro hempty
        apply wp_seq (wp_mono (fun _ _ hout => hout) ?_
          (wp_cflPersistHead inst.headSector hadv.headOnTail))
        · rintro ⟨err, inst'⟩ m' ⟨R₁, hmove, hsim⟩
          apply wp_ite
          · rintro rfl
            have hfit : inst'.tailOffset = 0 := by
              cases hmove with
              | same _ => rfl
              | stores _ _ _ hmeta =>
                  cases hmeta with
                  | stored => rfl
                  | failed _ _ herr _ _ => simp at herr
            apply wp_mono _ _ (wp_cflAppendAtTail hsim hlenOk.1 hlenOk.2
              (by show inst'.tailOffset + _ <= _; omega))
            · rintro out m'' ⟨R', hexit, hdone⟩
              exact ⟨R', .moveDone inst' R₁ _ R' hlenOk hneeds hempty hmove hexit, hdone⟩
            · rintro m'' ⟨R', hexit, hholds⟩
              exact ⟨R', .moveDone inst' R₁ _ R' hlenOk hneeds hempty hmove hexit, hholds⟩
          · intro hne
            exact ⟨R₁, .moveFailed err inst' R₁ hlenOk hneeds hempty hne hmove, hsim⟩
        · rintro m' ⟨R', hmove, hholds⟩
          exact ⟨R', .moveCut R' hlenOk hneeds hempty hmove, hholds⟩
      · intro hnonempty
        apply wp_mono _ _ (wp_cflAppendAtTail hadv hlenOk.1 hlenOk.2
          (by show 0 + _ <= _; omega))
        · rintro out m' ⟨R', hexit, hdone⟩
          exact ⟨R', .advance _ R' hlenOk hneeds hfull hnonempty hexit, hdone⟩
        · rintro m' ⟨R', hexit, hholds⟩
          exact ⟨R', .advance _ R' hlenOk hneeds hfull hnonempty hexit, hholds⟩
    · intro n hn
      obtain ⟨rs, hrs, hsim⟩ := h.eraseNext n
      exact ⟨_, .eraseFailed rs hlenOk hneeds hfull hrs ⟨_, n, hn⟩, hsim⟩
    · intro n hn
      obtain ⟨rs, hrs, hsim⟩ := h.eraseNext n
      exact ⟨_, .eraseCut rs hlenOk hneeds hfull hrs ⟨_, n, hn⟩, hsim.holds⟩
  · intro hneeds
    have hfit : inst.tailOffset + cflRecordSize data.length <= 4096 := by
      simp only [cflSectorSizeBytes] at hneeds
      omega
    apply wp_mono _ _ (wp_cflAppendAtTail h hlenOk.1 hlenOk.2 hfit)
    · rintro out m' ⟨R', hexit, hdone⟩
      exact ⟨R', .here _ R' hlenOk hneeds hexit, hdone⟩
    · rintro m' ⟨R', hexit, hholds⟩
      exact ⟨R', .here _ R' hlenOk hneeds hexit, hholds⟩

end Appending

/-!
## Peeking and consuming
-/

/-- The head is on the record `r` of its sector. -/
structure AtHead (R : Ring) (inst : CflInst) (pre : List Rec) (r : Rec)
    (post : List Rec) : Prop where
  split : R.recs inst.headSector = pre ++ r :: post
  offset : inst.headOffset = sizes pre

def headAddr (inst : CflInst) : Nat :=
  cflDataSectorAddr inst.headSector + inst.headOffset

/-- The instance behind its oldest record, before the head is settled. -/
def passed (inst : CflInst) (size payloadLen : Nat) : CflInst :=
  { inst with
    headOffset := inst.headOffset + size
    entryCount := inst.entryCount - 1
    byteCount := inst.byteCount - payloadLen }

/-- The head of a drained ring, parked on the tail. -/
def parked (inst : CflInst) : CflInst :=
  { inst with headSector := inst.tailSector, headOffset := inst.tailOffset }

/-- The head at the start of the next sector. -/
def headOnNext (inst : CflInst) : CflInst :=
  { inst with headSector := cflNextSector inst.headSector, headOffset := 0 }

/-- Another record follows at the head in its sector. -/
def MoreHere (m : Memory) (inst : CflInst) : Prop :=
  (cflRoomForRecord inst.headOffset ∧
    ¬ (inst.headSector = inst.tailSector ∧ inst.headOffset >= inst.tailOffset)) ∧
    cflHeaderPlausible (headerAt m (headAddr inst)) inst.headOffset

/-- The exits of `cfl_advance_head` once the counters are updated; `more` says that
another record follows in the sector. -/
inductive AdvanceExit (F : Faults qspi) (R : Ring) (previous : Nat) (inst : CflInst)
    (more : Prop) : Option (CflErr × CflInst) -> Ring -> Prop where
  | drains (out : Option (CflErr × CflInst)) (R' : Ring) :
      inst.entryCount = 0 -> PersistExit F R previous (parked inst) out R' ->
      AdvanceExit F R previous inst more out R'
  | moreFailed : inst.entryCount ≠ 0 ->
      (exists n, F.fails (.read (headAddr inst) 12) n) ->
      AdvanceExit F R previous inst more (some (.flashRead, inst)) R
  | moreCut : (exists op n, F.cuts op n) -> AdvanceExit F R previous inst more none R
  | stays (out : Option (CflErr × CflInst)) (R' : Ring) :
      inst.entryCount ≠ 0 -> more -> PersistExit F R previous inst out R' ->
      AdvanceExit F R previous inst more out R'
  | next (out : Option (CflErr × CflInst)) (R' : Ring) :
      inst.entryCount ≠ 0 -> ¬ more -> PersistExit F R previous (headOnNext inst) out R' ->
      AdvanceExit F R previous inst more out R'

/-- The exits of `cfl_consume_oldest` on the record `r`, with `post` behind it in the
sector. -/
inductive ConsumeExit (F : Faults qspi) (R : Ring) (inst : CflInst) (r : Rec)
    (post : List Rec) : Option (CflErr × CflInst) -> Ring -> Prop where
  | readFailed : (exists n, F.fails (.read (headAddr inst) 12) n) ->
      ConsumeExit F R inst r post (some (.flashRead, inst)) R
  | readCut : (exists op n, F.cuts op n) -> ConsumeExit F R inst r post none R
  | advances (out : Option (CflErr × CflInst)) (R' : Ring) :
      AdvanceExit F R inst.headSector
        (passed inst r.size (min r.payload.length inst.byteCount)) (post ≠ []) out R' ->
      ConsumeExit F R inst r post out R'

section Consuming

variable {F : Faults qspi} {m m' : Memory} {R R' : Ring} {inst inst' : CflInst}
variable {pre post : List Rec} {r : Rec}

variable {C : Memory -> Prop} {Q : Option CflRecordHdr -> Memory -> Prop} {offset sector : Nat}

theorem wp_cflReadHeader (hin : cflDataSectorAddr sector + offset + 12 <= qspiFlashDeviceSizeBytes)
    :
    (cflReadHeader sector offset).wp qspiFlash F Q C m ↔
      Q (some (headerAt m (cflDataSectorAddr sector + offset))) m ∧
        (forall n, F.fails (.read (cflDataSectorAddr sector + offset) 12) n -> Q none m) ∧
        (forall n, F.cuts (.read (cflDataSectorAddr sector + offset) 12) n -> C m) := by
  unfold cflReadHeader
  rw [wp_bind, wp_qspiRead (by decide) hin]
  rfl

theorem headAddr_in (hsector : inst.headSector < 254) (hoffset : inst.headOffset <= 8192) :
    headAddr inst + 12 <= qspiFlashDeviceSizeBytes := by
  unfold headAddr
  rw [cflDataSectorAddr_eq]
  simp only [qspiFlashDeviceSizeBytes]
  omega

theorem wp_cflAdvanceHead (h : Sim m R inst) (size payloadLen : Nat) :
    (cflAdvanceHead inst size payloadLen).wp qspiFlash F
      (fun out m' => exists R',
        AdvanceExit F R inst.headSector (passed inst size payloadLen)
          (MoreHere m (passed inst size payloadLen)) (some out) R' ∧ Sim m' R' out.2)
      (fun m' => exists R',
        AdvanceExit F R inst.headSector (passed inst size payloadLen)
          (MoreHere m (passed inst size payloadLen)) none R' ∧ Holds m' R') m := by
  have hsame := Memory.SameOn.refl m (cflDataSectorAddr inst.tailSector) 4096
  have hpassed : Sim m R (passed inst size payloadLen) :=
    h.keepTail h.holds h.head_lt h.slot_lt rfl rfl rfl rfl hsame
  generalize hat : passed inst size payloadLen = after at hpassed
  have hnext : Sim m R (headOnNext after) :=
    hpassed.keepTail h.holds (cflNextSector_lt _) hpassed.slot_lt rfl rfl rfl rfl
      (Memory.SameOn.refl _ _ _)
  have hparked : Sim m R (parked after) :=
    hpassed.keepTail h.holds hpassed.tail_lt hpassed.slot_lt rfl rfl rfl rfl
      (Memory.SameOn.refl _ _ _)
  unfold cflAdvanceHead
  show wp qspiFlash F _ _ (if (passed inst size payloadLen).entryCount = 0 then _ else _) m
  rw [hat]
  apply wp_ite
  · intro hzero
    show wp qspiFlash F _ _ (cflPersistHead inst.headSector (parked (passed inst size payloadLen))) m
    rw [hat]
    apply wp_mono _ _ (wp_cflPersistHead inst.headSector hparked)
    · rintro out m' ⟨R', hexit, hsim⟩
      exact ⟨R', .drains _ _ hzero hexit, hsim⟩
    · rintro m' ⟨R', hexit, hholds⟩
      exact ⟨R', .drains _ _ hzero hexit, hholds⟩
  · intro hpos
    have hstay : MoreHere m after ->
        (cflPersistHead inst.headSector after).wp qspiFlash F
          (fun out m' => exists R', AdvanceExit F R inst.headSector after
            (MoreHere m after) (some out) R' ∧ Sim m' R' out.2)
          (fun m' => exists R', AdvanceExit F R inst.headSector after
            (MoreHere m after) none R' ∧ Holds m' R') m := by
      intro hmore
      apply wp_mono _ _ (wp_cflPersistHead inst.headSector hpassed)
      · rintro out m' ⟨R', hexit, hsim⟩
        exact ⟨R', .stays _ _ hpos hmore hexit, hsim⟩
      · rintro m' ⟨R', hexit, hholds⟩
        exact ⟨R', .stays _ _ hpos hmore hexit, hholds⟩
    have hskip : ¬ MoreHere m after ->
        (cflPersistHead inst.headSector (headOnNext after)).wp qspiFlash F
          (fun out m' => exists R', AdvanceExit F R inst.headSector after
            (MoreHere m after) (some out) R' ∧ Sim m' R' out.2)
          (fun m' => exists R', AdvanceExit F R inst.headSector after
            (MoreHere m after) none R' ∧ Holds m' R') m := by
      intro hmore
      apply wp_mono _ _ (wp_cflPersistHead inst.headSector hnext)
      · rintro out m' ⟨R', hexit, hsim⟩
        exact ⟨R', .next _ _ hpos hmore hexit, hsim⟩
      · rintro m' ⟨R', hexit, hholds⟩
        exact ⟨R', .next _ _ hpos hmore hexit, hholds⟩
    show wp qspiFlash F _ _ (cflMoreHere (passed inst size payloadLen) >>= _) m
    rw [hat, wp_bind]
    apply wp_ite
    · intro hroom
      have hend := cflRoomForRecord_iff.mp hroom.1
      rw [wp_bind, wp_cflReadHeader (headAddr_in hpassed.head_lt (by omega))]
      refine ⟨?_, ?_, ?_⟩
      · by_cases hplausible :
          cflHeaderPlausible (headerAt m (headAddr after)) after.headOffset
        · have hdec : decide (cflHeaderPlausible
              (headerAt m (cflDataSectorAddr after.headSector + after.headOffset))
              after.headOffset) = true := decide_eq_true hplausible
          simp only [wp_pure, hdec]
          have hgo := hstay ⟨hroom, hplausible⟩
          rw [← hat] at hgo ⊢
          exact hgo
        · have hdec : decide (cflHeaderPlausible
              (headerAt m (cflDataSectorAddr after.headSector + after.headOffset))
              after.headOffset) = false := decide_eq_false hplausible
          simp only [wp_pure, hdec]
          have hgo := hskip (fun hmore => hplausible hmore.2)
          rw [← hat] at hgo ⊢
          exact hgo
      · intro n hn
        have hgo : AdvanceExit F R inst.headSector after (MoreHere m after)
          (some (.flashRead, after)) R := .moreFailed hpos ⟨n, hn⟩
        rw [← hat] at hgo hpassed ⊢
        exact ⟨R, hgo, hpassed⟩
      · intro n hn
        exact ⟨R, .moreCut ⟨_, n, hn⟩, h.holds⟩
    · intro hroom
      have hgo := hskip (fun hmore => hroom hmore.1)
      rw [← hat] at hgo ⊢
      exact hgo

theorem wp_cflConsumeOldest (h : Sim m R inst) (hhead : AtHead R inst pre r post)
    (hcount : inst.entryCount ≠ 0) :
    (cflConsumeOldest inst).wp qspiFlash F
      (fun out m' => exists R', ConsumeExit F R inst r post (some out) R' ∧ Sim m' R' out.2)
      (fun m' => exists R', ConsumeExit F R inst r post none R' ∧ Holds m' R') m := by
  have hsector := h.holds.sectors _ h.head_lt
  have hfits := hsector.fits
  rw [hhead.split, sizes_append, sizes_cons] at hfits
  have hmin := r.size_ge
  have hrec : RecAt m (headAddr inst) r := by
    have hrecs := hsector.recs
    rw [hhead.split] at hrecs
    unfold headAddr
    rw [hhead.offset]
    exact hrecs.at
  have hmore : MoreHere m (passed inst r.size (min r.payload.length inst.byteCount)) ↔
      post ≠ [] := by
    have hoffset : inst.headOffset + r.size = sizes (pre ++ [r]) := by
      rw [hhead.offset, sizes_append, sizes_cons, sizes_nil]
      omega
    have hsplit : R.recs inst.headSector = (pre ++ [r]) ++ post := by
      rw [hhead.split]
      simp
    constructor
    · rintro ⟨⟨hroom, _⟩, hplausible⟩
      have hroom' : cflRoomForRecord (inst.headOffset + r.size) := hroom
      have hplausible' : cflHeaderPlausible
          (headerAt m (cflDataSectorAddr inst.headSector + (inst.headOffset + r.size)))
          (inst.headOffset + r.size) := hplausible
      rw [hoffset] at hroom' hplausible'
      exact (hsector.plausible_iff hsplit hroom').mp hplausible'
    · intro hne
      cases post with
      | nil => exact absurd rfl hne
      | cons s post =>
          have hnext := s.size_ge
          rw [sizes_cons] at hfits
          have hend := hhead.offset
          have hroom : cflRoomForRecord (inst.headOffset + r.size) :=
            cflRoomForRecord_iff.mpr (by omega)
          refine ⟨⟨hroom, ?_⟩, ?_⟩
          · rintro ⟨htail, hbehind⟩
            have hge := h.tail_ge
            have htail' : inst.headSector = inst.tailSector := htail
            have hbehind' : inst.headOffset + r.size >= inst.tailOffset := hbehind
            rw [← htail', hhead.split, sizes_append, sizes_cons, sizes_cons] at hge
            omega
          · show cflHeaderPlausible
              (headerAt m (cflDataSectorAddr inst.headSector + (inst.headOffset + r.size)))
              (inst.headOffset + r.size)
            rw [hoffset] at hroom ⊢
            exact (hsector.plausible_iff hsplit hroom).mpr hne
  unfold cflConsumeOldest
  rw [if_neg hcount]
  have hend := hhead.offset
  rw [wp_bind, wp_cflReadHeader (headAddr_in h.head_lt (by omega))]
  refine ⟨?_, ?_, ?_⟩
  · have hheader : headerAt m (cflDataSectorAddr inst.headSector + inst.headOffset) = r.hdr :=
      hrec.header
    have hplausible : cflHeaderPlausible r.hdr inst.headOffset := r.plausible (by omega)
    simp only [hheader, if_pos hplausible]
    apply wp_mono _ _ (wp_cflAdvanceHead h r.size (min r.payload.length inst.byteCount))
    · rintro out m' ⟨R', hexit, hsim⟩
      rw [propext hmore] at hexit
      exact ⟨R', .advances _ _ hexit, hsim⟩
    · rintro m' ⟨R', hexit, hholds⟩
      rw [propext hmore] at hexit
      exact ⟨R', .advances _ _ hexit, hholds⟩
  · intro n hn
    exact ⟨R, .readFailed ⟨n, hn⟩, h⟩
  · intro n hn
    exact ⟨R, .readCut ⟨_, n, hn⟩, h.holds⟩

/-- The answers of `cfl_peek_oldest` on the record `r`. -/
inductive PeekExit (F : Faults qspi) (maxLen : Nat) (r : Rec) : CflAnswer -> Prop where
  | found : r.payload.length <= maxLen ->
      PeekExit F maxLen r ⟨.ok, some r.payload, some r.payload.length⟩
  | tooLarge : r.payload.length > maxLen ->
      PeekExit F maxLen r ⟨.tooLarge, none, some r.payload.length⟩
  | readFailed (data : Option (List UInt8)) : (exists op n, F.fails op n) ->
      PeekExit F maxLen r ⟨.flashRead, data, none⟩

theorem wp_cflPeekOldest (h : Sim m R inst) (hhead : AtHead R inst pre r post)
    (hcount : inst.entryCount ≠ 0) (maxLen : Nat) :
    (cflPeekOldest inst maxLen).wp qspiFlash F
      (fun out m' => PeekExit F maxLen r out ∧ m' = m) (fun m' => m' = m) m := by
  have hsector := h.holds.sectors _ h.head_lt
  have hfits := hsector.fits
  rw [hhead.split, sizes_append, sizes_cons] at hfits
  have hend := hhead.offset
  have hbytes := r.bytes_le_size
  have hlen := r.bytes_length
  have hlt := h.head_lt
  have hrec : RecAt m (headAddr inst) r := by
    have hrecs := hsector.recs
    rw [hhead.split] at hrecs
    unfold headAddr
    rw [hhead.offset]
    exact hrecs.at
  have hin : headAddr inst + r.bytes.length <= qspiFlashDeviceSizeBytes := by
    unfold headAddr
    rw [cflDataSectorAddr_eq]
    simp only [qspiFlashDeviceSizeBytes]
    omega
  unfold cflPeekOldest
  rw [if_neg hcount, wp_bind, wp_cflReadHeader (headAddr_in h.head_lt (by omega))]
  refine ⟨?_, ?_, fun _ _ => rfl⟩
  · have hheader : headerAt m (cflDataSectorAddr inst.headSector + inst.headOffset) = r.hdr :=
      hrec.header
    have hplausible : cflHeaderPlausible r.hdr inst.headOffset := r.plausible (by omega)
    simp only [hheader, if_pos hplausible]
    apply wp_ite
    · intro hlarge
      exact ⟨.tooLarge hlarge, rfl⟩
    · intro hlarge
      have hsmall : r.payload.length <= maxLen := Nat.le_of_not_lt hlarge
      have hpayload : m.slice (headAddr inst + 12) r.payload.length = r.payload := hrec.payload
      have hcrc : m.slice (headAddr inst + 12 + r.payload.length) 2 = r.crcBytes := hrec.crc
      show wp qspiFlash F _ _
        (qspiRead (headAddr inst + 12) r.payload.length >>= _) m
      rw [wp_bind, wp_qspiRead r.payload_pos (by omega)]
      refine ⟨?_, ?_, fun _ _ => rfl⟩
      · show wp qspiFlash F _ _
          (qspiRead (headAddr inst + 12 + r.payload.length) 2 >>= _) m
        rw [wp_bind, wp_qspiRead (by omega) (by omega), hpayload, hcrc]
        refine ⟨?_, ?_, fun _ _ => rfl⟩
        · have hmatch : getLe r.crcBytes = (cflRecordCrc r.hdr r.payload).toNat :=
            getLe_putLe_of_lt (cflRecordCrc r.hdr r.payload).toNat_lt
          simp only [if_pos hmatch]
          exact ⟨.found hsmall, rfl⟩
        · intro n hn
          exact ⟨.readFailed _ ⟨_, n, hn⟩, rfl⟩
      · intro n hn
        exact ⟨.readFailed _ ⟨_, n, hn⟩, rfl⟩
  · intro n hn
    exact ⟨.readFailed _ ⟨_, n, hn⟩, rfl⟩

theorem wp_cflReadHeader_any (hQ : forall hdr, Q hdr m) (hC : C m) :
    (cflReadHeader sector offset).wp qspiFlash F Q C m :=
  ⟨hQ _, fun _ _ => hQ _, fun _ _ => hC⟩

theorem wp_cflConsumeOldest_any (h : Sim m R inst) :
    (cflConsumeOldest inst).wp qspiFlash F
      (fun out m' => exists R', Sim m' R' out.2) (fun m' => exists R', Holds m' R') m := by
  have hadvance : forall size payloadLen,
      (cflAdvanceHead inst size payloadLen).wp qspiFlash F
        (fun out m' => exists R', Sim m' R' out.2) (fun m' => exists R', Holds m' R') m :=
    fun size payloadLen => wp_mono
      (fun _ _ hout => hout.imp fun _ hboth => hboth.2)
      (fun _ hout => hout.imp fun _ hboth => hboth.2)
      (wp_cflAdvanceHead h size payloadLen)
  apply wp_ite
  · intro _
    exact ⟨R, h⟩
  · intro _
    rw [wp_bind]
    apply wp_cflReadHeader_any
    · intro hdr
      cases hdr with
      | none => exact ⟨R, h⟩
      | some hdr =>
          apply wp_ite
          · intro _
            exact hadvance _ _
          · intro _
            exact hadvance _ _
    · exact ⟨R, h.holds⟩

end Consuming

end EnvMonitor.Gateway.CircularFlashLog
