import EnvMonitor.Device.Alongside
import EnvMonitor.Gateway.CircularFlashLog.Places
import EnvMonitor.Gateway.CircularFlashLog.ScanAndDrain

/-!
# A log on a damaged flash beside the log it should be

The damaged flash differs from the sound one in the bytes of one record, and the instance
over it counts no more bytes than the other.  Every operation reads no more than a header and
the record at the head, so the two logs answer alike as long as no read touches the damage.
-/

namespace EnvMonitor.Gateway.CircularFlashLog

open Device Drivers

/-!
## Calls that only write
-/

section Writes

variable {a n : Nat}

theorem changes_answeredAlike (a n : Nat) (op : QspiOp) (h : Changes op) :
    Program.AnsweredAlike qspiFlash (fun m m' => Memory.SameOutside m m' a n) op := by
  intro m m' hsame
  cases op with
  | read addr len => exact h.elim
  | writePage addr data =>
      refine ⟨rfl, ?_⟩
      change Memory.SameOutside (qspiProgramPart addr data data.length m)
        (qspiProgramPart addr data data.length m') a n
      unfold qspiProgramPart
      by_cases hacc : qspiWriteAccepted addr data.length
      · rw [if_pos hacc, if_pos hacc]
        exact hsame.program _ _
      · rw [if_neg hacc, if_neg hacc]
        exact hsame
  | eraseSector addr =>
      refine ⟨rfl, ?_⟩
      change Memory.SameOutside (qspiErasePart addr qspiFlashSectorSizeBytes m)
        (qspiErasePart addr qspiFlashSectorSizeBytes m') a n
      unfold qspiErasePart
      by_cases hin : addr < qspiFlashDeviceSizeBytes
      · rw [if_pos hin, if_pos hin]
        exact hsame.erase _ _
      · rw [if_neg hin, if_neg hin]
        exact hsame

theorem uses_qspiEraseSector (addr : Nat) : Program.Uses Changes (qspiEraseSector addr) :=
  ⟨trivial, fun _ => trivial⟩

theorem uses_qspiWritePage (addr : Nat) (data : List UInt8) :
    Program.Uses Changes (qspiWritePage addr data) :=
  ⟨trivial, fun _ => trivial⟩

theorem uses_qspiProgramRange (addr : Nat) (data : List UInt8) :
    Program.Uses Changes (qspiProgramRange addr data) := by
  have hloop : forall fuel addr (data : List UInt8),
      Program.Uses Changes (qspiProgramLoop fuel addr data) := by
    intro fuel
    induction fuel with
    | zero => exact fun _ _ => trivial
    | succ fuel ih =>
        intro addr data
        unfold qspiProgramLoop
        refine Program.uses_ite (Program.uses_pure _ _) ?_
        refine Program.uses_bind (uses_qspiWritePage _ _) ?_
        intro ok
        exact Program.uses_ite (ih _ _) (Program.uses_pure _ _)
  exact hloop data.length addr data

theorem uses_cflWriteRecord (inst : CflInst) (data : List UInt8) :
    Program.Uses Changes (cflWriteRecord inst data) := by
  refine Program.uses_bind (uses_qspiProgramRange _ _) ?_
  intro payloadOk
  refine Program.uses_ite (Program.uses_bind (uses_qspiProgramRange _ _) ?_)
    (Program.uses_pure _ _)
  intro crcOk
  exact Program.uses_ite (uses_qspiProgramRange _ _) (Program.uses_pure _ _)

theorem alongside_writes {α : Type} {p : Qspi α} (hp : Program.Uses Changes p)
    {m m' : Memory} (h : Memory.SameOutside m m' a n) :
    Program.Alongside qspiFlash Eq (fun m m' => Memory.SameOutside m m' a n) p p m m' :=
  Program.alongside_of_uses (changes_answeredAlike a n) hp h

end Writes

/-!
## Instances that differ in the byte count
-/

/-- The instance differs from the sound one, which counts `total` bytes, at most in a smaller
byte count. -/
structure Lags (total : Nat) (sound inst : CflInst) : Prop where
  sound_bytes : sound.byteCount = total
  bytes_le : inst.byteCount <= total
  fields : inst = { sound with byteCount := inst.byteCount }

/-- The answers agree, and so do the instances behind them. -/
def AnswersLag (total : Nat) (out out' : CflErr × CflInst) : Prop :=
  out'.1 = out.1 ∧ Lags total out.2 out'.2

section Lags

variable {m m' : Memory} {a n total : Nat} {sound inst : CflInst} {data : List UInt8}

theorem alongside_cflMetaStore (h : Lags total sound inst)
    (hsame : Memory.SameOutside m m' a n) :
    Program.Alongside qspiFlash (AnswersLag total) (fun m m' => Memory.SameOutside m m' a n)
      (cflMetaStore sound) (cflMetaStore inst) m m' := by
  rw [h.fields]
  refine (alongside_writes (uses_qspiEraseSector _) hsame).bind ?_
  rintro erased _ s t rfl hafter
  apply Program.alongside_ite
  · intro _
    refine (alongside_writes (uses_qspiProgramRange _ _) hafter).bind ?_
    rintro written _ s' t' rfl hwritten
    apply Program.alongside_ite
    · intro _
      exact Program.alongside_pure ⟨rfl, h.sound_bytes, h.bytes_le, rfl⟩ hwritten
    · intro _
      exact Program.alongside_pure ⟨rfl, h.sound_bytes, h.bytes_le, rfl⟩ hwritten
  · intro _
    exact Program.alongside_pure ⟨rfl, h.sound_bytes, h.bytes_le, rfl⟩ hafter

theorem alongside_cflPersistHead (previous : Nat) (h : Lags total sound inst)
    (hsame : Memory.SameOutside m m' a n) :
    Program.Alongside qspiFlash (AnswersLag total) (fun m m' => Memory.SameOutside m m' a n)
      (cflPersistHead previous sound) (cflPersistHead previous inst) m m' := by
  have hsector : inst.headSector = sound.headSector := by
    rw [h.fields]
  unfold cflPersistHead
  rw [hsector]
  apply Program.alongside_ite
  · intro _
    exact alongside_cflMetaStore h hsame
  · intro _
    exact Program.alongside_pure ⟨rfl, h⟩ hsame

/-!
## Appending
-/

theorem alongside_cflAppendAtTail (h : Lags total sound inst)
    (htotal : total + data.length < 2 ^ 32) (hsame : Memory.SameOutside m m' a n) :
    Program.Alongside qspiFlash
      (fun out out' => AnswersLag (if out.1 = .ok then total + data.length else total) out out')
      (fun m m' => Memory.SameOutside m m' a n)
      (cflAppendAtTail sound data) (cflAppendAtTail inst data) m m' := by
  have hbytes := h.bytes_le
  have hsound := h.sound_bytes
  rw [h.fields]
  refine (alongside_writes (uses_cflWriteRecord sound data) hsame).bind ?_
  rintro written _ s t rfl hafter
  apply Program.alongside_ite
  · intro _
    refine Program.alongside_pure ⟨rfl, ?_, ?_, rfl⟩ hafter
    · change u32 (sound.byteCount + data.length) = _
      rw [if_pos rfl, hsound]
      exact Nat.mod_eq_of_lt htotal
    · change u32 (inst.byteCount + data.length) <= _
      rw [if_pos rfl]
      have hsmall : u32 (inst.byteCount + data.length) = inst.byteCount + data.length :=
        Nat.mod_eq_of_lt (by omega)
      rw [hsmall]
      omega
  · intro _
    exact Program.alongside_pure ⟨rfl, hsound, hbytes, rfl⟩ hafter

/-- `cfl_append` once the sector for the record is erased. -/
def cflAppendErased (inst : CflInst) (data : List UInt8) (erased : Bool) :
    Qspi (CflErr × CflInst) :=
  if erased then
    if inst.entryCount = 0 then do
      let (err, moved) ← cflMoveEmptyHead (advanced inst)
      if err = .ok then cflAppendAtTail moved data else pure (err, moved)
    else
      cflAppendAtTail (advanced inst) data
  else
    pure (.flashErase, inst)

theorem cflAppend_eq (inst : CflInst) (data : List UInt8) :
    cflAppend inst data =
      if data.length = 0 ∨ data.length > cflMaxRecordBytes then pure (.tooLarge, inst)
      else if inst.tailOffset + cflRecordSize data.length > cflSectorSizeBytes then
        if cflNextSector inst.tailSector = inst.headSector ∧ inst.entryCount ≠ 0 then
          pure (.full, inst)
        else
          qspiEraseSector (cflDataSectorAddr (cflNextSector inst.tailSector)) >>=
            cflAppendErased inst data
      else
        cflAppendAtTail inst data := by
  rfl

theorem alongside_cflAppendErased (h : Lags total sound inst)
    (htotal : total + data.length < 2 ^ 32) (erased : Bool)
    (hsame : Memory.SameOutside m m' a n) :
    Program.Alongside qspiFlash
      (fun out out' => AnswersLag (if out.1 = .ok then total + data.length else total) out out')
      (fun m m' => Memory.SameOutside m m' a n)
      (cflAppendErased sound data erased) (cflAppendErased inst data erased) m m' := by
  have hadvanced : Lags total (advanced sound) (advanced inst) := by
    refine ⟨h.sound_bytes, h.bytes_le, ?_⟩
    rw [h.fields]
    rfl
  have hcount : inst.entryCount = sound.entryCount := by
    rw [h.fields]
  have hhead : inst.headSector = sound.headSector := by
    rw [h.fields]
  have htail : inst.tailSector = sound.tailSector := by
    rw [h.fields]
  unfold cflAppendErased
  rw [hcount]
  apply Program.alongside_ite
  · intro _
    apply Program.alongside_ite
    · intro _
      refine Program.Alongside.bind (S := AnswersLag total) ?_ ?_
      · change Program.Alongside qspiFlash _ _
          (cflPersistHead sound.headSector (headOnTail (advanced sound)))
          (cflPersistHead inst.headSector (headOnTail (advanced inst))) m m'
        rw [hhead]
        refine alongside_cflPersistHead _ ⟨h.sound_bytes, h.bytes_le, ?_⟩ hsame
        rw [h.fields]
        rfl
      rintro ⟨err, moved⟩ ⟨err', moved'⟩ s t ⟨herr, hlags⟩ hafter
      cases herr
      apply Program.alongside_ite
      · intro _
        exact alongside_cflAppendAtTail hlags htotal hafter
      · intro herr
        refine Program.alongside_pure ⟨rfl, ?_⟩ hafter
        rw [if_neg herr]
        exact hlags
    · intro _
      exact alongside_cflAppendAtTail hadvanced htotal hsame
  · intro _
    refine Program.alongside_pure ⟨rfl, ?_⟩ hsame
    rw [if_neg CflErr.noConfusion]
    exact h

theorem alongside_cflAppend (h : Lags total sound inst) (htotal : total + data.length < 2 ^ 32)
    (hsame : Memory.SameOutside m m' a n) :
    Program.Alongside qspiFlash
      (fun out out' => AnswersLag (if out.1 = .ok then total + data.length else total) out out')
      (fun m m' => Memory.SameOutside m m' a n)
      (cflAppend sound data) (cflAppend inst data) m m' := by
  have hrefused : forall err, err ≠ CflErr.ok -> Program.Alongside qspiFlash
      (fun out out' => AnswersLag (if out.1 = .ok then total + data.length else total) out out')
      (fun m m' => Memory.SameOutside m m' a n)
      (pure (err, sound) : Qspi (CflErr × CflInst)) (pure (err, inst)) m m' := by
    intro err herr
    refine Program.alongside_pure ⟨rfl, ?_⟩ hsame
    rw [if_neg herr]
    exact h
  have hfields : inst.tailOffset = sound.tailOffset ∧ inst.tailSector = sound.tailSector ∧
      inst.headSector = sound.headSector ∧ inst.entryCount = sound.entryCount := by
    rw [h.fields]
    exact ⟨rfl, rfl, rfl, rfl⟩
  rcases hfields with ⟨htailOffset, htailSector, hhead, hcount⟩
  rw [cflAppend_eq, cflAppend_eq, htailOffset, htailSector, hhead, hcount]
  apply Program.alongside_ite
  · intro _
    exact hrefused _ CflErr.noConfusion
  intro _
  apply Program.alongside_ite
  · intro _
    apply Program.alongside_ite
    · intro _
      exact hrefused _ CflErr.noConfusion
    · intro _
      refine (alongside_writes (uses_qspiEraseSector _) hsame).bind ?_
      rintro erased _ s t rfl hafter
      exact alongside_cflAppendErased h htotal erased hafter
  · intro _
    exact alongside_cflAppendAtTail h htotal hsame

theorem alongside_cflAppend_erases (h : Lags total sound inst)
    (htotal : total + data.length < 2 ^ 32) (hlen : LengthOk data)
    (hneeds : NeedsSector sound data) (hfull : ¬ RingFull sound)
    (hlo : cflDataSectorAddr (cflNextSector sound.tailSector) <= a)
    (hhi : a + n <= cflDataSectorAddr (cflNextSector sound.tailSector) + 4096)
    (hsame : Memory.SameOutside m m' a n) :
    Program.Alongside qspiFlash
      (fun out out' => AnswersLag (if out.1 = .ok then total + data.length else total) out out')
      (fun m m' => m' = m) (cflAppend sound data) (cflAppend inst data) m m' := by
  have hfields : inst.tailOffset = sound.tailOffset ∧ inst.tailSector = sound.tailSector ∧
      inst.headSector = sound.headSector ∧ inst.entryCount = sound.entryCount := by
    rw [h.fields]
    exact ⟨rfl, rfl, rfl, rfl⟩
  rcases hfields with ⟨htailOffset, htailSector, hhead, hcount⟩
  have hvalid : ¬ (data.length = 0 ∨ data.length > cflMaxRecordBytes) := by
    rcases hlen with ⟨hpos, hmax⟩
    simp only [cflMaxRecordBytes]
    omega
  have hneeds' : sound.tailOffset + cflRecordSize data.length > cflSectorSizeBytes := hneeds
  have hfull' : ¬ (cflNextSector sound.tailSector = sound.headSector ∧ sound.entryCount ≠ 0) :=
    hfull
  have haddr := cflDataSectorAddr_eq (cflNextSector sound.tailSector)
  have hlt := cflNextSector_lt sound.tailSector
  rw [cflAppend_eq, cflAppend_eq, htailOffset, htailSector, hhead, hcount, if_neg hvalid,
    if_neg hvalid, if_pos hneeds', if_pos hneeds', if_neg hfull', if_neg hfull']
  have haligned : cflDataSectorAddr (cflNextSector sound.tailSector) %
      qspiFlashSectorSizeBytes = 0 := by
    rw [haddr]
    simp only [qspiFlashSectorSizeBytes]
    omega
  have hin : cflDataSectorAddr (cflNextSector sound.tailSector) < qspiFlashDeviceSizeBytes := by
    rw [haddr]
    simp only [qspiFlashDeviceSizeBytes]
    omega
  have hequal : m'.erase (cflDataSectorAddr (cflNextSector sound.tailSector)) 4096 =
      m.erase (cflDataSectorAddr (cflNextSector sound.tailSector)) 4096 :=
    hsame.erase_all hlo hhi
  have hrest := alongside_cflAppendErased (a := 0) (n := 0) h htotal true
    (Memory.SameOutside.refl
      (m.erase (cflDataSectorAddr (cflNextSector sound.tailSector)) 4096) 0 0)
  unfold Program.Alongside at hrest ⊢
  rw [Program.eval_bind, Program.eval_bind, eval_qspiEraseSector haligned hin,
    eval_qspiEraseSector haligned hin]
  dsimp only [qspiFlashSectorSizeBytes]
  rw [hequal]
  refine ⟨hrest.1, ?_⟩
  funext x
  exact hrest.2 x (by omega)

/-!
## Removing
-/

/-- Behind a step of `size` bytes the reader finds another record in the sector. -/
def GoesOnBehind (m : Memory) (inst : CflInst) (size : Nat) : Prop :=
  ¬ (inst.headSector = inst.tailSector ∧ inst.headOffset + size >= inst.tailOffset) ∧
    ReaderGoesOn m inst.headSector (inst.headOffset + size)

instance (m : Memory) (inst : CflInst) (size : Nat) : Decidable (GoesOnBehind m inst size) := by
  unfold GoesOnBehind
  infer_instance

variable {len len' : Nat}

theorem Lags.passed (h : Lags total sound inst) (size : Nat)
    (hlen : inst.byteCount - len' <= total - len) :
    Lags (total - len) (passed sound size len) (passed inst size len') := by
  refine ⟨?_, hlen, ?_⟩
  · change sound.byteCount - len = _
    rw [h.sound_bytes]
  · rw [h.fields]
    rfl

/-- Where the head goes behind a record does not depend on the step if both flashes send it
to the same place. -/
theorem alongside_cflAdvanceHead (h : Lags total sound inst) {size size' : Nat}
    (hlen : inst.byteCount - len' <= total - len) (hhead : sound.headSector < 254)
    (hsettle : sound.entryCount - 1 = 0 ∨
      (size' = size ∧ (GoesOnBehind m' sound size ↔ GoesOnBehind m sound size)) ∨
      (¬ GoesOnBehind m sound size ∧ ¬ GoesOnBehind m' sound size'))
    (hsame : Memory.SameOutside m m' a n) :
    Program.Alongside qspiFlash (AnswersLag (total - len))
      (fun m m' => Memory.SameOutside m m' a n)
      (cflAdvanceHead sound size len) (cflAdvanceHead inst size' len') m m' := by
  have hfields : inst.headSector = sound.headSector ∧ inst.headOffset = sound.headOffset ∧
      inst.tailSector = sound.tailSector ∧ inst.tailOffset = sound.tailOffset ∧
      inst.entryCount = sound.entryCount := by
    rw [h.fields]
    exact ⟨rfl, rfl, rfl, rfl, rfl⟩
  rcases hfields with ⟨hsector, hoffset, htail, htailOffset, hcount⟩
  have hpassed := fun size => h.passed size hlen
  rw [cflAdvanceHead_eq, cflAdvanceHead_eq, hcount, hsector]
  have hmore : (cflMoreHere (CircularFlashLog.passed sound size len)).eval qspiFlash m =
      (some (decide (GoesOnBehind m sound size)), m) := eval_cflMoreHere hhead
  have hmore' : (cflMoreHere (CircularFlashLog.passed inst size' len')).eval qspiFlash m' =
      (some (decide (GoesOnBehind m' sound size')), m') := by
    rw [eval_cflMoreHere (by change inst.headSector < 254; rw [hsector]; exact hhead)]
    change (some (decide (¬ (inst.headSector = inst.tailSector ∧
      inst.headOffset + size' >= inst.tailOffset) ∧
      ReaderGoesOn m' inst.headSector (inst.headOffset + size'))), m') = _
    simp only [hsector, hoffset, htail, htailOffset]
    rfl
  apply Program.alongside_ite
  · intro _
    refine alongside_cflPersistHead _ ⟨(hpassed size).sound_bytes, hlen, ?_⟩ hsame
    rw [h.fields]
    rfl
  intro hleft
  have hnext : Program.Alongside qspiFlash (AnswersLag (total - len))
      (fun m m' => Memory.SameOutside m m' a n)
      (cflPersistHead sound.headSector (headOnNext (CircularFlashLog.passed sound size len)))
      (cflPersistHead sound.headSector (headOnNext (CircularFlashLog.passed inst size' len')))
      m m' := by
    refine alongside_cflPersistHead _ ⟨(hpassed size).sound_bytes, hlen, ?_⟩ hsame
    rw [h.fields]
    rfl
  unfold Program.Alongside at hnext ⊢
  rw [Program.eval_bind, Program.eval_bind, hmore, hmore']
  rcases hsettle with hzero | ⟨rfl, hsameMore⟩ | ⟨hstop, hstop'⟩
  · exact absurd hzero hleft
  · have hstay : Program.Alongside qspiFlash (AnswersLag (total - len))
        (fun m m' => Memory.SameOutside m m' a n)
        (cflPersistHead sound.headSector (CircularFlashLog.passed sound size' len))
        (cflPersistHead sound.headSector (CircularFlashLog.passed inst size' len')) m m' :=
      alongside_cflPersistHead _ (hpassed size') hsame
    by_cases hgoes : GoesOnBehind m sound size'
    · rw [decide_eq_true hgoes, decide_eq_true (hsameMore.mpr hgoes)]
      exact hstay
    · rw [decide_eq_false hgoes, decide_eq_false (fun hmore => hgoes (hsameMore.mp hmore))]
      exact hnext
  · rw [decide_eq_false hstop, decide_eq_false hstop']
    exact hnext

theorem eval_cflConsumeOldest (m : Memory) (inst : CflInst) (hcount : inst.entryCount ≠ 0)
    (hsector : inst.headSector < 254) (hoffset : inst.headOffset + 12 <= 4096)
    ( hplausible : cflHeaderPlausible (headerOn m inst.headSector inst.headOffset)
      inst.headOffset) :
    (cflConsumeOldest inst).eval qspiFlash m =
      (cflAdvanceHead inst (cflRecordSize (headerOn m inst.headSector inst.headOffset).dataLen)
        (min (headerOn m inst.headSector inst.headOffset).dataLen inst.byteCount)).eval
          qspiFlash m := by
  unfold cflConsumeOldest
  rw [if_neg hcount, Program.eval_bind, eval_headerOn hsector hoffset]
  change Program.eval qspiFlash
    (if cflHeaderPlausible (headerOn m inst.headSector inst.headOffset) inst.headOffset then _
      else _) m = _
  rw [if_pos hplausible]

end Lags

/-!
## What the damage leaves alone
-/

section Around

variable {m m' : Memory} {R : Ring} {x : Standing} {st : List Standing}

theorem headerOn_around (sector offset : Nat) (hend : x.offset + x.size <= 4096)
    (hoffset : offset + 12 <= 4096)
    (hapart : sector = x.sector -> offset + 12 <= x.offset ∨ x.offset + x.size <= offset)
    (hsame : Memory.SameOutside m m' x.addr x.bytesLength) :
    headerOn m' sector offset = headerOn m sector offset := by
  apply headerAt_congr
  apply hsame.sameOn
  have hlen := x.bytesLength_le
  unfold Standing.addr
  rw [cflDataSectorAddr_eq, cflDataSectorAddr_eq]
  by_cases heq : sector = x.sector
  · have hbeside := hapart heq
    omega
  · omega

theorem Stores.bounds (h : Stores R st) (hx : x ∈ st) (hm : Holds m R) :
    x.sector < 254 ∧ x.offset + 16 <= 4096 ∧ x.offset + x.size <= 4096 := by
  rcases (h x).mp hx with ⟨hlt, hmem⟩
  have hbounds := placesFrom_bounds hmem
  have hfits := (hm.sectors _ hlt).fits
  rcases placesFrom_split hmem with ⟨_, r, _, _, _, hdata⟩
  have hmin : 16 <= x.size := by
    unfold Standing.size
    rw [hdata]
    exact r.size_ge
  omega

end Around

/-!
## The two logs side by side
-/

/-- The log over the flash `m` beside the sound one over `sm`: the flash differs at most in
the bytes of the damaged record, while it is stored, and the instance in its byte count. -/
structure Beside (sm m : Memory) (sound inst : CflInst) (damaged : Option Standing)
    (st : List Standing) : Prop where
  lags : Lags sound.byteCount sound inst
  flash : exists a n, Memory.SameOutside sm m a n ∧
    (n = 0 ∨ exists x, damaged = some x ∧ x ∈ st ∧ x.addr = a ∧ x.bytesLength = n)

section Beside

variable {sm m : Memory} {sound inst : CflInst} {damaged : Option Standing}
variable {R : Ring} {q : List Rec} {u st : List Standing} {data : List UInt8} {r : Rec}

theorem Kept.bytes_bound (h : Kept sm R sound q u st) :
    sound.byteCount <= 4096 * 254 := by
  rw [h.held.bytes]
  cases h.held.places with
  | empty _ _ => exact Nat.zero_le _
  | holds _ hlay => exact Nat.le_trans (payloadBytes_le_sizes _) (hlay.sizes_le h.sim.holds)

variable {sector total : Nat}

theorem Lags.self (h : Lags total sound inst) : Lags sound.byteCount sound inst := by
  rw [h.sound_bytes]
  exact h

theorem Lags.storedAfter {sound' inst' : CflInst} {total' : Nat} (h : Lags total sound inst)
    (h' : Lags total' sound' inst') (st : List Standing) :
    CircularFlashLog.storedAfter inst inst' st =
      CircularFlashLog.storedAfter sound sound' st := by
  rw [h.fields, h'.fields]
  rfl

theorem Lags.lastWritten (h : Lags total sound inst) (data : List UInt8) :
    CircularFlashLog.lastWritten inst data = CircularFlashLog.lastWritten sound data := by
  rw [h.fields]
  rfl

theorem Beside.append (h : Beside sm m sound inst damaged st) (hk : Kept sm R sound q u st)
    (data : List UInt8) :
    exists out m', (cflAppend inst data).eval qspiFlash m = (out, m') ∧
      ((out.1 ≠ .ok ∧ exists sound', Beside sm m' sound' out.2 damaged st ∧
          Kept sm R sound' q u st) ∨
        (out.1 = .ok ∧ exists sm' sound' R' q',
          Beside sm' m' sound' out.2 damaged
            (storedAfter inst out.2 st ++ [lastWritten out.2 data]) ∧
          Kept sm' R' sound' q' (u ++ [lastWritten out.2 data])
            (storedAfter inst out.2 st ++ [lastWritten out.2 data]))) := by
  by_cases hlen : LengthOk data
  · have hbound := hk.bytes_bound
    have htotal : sound.byteCount + data.length < 2 ^ 32 := by
      have hmax := hlen.2
      omega
    rcases hk.append data with ⟨out, sm', heval, hcase⟩
    have hside : forall a n, Memory.SameOutside sm m a n ->
        exists out' m', (cflAppend inst data).eval qspiFlash m = (out', m') ∧
          out'.1 = out.1 ∧ Lags out.2.byteCount out.2 out'.2 ∧
          Memory.SameOutside sm' m' a n := by
      intro a n hsame
      have halong := alongside_cflAppend h.lags htotal hsame
      unfold Program.Alongside at halong
      rw [heval] at halong
      exact ⟨_, _, rfl, halong.1.1, halong.1.2.self, halong.2⟩
    rcases h.flash with ⟨a, n, hsame, hdamage⟩
    rcases hside a n hsame with ⟨out', m', heval', herr, hlags, hafterSame⟩
    refine ⟨out', m', heval', ?_⟩
    rcases hcase with ⟨hne, hsound, hsm⟩ | ⟨hok, ⟨R', q', hafter⟩, htail⟩
    · rw [hsound] at hlags
      rw [hsm] at hafterSame
      exact .inl ⟨by rw [herr]; exact hne, sound, ⟨hlags, a, n, hafterSame, hdamage⟩, hk⟩
    · rw [← h.lags.storedAfter hlags, ← hlags.lastWritten] at hafter
      refine .inr ⟨herr.trans hok, sm', out.2, R', q', ⟨hlags, ?_⟩, hafter⟩
      rcases hdamage with hnone | ⟨x, hdamaged, hstored, haddr, hbytes⟩
      · exact ⟨a, n, hafterSame, .inl hnone⟩
      by_cases hgone : out.2.tailSector ≠ sound.tailSector ∧ x.sector = out.2.tailSector
      · -- the sector of the damaged record was erased for the new one
        rcases htail with hstays | ⟨hneeds, hfull, hnext⟩
        · exact absurd hstays hgone.1
        · have hbounds := hk.held.stores.bounds hstored hk.sim.holds
          have hle := x.bytesLength_le
          have hsector : x.sector = cflNextSector sound.tailSector := hgone.2.trans hnext
          have herased := alongside_cflAppend_erases h.lags htotal hlen hneeds hfull
            (by rw [← haddr, Standing.addr, hsector]; omega)
            (by rw [← haddr, ← hbytes, Standing.addr, hsector]; omega) hsame
          unfold Program.Alongside at herased
          rw [heval, heval'] at herased
          have hm : m' = sm' := herased.2
          rw [hm]
          exact ⟨0, 0, Memory.SameOutside.refl _ _ _, .inl rfl⟩
      · refine ⟨a, n, hafterSame, .inr ⟨x, hdamaged, ?_, haddr, hbytes⟩⟩
        rw [h.lags.storedAfter hlags]
        apply List.mem_append_left
        unfold CircularFlashLog.storedAfter
        by_cases hstays : out.2.tailSector = sound.tailSector
        · rw [if_pos hstays]
          exact hstored
        · rw [if_neg hstays, List.mem_filter]
          exact ⟨hstored, decide_eq_true fun heq => hgone ⟨hstays, heq⟩⟩
  · refine ⟨(.tooLarge, inst), m, ?_, .inl ⟨by simp, sound, h, hk⟩⟩
    rw [cflAppend_tooLarge hlen]
    rfl

theorem Kept.atHead (hk : Kept sm R sound (r :: q) u st) :
    sound.headSector < 254 ∧ cflRoomForRecord sound.headOffset ∧
      headerOn sm sound.headSector sound.headOffset = r.hdr ∧
      sound.headOffset + r.size <= 4096 ∧ sound.entryCount ≠ 0 ∧
      exists rest, u = ⟨sound.headSector, sound.headOffset, r.payload⟩ :: rest := by
  cases hk.held.places with
  | @holds _ d pre s post htail hlay =>
      have hqueue := hlay.queue
      injection hqueue with hrs _
      subst hrs
      have hfits := (hk.sim.holds.sectors _ hlay.head_lt).fits
      have hmin := r.size_ge
      have hoffset := hlay.atHead.offset
      rw [hlay.atHead.split, sizes_append, sizes_cons] at hfits
      refine ⟨hlay.head_lt, cflRoomForRecord_iff.mpr (by omega),
        (recAt_head hk.sim hlay.atHead).header, by omega, ?_, _, hlay.unread_head⟩
      rw [hk.held.count]
      exact Nat.succ_ne_zero _

theorem Kept.splitHead (hk : Kept sm R sound (r :: q) u st) :
    exists pre post, R.recs sound.headSector = pre ++ r :: post ∧
      sound.headOffset = sizes pre := by
  cases hk.held.places with
  | @holds _ d pre s post htail hlay =>
      have hqueue := hlay.queue
      injection hqueue with hrs _
      subst hrs
      exact ⟨pre, post, hlay.atHead.split, hlay.atHead.offset⟩

/-- Where another record of the sector can stand, seen from the end of one record: it ends
before, begins there, or begins behind a further header. -/
theorem placesFrom_behind {x : Standing} {pre post : List Rec}
    (hx : x ∈ placesFrom sector 0 (pre ++ r :: post)) :
    (sizes pre + r.size + 12 <= x.offset ∨ x.offset + x.size <= sizes pre + r.size) ∨
      x.offset = sizes pre + r.size := by
  rw [placesFrom_append, List.mem_append, Nat.zero_add] at hx
  rcases hx with hbefore | hx
  · have hbounds := placesFrom_bounds hbefore
    omega
  rcases List.mem_cons.mp hx with rfl | hbehind
  · exact .inl (.inr (Nat.le_refl _))
  cases post with
  | nil => cases hbehind
  | cons s post =>
      rcases List.mem_cons.mp hbehind with rfl | hlater
      · exact .inr rfl
      · have hbounds := placesFrom_bounds hlater
        have hmin := s.size_ge
        omega

/-- Removing on both flashes, if the damaged one shows a header whose step leads to the same
place and whose length covers the payload. -/
theorem Beside.consume (h : Beside sm m sound inst damaged st)
    (hk : Kept sm R sound (r :: q) u st) (hdr : CflRecordHdr)
    (hhdr : headerOn m sound.headSector sound.headOffset = hdr)
    ( hplausible : cflHeaderPlausible hdr sound.headOffset)
    (hlen : r.payload.length <= hdr.dataLen)
    (hsettle : sound.entryCount - 1 = 0 ∨
      (cflRecordSize hdr.dataLen = r.size ∧
        (GoesOnBehind m sound r.size ↔ GoesOnBehind sm sound r.size)) ∨
      (¬ GoesOnBehind sm sound r.size ∧
        ¬ GoesOnBehind m sound (cflRecordSize hdr.dataLen))) :
    exists after m', (cflConsumeOldest inst).eval qspiFlash m = ((.ok, after), m') ∧
      ¬ PastTail inst after ∧ exists sm' sound' R',
        Beside sm' m' sound' after damaged st ∧ Kept sm' R' sound' q u.tail st := by
  rcases hk.atHead with ⟨hsector, hroom, hheader, _, hcount, _⟩
  have hbound := cflRoomForRecord_iff.mp hroom
  have hfits := hplausible.2.2.2
  rcases hk.consume with ⟨sound', sm', R', heval, hkept, hnot⟩
  have hsoundStep : (cflConsumeOldest sound).eval qspiFlash sm =
      (cflAdvanceHead sound r.size (min r.payload.length sound.byteCount)).eval qspiFlash sm := by
    have hstep := eval_cflConsumeOldest sm sound hcount hsector (by omega)
      (by rw [hheader]; exact r.plausible (by omega))
    rw [hheader] at hstep
    exact hstep
  have hfields : inst.headSector = sound.headSector ∧ inst.headOffset = sound.headOffset ∧
      inst.entryCount = sound.entryCount := by
    rw [h.lags.fields]
    exact ⟨rfl, rfl, rfl⟩
  rcases hfields with ⟨hheadSector, hheadOffset, hentries⟩
  have hstep : (cflConsumeOldest inst).eval qspiFlash m =
      (cflAdvanceHead inst (cflRecordSize hdr.dataLen)
        (min hdr.dataLen inst.byteCount)).eval qspiFlash m := by
    have hstep := eval_cflConsumeOldest m inst (by rw [hentries]; exact hcount)
      (by rw [hheadSector]; exact hsector) (by rw [hheadOffset]; omega)
      (by rw [hheadSector, hheadOffset, hhdr]; exact hplausible)
    rw [hheadSector, hheadOffset, hhdr] at hstep
    exact hstep
  rcases h.flash with ⟨a, n, hsame, hdamage⟩
  have hbytes : inst.byteCount - min hdr.dataLen inst.byteCount <=
      sound.byteCount - min r.payload.length sound.byteCount := by
    have hle := h.lags.bytes_le
    omega
  have halong := alongside_cflAdvanceHead h.lags hbytes hsector hsettle hsame
  unfold Program.Alongside at halong
  rw [← hsoundStep, ← hstep, heval] at halong
  generalize (cflConsumeOldest inst).eval qspiFlash m = done at halong
  rcases done with ⟨⟨err, after⟩, m'⟩
  rcases halong with ⟨⟨herr, hlags⟩, hafterSame⟩
  change err = .ok at herr
  subst herr
  refine ⟨after, m', rfl, ?_, sm', sound', R', ⟨hlags.self, a, n, hafterSame, hdamage⟩, hkept⟩
  intro hpast
  apply hnot
  have hafterFields := hlags.fields
  change after = { sound' with byteCount := after.byteCount } at hafterFields
  rw [h.lags.fields, hafterFields] at hpast
  exact hpast

/-- The header behind the head is the same on both flashes, or it is that of the damaged
record, which the reader must still take for one. -/
theorem Beside.goesOn_iff (h : Beside sm m sound inst damaged st)
    (hk : Kept sm R sound (r :: q) u st)
    (hnext : forall x, damaged = some x -> x ∈ st -> x.sector = sound.headSector ->
      x.offset = sound.headOffset + r.size ->
      cflHeaderPlausible (headerOn m x.sector x.offset) x.offset) :
    GoesOnBehind m sound r.size ↔ GoesOnBehind sm sound r.size := by
  rcases hk.splitHead with ⟨pre, post, hsplit, hoffset⟩
  rcases hk.atHead with ⟨hsector, _, _, _, _, _⟩
  have hfits := (hk.sim.holds.sectors _ hsector).fits
  unfold GoesOnBehind ReaderGoesOn
  by_cases hroom : cflRoomForRecord (sound.headOffset + r.size)
  · have hbound := cflRoomForRecord_iff.mp hroom
    rcases h.flash with ⟨a, n, hsame, hnone | ⟨x, hdamaged, hstored, haddr, hbytes⟩⟩
    · have hm : m = sm := by
        funext x
        exact hsame x (by omega)
      rw [hm]
    · have hbounds := hk.held.stores.bounds hstored hk.sim.holds
      have hmem := ((hk.held.stores x).mp hstored).2
      rw [← haddr, ← hbytes] at hsame
      have hbeside : x.sector = sound.headSector ->
          (sound.headOffset + r.size + 12 <= x.offset ∨
            x.offset + x.size <= sound.headOffset + r.size) ∨
          x.offset = sound.headOffset + r.size := by
        intro hhere
        rw [hhere, hsplit] at hmem
        rw [hoffset]
        exact placesFrom_behind hmem
      by_cases hhit : x.sector = sound.headSector ∧ x.offset = sound.headOffset + r.size
      · -- the damaged record is the next one
        have hreal := hnext x hdamaged hstored hhit.1 hhit.2
        rw [hhit.1, hhit.2] at hreal
        have hideal : cflHeaderPlausible
            (headerOn sm sound.headSector (sound.headOffset + r.size))
            (sound.headOffset + r.size) := by
          rw [hhit.1, hsplit] at hmem
          have hbehind := placesFrom_bounds hmem
          have hlen : sizes (pre ++ [r]) = sound.headOffset + r.size := by
            rw [sizes_append, sizes_cons, sizes_nil, hoffset, Nat.add_zero]
          have hsplit' : R.recs sound.headSector = (pre ++ [r]) ++ post := by
            rw [hsplit, List.append_assoc]
            rfl
          rw [← hlen] at hroom ⊢
          refine ((hk.sim.holds.sectors _ hsector).plausible_iff hsplit' hroom).mpr ?_
          intro hnil
          have hsize : x.data.length + 14 <= x.size := x.bytesLength_le
          rw [hnil, sizes_append, sizes_cons, sizes_nil] at hbehind
          omega
        simp only [hreal, hideal]
      · have hheader := headerOn_around sound.headSector (sound.headOffset + r.size)
          hbounds.2.2 (by omega)
          (fun heq => (hbeside heq.symm).resolve_right fun hoff => hhit ⟨heq.symm, hoff⟩) hsame
        rw [hheader]
  · simp only [hroom, false_and, and_false]

theorem Kept.last_stops (hk : Kept sm R sound (r :: q) u st)
    (hlast : forall x, x ∈ st -> x.sector = sound.headSector -> x.offset <= sound.headOffset) :
    ¬ GoesOnBehind sm sound r.size := by
  rcases hk.splitHead with ⟨pre, post, hsplit, hoffset⟩
  rcases hk.atHead with ⟨hsector, _, _, _, _, _⟩
  rintro ⟨_, hroom, hplausible⟩
  have hlen : sound.headOffset + r.size = sizes (pre ++ [r]) := by
    rw [sizes_append, sizes_cons, sizes_nil, hoffset, Nat.add_zero]
  have hsplit' : R.recs sound.headSector = (pre ++ [r]) ++ post := by
    rw [hsplit, List.append_assoc]
    rfl
  rw [hlen] at hroom hplausible
  have hpost := ((hk.sim.holds.sectors _ hsector).plausible_iff hsplit' hroom).mp hplausible
  cases post with
  | nil => exact hpost rfl
  | cons s post =>
      have hmem : ⟨sound.headSector, 0 + sizes (pre ++ [r]), s.payload⟩ ∈
          placesFrom sound.headSector 0 (R.recs sound.headSector) := by
        rw [hsplit']
        exact mem_placesFrom
      have hle := hlast _ ((hk.held.stores _).mpr ⟨hsector, hmem⟩) rfl
      have hmin := r.size_ge
      change 0 + sizes (pre ++ [r]) <= sound.headOffset at hle
      omega

theorem Beside.recAt_head (h : Beside sm m sound inst damaged st)
    (hk : Kept sm R sound (r :: q) u st)
    (hclear : forall x, damaged = some x -> x ∈ st -> x.sector = sound.headSector ->
      x.offset ≠ sound.headOffset) :
    RecAt m (headAddr sound) r := by
  rcases hk.splitHead with ⟨pre, post, hsplit, hoffset⟩
  rcases hk.atHead with ⟨hsector, _, _, hfits, _, _⟩
  have hat : RecAt sm (headAddr sound) r := CircularFlashLog.recAt_head hk.sim ⟨hsplit, hoffset⟩
  apply hat.congr
  rcases h.flash with ⟨a, n, hsame, hnone | ⟨x, hdamaged, hstored, haddr, hbytes⟩⟩
  · intro x _ _
    exact hsame x (by omega)
  · rw [← haddr, ← hbytes] at hsame
    apply hsame.sameOn
    have hmem := ((hk.held.stores x).mp hstored).2
    have hbounds := hk.held.stores.bounds hstored hk.sim.holds
    have hle := x.bytesLength_le
    unfold headAddr Standing.addr
    rw [cflDataSectorAddr_eq, cflDataSectorAddr_eq]
    by_cases hhere : x.sector = sound.headSector
    · have hne := hclear x hdamaged hstored hhere
      rw [hhere, hsplit] at hmem
      have hhead : (⟨sound.headSector, 0 + sizes pre, r.payload⟩ : Standing) ∈
          placesFrom sound.headSector 0 (pre ++ r :: post) := mem_placesFrom
      rw [hhere]
      rcases placesFrom_apart hmem hhead with rfl | hbefore | hbehind
      · exact absurd (by change 0 + sizes pre = _; omega) hne
      · change x.offset + x.size <= 0 + sizes pre at hbefore
        omega
      · change 0 + sizes pre + r.size <= x.offset at hbehind
        omega
    · omega

theorem RecAt.checks {offset : Nat} (h : RecAt m (cflDataSectorAddr sector + offset) r) :
    headerOn m sector offset = r.hdr ∧ CrcMatches m sector offset r.hdr ∧
      payloadOn m sector offset r.payload.length = r.payload := by
  refine ⟨h.header, ?_, h.payload⟩
  unfold CrcMatches payloadOn
  have hcrc : m.slice (cflDataSectorAddr sector + offset + cflRecordHeaderSz +
      r.payload.length) cflRecordCrcSz = r.crcBytes := h.crc
  have hpayload : m.slice (cflDataSectorAddr sector + offset + cflRecordHeaderSz)
      r.payload.length = r.payload := h.payload
  change getLe (m.slice (cflDataSectorAddr sector + offset + cflRecordHeaderSz +
    r.payload.length) cflRecordCrcSz) = (cflRecordCrc r.hdr (m.slice _ r.payload.length)).toNat
  rw [hcrc, hpayload]
  exact getLe_putLe_of_lt (cflRecordCrc r.hdr r.payload).toNat_lt

end Beside

end EnvMonitor.Gateway.CircularFlashLog
