import EnvMonitor.Gateway.CircularFlashLog.AnyContent

/-!
# Does the drain reach the records the scan counted?

Over arbitrary bytes the reader follows the runs of the boot scan record by record.  At the
end of a run it leaves the sector only if it finds no header there.  Otherwise it goes astray:
it delivers something the scan did not count, or stops at it as corrupt.
-/

namespace EnvMonitor.Gateway.CircularFlashLog

open Device Drivers
open Program (eval_bind)

/-- Behind every run but the last the reader finds no header. -/
def RunsEndForReader (m : Memory) : List (List Found) -> Prop
  | run :: next :: rest =>
      (forall r, r ∈ run.getLast? ->
        ¬ ReaderGoesOn m r.sector (r.offset + cflRecordSize r.hdr.dataLen)) ∧
        RunsEndForReader m (next :: rest)
  | _ => True

/-!
## The drain
-/

/-- A record the reader delivered: where it stood and its payload. -/
structure Delivered where
  sector : Nat
  offset : Nat
  data : List UInt8
  deriving DecidableEq, Repr

/-- Peek and consume until a call does not answer `CFL_ERR_OK`: the code of that call and
the records read, with the place of each. -/
def drainPlaces : Nat -> CflInst -> Qspi (CflErr × List Delivered)
  | 0, _ => pure (.ok, [])
  | fuel + 1, inst => do
      match ← cflPeekOldest inst cflMaxRecordBytes with
      | ⟨.ok, some data, _⟩ =>
          let (err, after) ← cflConsumeOldest inst
          if err = .ok then
            let (last, rest) ← drainPlaces fuel after
            pure (last, ⟨inst.headSector, inst.headOffset, data⟩ :: rest)
          else
            pure (err, [⟨inst.headSector, inst.headOffset, data⟩])
      | ⟨err, _, _⟩ => pure (err, [])

/-- The drain delivers the records the scan counted, as many and as long as the instance
says, each with a matching check sum, and then finds the ring empty. -/
structure DrainAgrees (m : Memory) (inst : CflInst) (drained : CflErr × List Delivered) :
    Prop where
  last : drained.1 = .empty
  count : drained.2.length = inst.entryCount
  bytes : (drained.2.map fun d => d.data.length).sum = inst.byteCount
  crcs : forall d, d ∈ drained.2 ->
    CrcMatches m d.sector d.offset (headerOn m d.sector d.offset) ∧
      d.data = payloadOn m d.sector d.offset (headerOn m d.sector d.offset).dataLen
  places : (drained.2.map fun d => (d.sector, d.offset)) =
    (runsOn m).flatten.map fun r => (r.sector, r.offset)

section Reading

variable {m m' : Memory} {inst after : CflInst} {r : Found} {run : List Found}
variable {rest : List (List Found)}

/-- The two memories agree on the data sectors. -/
def DataSame (m m' : Memory) : Prop :=
  forall x, cflDataSectorAddr 0 <= x -> m' x = m x

theorem DataSame.sameOn (h : DataSame m m') (sector offset len : Nat) :
    Memory.SameOn m m' (cflDataSectorAddr sector + offset) len := by
  intro x hlo _
  apply h
  rw [cflDataSectorAddr_eq] at hlo ⊢
  omega

theorem DataSame.headerOn_eq (h : DataSame m m') (sector offset : Nat) :
    headerOn m' sector offset = headerOn m sector offset :=
  headerAt_congr (h.sameOn sector offset 12)

theorem DataSame.payloadOn_eq (h : DataSame m m') (sector offset len : Nat) :
    payloadOn m' sector offset len = payloadOn m sector offset len := by
  have hsame := h.sameOn sector (offset + cflRecordHeaderSz) len
  rw [← Nat.add_assoc] at hsame
  exact Memory.slice_congr hsame

theorem DataSame.crcMatches_iff (h : DataSame m m') (sector offset : Nat) (hdr : CflRecordHdr) :
    CrcMatches m' sector offset hdr ↔ CrcMatches m sector offset hdr := by
  have hsame := h.sameOn sector (offset + cflRecordHeaderSz + hdr.dataLen) cflRecordCrcSz
  rw [← Nat.add_assoc, ← Nat.add_assoc] at hsame
  unfold CrcMatches
  rw [Memory.slice_congr hsame, h.payloadOn_eq]

theorem DataSame.readerGoesOn_iff (h : DataSame m m') (sector offset : Nat) :
    ReaderGoesOn m' sector offset ↔ ReaderGoesOn m sector offset := by
  unfold ReaderGoesOn
  rw [h.headerOn_eq]

theorem eval_headerOn {sector offset : Nat} (hsector : sector < 254) (hoffset : offset + 12 <= 4096) :
    (cflReadHeader sector offset).eval qspiFlash m = (some (headerOn m sector offset), m) :=
  (reads_headerOn hsector hoffset).eval_eq

theorem eval_cflPeekOldest_cases {maxLen : Nat} (hmax : cflMaxRecordBytes <= maxLen)
    (hcount : inst.entryCount ≠ 0) (hsector : inst.headSector < 254)
    (hroom : cflRoomForRecord inst.headOffset) :
    exists answer, (cflPeekOldest inst maxLen).eval qspiFlash m = (answer, m) ∧
      ((cflHeaderPlausible (headerOn m inst.headSector inst.headOffset) inst.headOffset ∧
          CrcMatches m inst.headSector inst.headOffset
            (headerOn m inst.headSector inst.headOffset) ∧
          answer = ⟨.ok, some (payloadOn m inst.headSector inst.headOffset
            (headerOn m inst.headSector inst.headOffset).dataLen),
            some (headerOn m inst.headSector inst.headOffset).dataLen⟩) ∨
        (¬ (cflHeaderPlausible (headerOn m inst.headSector inst.headOffset) inst.headOffset ∧
          CrcMatches m inst.headSector inst.headOffset
            (headerOn m inst.headSector inst.headOffset)) ∧ answer.err = .corrupt)) := by
  have hbound := cflRoomForRecord_iff.mp hroom
  unfold cflPeekOldest
  rw [if_neg hcount, eval_bind, eval_headerOn hsector (by omega)]
  by_cases hplausible :
      cflHeaderPlausible (headerOn m inst.headSector inst.headOffset) inst.headOffset
  · have hfits := hplausible.2.2.2
    have hbounds := cflRecordSize_bounds (headerOn m inst.headSector inst.headOffset).dataLen
    have hpos := Nat.pos_of_ne_zero hplausible.2.1
    have hend : cflDataSectorAddr inst.headSector + inst.headOffset +
        ((headerOn m inst.headSector inst.headOffset).dataLen + 14) <=
        qspiFlashDeviceSizeBytes :=
      sector_in hsector (by simp only [cflSectorSizeBytes] at hfits; omega)
    dsimp only
    rw [if_pos hplausible, if_neg (Nat.not_lt_of_le (Nat.le_trans hplausible.2.2.1 hmax)),
      eval_bind, eval_qspiRead hpos (by simp only [cflRecordHeaderSz]; omega)]
    dsimp only
    rw [eval_bind, eval_qspiRead (by decide)
      (by simp only [cflRecordHeaderSz, cflRecordCrcSz]; omega)]
    dsimp only
    by_cases hcrc : CrcMatches m inst.headSector inst.headOffset
        (headerOn m inst.headSector inst.headOffset)
    · refine ⟨_, ?_, .inl ⟨ hplausible, hcrc, rfl⟩⟩
      unfold CrcMatches payloadOn at hcrc
      rw [if_pos hcrc]
      rfl
    · refine ⟨⟨.corrupt, some (payloadOn m inst.headSector inst.headOffset
        (headerOn m inst.headSector inst.headOffset).dataLen), none⟩, ?_,
        .inr ⟨fun hboth => hcrc hboth.2, rfl⟩⟩
      unfold CrcMatches payloadOn at hcrc
      rw [if_neg hcrc]
      rfl
  · dsimp only
    rw [if_neg hplausible]
    exact ⟨_, rfl, .inr ⟨fun hboth => hplausible hboth.1, rfl⟩⟩

theorem eval_cflPeekOldest (hcount : inst.entryCount ≠ 0) (hsector : inst.headSector < 254)
    (hgoes : ReaderGoesOn m inst.headSector inst.headOffset)
    (hcrc : CrcMatches m inst.headSector inst.headOffset
      (headerOn m inst.headSector inst.headOffset)) :
    (cflPeekOldest inst cflMaxRecordBytes).eval qspiFlash m =
      (⟨.ok, some (payloadOn m inst.headSector inst.headOffset
          (headerOn m inst.headSector inst.headOffset).dataLen),
        some (headerOn m inst.headSector inst.headOffset).dataLen⟩, m) := by
  rcases eval_cflPeekOldest_cases (m := m) (Nat.le_refl cflMaxRecordBytes) hcount hsector
    hgoes.1 with ⟨answer, heval, ⟨_, _, rfl⟩ | ⟨hcorrupt, _⟩⟩
  · exact heval
  · exact absurd ⟨hgoes.2, hcrc⟩ hcorrupt

theorem eval_cflMetaStore (m : Memory) (inst : CflInst) :
    exists m', (cflMetaStore inst).eval qspiFlash m = ((.ok, stored inst), m') ∧
      DataSame m m' := by
  have hslot : targetSlot inst < 2 := Nat.mod_lt _ (by decide)
  have haddr := cflMetaSlotAddr_eq (targetSlot inst)
  have hprogram := @eval_qspiProgramRange (cflMetaSlotAddr (targetSlot inst))
    (m.erase (cflMetaSlotAddr (targetSlot inst)) 4096)
    (cflMetaBytes (u32 (inst.metaSeqNum + 1)) inst.headSector)
    (by rw [cflMetaBytes_length, haddr]; simp only [qspiFlashDeviceSizeBytes]; omega)
  refine ⟨(m.erase (cflMetaSlotAddr (targetSlot inst)) 4096).program
    (cflMetaSlotAddr (targetSlot inst))
    (cflMetaBytes (u32 (inst.metaSeqNum + 1)) inst.headSector), ?_, ?_⟩
  · rw [cflMetaStore_eq, eval_bind, eval_qspiEraseSector
      (by rw [haddr]; simp only [qspiFlashSectorSizeBytes]; omega)
      (by rw [haddr]; simp only [qspiFlashDeviceSizeBytes]; omega)]
    dsimp only
    rw [if_pos rfl, eval_bind, hprogram]
    rfl
  · intro x hx
    rw [cflDataSectorAddr_eq] at hx
    rw [Memory.program_sameOutside _ _ _ x (by rw [cflMetaBytes_length]; omega),
      Memory.erase_sameOutside _ _ _ x (by omega)]

/-- The place where the instance reads and what it still counts. -/
structure SameReader (inst after : CflInst) : Prop where
  headSector : after.headSector = inst.headSector
  headOffset : after.headOffset = inst.headOffset
  tailSector : after.tailSector = inst.tailSector
  tailOffset : after.tailOffset = inst.tailOffset
  entryCount : after.entryCount = inst.entryCount

theorem eval_cflPersistHead (m : Memory) (previous : Nat) (inst : CflInst) :
    exists after m', (cflPersistHead previous inst).eval qspiFlash m = ((.ok, after), m') ∧
      DataSame m m' ∧ SameReader inst after := by
  unfold cflPersistHead
  by_cases hmoved : inst.headSector ≠ previous
  · rw [if_pos hmoved]
    rcases eval_cflMetaStore m inst with ⟨m', heval, hsame⟩
    exact ⟨stored inst, m', heval, hsame, ⟨rfl, rfl, rfl, rfl, rfl⟩⟩
  · rw [if_neg hmoved]
    exact ⟨inst, m, rfl, fun _ _ => rfl, ⟨rfl, rfl, rfl, rfl, rfl⟩⟩

theorem eval_cflMoreHere (hsector : inst.headSector < 254) :
    (cflMoreHere inst).eval qspiFlash m =
      (some (decide (¬ (inst.headSector = inst.tailSector ∧ inst.headOffset >= inst.tailOffset) ∧
        ReaderGoesOn m inst.headSector inst.headOffset)), m) := by
  unfold cflMoreHere
  by_cases hlook : cflRoomForRecord inst.headOffset ∧
      ¬ (inst.headSector = inst.tailSector ∧ inst.headOffset >= inst.tailOffset)
  · have hbound := cflRoomForRecord_iff.mp hlook.1
    rw [if_pos hlook, eval_bind, eval_headerOn hsector (by omega)]
    change (some (decide (cflHeaderPlausible _ _)), m) = _
    simp only [hlook.2, not_false_eq_true, true_and, ReaderGoesOn, hlook.1]
  · rw [if_neg hlook]
    have hstop : ¬ (¬ (inst.headSector = inst.tailSector ∧ inst.headOffset >= inst.tailOffset) ∧
        ReaderGoesOn m inst.headSector inst.headOffset) :=
      fun hgoes => hlook ⟨hgoes.2.1, hgoes.1⟩
    rw [decide_eq_false hstop]
    rfl

/-!
## The reader on a run
-/

/-- The head stands at the first record of the run; the other runs follow. -/
structure OnRun (m : Memory) (inst : CflInst) (run : List Found) (rest : List (List Found)) :
    Prop where
  head_lt : inst.headSector < 254
  here : RunAt m inst.headSector inst.headOffset run
  further : RunsAt m (cflNextSector inst.headSector) rest
  count : inst.entryCount = run.length + rest.flatten.length
  away : AwayFrom inst.tailSector (run :: rest)
  inFront : InFront inst (run ++ rest.flatten)

/-- Where a removal leaves the reader behind the record `r`. -/
inductive ReadOn (m : Memory) (r : Found) (after : CflInst) :
    List Found -> List (List Found) -> Prop where
  | stays {run : List Found} {rest : List (List Found)} :
      run ≠ [] -> OnRun m after run rest -> ReadOn m r after run rest
  | next {run : List Found} {rest : List (List Found)} :
      ¬ ReaderGoesOn m r.sector (r.offset + cflRecordSize r.hdr.dataLen) ->
      run ≠ [] -> OnRun m after run rest -> ReadOn m r after [] (run :: rest)
  | astray {run : List Found} {rest : List (List Found)} :
      ReaderGoesOn m r.sector (r.offset + cflRecordSize r.hdr.dataLen) ->
      after.headSector = r.sector -> (forall s, s ∈ run -> s.sector ≠ r.sector) -> run ≠ [] ->
      ReadOn m r after [] (run :: rest)
  | drained : after.entryCount = 0 -> ReadOn m r after [] []

theorem OnRun.sector (h : OnRun m inst (r :: run) rest) : r.sector = inst.headSector ∧
    r.offset = inst.headOffset ∧ r.hdr = headerOn m inst.headSector inst.headOffset := by
  rw [h.here.1]
  exact ⟨rfl, rfl, rfl⟩

theorem OnRun.behind (h : OnRun m inst (r :: run) rest) (payloadLen : Nat) :
    OnRun m (passed inst (cflRecordSize r.hdr.dataLen) payloadLen) run rest := by
  rcases h.sector with ⟨_, _, hhdr⟩
  have hcount := h.count
  rw [List.length_cons] at hcount
  refine ⟨h.head_lt, ?_, h.further, ?_, ?_, ?_⟩
  · rw [hhdr]
    exact h.here.2.2.2
  · change inst.entryCount - 1 = _
    omega
  · have haway := h.away
    cases rest with
    | nil => trivial
    | cons next rest => exact ⟨fun s hs => haway.1 s (List.mem_cons_of_mem _ hs), haway.2⟩
  · exact fun s hs => h.inFront s (List.mem_cons_of_mem _ hs)

theorem OnRun.moved {next : List Found} (h : OnRun m inst [r] (next :: rest))
    (payloadLen : Nat) :
    OnRun m (headOnNext (passed inst (cflRecordSize r.hdr.dataLen) payloadLen)) next rest := by
  have hcount := h.count
  rw [List.length_singleton, List.flatten_cons, List.length_append] at hcount
  refine ⟨cflNextSector_lt _, h.further.2.1, h.further.2.2, ?_, h.away.2, ?_⟩
  · change inst.entryCount - 1 = _
    omega
  · exact fun s hs => h.inFront s (List.mem_cons_of_mem _ hs)

theorem OnRun.congr (h : OnRun m inst run rest) (hsame : SameReader inst after) :
    OnRun m after run rest := by
  refine ⟨?_, ?_, ?_, ?_, ?_, ?_⟩
  · rw [hsame.headSector]
    exact h.head_lt
  · rw [hsame.headSector, hsame.headOffset]
    exact h.here
  · rw [hsame.headSector]
    exact h.further
  · rw [hsame.entryCount]
    exact h.count
  · rw [hsame.tailSector]
    exact h.away
  · intro s hs htail
    rw [hsame.tailSector] at htail
    rw [hsame.tailOffset]
    exact h.inFront s hs htail

theorem DataSame.trans {m'' : Memory} (h : DataSame m m') (h' : DataSame m' m'') :
    DataSame m m'' :=
  fun x hx => (h' x hx).trans (h x hx)

theorem OnRun.goesOn (h : OnRun m inst (r :: run) rest) :
    ReaderGoesOn m inst.headSector inst.headOffset :=
  h.here.2.1

theorem cflAdvanceHead_eq (inst : CflInst) (size payloadLen : Nat) :
    cflAdvanceHead inst size payloadLen =
      if inst.entryCount - 1 = 0 then
        cflPersistHead inst.headSector (parked (passed inst size payloadLen))
      else (do
        match ← cflMoreHere (passed inst size payloadLen) with
        | none => pure (.flashRead, passed inst size payloadLen)
        | some true => cflPersistHead inst.headSector (passed inst size payloadLen)
        | some false =>
            cflPersistHead inst.headSector (headOnNext (passed inst size payloadLen))) := rfl

theorem eval_persist {previous : Nat} {moved : CflInst} (hsame : DataSame m m')
    (hread : forall after, SameReader moved after -> ReadOn m r after run rest) :
    exists after m'', (cflPersistHead previous moved).eval qspiFlash m' = ((.ok, after), m'') ∧
      DataSame m m'' ∧ ReadOn m r after run rest := by
  rcases eval_cflPersistHead m' previous moved with ⟨after, m'', heval, hkept, hreader⟩
  exact ⟨after, m'', heval, hsame.trans hkept, hread after hreader⟩

theorem OnRun.advance (h : OnRun m inst (r :: run) rest) (hsame : DataSame m m')
    (payloadLen : Nat) :
    exists after m'',
      (cflAdvanceHead inst (cflRecordSize r.hdr.dataLen) payloadLen).eval qspiFlash m' =
        ((.ok, after), m'') ∧ DataSame m m'' ∧ ReadOn m r after run rest := by
  have hcount := h.count
  rw [List.length_cons] at hcount
  have hplace := h.sector
  have hmore : (cflMoreHere (passed inst (cflRecordSize r.hdr.dataLen) payloadLen)).eval
      qspiFlash m' = (some (decide (¬ (inst.headSector = inst.tailSector ∧
          inst.headOffset + cflRecordSize r.hdr.dataLen >= inst.tailOffset) ∧
        ReaderGoesOn m' inst.headSector (inst.headOffset + cflRecordSize r.hdr.dataLen))), m') :=
    eval_cflMoreHere h.head_lt
  have hgoes : ReaderGoesOn m' inst.headSector (inst.headOffset + cflRecordSize r.hdr.dataLen) ↔
      ReaderGoesOn m r.sector (r.offset + cflRecordSize r.hdr.dataLen) := by
    rw [hplace.1, hplace.2.1]
    exact hsame.readerGoesOn_iff _ _
  rw [cflAdvanceHead_eq]
  by_cases hlast : inst.entryCount - 1 = 0
  · -- the last entry: the head is parked on the tail
    rw [if_pos hlast]
    have hrun : run = [] := List.length_eq_zero_iff.mp (by omega)
    have hrest : rest = [] := by
      cases rest with
      | nil => rfl
      | cons next rest =>
          have hnext := List.length_pos_iff.mpr h.further.1
          rw [List.flatten_cons, List.length_append] at hcount
          omega
    subst hrun hrest
    exact eval_persist hsame fun after hreader => .drained (hreader.entryCount.trans hlast)
  · rw [if_neg hlast, eval_bind, hmore]
    cases run with
    | cons s run =>
        -- another counted record stands at the new head
        have hpassed := h.behind payloadLen
        have hs := hpassed.sector
        have hnot : ¬ (inst.headSector = inst.tailSector ∧
            inst.headOffset + cflRecordSize r.hdr.dataLen >= inst.tailOffset) := by
          intro htail
          have hfront := hpassed.inFront s (List.mem_append_left _ (List.mem_cons_self ..))
            (hs.1.trans htail.1)
          rw [hs.2.1] at hfront
          exact Nat.not_lt_of_le htail.2 hfront
        have hfollows : ReaderGoesOn m' inst.headSector
            (inst.headOffset + cflRecordSize r.hdr.dataLen) :=
          (hsame.readerGoesOn_iff _ _).mpr hpassed.goesOn
        rw [decide_eq_true (p := _ ∧ _) ⟨hnot, hfollows⟩]
        exact eval_persist hsame fun after hreader =>
          .stays (by simp) (hpassed.congr hreader)
    | nil =>
        cases rest with
        | nil => simp at hcount; omega
        | cons next rest =>
            have hnot : ¬ (inst.headSector = inst.tailSector ∧
                inst.headOffset + cflRecordSize r.hdr.dataLen >= inst.tailOffset) := by
              intro htail
              exact h.away.1 r (List.mem_cons_self ..) (hplace.1.trans htail.1)
            by_cases hastray : ReaderGoesOn m r.sector (r.offset + cflRecordSize r.hdr.dataLen)
            · rw [decide_eq_true (p := _ ∧ _) ⟨hnot, hgoes.mpr hastray⟩]
              refine eval_persist hsame fun after hreader => .astray hastray ?_ ?_ h.further.1
              · exact hreader.headSector.trans hplace.1.symm
              · intro s hs
                rw [(h.further.2.1.mem (Nat.zero_le _) hs).1, hplace.1, cflNextSector_eq]
                have hlt := h.head_lt
                omega
            · rw [decide_eq_false (p := _ ∧ _) fun hboth => hastray (hgoes.mp hboth.2)]
              refine eval_persist hsame fun after hreader => .next hastray h.further.1 ?_
              exact (h.moved payloadLen).congr hreader

theorem OnRun.consume (h : OnRun m inst (r :: run) rest) (hsame : DataSame m m') :
    exists after m'', (cflConsumeOldest inst).eval qspiFlash m' = ((.ok, after), m'') ∧
      DataSame m m'' ∧ ReadOn m r after run rest := by
  have hcount : inst.entryCount ≠ 0 := by
    have hcount := h.count
    rw [List.length_cons] at hcount
    omega
  have hgoes := (hsame.readerGoesOn_iff _ _).mpr h.goesOn
  have hbound := cflRoomForRecord_iff.mp hgoes.1
  unfold cflConsumeOldest
  rw [if_neg hcount, eval_bind, eval_headerOn h.head_lt (by omega)]
  change exists after m'', Program.eval qspiFlash
    (if cflHeaderPlausible (headerOn m' inst.headSector inst.headOffset) inst.headOffset then
      cflAdvanceHead inst (cflRecordSize (headerOn m' inst.headSector inst.headOffset).dataLen) _
    else _) m' = _ ∧ _
  rw [if_pos hgoes.2, hsame.headerOn_eq, ← h.sector.2.2]
  exact h.advance hsame _

/-!
## The drain
-/

/-- What the reader delivers of a record it takes. -/
def delivered (m : Memory) (r : Found) : Delivered where
  sector := r.sector
  offset := r.offset
  data := payloadOn m r.sector r.offset r.hdr.dataLen

theorem drainPlaces_empty (fuel : Nat) (m : Memory) (hcount : inst.entryCount = 0) :
    (drainPlaces (fuel + 1) inst).eval qspiFlash m = ((.empty, []), m) := by
  unfold drainPlaces cflPeekOldest
  rw [if_pos hcount]
  rfl

theorem drainPlaces_first (fuel : Nat) (inst : CflInst) (m : Memory) {d : Delivered}
    (hd : d ∈ ((drainPlaces fuel inst).eval qspiFlash m).1.2.head?) :
    d.sector = inst.headSector := by
  cases fuel with
  | zero => cases hd
  | succ fuel =>
      unfold drainPlaces at hd
      rw [eval_bind] at hd
      generalize (cflPeekOldest inst cflMaxRecordBytes).eval qspiFlash m = peeked at hd
      rcases peeked with ⟨⟨err, data, len⟩, m₁⟩
      cases err with
      | ok =>
          cases data with
          | none => cases hd
          | some data =>
              dsimp only at hd
              rw [eval_bind] at hd
              generalize (cflConsumeOldest inst).eval qspiFlash m₁ = consumed at hd
              rcases consumed with ⟨⟨err, after⟩, m₂⟩
              dsimp only at hd
              by_cases hok : err = .ok
              · rw [if_pos hok, eval_bind] at hd
                cases hd
                rfl
              · rw [if_neg hok] at hd
                cases hd
                rfl
      | _ => cases hd

theorem OnRun.drainPlaces (h : OnRun m inst (r :: run) rest) (hsame : DataSame m m')
    (fuel : Nat) :
    exists after m'', DataSame m m'' ∧ ReadOn m r after run rest ∧
      ((drainPlaces (fuel + 1) inst).eval qspiFlash m').1 =
        (((drainPlaces fuel after).eval qspiFlash m'').1.1,
          delivered m r :: ((drainPlaces fuel after).eval qspiFlash m'').1.2) := by
  have hplace := h.sector
  have hcount : inst.entryCount ≠ 0 := by
    have hcount := h.count
    rw [List.length_cons] at hcount
    omega
  have hgoes := (hsame.readerGoesOn_iff _ _).mpr h.goesOn
  have hcrc : CrcMatches m' inst.headSector inst.headOffset
      (headerOn m' inst.headSector inst.headOffset) := by
    rw [hsame.headerOn_eq]
    exact (hsame.crcMatches_iff _ _ _).mpr h.here.2.2.1
  have hpeek := eval_cflPeekOldest hcount h.head_lt hgoes hcrc
  rcases h.consume hsame with ⟨after, m'', hconsume, hkept, hread⟩
  refine ⟨after, m'', hkept, hread, ?_⟩
  have hdata : payloadOn m' inst.headSector inst.headOffset
      (headerOn m' inst.headSector inst.headOffset).dataLen =
      payloadOn m r.sector r.offset r.hdr.dataLen := by
    rw [hsame.headerOn_eq, hsame.payloadOn_eq, hplace.1, hplace.2.1, hplace.2.2]
  have hdelivered : (⟨inst.headSector, inst.headOffset, payloadOn m' inst.headSector
      inst.headOffset (headerOn m' inst.headSector inst.headOffset).dataLen⟩ : Delivered) =
      delivered m r := by
    rw [hdata, delivered, hplace.1, hplace.2.1]
  rw [CircularFlashLog.drainPlaces, eval_bind, hpeek]
  dsimp only
  rw [eval_bind, hconsume]
  dsimp only
  rw [if_pos rfl, eval_bind, hdelivered]
  rfl

theorem runsEnd_cons {s : Found} :
    RunsEndForReader m ((r :: s :: run) :: rest) ↔ RunsEndForReader m ((s :: run) :: rest) := by
  cases rest with
  | nil => exact Iff.rfl
  | cons next rest =>
      unfold RunsEndForReader
      rw [List.getLast?_cons_cons]

theorem OnRun.drain (fuel : Nat) (h : OnRun m inst run rest) (hne : run ≠ [])
    (hsame : DataSame m m') (hfuel : inst.entryCount < fuel) :
    (RunsEndForReader m (run :: rest) ->
      ((CircularFlashLog.drainPlaces fuel inst).eval qspiFlash m').1 =
        (.empty, (run ++ rest.flatten).map (delivered m))) ∧
    ((((CircularFlashLog.drainPlaces fuel inst).eval qspiFlash m').1.2.map
        fun d => (d.sector, d.offset)) =
        ((run ++ rest.flatten).map fun r => (r.sector, r.offset)) ->
      RunsEndForReader m (run :: rest)) := by
  induction fuel generalizing inst run rest m' with
  | zero => omega
  | succ fuel ih =>
      cases run with
      | nil => exact absurd rfl hne
      | cons r run =>
          have hcount := h.count
          rw [List.length_cons] at hcount
          rcases h.drainPlaces hsame fuel with ⟨after, m'', hkept, hread, hdrain⟩
          rw [hdrain]
          cases hread with
          | stays hmore hon =>
              have hrest := ih hon hmore hkept (by rw [hon.count]; omega)
              cases run with
              | nil => exact absurd rfl hmore
              | cons s run =>
                  rw [runsEnd_cons]
                  constructor
                  · intro hends
                    rw [hrest.1 hends]
                    rfl
                  · intro hplaces
                    exact hrest.2 (List.cons.inj hplaces).2
          | @next next rest hends hmore hon =>
              have hlen : (next :: rest).flatten.length = next.length + rest.flatten.length := by
                simp
              have hrest := ih hon hmore hkept (by rw [hon.count]; omega)
              constructor
              · intro hall
                rw [hrest.1 hall.2]
                rfl
              · intro hplaces
                refine ⟨?_, hrest.2 (List.cons.inj hplaces).2⟩
                intro last hlast
                cases hlast
                exact hends
          | @astray next rest hgoes hstill haway hmore =>
              constructor
              · intro hall
                exact absurd hgoes (hall.1 r rfl)
              · intro hplaces
                exfalso
                cases next with
                | nil => exact absurd rfl hmore
                | cons s next =>
                    have htail := (List.cons.inj hplaces).2
                    have hfirst := fun d => drainPlaces_first fuel after m'' (d := d)
                    generalize (CircularFlashLog.drainPlaces fuel after).eval qspiFlash m'' =
                      drained at htail hfirst
                    cases hlist : drained.1.2 with
                    | nil =>
                        rw [hlist] at htail
                        cases htail
                    | cons d ds =>
                        have hd := hfirst d (by rw [hlist]; rfl)
                        rw [hlist] at htail
                        have hsector : d.sector = s.sector :=
                          congrArg Prod.fst (List.cons.inj htail).1
                        apply haway s (List.mem_cons_self ..)
                        rw [← hsector, hd, hstill]
          | drained hempty =>
              cases fuel with
              | zero => omega
              | succ fuel =>
                  rw [drainPlaces_empty fuel m'' hempty]
                  exact ⟨fun _ => rfl, fun _ => trivial⟩

theorem Scanned.onRun (h : Scanned m inst) (hruns : runsOn m = run :: rest) :
    OnRun m inst run rest ∧ run ≠ [] := by
  have hat := (scanRuns_at (m := m) cflDataSectorCount (headOn m) none).1
  change RunsAt m (headOn m) (runsOn m) at hat
  have hcount := h.entryCount
  have haway := h.away
  have hfront := h.inFront
  rw [hruns, ← h.headSector] at hat
  rw [hruns, List.flatten_cons] at hcount hfront
  rw [hruns] at haway
  rw [List.length_append] at hcount
  refine ⟨⟨h.head_lt, ?_, hat.2.2, hcount, haway, hfront⟩, hat.1⟩
  rw [h.headOffset]
  exact hat.2.1

theorem RunAt.checks {sector offset : Nat} (h : RunAt m sector offset run) {s : Found}
    (hs : s ∈ run) :
    s.hdr = headerOn m s.sector s.offset ∧ CrcMatches m s.sector s.offset s.hdr := by
  induction run generalizing offset with
  | nil => cases hs
  | cons r run ih =>
      rcases h with ⟨rfl, _, hcrc, hrest⟩
      rcases List.mem_cons.mp hs with rfl | hlater
      · exact ⟨rfl, hcrc⟩
      · exact ih hrest hlater

theorem RunsAt.checks {sector : Nat} (h : RunsAt m sector rest) {s : Found}
    (hs : s ∈ rest.flatten) :
    s.hdr = headerOn m s.sector s.offset ∧ CrcMatches m s.sector s.offset s.hdr := by
  induction rest generalizing sector with
  | nil => cases hs
  | cons run rest ih =>
      rw [List.flatten_cons, List.mem_append] at hs
      rcases hs with hhere | hlater
      · exact h.2.1.checks hhere
      · exact ih h.2.2 hlater

theorem Scanned.agrees (h : Scanned m inst) {drained : CflErr × List Delivered}
    (hdrained : drained = (.empty, (runsOn m).flatten.map (delivered m))) :
    DrainAgrees m inst drained := by
  have hat := (scanRuns_at (m := m) cflDataSectorCount (headOn m) none).1
  change RunsAt m (headOn m) (runsOn m) at hat
  subst hdrained
  refine ⟨rfl, ?_, ?_, ?_, ?_⟩
  · rw [h.entryCount, List.length_map]
  · rw [h.byteCount, List.map_map]
    congr 2
    funext r
    exact Memory.slice_length _ _ _
  · intro d hd
    rcases List.mem_map.mp hd with ⟨s, hs, rfl⟩
    have hchecks := hat.checks hs
    change CrcMatches m s.sector s.offset (headerOn m s.sector s.offset) ∧
      payloadOn m s.sector s.offset s.hdr.dataLen =
        payloadOn m s.sector s.offset (headerOn m s.sector s.offset).dataLen
    rw [← hchecks.1]
    exact ⟨hchecks.2, rfl⟩
  · rw [List.map_map]
    rfl

end Reading

/-!
## The agreement of scan and drain
-/

theorem drainAgrees_iff (m : Memory) {inst : CflInst} (h : Scanned m inst) :
    DrainAgrees m inst ((drainPlaces (inst.entryCount + 1) inst).eval qspiFlash m).1 ↔
      RunsEndForReader m (runsOn m) := by
  have hsame : DataSame m m := fun _ _ => rfl
  cases hruns : runsOn m with
  | nil =>
      have hcount := h.entryCount
      rw [hruns] at hcount
      refine ⟨fun _ => trivial, fun _ => h.agrees ?_⟩
      rw [drainPlaces_empty _ m hcount, hruns]
      rfl
  | cons run rest =>
      have hon := h.onRun hruns
      have hdrain := hon.1.drain (inst.entryCount + 1) hon.2 hsame (Nat.lt_succ_self _)
      constructor
      · intro hagrees
        apply hdrain.2
        rw [hagrees.places, hruns]
        rfl
      · intro hends
        apply h.agrees
        rw [hdrain.1 hends, hruns]
        rfl

/-- Sector 0 holds record 0, and behind it a header without its record; sector 1 begins with
record 1. -/
def strayHeader : Memory :=
  Memory.program
    (Memory.program (fun _ => erasedByte) (cflDataSectorAddr 0)
      (cflHeaderBytes ⟨cflMagic, 0, 1⟩ ++
        ([10] ++ (putLe 2 (cflRecordCrc ⟨cflMagic, 0, 1⟩ [10]).toNat ++
          ([0] ++ cflHeaderBytes ⟨cflMagic, 1, 1⟩)))))
    (cflDataSectorAddr 1)
    (cflHeaderBytes ⟨cflMagic, 1, 1⟩ ++
      ([11] ++ (putLe 2 (cflRecordCrc ⟨cflMagic, 1, 1⟩ [11]).toNat ++ [0, 0])))

/-- The scan counts two records; the drain delivers the first and then answers
`CFL_ERR_CORRUPT`. -/
theorem drain_misses_counted :
    ¬ forall (m m' : Memory) (inst : CflInst), cflCreate.eval qspiFlash m = (some inst, m') ->
      DrainAgrees m inst ((drainPlaces (inst.entryCount + 1) inst).eval qspiFlash m').1 := by
  intro hagree
  have hcreate := (cflCreate_any strayHeader)
  rcases hcreate with ⟨inst, hcreate, _⟩
  have hlast := (hagree strayHeader strayHeader inst hcreate).last
  have hcorrupt : ((cflCreate.eval qspiFlash strayHeader).1.map fun inst =>
      ((drainPlaces (inst.entryCount + 1) inst).eval qspiFlash strayHeader).1.1) =
      some .corrupt := by
    decide +kernel
  rw [hcreate] at hcorrupt
  rw [Option.map_some, hlast] at hcorrupt
  cases hcorrupt

/-- Whatever the partition holds, `cfl_create` succeeds on failure-free flash, and the drain
delivers the records it counted just when no run but the last is followed by what the reader
takes for a header. -/
theorem scan_and_drain_agree_iff (m : Memory) :
    exists inst, cflCreate.eval qspiFlash m = (some inst, m) ∧
      (DrainAgrees m inst ((drainPlaces (inst.entryCount + 1) inst).eval qspiFlash m).1 ↔
        RunsEndForReader m (runsOn m)) := by
  rcases cflCreate_any m with ⟨inst, hcreate, hscanned⟩
  exact ⟨inst, hcreate, drainAgrees_iff m hscanned⟩

end EnvMonitor.Gateway.CircularFlashLog
