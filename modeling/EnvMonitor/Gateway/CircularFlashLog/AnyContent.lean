import EnvMonitor.Gateway.CircularFlashLog.Boot

/-!
# The boot scan and the reader over arbitrary bytes

Nothing is assumed of the flash here.  The boot scan counts the longest run of records from
the start of each sector: plausible header, matching check sum, next sequence number.  The
reader steps on the header alone.  So the two agree as long as no sector but the last one
holds, right behind the records counted there, something the reader takes for a header.
-/

namespace EnvMonitor.Gateway.CircularFlashLog

open Device Drivers

/-!
## The records the scan counts
-/

/-- A record on the flash: where it stands and its header. -/
structure Found where
  sector : Nat
  offset : Nat
  hdr : CflRecordHdr
  deriving DecidableEq, Repr

/-- The header at an offset of a data sector. -/
def headerOn (m : Memory) (sector offset : Nat) : CflRecordHdr :=
  headerAt m (cflDataSectorAddr sector + offset)

def payloadOn (m : Memory) (sector offset len : Nat) : List UInt8 :=
  m.slice (cflDataSectorAddr sector + offset + cflRecordHeaderSz) len

/-- The check sum stored behind the payload matches header and payload. -/
def CrcMatches (m : Memory) (sector offset : Nat) (hdr : CflRecordHdr) : Prop :=
  getLe (m.slice (cflDataSectorAddr sector + offset + cflRecordHeaderSz + hdr.dataLen)
    cflRecordCrcSz) = (cflRecordCrc hdr (payloadOn m sector offset hdr.dataLen)).toNat

instance (m : Memory) (sector offset : Nat) (hdr : CflRecordHdr) :
    Decidable (CrcMatches m sector offset hdr) := by
  unfold CrcMatches
  infer_instance

/-- The reader takes what stands at the offset for a record. -/
def ReaderGoesOn (m : Memory) (sector offset : Nat) : Prop :=
  cflRoomForRecord offset ∧ cflHeaderPlausible (headerOn m sector offset) offset

instance (m : Memory) (sector offset : Nat) : Decidable (ReaderGoesOn m sector offset) := by
  unfold ReaderGoesOn
  infer_instance

/-- The scan counts the record at the offset; `before` is the sequence number of the record
counted last, if there was one. -/
def ScanGoesOn (m : Memory) (sector offset : Nat) (before : Option Nat) : Prop :=
  ReaderGoesOn m sector offset ∧ CrcMatches m sector offset (headerOn m sector offset) ∧
    forall seq, seq ∈ before -> (headerOn m sector offset).seqNum = u32 (seq + 1)

instance (m : Memory) (sector offset : Nat) (before : Option Nat) :
    Decidable (ScanGoesOn m sector offset before) := by
  unfold ScanGoesOn
  infer_instance

/-- The run of records counted in a sector from an offset on. -/
def sectorRun (m : Memory) (sector : Nat) : Nat -> Nat -> Option Nat -> List Found
  | 0, _, _ => []
  | fuel + 1, offset, before =>
      if ScanGoesOn m sector offset before then
        let hdr := headerOn m sector offset
        ⟨sector, offset, hdr⟩ ::
          sectorRun m sector fuel (offset + cflRecordSize hdr.dataLen) (some hdr.seqNum)
      else
        []

/-- Where a run ends that begins at the offset. -/
def runEnd : Nat -> List Found -> Nat
  | offset, [] => offset
  | offset, r :: run => runEnd (offset + cflRecordSize r.hdr.dataLen) run

/-- The sequence number counted last. -/
def runLast : Option Nat -> List Found -> Option Nat
  | before, [] => before
  | _, r :: run => runLast (some r.hdr.seqNum) run

def runBytes (run : List Found) : Nat :=
  (run.map fun r => r.hdr.dataLen).sum

/-- The runs of the sectors from the given one on, up to the first sector without one. -/
def scanRuns (m : Memory) : Nat -> Nat -> Option Nat -> List (List Found)
  | 0, _, _ => []
  | steps + 1, sector, before =>
      if sectorRun m sector cflSectorSizeBytes 0 before = [] then
        []
      else
        sectorRun m sector cflSectorSizeBytes 0 before ::
          scanRuns m steps (cflNextSector sector)
            (runLast before (sectorRun m sector cflSectorSizeBytes 0 before))

/-- The metadata slots as the ring's. -/
def slotsOn (m : Memory) : Ring where
  recs := fun _ => []
  slot := fun s => cflMetaParse (m.slice (cflMetaSlotAddr s) cflMetaSlotSz)

/-- The head sector the metadata slots name. -/
def headOn (m : Memory) : Nat :=
  (metaLoaded (slotsOn m)).headSector

/-- All runs the boot scan counts. -/
def runsOn (m : Memory) : List (List Found) :=
  scanRuns m cflDataSectorCount (headOn m) none

section Scanning

variable {F : Faults qspi} {m : Memory}

variable {offset sector : Nat}

theorem reads_headerOn (hsector : sector < 254) (hoffset : offset + 12 <= 4096) :
    Program.Reads qspiFlash F (cflReadHeader sector offset) m (headerOn m sector offset) :=
  reads_cflReadHeader (sector_in hsector hoffset)

theorem reads_cflVerifyRecordCrc_any {hdr : CflRecordHdr} (hsector : sector < 254)
    ( hplausible : cflHeaderPlausible hdr offset) :
    Program.Reads qspiFlash F (cflVerifyRecordCrc sector offset hdr) m
      (decide (CrcMatches m sector offset hdr)) := by
  have hbounds := cflRecordSize_bounds hdr.dataLen
  have hfits := hplausible.2.2.2
  have hend : cflDataSectorAddr sector + offset + (hdr.dataLen + 14) <=
      qspiFlashDeviceSizeBytes :=
    sector_in hsector (by simp only [cflSectorSizeBytes] at hfits; omega)
  have hloop := reads_cflCrcLoop (F := F) (m := m) hdr.dataLen
    (cflDataSectorAddr sector + offset + 12) hdr.dataLen
    (cflCrc16Update 0 (cflHeaderBytes hdr)) (Nat.le_refl _) (by omega)
  have hstored : Program.Reads qspiFlash F
      (qspiRead (cflDataSectorAddr sector + offset + 12 + hdr.dataLen) 2) m
      (m.slice (cflDataSectorAddr sector + offset + 12 + hdr.dataLen) 2) :=
    reads_qspiRead (by decide) (by omega)
  refine hloop.bind rfl ?_
  refine hstored.bind rfl ?_
  exact Program.reads_pure _

/-- What the scan of a sector reports behind a run. -/
def scanOver (scan : CflSectorScan) (before : Option Nat) (run : List Found) :
    CflSectorScan where
  count := scan.count + run.length
  bytes := scan.bytes + runBytes run
  endOffset := runEnd scan.endOffset run
  maxSeq := (runLast before run).getD 0

theorem scanOver_nil {scan : CflSectorScan} {before : Option Nat}
    (hmax : scan.maxSeq = before.getD 0) : scanOver scan before [] = scan := by
  change (⟨scan.count, scan.bytes, scan.endOffset, before.getD 0⟩ : CflSectorScan) = scan
  rw [← hmax]

theorem reads_cflScanLoop_any {anyBefore : Bool} (hsector : sector < 254) (fuel : Nat)
    (scan : CflSectorScan) (before : Option Nat)
    (hany : (anyBefore = true ∨ scan.count > 0) ↔ before.isSome)
    (hmax : scan.maxSeq = before.getD 0) :
    Program.Reads qspiFlash F (cflScanLoop sector anyBefore fuel scan) m
      (scanOver scan before (sectorRun m sector fuel scan.endOffset before)) := by
  induction fuel generalizing scan before with
  | zero =>
      rw [sectorRun, scanOver_nil hmax]
      exact Program.reads_pure _
  | succ fuel ih =>
      have hstop : ¬ ScanGoesOn m sector scan.endOffset before ->
          Program.Reads qspiFlash F (pure (some scan)) m
            (scanOver scan before (sectorRun m sector (fuel + 1) scan.endOffset before)) := by
        intro hends
        rw [sectorRun, if_neg hends, scanOver_nil hmax]
        exact Program.reads_pure _
      unfold cflScanLoop
      by_cases hroom : cflRoomForRecord scan.endOffset
      · rw [if_pos hroom]
        have hbound := cflRoomForRecord_iff.mp hroom
        refine (reads_headerOn hsector (by omega)).bind rfl ?_
        change Program.Reads qspiFlash F
          (if cflHeaderPlausible (headerOn m sector scan.endOffset) scan.endOffset then _
            else pure (some scan)) m _
        by_cases hplausible : cflHeaderPlausible (headerOn m sector scan.endOffset) scan.endOffset
        · rw [if_pos hplausible]
          refine (reads_cflVerifyRecordCrc_any hsector hplausible).bind rfl ?_
          change Program.Reads qspiFlash F
            (if decide (CrcMatches m sector scan.endOffset
                (headerOn m sector scan.endOffset)) = false then pure (some scan) else _) m _
          by_cases hcrc : CrcMatches m sector scan.endOffset (headerOn m sector scan.endOffset)
          · rw [if_neg (by simpa using hcrc)]
            by_cases hbreaks : (anyBefore = true ∨ scan.count > 0) ∧
                (headerOn m sector scan.endOffset).seqNum ≠ u32 (scan.maxSeq + 1)
            · rw [if_pos hbreaks]
              apply hstop
              intro hgoes
              cases before with
              | none => exact absurd (hany.mp hbreaks.1) (by simp)
              | some seq =>
                  apply hbreaks.2
                  rw [hmax]
                  exact hgoes.2.2 seq rfl
            · -- the record is counted, the rest of the run follows
              rw [if_neg hbreaks]
              have hgoes : ScanGoesOn m sector scan.endOffset before := by
                refine ⟨⟨hroom, hplausible⟩, hcrc, ?_⟩
                intro seq hseq
                cases hseq
                by_contra hne
                apply hbreaks
                rw [hmax]
                exact ⟨hany.mpr rfl, hne⟩
              rw [sectorRun, if_pos hgoes]
              have hrest := ih
                { count := scan.count + 1
                  bytes := scan.bytes + (headerOn m sector scan.endOffset).dataLen
                  endOffset := scan.endOffset +
                    cflRecordSize (headerOn m sector scan.endOffset).dataLen
                  maxSeq := (headerOn m sector scan.endOffset).seqNum }
                (some (headerOn m sector scan.endOffset).seqNum) (by simp) rfl
              have hall : scanOver scan before
                  (⟨sector, scan.endOffset, headerOn m sector scan.endOffset⟩ ::
                    sectorRun m sector fuel
                      (scan.endOffset + cflRecordSize (headerOn m sector scan.endOffset).dataLen)
                      (some (headerOn m sector scan.endOffset).seqNum)) =
                  scanOver
                    { count := scan.count + 1
                      bytes := scan.bytes + (headerOn m sector scan.endOffset).dataLen
                      endOffset := scan.endOffset +
                        cflRecordSize (headerOn m sector scan.endOffset).dataLen
                      maxSeq := (headerOn m sector scan.endOffset).seqNum }
                    (some (headerOn m sector scan.endOffset).seqNum)
                    (sectorRun m sector fuel
                      (scan.endOffset + cflRecordSize (headerOn m sector scan.endOffset).dataLen)
                      (some (headerOn m sector scan.endOffset).seqNum)) := by
                simp only [scanOver, runBytes, runEnd, runLast, List.length_cons, List.map_cons,
                  List.sum_cons, CflSectorScan.mk.injEq, and_true]
                omega
              rw [← hall] at hrest
              exact hrest
          · rw [if_pos (by simpa using hcrc)]
            exact hstop fun hgoes => hcrc hgoes.2.1
        · rw [if_neg hplausible]
          exact hstop fun hgoes => hplausible hgoes.1.2
      · rw [if_neg hroom]
        exact hstop fun hgoes => hroom hgoes.1.1

theorem reads_cflScanSector_any (hsector : sector < 254) (before : Option Nat) :
    Program.Reads qspiFlash F (cflScanSector sector (before.getD 0) before.isSome) m
      (scanOver ⟨0, 0, 0, before.getD 0⟩ before
        (sectorRun m sector cflSectorSizeBytes 0 before)) :=
  reads_cflScanLoop_any hsector cflSectorSizeBytes ⟨0, 0, 0, before.getD 0⟩ before (by simp) rfl

/-- The sequence number counted last over several runs. -/
def runsLast : Option Nat -> List (List Found) -> Option Nat
  | before, [] => before
  | before, run :: rest => runsLast (runLast before run) rest

/-- The instance when the walk has taken in the runs, the first in the given sector. -/
def overRuns : CflInst -> Nat -> List (List Found) -> CflInst
  | inst, _, [] => inst
  | inst, sector, run :: rest =>
      overRuns
        { inst with
          entryCount := u32 (inst.entryCount + run.length)
          byteCount := u32 (inst.byteCount + runBytes run)
          tailSector := sector
          tailOffset := runEnd 0 run }
        (cflNextSector sector) rest

theorem runLast_isSome {run : List Found} (hne : run ≠ []) (before : Option Nat) :
    (runLast before run).isSome = true := by
  induction run generalizing before with
  | nil => exact absurd rfl hne
  | cons r run ih =>
      cases run with
      | nil => rfl
      | cons s run => exact ih (by simp) before

theorem reads_cflBootScanLoop_any (steps k : Nat) (inst : CflInst) (before : Option Nat)
    (hhead : inst.headSector < 254)
    (hfirst : before = none ->
      inst.tailSector = (inst.headSector + k) % 254 ∧ inst.tailOffset = 0) :
    Program.Reads qspiFlash F
      (cflBootScanLoop steps k inst (before.getD 0) before.isSome) m
      (overRuns inst ((inst.headSector + k) % 254)
          (scanRuns m steps ((inst.headSector + k) % 254) before),
        (runsLast before (scanRuns m steps ((inst.headSector + k) % 254) before)).getD 0,
        (runsLast before (scanRuns m steps ((inst.headSector + k) % 254) before)).isSome) := by
  induction steps generalizing k inst before with
  | zero => exact Program.reads_pure _
  | succ steps ih =>
      generalize hsector : (inst.headSector + k) % 254 = sector at hfirst ⊢
      have hlt : sector < 254 := by omega
      have hnext : cflNextSector sector = (inst.headSector + (k + 1)) % 254 := by
        rw [cflNextSector_eq]
        omega
      have hscan := reads_cflScanSector_any (F := F) (m := m) hlt before
      rw [← hsector] at hscan
      refine hscan.bind rfl ?_
      rw [hsector, scanRuns]
      generalize sectorRun m sector cflSectorSizeBytes 0 before = run
      cases run with
      | nil =>
          rw [if_pos rfl]
          change Program.Reads qspiFlash F
            (if before.isSome = true then pure (some (inst, before.getD 0, before.isSome))
              else pure (some ({ inst with tailSector := _, tailOffset := 0 },
                before.getD 0, before.isSome))) m _
          cases before with
          | none =>
              have hstart := hfirst rfl
              rw [if_neg (by simp)]
              have hsame : { inst with tailSector := sector, tailOffset := 0 } = inst := by
                rw [← hstart.1, ← hstart.2]
              rw [hsame]
              exact Program.reads_pure _
          | some seq =>
              rw [if_pos Option.isSome_some]
              exact Program.reads_pure _
      | cons r run =>
          rw [if_neg (by simp)]
          have hsome : (runLast before (r :: run)).isSome = true :=
            runLast_isSome (List.cons_ne_nil r run) before
          have hrest := ih (k + 1)
            { inst with
              entryCount := u32 (inst.entryCount + (r :: run).length)
              byteCount := u32 (inst.byteCount + runBytes (r :: run))
              tailSector := sector
              tailOffset := runEnd 0 (r :: run) }
            (runLast before (r :: run)) hhead
            (by intro hnone; rw [hnone] at hsome; cases hsome)
          rw [← hnext, hsome] at hrest
          change Program.Reads qspiFlash F
            (if 0 + (r :: run).length = 0 then _ else _) m _
          rw [if_neg (by simp)]
          have hcount : (scanOver ⟨0, 0, 0, before.getD 0⟩ before (r :: run)) =
              ⟨(r :: run).length, runBytes (r :: run), runEnd 0 (r :: run),
                (runLast before (r :: run)).getD 0⟩ := by
            simp [scanOver]
          rw [hcount]
          exact hrest

end Scanning

/-!
## The runs on the flash
-/

/-- The records of a run stand one behind the other from the offset on. -/
def RunAt (m : Memory) (sector : Nat) : Nat -> List Found -> Prop
  | _, [] => True
  | offset, r :: run =>
      r = ⟨sector, offset, headerOn m sector offset⟩ ∧ ReaderGoesOn m sector offset ∧
        CrcMatches m sector offset (headerOn m sector offset) ∧
        RunAt m sector (offset + cflRecordSize (headerOn m sector offset).dataLen) run

/-- The runs begin at the start of sectors that follow one another. -/
def RunsAt (m : Memory) : Nat -> List (List Found) -> Prop
  | _, [] => True
  | sector, run :: rest =>
      run ≠ [] ∧ RunAt m sector 0 run ∧ RunsAt m (cflNextSector sector) rest

section Runs

variable {m : Memory} {sector offset : Nat} {run : List Found} {runs : List (List Found)}

theorem sectorRun_at (fuel offset : Nat) (before : Option Nat) :
    RunAt m sector offset (sectorRun m sector fuel offset before) := by
  induction fuel generalizing offset before with
  | zero => trivial
  | succ fuel ih =>
      unfold sectorRun
      by_cases hgoes : ScanGoesOn m sector offset before
      · rw [if_pos hgoes]
        exact ⟨rfl, hgoes.1, hgoes.2.1, ih _ _⟩
      · rw [if_neg hgoes]
        trivial

theorem scanRuns_at (steps sector : Nat) (before : Option Nat) :
    RunsAt m sector (scanRuns m steps sector before) ∧
      (scanRuns m steps sector before).length <= steps := by
  induction steps generalizing sector before with
  | zero => exact ⟨trivial, Nat.le_refl 0⟩
  | succ steps ih =>
      unfold scanRuns
      by_cases hnone : sectorRun m sector cflSectorSizeBytes 0 before = []
      · rw [if_pos hnone]
        exact ⟨trivial, Nat.zero_le _⟩
      · rw [if_neg hnone]
        have hrest := ih (cflNextSector sector)
          (runLast before (sectorRun m sector cflSectorSizeBytes 0 before))
        exact ⟨⟨hnone, sectorRun_at _ _ _, hrest.1⟩, Nat.succ_le_succ hrest.2⟩

theorem ReaderGoesOn.size (h : ReaderGoesOn m sector offset) :
    16 <= cflRecordSize (headerOn m sector offset).dataLen ∧
      (headerOn m sector offset).dataLen <= cflRecordSize (headerOn m sector offset).dataLen ∧
      offset + cflRecordSize (headerOn m sector offset).dataLen <= 4096 := by
  rcases h with ⟨_, _, hpos, _, hfits⟩
  have hbounds := cflRecordSize_bounds (headerOn m sector offset).dataLen
  exact ⟨cflRecordSize_ge_min (Nat.pos_of_ne_zero hpos), by omega, hfits⟩

theorem RunAt.bounds (h : RunAt m sector offset run) (hoffset : offset <= 4096) :
    offset + 16 * run.length <= runEnd offset run ∧
      offset + runBytes run <= runEnd offset run ∧ runEnd offset run <= 4096 := by
  induction run generalizing offset with
  | nil => exact ⟨Nat.le_refl _, Nat.le_refl _, hoffset⟩
  | cons r run ih =>
      rcases h with ⟨rfl, hgoes, _, hrest⟩
      have hsize := hgoes.size
      have hrun := ih hrest hsize.2.2
      simp only [runEnd, runBytes, List.length_cons, List.map_cons, List.sum_cons] at hrun ⊢
      omega

theorem RunAt.mem (h : RunAt m sector offset run) (hoffset : offset <= 4096) {r : Found}
    (hr : r ∈ run) : r.sector = sector ∧ r.offset < runEnd offset run := by
  induction run generalizing offset with
  | nil => cases hr
  | cons s run ih =>
      rcases h with ⟨rfl, hgoes, _, hrest⟩
      have hsize := hgoes.size
      rcases List.mem_cons.mp hr with rfl | hlater
      · have hrun := hrest.bounds hsize.2.2
        refine ⟨rfl, ?_⟩
        simp only [runEnd]
        omega
      · exact ih hrest hsize.2.2 hlater

/-- The sector of the last of the runs. -/
def lastRunSector (sector : Nat) (runs : List (List Found)) : Nat :=
  (sector + (runs.length - 1)) % 254

/-- No run but the last stands in the tail sector. -/
def AwayFrom (tail : Nat) : List (List Found) -> Prop
  | run :: next :: rest => (forall r, r ∈ run -> r.sector ≠ tail) ∧ AwayFrom tail (next :: rest)
  | _ => True

theorem RunsAt.away (h : RunsAt m sector runs) (hsector : sector < 254)
    (hlen : runs.length <= 254) : AwayFrom (lastRunSector sector runs) runs := by
  induction runs generalizing sector with
  | nil => trivial
  | cons run rest ih =>
      cases rest with
      | nil => trivial
      | cons next rest =>
          have hrest := ih h.2.2 (cflNextSector_lt _) (Nat.le_of_succ_le hlen)
          have hsame : lastRunSector (cflNextSector sector) (next :: rest) =
              lastRunSector sector (run :: next :: rest) := by
            simp only [lastRunSector, cflNextSector_eq, List.length_cons]
            omega
          rw [hsame] at hrest
          refine ⟨?_, hrest⟩
          intro r hr
          rw [(h.2.1.mem (Nat.zero_le _) hr).1]
          simp only [lastRunSector, List.length_cons] at hlen ⊢
          omega

/-- The records stand in front of the tail. -/
def InFront (inst : CflInst) (run : List Found) : Prop :=
  forall r, r ∈ run -> r.sector = inst.tailSector -> r.offset < inst.tailOffset

theorem overRuns_head (inst : CflInst) (sector : Nat) (runs : List (List Found)) :
    (overRuns inst sector runs).headSector = inst.headSector ∧
      (overRuns inst sector runs).headOffset = inst.headOffset := by
  induction runs generalizing inst sector with
  | nil => exact ⟨rfl, rfl⟩
  | cons run rest ih => exact ih _ _

theorem overRuns_counts (h : RunsAt m sector runs) (inst : CflInst)
    (hroom : inst.entryCount + 4096 * runs.length < 2 ^ 32)
    (hbytes : inst.byteCount + 4096 * runs.length < 2 ^ 32) :
    (overRuns inst sector runs).entryCount = inst.entryCount + runs.flatten.length ∧
      (overRuns inst sector runs).byteCount = inst.byteCount + runBytes runs.flatten := by
  induction runs generalizing inst sector with
  | nil => exact ⟨rfl, rfl⟩
  | cons run rest ih =>
      have hrun := h.2.1.bounds (Nat.zero_le _)
      rw [List.length_cons] at hroom hbytes
      have hcount : u32 (inst.entryCount + run.length) = inst.entryCount + run.length :=
        Nat.mod_eq_of_lt (by omega)
      have hsum : u32 (inst.byteCount + runBytes run) = inst.byteCount + runBytes run :=
        Nat.mod_eq_of_lt (by omega)
      have hrest := ih h.2.2
        { inst with
          entryCount := u32 (inst.entryCount + run.length)
          byteCount := u32 (inst.byteCount + runBytes run)
          tailSector := sector
          tailOffset := runEnd 0 run }
        (by change u32 _ + _ < _; rw [hcount]; omega) (by change u32 _ + _ < _; rw [hsum]; omega)
      change (overRuns _ (cflNextSector sector) rest).entryCount = _ ∧
        (overRuns _ (cflNextSector sector) rest).byteCount = _
      rw [hrest.1, hrest.2, hcount, hsum]
      simp only [List.flatten_cons, List.length_append, runBytes, List.map_append,
        List.sum_append]
      omega

theorem overRuns_tail (h : RunsAt m sector runs) (hne : runs ≠ []) (hsector : sector < 254)
    (inst : CflInst) :
    (overRuns inst sector runs).tailSector = lastRunSector sector runs ∧
      forall run, run ∈ runs.getLast? -> runEnd 0 run = (overRuns inst sector runs).tailOffset := by
  induction runs generalizing inst sector with
  | nil => exact absurd rfl hne
  | cons run rest ih =>
      cases rest with
      | nil =>
          refine ⟨?_, ?_⟩
          · change sector = (sector + 0) % 254
            omega
          · intro last hlast
            cases hlast
            rfl
      | cons next rest =>
          have hrest := ih h.2.2 (by simp) (cflNextSector_lt _)
            { inst with
              entryCount := u32 (inst.entryCount + run.length)
              byteCount := u32 (inst.byteCount + runBytes run)
              tailSector := sector
              tailOffset := runEnd 0 run }
          have hsame : lastRunSector (cflNextSector sector) (next :: rest) =
              lastRunSector sector (run :: next :: rest) := by
            simp only [lastRunSector, cflNextSector_eq, List.length_cons]
            omega
          rw [hsame] at hrest
          exact ⟨hrest.1, hrest.2⟩

theorem RunsAt.inFront (h : RunsAt m sector runs) {inst : CflInst}
    (haway : AwayFrom inst.tailSector runs)
    (hlast : forall run, run ∈ runs.getLast? -> runEnd 0 run <= inst.tailOffset) :
    InFront inst runs.flatten := by
  induction runs generalizing sector with
  | nil => exact fun _ hr => absurd hr List.not_mem_nil
  | cons run rest ih =>
      intro r hr htail
      rw [List.flatten_cons, List.mem_append] at hr
      cases rest with
      | nil =>
          have hrun : r ∈ run := by simpa using hr
          have hend := hlast run rfl
          have hbefore := (h.2.1.mem (Nat.zero_le _) hrun).2
          omega
      | cons next rest =>
          rcases hr with hhere | hlater
          · exact absurd htail (haway.1 r hhere)
          · exact ih h.2.2 haway.2 hlast r hlater htail

theorem overRuns_tail_in (h : RunsAt m sector runs) (hsector : sector < 254) (inst : CflInst)
    (hlt : inst.tailSector < 254) (hstart : inst.tailOffset <= 4096) :
    (overRuns inst sector runs).tailSector < 254 ∧
      (overRuns inst sector runs).tailOffset <= 4096 := by
  induction runs generalizing inst sector with
  | nil => exact ⟨hlt, hstart⟩
  | cons run rest ih =>
      exact ih h.2.2 (cflNextSector_lt _) _ hsector (h.2.1.bounds (Nat.zero_le _)).2.2

end Runs

/-!
## What `cfl_create` answers
-/

/-- The instance counts the records of the runs and knows where they stand. -/
structure Scanned (m : Memory) (inst : CflInst) : Prop where
  headSector : inst.headSector = headOn m
  head_lt : inst.headSector < 254
  headOffset : inst.headOffset = 0
  entryCount : inst.entryCount = (runsOn m).flatten.length
  byteCount : inst.byteCount = runBytes (runsOn m).flatten
  away : AwayFrom inst.tailSector (runsOn m)
  inFront : InFront inst (runsOn m).flatten

variable {inst : CflInst} {m : Memory}

theorem Scanned.retired (h : Scanned m inst) (htail : inst.tailOffset <= 4096) :
    Scanned m (retired inst) where
  headSector := h.headSector
  head_lt := h.head_lt
  headOffset := h.headOffset
  entryCount := h.entryCount
  byteCount := h.byteCount
  away := h.away
  inFront := by
    intro r hr hsector
    have hbefore := h.inFront r hr hsector
    change r.offset < 4096
    omega

theorem overRuns_scanned (hsector : inst.headSector = headOn m) (hlt : inst.headSector < 254)
    (hoffset : inst.headOffset = 0) (hcount : inst.entryCount = 0) (hbytes : inst.byteCount = 0)
    (seq : Nat) : Scanned m { overRuns inst (headOn m) (runsOn m) with nextSeqNum := seq } := by
  have hruns := scanRuns_at (m := m) cflDataSectorCount (headOn m) none
  change RunsAt m (headOn m) (runsOn m) ∧ (runsOn m).length <= 254 at hruns
  rw [hsector] at hlt
  have hhead := overRuns_head inst (headOn m) (runsOn m)
  have hcounts := overRuns_counts hruns.1 inst (by omega) (by omega)
  rw [hcount, hbytes, Nat.zero_add, Nat.zero_add] at hcounts
  have htail : AwayFrom (overRuns inst (headOn m) (runsOn m)).tailSector (runsOn m) ∧
      InFront (overRuns inst (headOn m) (runsOn m)) (runsOn m).flatten := by
    by_cases hnone : runsOn m = []
    · rw [hnone]
      exact ⟨trivial, fun _ hr => absurd hr List.not_mem_nil⟩
    · have hlast := overRuns_tail hruns.1 hnone hlt inst
      have haway := hruns.1.away hlt hruns.2
      rw [← hlast.1] at haway
      exact ⟨haway, hruns.1.inFront haway fun run hrun => Nat.le_of_eq (hlast.2 run hrun)⟩
  exact ⟨hhead.1.trans hsector, by change (overRuns _ _ _).headSector < 254; rw [hhead.1, hsector]; exact hlt,
    hhead.2.trans hoffset, hcounts.1, hcounts.2, htail.1, htail.2⟩

theorem cflCreate_any (m : Memory) :
    exists inst, cflCreate.eval qspiFlash m = (some inst, m) ∧ Scanned m inst := by
  have hparse : SlotsParse m (slotsOn m) := fun _ _ => rfl
  have hload := reads_cflMetaLoad (F := Faults.never qspi) hparse
  have hbounds := slotsLoaded_bounds hparse [0, 1] metaStart (by simp) (by decide) (by decide)
  have hoffset := slotsLoaded_headOffset (slotsOn m) [0, 1] metaStart
  change (metaLoaded (slotsOn m)).headSector < 254 ∧ _ at hbounds
  change (metaLoaded (slotsOn m)).headOffset = 0 at hoffset
  have hhead : (metaLoaded (slotsOn m)).headSector = headOn m := rfl
  generalize metaLoaded (slotsOn m) = loaded at hload hbounds hoffset hhead
  let start : CflInst :=
    { loaded with entryCount := 0, byteCount := 0, tailSector := loaded.headSector, tailOffset := 0 }
  have hsector : (start.headSector + 0) % 254 = headOn m := by
    change (loaded.headSector + 0) % 254 = _
    rw [Nat.add_zero, Nat.mod_eq_of_lt hbounds.1, hhead]
  have hscan := reads_cflBootScanLoop_any (F := Faults.never qspi) (m := m) 254 0 start none
    hbounds.1 (fun _ => ⟨by rw [hsector, ← hhead], rfl⟩)
  rw [hsector] at hscan
  change Program.Reads qspiFlash (Faults.never qspi) _ m
    (overRuns start (headOn m) (runsOn m), (runsLast none (runsOn m)).getD 0,
      (runsLast none (runsOn m)).isSome) at hscan
  have hscanned : forall seq,
      Scanned m { overRuns start (headOn m) (runsOn m) with nextSeqNum := seq } :=
    overRuns_scanned hhead hbounds.1 hoffset rfl rfl
  have htail := overRuns_tail_in (scanRuns_at (m := m) cflDataSectorCount (headOn m) none).1
    (by rw [← hhead]; exact hbounds.1) start hbounds.1 (Nat.zero_le _)
  change (overRuns start (headOn m) (runsOn m)).tailSector < 254 ∧
    (overRuns start (headOn m) (runsOn m)).tailOffset <= 4096 at htail
  generalize overRuns start (headOn m) (runsOn m) = walked at hscan hscanned htail
  let numbered : CflInst :=
    { walked with
      nextSeqNum := if (runsLast none (runsOn m)).isSome then
          u32 ((runsLast none (runsOn m)).getD 0 + 1)
        else 0 }
  rcases reads_cflRetireDirty (F := Faults.never qspi) (m := m) numbered htail.1 with
    ⟨inst, hretire, hinst⟩
  refine ⟨inst, Program.Reads.eval_eq (hload.bind rfl (hscan.bind rfl hretire)), ?_⟩
  rcases hinst with ⟨rfl, _⟩ | ⟨rfl, _⟩
  · exact (hscanned _).retired htail.2
  · exact hscanned _

end EnvMonitor.Gateway.CircularFlashLog
