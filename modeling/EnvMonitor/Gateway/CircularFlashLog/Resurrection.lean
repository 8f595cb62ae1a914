import EnvMonitor.Gateway.CircularFlashLog.PowerCut

/-!
# Records the head has left

Records in sectors that the persisted head has left are gone, as long as every boot finds
its head sector begun.  A boot that does not restarts the sequence numbers at zero, and a
whole lap of one-record sectors then continues them.
-/

namespace EnvMonitor.Gateway.CircularFlashLog

open Device Drivers

/-!
## Single calls
-/

section Calls

variable {m : Memory} {R R' : Ring} {inst inst' : CflInst} {d : Nat} {L : Ledger}
variable {data : List UInt8} {r : Rec}

theorem Up.append_here {q : List Rec} (h : Up m R inst d q L)
    (hseq : inst.metaSeqNum + 1 < 2 ^ 32) (hlen : LengthOk data)
    (hneeds : ¬ NeedsSector inst data) :
    exists r k q', IsNext inst data r ∧
      ((cflAppend inst data).eval qspiFlash m).1 = (.ok, appended inst data.length) ∧
      Up ((cflAppend inst data).eval qspiFlash m).2 (withNext R inst r)
        (appended inst data.length) k q' (L.append data inst.tailSector) := by
  rcases h.sim.append_here hlen hneeds with ⟨r, hnext, hout, hexit, hsim⟩
  rcases h.append hseq hexit hsim with ⟨L', k, q', haction, hup⟩
  rw [recordSector_here hneeds] at haction
  cases haction with
  | inl hok =>
      have hsame : L' = (L.moveHead inst.headSector inst.headSector).append data inst.tailSector :=
        hok.2
      rw [Ledger.moveHead_same] at hsame
      rw [hsame] at hup
      exact ⟨r, k, q', hnext, hout, hup⟩
  | inr herr => exact absurd rfl herr.1

theorem Up.append_moves (h : Up m R inst d [] L) (hseq : inst.metaSeqNum + 1 < 2 ^ 32)
    (hlen : LengthOk data) (hneeds : NeedsSector inst data) :
    exists r R' k q, IsNext inst data r ∧
      ((cflAppend inst data).eval qspiFlash m).1 =
        (.ok, appended (stored (restarted inst)) data.length) ∧
      R'.recs = (R.setRecs (cflNextSector inst.tailSector) [r]).recs ∧
      Up ((cflAppend inst data).eval qspiFlash m).2 R'
        (appended (stored (restarted inst)) data.length) k q
        ((L.moveHead inst.headSector (cflNextSector inst.tailSector)).append data
          (cflNextSector inst.tailSector)) := by
  have hzero := h.session.length_zero_iff.mpr rfl
  have hexec := Program.exec_eval qspiFlash cutFaults (cflAppend inst data) m
  rcases Program.wp_returns (wp_cflAppend h.sim data) hexec with ⟨R', hexit, hsim⟩
  have hall := hexit
  generalize ((cflAppend inst data).eval qspiFlash m).1 = out at hexit hall hsim
  generalize ((cflAppend inst data).eval qspiFlash m).2 = m' at hsim
  cases hexit with
  | tooLarge hbad => exact absurd hlen hbad
  | here _ _ _ hno _ => exact absurd hneeds hno
  | full _ _ hfull => exact absurd hzero hfull.2
  | eraseFailed _ _ _ _ _ hfail =>
      rcases hfail with ⟨_, _, hn⟩
      exact hn.elim
  | advance _ _ _ _ _ hne _ => exact absurd hzero hne
  | moveFailed _ _ _ _ _ _ herr hmove =>
      exact absurd (hmove.ok_of_neverFails cutFaults_neverFails) herr
  | moveDone _ _ _ _ _ _ _ hmove hwrite =>
      have hd := (h.empty hzero).2.1
      have hlt := h.sim.head_lt
      have hhead : inst.headSector = inst.tailSector := by
        rw [h.tail, hd]
        omega
      rcases hmove.restarted_ok h.sim.tail_lt hhead with ⟨hinst, hR⟩
      subst hinst
      subst hR
      cases hwrite with
      | done r hnext =>
          rcases h.append hseq hall hsim with ⟨L', k, q, haction, hup⟩
          rw [recordSector_next hneeds] at haction
          cases haction with
          | inl hok =>
              rw [hok.2] at hup
              refine ⟨r, _, k, q, hnext, rfl, ?_, hup⟩
              change ((((nextErased R inst).setSlot _ _).setRecs _ _).recs) = _
              have hempty : (nextErased R inst).recs (cflNextSector inst.tailSector) = [] :=
                Ring.setRecs_same
              change ((nextErased R inst).setRecs (cflNextSector inst.tailSector)
                ((nextErased R inst).recs (cflNextSector inst.tailSector) ++ [r])).recs = _
              rw [hempty, List.nil_append]
              unfold nextErased
              rw [Ring.setRecs_setRecs]
          | inr herr => exact absurd rfl herr.1
      | failed hfail =>
          rcases hfail with ⟨_, _, _, hn⟩
          exact hn.elim
      | failedDone _ _ hfail =>
          rcases hfail with ⟨_, _, _, hn, _⟩
          exact hn.elim

theorem Up.consume_only (h : Up m R inst d [r] L) (hseq : inst.metaSeqNum + 1 < 2 ^ 32) :
    exists n k, ((cflConsumeOldest inst).eval qspiFlash m).1 =
        (.ok, parked (passed inst r.size n)) ∧ inst.headSector = inst.tailSector ∧
      Up ((cflConsumeOldest inst).eval qspiFlash m).2 R (parked (passed inst r.size n)) k []
        L.consume := by
  rcases h.layout with ⟨hcount, hfull, pre, post, hlay⟩
  have hhead := hlay.drained hfull
  have hexec := Program.exec_eval qspiFlash cutFaults (cflConsumeOldest inst) m
  rcases Program.wp_returns (wp_cflConsumeOldest h.sim hlay.atHead hcount) hexec with
    ⟨R', hexit, hsim⟩
  have hall := hexit
  have hlast : inst.entryCount - 1 = 0 := by
    rw [h.session.count]
    rfl
  generalize ((cflConsumeOldest inst).eval qspiFlash m).1 = out at hexit hall hsim
  generalize ((cflConsumeOldest inst).eval qspiFlash m).2 = m' at hsim
  cases hexit with
  | readFailed hfail =>
      rcases hfail with ⟨_, hn⟩
      exact hn.elim
  | advances _ _ hadvance =>
      cases hadvance with
      | drains _ _ _ hpersist =>
          cases hpersist with
          | same _ =>
              rcases h.consume hlay hfull hseq hall hsim with ⟨_, k, hup⟩
              change Up m' R _ k [] (L.moveHead inst.headSector inst.tailSector).consume at hup
              rw [← hhead, Ledger.moveHead_same] at hup
              exact ⟨_, k, rfl, hhead, hup⟩
          | stores _ _ hne _ => exact absurd hhead.symm hne
      | moreFailed hne _ => exact absurd hlast hne
      | stays _ _ hne _ _ => exact absurd hlast hne
      | next _ _ hne _ _ => exact absurd hlast hne

end Calls

/-!
## A lap of one-record sectors
-/

/-- A payload whose record leaves no room behind it in its sector. -/
def lapPayload : List UInt8 :=
  List.replicate 4078 0x61

theorem lapPayload_length : lapPayload.length = 4078 :=
  List.length_replicate

theorem lapPayload_lengthOk : LengthOk lapPayload := by
  constructor
  · rw [lapPayload_length]
    decide
  · rw [lapPayload_length]

def lapRec (n : Nat) : Rec where
  seq := u32 n
  payload := lapPayload
  seq_lt := Nat.mod_lt _ (by decide)
  payload_pos := lapPayload_lengthOk.1
  payload_le := lapPayload_lengthOk.2

variable {inst : CflInst} {R : Ring} {n : Nat} {L : Ledger}

theorem eq_lapRec {r : Rec} (h : IsNext inst lapPayload r) : r = lapRec inst.nextSeqNum := by
  have hseq : u32 inst.nextSeqNum = r.seq := by
    rw [← h.1]
    exact Nat.mod_eq_of_lt r.seq_lt
  cases r with
  | mk seq payload _ _ _ =>
      have hpayload : payload = lapPayload := h.2
      subst hpayload
      simp only [lapRec, Rec.mk.injEq, and_true]
      exact hseq.symm

/-- Sector `j` holds the record of sequence number `j`, for the first `n` sectors. -/
def lapRecs (n : Nat) (j : Nat) : List Rec :=
  if j < n then [lapRec j] else []

/-- All `n` records were consumed; the head is on the last sector. -/
def lapLedger (n : Nat) : Ledger where
  log := (List.range n).map fun i => ⟨lapPayload, i⟩
  consumed := n
  left := n - 1
  front := n

def lapEvents : Nat -> List CutEvent
  | 0 => []
  | n + 1 =>
      lapEvents n ++
        [⟨.returned (.append lapPayload) .ok, n, n - 1, n⟩, ⟨.returned .consume .ok, n, n, n⟩]

/-- `n` records were appended and consumed, each filling a sector. -/
structure Lap (n : Nat) (m : Memory) (R : Ring) (inst : CflInst) (d : Nat) : Prop where
  up : Up m R inst d [] (lapLedger n)
  recs : R.recs = lapRecs n
  head : inst.headSector = n - 1
  offset : inst.tailOffset = 4092
  seq : inst.nextSeqNum = n
  metaSeq : inst.metaSeqNum = n - 1

theorem lapRecs_succ (h : R.recs = lapRecs n) :
    (R.setRecs n [lapRec n]).recs = lapRecs (n + 1) := by
  funext j
  unfold lapRecs
  by_cases hj : j = n
  · rw [hj, Ring.setRecs_same, if_pos (Nat.lt_succ_self n)]
  · rw [Ring.setRecs_other hj, h]
    unfold lapRecs
    by_cases hlt : j < n
    · rw [if_pos hlt, if_pos (Nat.lt_succ_of_lt hlt)]
    · rw [if_neg hlt, if_neg (by omega)]

theorem lapLedger_drop (n : Nat) :
    (lapLedger (n + 1)).log.drop n = [⟨lapPayload, n⟩] := by
  unfold lapLedger
  rw [List.range_succ, List.map_append, List.drop_left' (by simp)]
  rfl

theorem lapLedger_append (n : Nat) :
    (lapLedger n).log ++ [⟨lapPayload, n⟩] = (lapLedger (n + 1)).log := by
  unfold lapLedger
  rw [List.range_succ, List.map_append]
  rfl

theorem lapLedger_moveHead (n : Nat) :
    (lapLedger (n + 1)).moveHead n (n + 1) = { lapLedger (n + 1) with left := n + 1 } := by
  unfold Ledger.moveHead
  rw [if_neg (Nat.succ_ne_self n)]
  have hleft : (lapLedger (n + 1)).left = n := rfl
  rw [hleft, lapLedger_drop]
  simp

theorem lapLedger_next (n : Nat) :
    (((lapLedger (n + 1)).moveHead n (n + 1)).append lapPayload (n + 1)).consume =
      lapLedger (n + 2) := by
  rw [lapLedger_moveHead]
  unfold Ledger.append Ledger.consume
  simp only [lapLedger_append]
  unfold lapLedger
  simp

/-!
## Running the lap
-/

section Run

variable {m : Memory} {R : Ring} {inst : CflInst} {d n : Nat}

theorem lap_consume {q : List Rec} {L : Ledger} (h : Up m R inst d q L)
    (hlen : L.log.length = L.front + 1) (hseq : inst.metaSeqNum + 1 < 2 ^ 32) :
    exists m' inst' k, CutStep ⟨m, some inst⟩
        ⟨.returned .consume .ok, inst.tailSector, inst.headSector, inst.headSector⟩
        ⟨m', some inst'⟩ ∧
      Up m' R inst' k [] L.consume ∧ inst'.headSector = inst.headSector ∧
      inst'.tailOffset = inst.tailOffset ∧ inst'.nextSeqNum = inst.nextSeqNum ∧
      inst'.metaSeqNum = inst.metaSeqNum := by
  have hq := h.length
  have hone : q.length = 1 := by omega
  rcases List.length_eq_one_iff.mp hone with ⟨r, hr⟩
  subst hr
  rcases h.consume_only hseq with ⟨c, k, hout, hhead, hup⟩
  have hstep := consume_step m inst
  rw [hout, h.headStored, hup.headStored] at hstep
  have hsame : (parked (passed inst r.size c)).headSector = inst.headSector := hhead.symm
  rw [hsame] at hstep
  exact ⟨_, _, k, hstep, hup, hsame, rfl, rfl, rfl⟩

variable {events : List CutEvent} {s s' : LogState} {Ok : LogState -> Prop}

theorem CutRun.append {s₁ : LogState} {events' : List CutEvent} (h : CutRun Ok s events s₁)
    (h' : CutRun Ok s₁ events' s') : CutRun Ok s (events ++ events') s' := by
  induction h with
  | done _ => exact h'
  | step hok hstep _ ih => exact .step hok hstep (ih h')

theorem CutRun.weaken (h : CutRun Ok s events s') : CutRun (fun _ => True) s events s' := by
  induction h with
  | done s => exact .done s
  | step _ hstep _ ih => exact .step trivial hstep ih

theorem lap_tailOffset (h : inst.tailOffset = 0) :
    (appended inst lapPayload.length).tailOffset = 4092 := by
  have hsum : (appended inst lapPayload.length).tailOffset =
      inst.tailOffset + cflRecordSize lapPayload.length := rfl
  rw [hsum, h, lapPayload_length]
  rfl

theorem lap_first :
    exists m R inst d, CutRun BootsOnRecords ⟨erasedFlash, none⟩
        (⟨.create, 0, 0, 0⟩ :: lapEvents 1) ⟨m, some inst⟩ ∧ Lap 1 m R inst d := by
  have hpartition : PartitionErased erasedFlash := fun _ _ _ => rfl
  have hcreate : Program.Exec qspiFlash cutFaults cflCreate erasedFlash (some (some freshInst))
      erasedFlash := create_returns erasedFlash_sound (by decide +kernel)
  rcases create_exec (holds_erased hpartition) hcreate with ⟨_, ⟨k, hbooted⟩, hsim⟩
  have herased : HeadHasRecords erasedFlash :=
    .inr fun i hi => sectorCount_eq (holds_erased hpartition) hi
  have hempty : joined Ring.erased freshInst.headSector k = [] :=
    List.flatMap_eq_nil_iff.mpr fun _ _ => rfl
  have hsession := hbooted.session hsim
  rw [hempty] at hsession
  have hup : Up erasedFlash Ring.erased freshInst 0 [] .start :=
    ⟨hsim, hsession, erased_stored, rfl, rfl, Nat.le_refl _, Nat.le_refl _⟩
  have hroom : ¬ NeedsSector freshInst lapPayload := by
    unfold NeedsSector
    rw [lapPayload_length]
    decide
  rcases hup.append_here (by decide) lapPayload_lengthOk hroom with
    ⟨r, k₁, q, hnext, hout, hafter⟩
  rcases lap_consume hafter rfl (by decide) with
    ⟨m, inst, k₂, hconsume, hlast, hhead, hoffset, hseq, hmetaSeq⟩
  have happend := append_step erasedFlash freshInst lapPayload
  rw [hout, recordSector_here hroom, hup.headStored, hafter.headStored] at happend
  have hrec := eq_lapRec hnext
  subst hrec
  have hcountsUp : forall m inst, inst.metaSeqNum = 0 -> BootsOnRecords ⟨m, some inst⟩ := by
    intro _ inst hzero
    change inst.metaSeqNum + 1 < 2 ^ 32
    rw [hzero]
    decide
  refine ⟨m, _, inst, k₂, .step herased freshInst_step (.step (hcountsUp _ _ rfl) happend
    (.step (hcountsUp _ _ rfl) hconsume (.done _))), hlast, ?_, hhead, ?_, hseq, hmetaSeq⟩
  · have hrecs : Ring.erased.recs = lapRecs 0 := by
      funext j
      exact (if_neg (Nat.not_lt_zero j)).symm
    exact lapRecs_succ hrecs
  · rw [hoffset, lap_tailOffset rfl]

theorem Lap.needsSector (h : Lap n m R inst d) : NeedsSector inst lapPayload := by
  unfold NeedsSector
  rw [lapPayload_length, h.offset]
  decide

theorem Lap.tail (h : Lap n m R inst d) : inst.tailSector = inst.headSector := by
  have hd := (h.up.empty (h.up.session.length_zero_iff.mpr rfl)).2.1
  have hlt := h.up.sim.head_lt
  rw [h.up.tail, hd]
  omega

theorem Lap.next (h : Lap (n + 1) m R inst d) (hn : n + 1 < 254) :
    exists m' R' inst' d', CutRun BootsOnRecords ⟨m, some inst⟩
        [⟨.returned (.append lapPayload) .ok, n + 1, n, n + 1⟩,
          ⟨.returned .consume .ok, n + 1, n + 1, n + 1⟩] ⟨m', some inst'⟩ ∧
      Lap (n + 2) m' R' inst' d' := by
  have hhead : inst.headSector = n := h.head
  have hmetaSeq : inst.metaSeqNum = n := h.metaSeq
  have hnextSector : cflNextSector inst.tailSector = n + 1 := by
    rw [h.tail, hhead, cflNextSector_eq]
    omega
  have hseq : inst.metaSeqNum + 1 < 2 ^ 32 := by omega
  have hseq' : (appended (stored (restarted inst)) lapPayload.length).metaSeqNum = n + 1 := by
    change u32 (inst.metaSeqNum + 1) = n + 1
    rw [hmetaSeq]
    exact Nat.mod_eq_of_lt (by omega)
  rcases h.up.append_moves hseq lapPayload_lengthOk h.needsSector with
    ⟨r, R', k₁, q, hnext, hout, hrecs, hafter⟩
  rw [hnextSector, hhead] at hafter
  rw [hnextSector] at hrecs
  have hlen : (((lapLedger (n + 1)).moveHead n (n + 1)).append lapPayload (n + 1)).log.length =
      (((lapLedger (n + 1)).moveHead n (n + 1)).append lapPayload (n + 1)).front + 1 := by
    rw [lapLedger_moveHead]
    simp [lapLedger, Ledger.append]
  rcases lap_consume hafter hlen (by omega) with
    ⟨m', inst', k₂, hconsume, hlast, hhead', hoffset', hseqNum, hmetaSeq''⟩
  have happend := append_step m inst lapPayload
  rw [hout, recordSector_next h.needsSector, h.up.headStored, hafter.headStored] at happend
  have hheadAfter : (appended (stored (restarted inst)) lapPayload.length).headSector = n + 1 :=
    hnextSector
  have htailAfter : (appended (stored (restarted inst)) lapPayload.length).tailSector = n + 1 :=
    hnextSector
  rw [hnextSector, hhead, hheadAfter] at happend
  rw [hheadAfter, htailAfter] at hconsume
  rw [lapLedger_next] at hlast
  have hrec := eq_lapRec hnext
  rw [h.seq] at hrec
  rw [hrec] at hrecs
  have hseqAfter : (appended (stored (restarted inst)) lapPayload.length).metaSeqNum + 1 < 2 ^ 32 :=
    by omega
  refine ⟨m', R', inst', k₂, .step hseq happend (.step hseqAfter hconsume (.done _)), hlast, ?_,
    ?_, ?_, ?_, ?_⟩
  · rw [hrecs]
    exact lapRecs_succ h.recs
  · rw [hhead', hheadAfter]
    rfl
  · rw [hoffset', lap_tailOffset rfl]
  · rw [hseqNum]
    change u32 (inst.nextSeqNum + 1) = n + 2
    rw [h.seq]
    exact Nat.mod_eq_of_lt (by omega)
  · rw [hmetaSeq'', hseq']
    rfl

theorem lap_run (hn : n < 254) :
    exists m R inst d, CutRun BootsOnRecords ⟨erasedFlash, none⟩
        (⟨.create, 0, 0, 0⟩ :: lapEvents (n + 1)) ⟨m, some inst⟩ ∧ Lap (n + 1) m R inst d := by
  induction n with
  | zero => exact lap_first
  | succ n ih =>
      rcases ih (by omega) with ⟨m, R, inst, d, hrun, hlap⟩
      rcases hlap.next hn with ⟨m', R', inst', d', hmore, hlap'⟩
      exact ⟨m', R', inst', d', hrun.append hmore, hlap'⟩

end Run

/-!
## The sectors behind the head
-/

theorem LedgerRun.split {L' : Ledger} {events events' : List CutEvent}
    (h : LedgerRun L (events ++ events') L') :
    exists L₁, LedgerRun L events L₁ ∧ LedgerRun L₁ events' L' := by
  induction events generalizing L with
  | nil => exact ⟨L, rfl, h⟩
  | cons event events ih =>
      rcases h with ⟨L₁, hstep, hrest⟩
      rcases ih hrest with ⟨L₂, hfirst, hlast⟩
      exact ⟨L₂, ⟨L₁, hstep, hfirst⟩, hlast⟩

theorem lap_ledger (h : LedgerRun .start (⟨.create, 0, 0, 0⟩ :: lapEvents (n + 1)) L) :
    L = lapLedger (n + 1) := by
  induction n generalizing L with
  | zero =>
      rcases h with ⟨L₁, hcreate, L₂, happend, L₃, hconsume, hlast⟩
      have hone : L₁ = Ledger.start := hcreate
      subst hone
      rcases happend with ⟨_, htwo⟩ | ⟨herr, _⟩
      · subst htwo
        rcases hconsume with ⟨_, hthree⟩ | ⟨herr, _⟩
        · subst hthree
          exact hlast
        · exact absurd rfl herr
      · exact absurd rfl herr
  | succ n ih =>
      rw [show lapEvents (n + 1 + 1) = lapEvents (n + 1) ++ _ from rfl, ← List.cons_append] at h
      rcases h.split with ⟨L₁, hbefore, L₂, happend, L₃, hconsume, hlast⟩
      have hone := ih hbefore
      subst hone
      rcases happend with ⟨_, htwo⟩ | ⟨herr, _⟩
      · subst htwo
        rcases hconsume with ⟨_, hthree⟩ | ⟨herr, _⟩
        · subst hthree
          rw [hlast]
          change (Ledger.moveHead _ (n + 1) (n + 1)).consume = _
          rw [Ledger.moveHead_same]
          exact lapLedger_next n
        · exact absurd rfl herr
      · exact absurd rfl herr

/-- After a boot the log counts and delivers the records from the persisted head sector on,
and none that the head has left. -/
theorem left_records_are_gone {m₀ m m' : Memory} {events : List CutEvent} {inst : CflInst}
    (herased : PartitionErased m₀)
    (hrun : CutRun BootsOnRecords ⟨m₀, none⟩ events ⟨m, none⟩) (hok : HeadHasRecords m)
    (hcreate : Program.Exec qspiFlash cutFaults cflCreate m (some (some inst)) m') :
    exists L, LedgerRun .start events L ∧
      inst.entryCount = (L.log.drop L.left).length ∧
      ((cflDrainAll inst).eval qspiFlash m').1 =
        (.empty, (L.log.drop L.left).map LogEntry.payload) := by
  rcases hrun.boot herased hok hcreate with ⟨L, R, d, q, hledger, _, hup⟩
  have hcontains := hup.contains
  refine ⟨L, hledger, ?_, hcontains.drainAll⟩
  rw [hcontains.count, List.length_map]
  rfl

/-- Every sector of the ring was filled and drained.  The boot counts and delivers the record
of the head's sector, the last one; those of the 253 sectors the head has left are still on
the flash and stay gone. -/
theorem left_records_are_gone_lap :
    exists m inst, CutRun BootsOnRecords ⟨erasedFlash, none⟩
        (⟨.create, 0, 0, 0⟩ :: lapEvents 254 ++ [⟨.reset, 0, 253, 253⟩]) ⟨m, none⟩ ∧
      Program.Exec qspiFlash cutFaults cflCreate m (some (some inst)) m ∧
      (forall i, i < 254 -> sectorCount m i = 1) ∧
      inst.entryCount = 1 ∧
      ((cflDrainAll inst).eval qspiFlash m).1 = (.empty, [lapPayload]) := by
  rcases lap_run (n := 253) (by decide) with ⟨m, R, inst₀, d, hlap, h⟩
  have hhead : persistedHead m = 253 := h.up.headStored.trans h.head
  have hfull : forall i, i < 254 -> sectorCount m i = 1 := by
    intro i hi
    rw [sectorCount_eq h.up.sim.holds hi, h.recs]
    unfold lapRecs
    rw [if_pos hi, List.length_singleton]
  have hok : HeadHasRecords m := by
    left
    rw [hhead, hfull 253 (by decide)]
    exact Nat.one_ne_zero
  have hseq : BootsOnRecords ⟨m, some inst₀⟩ := by
    change inst₀.metaSeqNum + 1 < 2 ^ 32
    rw [h.metaSeq]
    decide
  have hrun := hlap.append (.step hseq (.reset_at hhead) (.done _))
  rcases reads_cflCreate (Faults.never qspi) h.up.sim.holds with ⟨inst, _, hreads, _, _, _⟩
  have hboot := Program.exec_of_eval (F := cutFaults) hreads.eval_eq
  rcases left_records_are_gone (fun _ _ _ => rfl) hrun hok hboot with
    ⟨L, hledger, hcount, hdrain⟩
  rcases hledger.split with ⟨L₁, hfirst, L₂, hreset, hlast⟩
  have hL : L = lapLedger 254 := by
    rw [hlast, show L₂ = L₁.moveHead 253 253 from hreset, Ledger.moveHead_same]
    exact lap_ledger hfirst
  have hleft : L.log.drop L.left = [⟨lapPayload, 253⟩] := by
    rw [hL]
    exact lapLedger_drop 253
  rw [hleft] at hcount hdrain
  exact ⟨m, inst, hrun, hboot, hfull, hcount, hdrain⟩

/-!
## The power cut behind the new head
-/

section Cut

variable {m : Memory} {R : Ring} {inst : CflInst} {d n : Nat} {L : Ledger} {data : List UInt8}

theorem Up.cut_behind_move (h : Up m R inst d [] L) (hlen : LengthOk data)
    (hneeds : NeedsSector inst data) :
    exists m', Program.Exec qspiFlash cutFaults (cflPerform inst (.append data)) m none m' ∧
      Sim m' ((nextErased R inst).setSlot (targetSlot (restarted inst))
        (some (headEntry (restarted inst)))) (stored (restarted inst)) := by
  have hzero := h.session.length_zero_iff.mpr rfl
  have hd := (h.empty hzero).2.1
  have hhead : inst.headSector = inst.tailSector := by
    have hlt := h.sim.head_lt
    rw [h.tail, hd]
    omega
  have hvalid : ¬ (data.length = 0 ∨ data.length > cflMaxRecordBytes) := by
    rcases hlen with ⟨hpos, hmax⟩
    simp only [cflMaxRecordBytes]
    omega
  have hneeds' : inst.tailOffset + cflRecordSize data.length > cflSectorSizeBytes := hneeds
  have hnotFull : ¬ (cflNextSector inst.tailSector = inst.headSector ∧ inst.entryCount ≠ 0) :=
    fun hboth => hboth.2 hzero
  have hlt := cflNextSector_lt inst.tailSector
  have haddr := cflDataSectorAddr_eq (cflNextSector inst.tailSector)
  have herase := eval_qspiEraseSector (m := m)
    (show cflDataSectorAddr (cflNextSector inst.tailSector) % qspiFlashSectorSizeBytes = 0 by
      rw [haddr]; simp only [qspiFlashSectorSizeBytes]; omega)
    (show cflDataSectorAddr (cflNextSector inst.tailSector) < qspiFlashDeviceSizeBytes by
      rw [haddr]; simp only [qspiFlashDeviceSizeBytes]; omega)
  have hadvance := h.sim.advance.headOnTail
  -- the head store
  have hmove := Program.exec_eval qspiFlash cutFaults
    (cflPersistHead inst.headSector (restarted inst))
    (m.erase (cflDataSectorAddr (cflNextSector inst.tailSector)) 4096)
  rcases Program.wp_returns (wp_cflPersistHead inst.headSector hadvance) hmove with
    ⟨R₁, hexit, hsim⟩
  generalize ((cflPersistHead inst.headSector (restarted inst)).eval qspiFlash
    (m.erase (cflDataSectorAddr (cflNextSector inst.tailSector)) 4096)).1 = out
    at hmove hexit hsim
  generalize ((cflPersistHead inst.headSector (restarted inst)).eval qspiFlash
    (m.erase (cflDataSectorAddr (cflNextSector inst.tailSector)) 4096)).2 = m₁ at hmove hsim
  cases out with
  | mk err moved =>
      have hok : err = .ok := hexit.ok_of_neverFails cutFaults_neverFails
      subst hok
      rcases hexit.restarted_ok h.sim.tail_lt hhead with ⟨hmoved, hR⟩
      subst hmoved
      subst hR
      refine ⟨m₁, ?_, hsim⟩
      have hwrite : Program.Exec qspiFlash cutFaults
          (cflAppendAtTail (stored (restarted inst)) data) m₁ none m₁ := by
        apply Program.Exec.bind_cut
        apply Program.Exec.bind_cut
        exact exec_qspiProgramRange_cut hlen.1 (fun _ => trivial)
      apply Program.Exec.bind_cut
      unfold cflAppend
      rw [if_neg hvalid, if_pos hneeds']
      change Program.Exec qspiFlash cutFaults (if _ ∧ _ then _ else _) m none m₁
      rw [if_neg hnotFull]
      have herased := Program.exec_eval qspiFlash cutFaults
        (qspiEraseSector (cflDataSectorAddr (cflNextSector inst.tailSector))) m
      rw [herase] at herased
      apply herased.bind
      rw [if_pos rfl]
      change Program.Exec qspiFlash cutFaults (if inst.entryCount = 0 then _ else _) _ none m₁
      rw [if_pos hzero]
      exact hmove.bind hwrite

end Cut

/-!
## The old lap comes back
-/

/-- The interrupted append, the boot, the append that restarts the numbers, and a reset. -/
def restartEvents : List CutEvent :=
  [⟨.interrupted (.append lapPayload), 0, 253, 0⟩, ⟨.create, 0, 0, 0⟩,
    ⟨.returned (.append lapPayload) .ok, 0, 0, 0⟩, ⟨.reset, 0, 0, 0⟩]

theorem restart_ledger (h : LedgerRun (lapLedger 254) restartEvents L) :
    (L.log.drop L.left).length <= 2 := by
  rcases h with ⟨L₁, hcut, L₂, hcreate, L₃, happend, L₄, hreset, hlast⟩
  unfold LedgerStep at hcut hcreate happend hreset
  simp only [Ledger.moveHead_same] at hcreate happend hreset
  have hmove : (lapLedger 254).moveHead 253 0 = { lapLedger 254 with left := 254 } := by
    unfold Ledger.moveHead
    rw [if_neg (by decide)]
    have hleft : (lapLedger 254).left = 253 := rfl
    rw [hleft, lapLedger_drop]
    simp
  have hlog : (lapLedger 254).log.length = 254 := by
    simp [lapLedger]
  rw [hmove] at hcut
  have hlen : L₁.left = 254 ∧ L₁.log.length <= 255 := by
    rcases hcut with hsame | hdone
    · subst hsame
      exact ⟨rfl, by rw [hlog]; decide⟩
    · subst hdone
      refine ⟨rfl, ?_⟩
      change ((lapLedger 254).log ++ [_]).length <= 255
      rw [List.length_append, hlog]
      decide
  have hboot : L₂ = L₁.boot := hcreate
  subst hboot
  rcases happend with ⟨_, hthree⟩ | ⟨herr, _⟩
  · have hfour : L₄ = L₃ := hreset
    have hend : L = L₄ := hlast
    rw [hend, hfour, hthree, List.length_drop]
    change (L₁.log ++ [_]).length - L₁.left <= 2
    rw [List.length_append, List.length_singleton]
    omega
  · exact absurd rfl herr

section Join

variable {m : Memory} {R : Ring} {inst : CflInst} {k : Nat}

variable {n : Nat}

theorem joined_lap (h : R.recs = lapRecs 254) (hn : n <= 254) :
    joined R 0 n = (List.range n).map lapRec := by
  induction n with
  | zero => rfl
  | succ n ih =>
      rw [joined_snoc R (by decide), ih (by omega), List.range_succ, List.map_append, h]
      unfold lapRecs
      rw [Nat.zero_add, Nat.mod_eq_of_lt (by omega), if_pos (by omega)]
      rfl

theorem lastSeq_lap (hn : n < 254) : lastSeq 0 ((List.range (n + 1)).map lapRec) = n := by
  rw [List.range_succ, List.map_append, lastSeq_append]
  exact Nat.mod_eq_of_lt (by omega)

theorem Booted.lap (h : Booted R inst k) (hrecs : R.recs = lapRecs 254)
    (hhead : inst.headSector = 0) : inst.entryCount = 254 := by
  have hk := h.sectors_le
  have hfull : forall j, j < 254 -> R.recs j = [lapRec j] := by
    intro j hj
    rw [hrecs]
    exact if_pos hj
  have hall : k = 254 := by
    rcases h.ends with hall | hnil | ⟨hpos, hbreak⟩
    · exact hall
    · rw [hfull _ (Nat.mod_lt _ (by decide))] at hnil
      cases hnil
    · by_contra hne
      rw [hhead, Nat.zero_add, Nat.mod_eq_of_lt (by omega), hfull k (by omega)] at hbreak
      cases k with
      | zero => omega
      | succ k =>
          rw [joined_lap hrecs hk, lastSeq_lap (by omega)] at hbreak
          exact hbreak _ rfl rfl
  have hcount := h.entryCount
  rw [hhead, hall, joined_lap hrecs (Nat.le_refl _), List.length_map, List.length_range] at hcount
  exact hcount

end Join

theorem HeadStored.booted {i : CflInst} {k : Nat} (h : HeadStored R i) (hbooted : Booted R inst k) :
    HeadStored R inst := by
  rcases h.loaded with ⟨hhead, hslot, hseq, hvalid⟩
  exact h.congr rfl (hbooted.metaSlot.trans hslot) (hbooted.metaSeqNum.trans hseq)
    (hbooted.metaSlotValid.trans hvalid) (hbooted.headSector.trans hhead)

/-- A lap of one-record sectors is drained, the head moves to the first of them, power is
lost before a record is written there, and the next append takes the sequence number the lap
began with: the boot behind it counts the whole lap again. -/
theorem old_lap_is_joined :
    exists events m inst,
      CutRun (fun _ => True) ⟨erasedFlash, none⟩ events ⟨m, none⟩ ∧
      Program.Exec qspiFlash cutFaults cflCreate m (some (some inst)) m ∧
      inst.entryCount = 254 ∧
      forall L, LedgerRun .start events L -> (L.log.drop L.left).length <= 2 := by
  rcases lap_run (n := 253) (by decide) with ⟨m₀, R₀, inst₀, d, hlap, h⟩
  have hzero := h.up.session.length_zero_iff.mpr rfl
  have hd := (h.up.empty hzero).2.1
  have hhead : inst₀.headSector = 253 := h.head
  have hnext : cflNextSector inst₀.tailSector = 0 := by
    rw [h.tail, hhead]
    rfl
  have hmetaSeq : inst₀.metaSeqNum = 253 := h.metaSeq
  -- the interrupted append
  rcases h.up.cut_behind_move lapPayload_lengthOk h.needsSector with ⟨m₁, hcut, hsim₁⟩
  have hrestart := (h.up.restart (by omega) hzero (by omega)).1
  have hstored := hrestart.head
  have hrecs₁ : ((nextErased R₀ inst₀).setSlot (targetSlot (restarted inst₀))
      (some (headEntry (restarted inst₀)))).recs = (R₀.setRecs 0 []).recs := by
    change (R₀.setRecs (cflNextSector inst₀.tailSector) []).recs = _
    rw [hnext]
  generalize (nextErased R₀ inst₀).setSlot (targetSlot (restarted inst₀))
    (some (headEntry (restarted inst₀))) = R₁ at hsim₁ hstored hrecs₁
  have hempty : R₁.recs 0 = [] := by
    rw [hrecs₁]
    exact Ring.setRecs_same
  have hheadMoved : (stored (restarted inst₀)).headSector = 0 := hnext
  have hhead₁ : persistedHead m₁ = 0 := (persistedHead_eq hsim₁.holds hstored).trans hheadMoved
  have hblank : Memory.Blank m₁ (cflDataSectorAddr 0) 4096 := by
    have hclean := hsim₁.tail_blank (cflRoomForRecord_iff.mpr (by decide : 0 + 16 <= 4096))
    change Memory.Blank m₁ (cflDataSectorAddr (cflNextSector inst₀.tailSector) + 0) (4096 - 0)
      at hclean
    rw [hnext] at hclean
    exact hclean
  have hcutStep : CutStep ⟨m₀, some inst₀⟩ ⟨.interrupted (.append lapPayload), 0, 253, 0⟩
      ⟨m₁, none⟩ := by
    have hstep := CutStep.callCut hcut
    rw [recordSector_next h.needsSector, hnext, h.up.headStored, hhead, hhead₁] at hstep
    exact hstep
  -- the boot that restarts the numbers
  rcases reads_cflCreate (Faults.never qspi) hsim₁.holds with
    ⟨inst₁, k, hreads, hbooted, hsim₂, hkeeps⟩
  have hbootedHead : HeadStored R₁ inst₁ := hstored.booted hbooted
  have hinst₁ : inst₁.headSector = 0 := by
    rw [← persistedHead_eq hsim₁.holds hbootedHead]
    exact hhead₁
  have hk : k = 0 := by
    cases k with
    | zero => rfl
    | succ k =>
        have hne := hbooted.joins.nonempty _ (List.mem_cons_self ..)
        rw [hinst₁] at hne
        exact absurd hempty hne
  subst hk
  have htail₁ : inst₁.tailSector = 0 := hbooted.tailSector.trans hinst₁
  have hoffset₁ : inst₁.tailOffset = 0 := by
    apply hkeeps
    rw [htail₁]
    exact hblank
  have hseq₁ : inst₁.nextSeqNum = 0 := hbooted.nextSeqNum
  have hcreateStep : CutStep ⟨m₁, none⟩ ⟨.create, 0, 0, 0⟩ ⟨m₁, some inst₁⟩ := by
    have heval : (cflCreate.eval qspiFlash m₁).1 = some inst₁ := by rw [hreads.eval_eq]
    have hstep := CutStep.created ⟨R₁, hsim₁.holds⟩ heval
    rw [hhead₁] at hstep
    exact hstep
  -- the append that takes number zero again
  have hroom : ¬ NeedsSector inst₁ lapPayload := by
    unfold NeedsSector
    rw [lapPayload_length, hoffset₁]
    decide
  rcases hsim₂.append_here lapPayload_lengthOk hroom with ⟨r, hr, hout, _, hsim₃⟩
  have hrec := eq_lapRec hr
  subst hrec
  have happend := append_step m₁ inst₁ lapPayload
  rw [hout] at happend
  generalize ((cflAppend inst₁ lapPayload).eval qspiFlash m₁).2 = m₂ at hsim₃ happend
  have hstored₂ := hbootedHead.appended (lapRec inst₁.nextSeqNum) lapPayload.length
  have hhead₂ : persistedHead m₂ = 0 := by
    rw [persistedHead_eq hsim₃.holds hstored₂, appended_headSector]
    exact hinst₁
  rw [recordSector_here hroom, hhead₁, hhead₂, htail₁] at happend
  have hlapRecs : (withNext R₁ inst₁ (lapRec inst₁.nextSeqNum)).recs = lapRecs 254 := by
    funext j
    unfold withNext
    rw [htail₁, hempty, hseq₁, List.nil_append]
    by_cases hj : j = 0
    · rw [hj, Ring.setRecs_same]
      rfl
    · rw [Ring.setRecs_other hj, hrecs₁, Ring.setRecs_other hj, h.recs]
  have hresetStep : CutStep ⟨m₂, some (appended inst₁ lapPayload.length)⟩ ⟨.reset, 0, 0, 0⟩
      ⟨m₂, none⟩ := .reset_at hhead₂
  -- the boot that joins the old lap
  rcases reads_cflCreate (Faults.never qspi) hsim₃.holds with
    ⟨inst₂, k, hreads₂, hbooted₂, hsim₄, _⟩
  have hinst₂ : inst₂.headSector = 0 := by
    rw [← persistedHead_eq hsim₃.holds (hstored₂.booted hbooted₂)]
    exact hhead₂
  have heval₂ : (cflCreate.eval qspiFlash m₂).1 = some inst₂ := by rw [hreads₂.eval_eq]
  have hrestarted : CutRun (fun _ => True) ⟨m₀, some inst₀⟩ restartEvents ⟨m₂, none⟩ :=
    .step trivial hcutStep (.step trivial hcreateStep (.step trivial happend
      (.step trivial hresetStep (.done _))))
  refine ⟨_, m₂, inst₂, hlap.weaken.append hrestarted, create_returns ⟨_, hsim₃.holds⟩ heval₂,
    hbooted₂.lap hlapRecs hinst₂, ?_⟩
  intro L hledger
  rcases hledger.split with ⟨L₁, hfirst, hrest⟩
  rw [lap_ledger hfirst] at hrest
  exact restart_ledger hrest

end EnvMonitor.Gateway.CircularFlashLog
