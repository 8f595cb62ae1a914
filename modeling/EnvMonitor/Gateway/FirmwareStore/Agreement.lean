import EnvMonitor.Gateway.Bootloader.BootRun
import EnvMonitor.Gateway.FirmwareStore.Store

/-!
# Application and bootloader read one boot record

The record format, the validity test, the choice of the copy and the write protocol exist
twice.  Both sides select the same record from every flash, before and after a record is
written by either of them, and an instance created after a boot finds the record that boot
left in force.
-/

namespace EnvMonitor.Gateway.FirmwareStore

open Device Drivers Gateway.ConfigStore Bootloader

/-!
## Selecting
-/

/-- The application's record is the bootloader's: the same copy with the same fields. -/
def SameRecord (app : FsMeta) : BootRecord -> Prop
  | none => app.selected = fsMetaNone
  | some (c, r) =>
      c < 2 ∧ app.selected = c ∧ app.activeBank = r.activeBank ∧ app.bootState = r.bootState ∧
        app.previousBank = r.previousBank ∧ app.rollbackCount = r.rollbackCount ∧
        app.generation = r.generation

/-- `fs_meta_load` and `record_select` both find `boot`. -/
def BothSelect (m : Memory) (boot : BootRecord) : Prop :=
  (exists app, fsMetaLoad.eval internalFlash m = (some app, m) ∧ SameRecord app boot) ∧
    exists events, (recordSelect BootEvents.none).eval internalFlash m = ((true, boot, events), m)

section

variable {m m' : Memory} {c k : Nat} {r : FirmwareBootMeta} {boot : BootRecord}

theorem fsMetaLoad_eval (m : Memory) : fsMetaLoad.eval internalFlash m = (some (fsMetaIn m), m) :=
  (reads_fsMetaLoad (Faults.never iflash) m).eval_eq

theorem recordSelect_eval (m : Memory) :
    exists events, (recordSelect BootEvents.none).eval internalFlash m =
      ((true, inForce m, events), m) := by
  have hwp := Program.wp_never_iff.mp (wp_recordSelect (F := Faults.never iflash) (m := m)
    BootEvents.none)
  rcases hsel : (recordSelect BootEvents.none).eval internalFlash m with ⟨⟨ok, found, events⟩, m'⟩
  rw [hsel] at hwp
  rcases hwp with ⟨hsame, ⟨hok, hfound, _⟩ | ⟨_, _, _, hfails⟩⟩
  · exists events
    change m' = m at hsame
    change ok = true at hok
    change found = inForce m at hfound
    rw [hsame, hok, hfound]
  · exact hfails.elim

theorem sameRecord_inForce (m : Memory) : SameRecord (fsMetaIn m) (inForce m) := by
  unfold fsMetaIn
  rcases inForce_cases m with ⟨hnone, _⟩ | ⟨c, r, hsome, hlt, _⟩
  · rw [hnone]
    rfl
  · rw [hsome]
    exact ⟨hlt, rfl, rfl, rfl, rfl, rfl, rfl⟩

theorem bothSelect_iff : BothSelect m boot ↔ inForce m = boot := by
  rcases recordSelect_eval m with ⟨events, heval⟩
  constructor
  · intro h
    rcases h.2 with ⟨events', heval'⟩
    rw [heval] at heval'
    cases heval'
    rfl
  · intro h
    subst h
    exact ⟨⟨fsMetaIn m, fsMetaLoad_eval m, sameRecord_inForce m⟩, events, heval⟩

/-!
## Writing
-/

variable {active previous state : UInt8}

theorem fsMetaWrite_eval (count : UInt32) (fsMeta : FsMeta) (hactive : metaBankLegal active)
    (hprevious : metaBankLegal previous) (hstate : metaStateLegal state) :
    (fsMetaWrite fsMeta active state previous count).eval internalFlash m =
      ((.ok, fsMetaOf (fsMetaTarget fsMeta)
          (fsMetaRecord active state previous count (fsMetaNextGeneration fsMeta))),
        written m (fsMetaTarget fsMeta)
          (fsMetaRecord active state previous count (fsMetaNextGeneration fsMeta)) 24) := by
  have hwp := Program.wp_never_iff.mp (wp_fsMetaWrite (F := Faults.never iflash) (m := m)
    fsMeta count hactive hprevious hstate)
  rcases hwp.1.of_never with ⟨hok, hflash⟩
  have herr := of_decide_eq_true hok
  exact Prod.ext (Prod.ext herr (hwp.2.1 herr)) hflash

theorem recordWrite_eval (count : UInt32) (cur : BootRecord) (hactive : metaBankLegal active)
    (hprevious : metaBankLegal previous) (hstate : metaStateLegal state) :
    (recordWrite cur active state previous count).eval internalFlash m =
      ((true, some (recordTarget cur,
          fsMetaRecord active state previous count (recordNextGeneration cur))),
        written m (recordTarget cur)
          (fsMetaRecord active state previous count (recordNextGeneration cur)) 24) := by
  have hwp := Program.wp_never_iff.mp (wp_recordWrite (F := Faults.never iflash) (m := m)
    cur count hactive hprevious hstate)
  rcases hwp with ⟨hout, hflash⟩ | ⟨_, _, _, _, hfails⟩
  · exact Prod.ext hout hflash
  · exact hfails.elim

theorem step_cases (hk : k < 3) : k = 0 ∨ k = 1 ∨ k = 2 := by
  omega

/-- The flash after the first calls of the protocol. -/
def partWritten (m : Memory) (c : Nat) (r : FirmwareBootMeta) : Nat -> Memory
  | 0 => m
  | 1 => m.erase (fsMetaAddr c) 2048
  | _ => written m c r 16

theorem cutAfter_fsMetaProgram {α : Type} (f : FirmwareStoreErr -> IFlash α) (hk : k < 3) :
    Program.cutAfter internalFlash k (fsMetaProgram (fsMetaAddr c) r >>= f) m =
      partWritten m c r k := by
  have herase := eraseAccepted_meta c
  have hbodyLen : (r.bytes.take 16).length = 16 := by simp
  have hblank := Memory.erase_blank m (fsMetaAddr c) 2048
  have hbody : iflashProgrammable (fsMetaAddr c) (r.bytes.take 16)
      (m.erase (fsMetaAddr c) 2048) := by
    refine ⟨by rw [hbodyLen]; exact programAccepted_body c, ?_⟩
    rw [hbodyLen]
    exact Memory.slice_of_blank (hblank.sub (Nat.le_refl _) (by omega))
  have htailLen : (r.bytes.drop 16).length = 8 := by simp
  have hrest : Memory.Blank (written m c r 16) (fsMetaAddr c + 16) 8 := by
    apply (hblank.sub (k := 8) (b := fsMetaAddr c + 16) (by omega) (by omega)).congr
    rw [← written_eq]
    exact Memory.program_outside (by rw [hbodyLen]; omega)
  have htail : iflashProgrammable (fsMetaAddr c + 16) (r.bytes.drop 16) (written m c r 16) := by
    refine ⟨by rw [htailLen]; exact programAccepted_tail c, ?_⟩
    rw [htailLen]
    exact Memory.slice_of_blank hrest
  have hdone : internalFlash.complete (.erasePage (fsMetaAddr c)) m =
      (true, m.erase (fsMetaAddr c) 2048) := by
    change (decide (iflashEraseAccepted _), iflashErasePart _ _ _) = _
    unfold iflashErasePart
    rw [decide_eq_true herase, if_pos herase]
    rfl
  have hwritten : internalFlash.complete (.program (fsMetaAddr c) (r.bytes.take 16))
      (m.erase (fsMetaAddr c) 2048) = (true, written m c r 16) := by
    change (decide (iflashProgrammable _ _ _), iflashProgramPart _ _ _ _) = _
    unfold iflashProgramPart
    rw [decide_eq_true hbody, if_pos hbody, List.take_length, written_eq]
  unfold fsMetaProgram fsIfErasePage fsIfProgram
  simp only [bind_assoc, pure_bind]
  rcases step_cases hk with hk | hk | hk
  · subst k
    change iflashErasePart (fsMetaAddr c) 0 m = m
    unfold iflashErasePart
    rw [if_pos herase, Nat.zero_min, Memory.erase_zero]
  · subst k
    unfold iflashErasePage
    rw [Program.cutAfter_succ, hdone]
    simp only [if_true, bind_assoc]
    change iflashProgramPart (fsMetaAddr c) (r.bytes.take 16) 0 _ = _
    unfold iflashProgramPart
    rw [if_pos hbody, List.take_zero, Memory.program_nil]
    rfl
  · subst k
    unfold iflashErasePage
    rw [Program.cutAfter_succ, hdone]
    simp only [if_true, bind_assoc]
    unfold iflashProgram
    rw [Program.cutAfter_succ, hwritten]
    simp only [if_true, bind_assoc]
    change iflashProgramPart (fsMetaAddr c + 16) (r.bytes.drop 16) 0 _ = _
    unfold iflashProgramPart
    rw [if_pos htail, List.take_zero, Memory.program_nil]
    rfl

theorem cutAfter_fsMetaWrite (count : UInt32) (hk : k < 3) :
    Program.cutAfter internalFlash k (fsMetaWrite (fsMetaIn m) active state previous count) m =
      partWritten m (targetOf m)
        (fsMetaRecord active state previous count (recordNextGeneration (inForce m))) k := by
  unfold fsMetaWrite
  rw [fsMetaTarget_eq, fsMetaNextGeneration_eq]
  exact cutAfter_fsMetaProgram _ hk

theorem cutAfter_recordWrite (count : UInt32) (cur : BootRecord) (hactive : metaBankLegal active)
    (hprevious : metaBankLegal previous) (hstate : metaStateLegal state) (hk : k < 3) :
    Program.cutAfter internalFlash k (recordWrite cur active state previous count) m =
      partWritten m (recordTarget cur)
        (fsMetaRecord active state previous count (recordNextGeneration cur)) k := by
  unfold recordWrite recordWriteAttempts
  dsimp only
  rw [recordOf_eq, recordWriteOnce_eq (fsMetaRecord_valid hactive hprevious hstate)]
  simp only [bind_assoc, pure_bind]
  exact cutAfter_fsMetaProgram _ hk

/-- Up to the first 16 bytes the old record stays in force, unless these bytes are already
the whole record. -/
theorem inForce_partWritten (hvalid : RecordIsValid r) (hpad : r.pad = firmwareErasedWord)
    (hk : k < 3) (hcrc : k = 2 -> r.crc32 ≠ firmwareErasedWord) :
    inForce (partWritten m (targetOf m) r k) = inForce m := by
  rcases step_cases hk with hk | hk | hk
  · subst k
    rfl
  · subst k
    exact inForce_kept (fun c hc hne => copyAt_otherPage (Memory.erase_sameOutside m _ _)
      (targetOf_lt m) hc hne) (copyAt_erased m _ _)
  · subst k
    have hcopy := copyAt_written m (targetOf m) r (k := 16) (by omega)
    rw [metaParse_torn_head hvalid hpad, if_neg (hcrc rfl)] at hcopy
    exact inForce_kept (fun c hc hne => copyAt_otherPage (written_sameOutside m _ r 16)
      (targetOf_lt m) hc hne) (.inl hcopy)

end

/-!
## Handing over
-/

/-- The version `resolve_boot` reads from the descriptor of the running slot. -/
def runningVersionAt (m : Memory) (running : FirmwareSlot) : UInt32 :=
  let raw := m.slice (fsDescAddr running) 32
  if running ≠ .none ∧ DescLegal running raw then (FirmwareSlotDescriptor.ofBytes raw).version
  else 0

/-- The instance `firmware_store_create` makes of what the flash holds. -/
def createdStore (m : Memory) (runningImageBase : Nat) : FsInst where
  boot := bootInfoOf (slotFromImageBase runningImageBase) (fsMetaIn m)
    (runningVersionAt m (slotFromImageBase runningImageBase))
  fsMeta := fsMetaIn m
  op := .idle
  imageId := 0
  fileLen := 0
  writeOffset := 0
  journalNext := 0
  bodyDigest := []
  imageLen := 0
  version := 0
  targetSlot := .a
  installPage := 0
  installCrc := 0
  installSha := []

section

variable {F : Faults iflash} {m m' : Memory} {c : Nat} {r : FirmwareBootMeta}

theorem fsDescAddr_le (slot : FirmwareSlot) :
    firmwareDescAAddr <= fsDescAddr slot ∧ fsDescAddr slot + 2048 <= firmwareSlotABase := by
  unfold fsDescAddr
  split
  · decide
  · decide

theorem inFlash_desc (slot : FirmwareSlot) : inFlash (fsDescAddr slot) 32 := by
  unfold fsDescAddr
  split
  · decide
  · decide

theorem reads_fsDescRead (F : Faults iflash) (m : Memory) (slot : FirmwareSlot) :
    Program.Reads internalFlash F (fsDescRead slot) m
      (decide (DescLegal slot (m.slice (fsDescAddr slot) 32)),
        FirmwareSlotDescriptor.ofBytes (m.slice (fsDescAddr slot) 32)) := by
  unfold fsDescRead fsIfRead
  refine Program.Reads.bind ((wp_iflashRead (by decide) (inFlash_desc slot)).mpr
    ⟨⟨rfl, .inl rfl⟩, fun n hn => ⟨rfl, .inr ⟨rfl, _, n, hn⟩⟩, fun _ _ => rfl⟩) rfl ?_
  exact Program.reads_pure _

theorem reads_resolveBoot (F : Faults iflash) (m : Memory) (base : Nat) :
    Program.Reads internalFlash F (resolveBoot base) m
      ((createdStore m base).boot, fsMetaIn m) := by
  unfold resolveBoot
  refine Program.Reads.bind (reads_fsMetaLoad F m) rfl ?_
  by_cases hslot : slotFromImageBase base ≠ .none
  · simp only [if_pos hslot]
    refine Program.Reads.bind (reads_fsDescRead F m _) rfl ?_
    have hversion : runningVersionAt m (slotFromImageBase base) =
        if decide (DescLegal (slotFromImageBase base)
            (m.slice (fsDescAddr (slotFromImageBase base)) 32)) = true then
          (FirmwareSlotDescriptor.ofBytes
            (m.slice (fsDescAddr (slotFromImageBase base)) 32)).version
        else 0 := by
      unfold runningVersionAt
      simp only [hslot, ne_eq, not_false_eq_true, true_and, decide_eq_true_eq]
    have hboot : (createdStore m base).boot = bootInfoOf (slotFromImageBase base) (fsMetaIn m)
        (runningVersionAt m (slotFromImageBase base)) := rfl
    rw [hboot, hversion]
    exact Program.reads_pure _
  · simp only [if_neg hslot]
    have hversion : runningVersionAt m (slotFromImageBase base) = 0 := by
      unfold runningVersionAt
      exact if_neg fun h => hslot h.1
    have hboot : (createdStore m base).boot = bootInfoOf (slotFromImageBase base) (fsMetaIn m)
        (runningVersionAt m (slotFromImageBase base)) := rfl
    rw [hboot, hversion]
    exact Program.reads_pure _

theorem reads_firmwareStoreCreate (F : Faults iflash) (m : Memory) (base : Nat) :
    Program.Reads internalFlash F (firmwareStoreCreate base) m (createdStore m base) := by
  unfold firmwareStoreCreate
  refine Program.Reads.bind (reads_resolveBoot F m base) rfl ?_
  exact Program.reads_pure _

theorem next_newer {g g' : UInt32} (h : g <= g') (hnext : g' = g + 1) : g < g' := by
  subst hnext
  rw [UInt32.le_iff_toNat_le] at h
  rw [UInt32.lt_iff_toNat_lt]
  rw [UInt32.toNat_add] at h ⊢
  have hlt := g.toNat_lt
  have hone : (1 : UInt32).toNat = 1 := rfl
  omega

/-- What the application finds in a flash whose record in force names the running slot and
no trial that is still to start. -/
theorem createdStore_capable (hforce : inForce m = some (c, r))
    (hstate : r.bootState ≠ firmwareMetaStateTrialPending) :
    (createdStore m (slotBase r.activeBank)).boot.otaCapable = true ∧
      (createdStore m (slotBase r.activeBank)).boot.state = firmwareBootState r.bootState ∧
      (r.bootState = firmwareMetaStateConfirmed ∨ r.bootState = firmwareMetaStateTrialRunning ∨
        r.bootState = firmwareMetaStateRolledBack) := by
  have hvalid := inForce_valid hforce
  have hmeta : fsMetaIn m = fsMetaOf c r := by
    unfold fsMetaIn
    rw [hforce]
  have hcopy : c < 2 := by
    rcases inForce_cases m with ⟨hnone, _⟩ | ⟨c', r', hsome, hlt, _⟩
    · rw [hnone] at hforce
      cases hforce
    · rw [hsome] at hforce
      cases hforce
      exact hlt
  have hselected : c ≠ fsMetaNone := by
    change c ≠ 0xFF
    omega
  have hlegal : r.bootState = firmwareMetaStateConfirmed ∨
      r.bootState = firmwareMetaStateTrialRunning ∨
      r.bootState = firmwareMetaStateRolledBack := by
    have hlo := hvalid.2.2.2.2.1
    have hhi := hvalid.2.2.2.2.2
    rw [ge_iff_le, UInt8.le_iff_toNat_le] at hlo
    rw [UInt8.le_iff_toNat_le] at hhi
    rw [ne_eq, ← UInt8.toNat_inj] at hstate
    rw [← UInt8.toNat_inj, ← UInt8.toNat_inj, ← UInt8.toNat_inj]
    change 1 <= r.bootState.toNat at hlo
    change r.bootState.toNat <= 4 at hhi
    change ¬ r.bootState.toNat = 2 at hstate
    change r.bootState.toNat = 1 ∨ r.bootState.toNat = 3 ∨ r.bootState.toNat = 4
    omega
  have hslot : slotFromImageBase (slotBase r.activeBank) ≠ .none ∧
      fsSlotFromBank r.activeBank = slotFromImageBase (slotBase r.activeBank) := by
    rcases hvalid.2.2.1 with hbank | hbank
    · rw [hbank]
      decide
    · rw [hbank]
      decide
  refine ⟨?_, ?_, hlegal⟩
  · change otaCapable (slotFromImageBase (slotBase r.activeBank)) (fsMetaIn m) = true
    rw [hmeta]
    unfold otaCapable
    exact decide_eq_true ⟨hslot.1, hselected, hslot.2, hlegal⟩
  · change (if (fsMetaIn m).selected ≠ fsMetaNone then firmwareBootState (fsMetaIn m).bootState
      else .confirmed) = _
    rw [hmeta]
    exact if_pos hselected

variable {report start : BootReport} {r' : FirmwareBootMeta} {boot : BootRecord}

theorem slots_handover (hforce : inForce m = some (c, r))
    (hstate : r.bootState ≠ firmwareMetaStateTrialPending)
    (hslots : SlotsExit F m start c r r.activeBank report m') (hrun : report.outcome = .run)
    (hrecorded : report.events.metaWriteFailed = false)
    (hgeneration : r.generation <= report.generation) :
    exists c' r', inForce m' = some (c', r') ∧
      r'.bootState ≠ firmwareMetaStateTrialPending ∧ report.stateOut = r'.bootState ∧
      report.slotBase = slotBase r'.activeBank := by
  cases hslots with
  | ran hboot => exact ⟨c, r, hforce, hstate, rfl, rfl⟩
  | limit _ _ => cases hrun
  | noImage _ _ => cases hrun
  | fellBack _ _ _ =>
      have hvalid := inForce_valid hforce
      have htarget : recordTarget (some (c, r)) = targetOf m := by
        unfold targetOf
        rw [hforce]
      have hnewer : forall c₀ r₀, inForce m = some (c₀, r₀) ->
          r₀.generation < (fallbackRecord r r.activeBank).generation := by
        intro c₀ r₀ hfound
        rw [hforce] at hfound
        cases hfound
        exact next_newer hgeneration rfl
      rw [htarget]
      exact ⟨_, _, inForce_writtenAll (fsMetaRecord_valid (otherBank_legal _) hvalid.2.2.1
        metaStateLegal_rolledBack) hnewer, by change ¬ (4 : UInt8) = 2; decide, rfl, rfl⟩
  | unrecorded _ _ _ _ _ => cases hrecorded

theorem bootWrite_stage (hwrite : BootWrite (inForce m) r')
    (hgeneration : forall c₀ r₀, inForce m = some (c₀, r₀) -> r₀.generation < r'.generation) :
    inForce (written m (targetOf m) r' 24) = some (targetOf m, r') ∧
      r'.bootState ≠ firmwareMetaStateTrialPending := by
  generalize hforce : inForce m = boot at hwrite
  cases hwrite with
  | initial =>
      exact ⟨inForce_writtenAll (fsMetaRecord_valid (.inl rfl) (.inr rfl)
        metaStateLegal_confirmed) hgeneration, by change ¬ (1 : UInt8) = 2; decide⟩
  | trial hpending =>
      have hvalid := inForce_valid hforce
      exact ⟨inForce_writtenAll (fsMetaRecord_valid hvalid.2.2.1 hvalid.2.2.2.1
        metaStateLegal_trialRunning) hgeneration, by change ¬ (3 : UInt8) = 2; decide⟩
  | abandon hrunning hroom =>
      have hvalid := inForce_valid hforce
      exact ⟨inForce_writtenAll (fsMetaRecord_valid hvalid.2.2.2.1 hvalid.2.2.1
        metaStateLegal_rolledBack) hgeneration, by change ¬ (4 : UInt8) = 2; decide⟩

theorem bootWrite_generation (hwrite : BootWrite boot r') :
    r'.generation = recordNextGeneration boot := by
  cases hwrite with
  | initial => rfl
  | trial _ => rfl
  | abandon _ _ => rfl

theorem slotsExit_generation {bank : UInt8} (hslots : SlotsExit F m start c r bank report m') :
    report.generation = r.generation ∨ report.generation = r.generation + 1 := by
  cases hslots with
  | ran _ => exact .inl rfl
  | limit _ _ => exact .inl rfl
  | noImage _ _ => exact .inl rfl
  | fellBack _ _ _ => exact .inr rfl
  | unrecorded _ _ _ _ _ => exact .inl rfl

theorem generations_newer {last : UInt32} (hwrite : BootWrite boot r')
    (hlast : last = r'.generation ∨ last = r'.generation + 1)
    (hgeneration : forall c₀ r₀, boot = some (c₀, r₀) -> r₀.generation <= last) :
    r'.generation <= last ∧
      forall c₀ r₀, boot = some (c₀, r₀) -> r₀.generation < r'.generation := by
  have hnext := bootWrite_generation hwrite
  have hone : (1 : UInt32).toNat = 1 := rfl
  cases boot with
  | none =>
      change r'.generation = 1 at hnext
      refine ⟨?_, fun c₀ r₀ h => by cases h⟩
      rw [hnext] at hlast ⊢
      rcases hlast with h | h
      · rw [h]
        decide
      · rw [h]
        decide
  | some found =>
      rcases found with ⟨c₀, r₀⟩
      change r'.generation = r₀.generation + 1 at hnext
      have hle := hgeneration c₀ r₀ rfl
      have hlt := r₀.generation.toNat_lt
      rw [hnext] at hlast ⊢
      rw [UInt32.le_iff_toNat_le] at hle ⊢
      refine ⟨?_, ?_⟩
      · rcases hlast with h | h
        · rw [h]
        · rw [h] at hle ⊢
          simp only [UInt32.toNat_add, hone] at hle ⊢
          omega
      · intro c₁ r₁ hsome
        cases hsome
        rw [UInt32.lt_iff_toNat_lt]
        rcases hlast with h | h
        · rw [h] at hle
          simp only [UInt32.toNat_add, hone] at hle ⊢
          omega
        · rw [h] at hle
          simp only [UInt32.toNat_add, hone] at hle ⊢
          omega

theorem boot_handover (hexit : BootExit F m report m') (hrun : report.outcome = .run)
    (hrecorded : report.events.metaWriteFailed = false)
    (hgeneration : forall c₀ r₀, inForce m = some (c₀, r₀) -> r₀.generation <= report.generation) :
    exists c' r', inForce m' = some (c', r') ∧
      r'.bootState ≠ firmwareMetaStateTrialPending ∧ report.stateOut = r'.bootState ∧
      report.slotBase = slotBase r'.activeBank := by
  cases hexit with
  | unreadable hhalt _ =>
      rw [hhalt] at hrun
      cases hrun
  | refused hhalt _ _ _ _ =>
      rw [hhalt] at hrun
      cases hrun
  | limit hhalt _ _ _ =>
      rw [hhalt] at hrun
      cases hrun
  | slots hstage hflag hslots =>
      cases hstage with
      | settled hforce hpending _ =>
          exact slots_handover hforce hpending hslots hrun hrecorded (hgeneration _ _ hforce)
      | recorded hwrite =>
          rcases generations_newer hwrite (slotsExit_generation hslots) hgeneration with
            ⟨hle, hnewer⟩
          rcases bootWrite_stage hwrite hnewer with ⟨hforce, hstate⟩
          exact slots_handover hforce hstate hslots hrun hrecorded hle
      | unrecorded _ _ _ _ _ =>
          cases hslots with
          | ran _ => cases hflag.symm.trans hrecorded
          | limit _ _ => cases hrun
          | noImage _ _ => cases hrun
          | fellBack _ _ _ => cases hflag.symm.trans hrecorded
          | unrecorded _ _ _ _ _ => cases hrecorded

end

/-!
## One record
-/

/-- Both sides find the same record in every flash; a record written by either is the one both
find, and before its CRC is programmed both find the old one unless the erased CRC word is the
record's; and what a boot left in force is what the application finds. -/
theorem both_sides_select_one_record :
    (forall m, exists boot, BothSelect m boot) ∧
      (forall (m : Memory) (boot : BootRecord) (app : FsMeta) (active state previous : UInt8)
          (count : UInt32),
        BothSelect m boot -> fsMetaLoad.eval internalFlash m = (some app, m) ->
        metaBankLegal active -> metaBankLegal previous -> metaStateLegal state ->
        (forall c r, boot = some (c, r) -> r.generation < firmwareErasedWord) ->
        let r := fsMetaRecord active state previous count (recordNextGeneration boot)
        let byApp := fsMetaWrite app active state previous count
        let byBoot := recordWrite boot active state previous count
        ((byApp.eval internalFlash m).1 = (.ok, fsMetaOf (recordTarget boot) r) ∧
            BothSelect (byApp.eval internalFlash m).2 (some (recordTarget boot, r))) ∧
          ((byBoot.eval internalFlash m).1 = (true, some (recordTarget boot, r)) ∧
            BothSelect (byBoot.eval internalFlash m).2 (some (recordTarget boot, r))) ∧
          forall k, k < 3 -> (k = 2 -> r.crc32 ≠ firmwareErasedWord) ->
            BothSelect (byApp.cutAfter internalFlash k m) boot ∧
              BothSelect (byBoot.cutAfter internalFlash k m) boot) ∧
      (forall (F : Faults iflash) (m m' : Memory) (boot : BootRecord) (report : BootReport),
        BothSelect m boot -> Program.Exec internalFlash F bootCoreRun m (some report) m' ->
        report.outcome = .run -> report.events.metaWriteFailed = false ->
        (forall c r, boot = some (c, r) -> r.generation <= report.generation) ->
        exists fs, (firmwareStoreCreate report.slotBase).eval internalFlash m' = (some fs, m') ∧
          fs.boot.otaCapable = true ∧ fs.boot.state = firmwareBootState report.stateOut ∧
          (report.stateOut = firmwareMetaStateConfirmed ∨
            report.stateOut = firmwareMetaStateTrialRunning ∨
            report.stateOut = firmwareMetaStateRolledBack)) := by
  refine ⟨?_, ?_, ?_⟩
  · intro m
    exact ⟨inForce m, bothSelect_iff.mpr rfl⟩
  · intro m boot app active state previous count hboth happ hactive hprevious hstate hroom r
      byApp byBoot
    have hforce := bothSelect_iff.mp hboth
    subst hforce
    have hloaded := (fsMetaLoad_eval m).symm.trans happ
    cases hloaded
    have hvalid : RecordIsValid r := fsMetaRecord_valid hactive hprevious hstate
    have hwritten : inForce (written m (targetOf m) r 24) = some (targetOf m, r) :=
      inForce_writtenAll hvalid (recordNextGeneration_newer hroom)
    have happEval : byApp.eval internalFlash m =
        ((.ok, fsMetaOf (targetOf m) r), written m (targetOf m) r 24) := by
      have heval := fsMetaWrite_eval (m := m) count (fsMetaIn m) hactive hprevious hstate
      rw [fsMetaTarget_eq, fsMetaNextGeneration_eq] at heval
      exact heval
    have hbootEval : byBoot.eval internalFlash m =
        ((true, some (targetOf m, r)), written m (targetOf m) r 24) := by
      rw [← targetOf_eq]
      exact recordWrite_eval count (inForce m) hactive hprevious hstate
    refine ⟨⟨?_, ?_⟩, ⟨?_, ?_⟩, ?_⟩
    · rw [happEval, targetOf_eq]
    · rw [happEval, targetOf_eq]
      exact bothSelect_iff.mpr hwritten
    · rw [hbootEval, targetOf_eq]
    · rw [hbootEval, targetOf_eq]
      exact bothSelect_iff.mpr hwritten
    · intro k hk hcrc
      have hpart := inForce_partWritten (m := m) hvalid rfl hk hcrc
      constructor
      · rw [bothSelect_iff, cutAfter_fsMetaWrite count hk]
        exact hpart
      · rw [bothSelect_iff, cutAfter_recordWrite count (inForce m) hactive hprevious hstate hk,
          targetOf_eq]
        exact hpart
  · intro F m m' boot report hboth hexec hrun hrecorded hgeneration
    have hforce := bothSelect_iff.mp hboth
    subst hforce
    have hexit : BootExit F m report m' := Program.wp_returns wp_bootCoreRun hexec
    rcases boot_handover hexit hrun hrecorded hgeneration with ⟨c, r, hlast, hstate, hout, hbase⟩
    rcases createdStore_capable hlast hstate with ⟨hcapable, hfound, hlegal⟩
    exists createdStore m' report.slotBase
    rw [hbase, hout]
    exact ⟨(reads_firmwareStoreCreate _ m' _).eval_eq, hcapable, hfound, hlegal⟩

/-!
## Fixed flashes
-/

/-- The smallest image for a slot: a stack pointer and a reset vector. -/
def smallImage (slot : FirmwareSlot) : List UInt8 :=
  putLe 4 0x20010000 ++ putLe 4 (fsSlotBase slot + 5)

/-- A flash with the small image in one slot and one boot record. -/
def deviceFlash (slot : FirmwareSlot) (r : FirmwareBootMeta) : Memory :=
  written (oneImage slot (smallImage slot) 1) 0 r 24

section

variable {slot : FirmwareSlot} {r : FirmwareBootMeta}

theorem bootable_deviceFlash (slot : FirmwareSlot) (r : FirmwareBootMeta) :
    Bootable (deviceFlash slot r) (fsBankFromSlot slot) := by
  apply (bootable_metaPage (written_sameOutside _ _ _ _)).mpr
  have hlen : (smallImage slot).length = 8 := by simp [smallImage]
  apply (bootable_oneImage (by omega) (by rw [hlen]; decide)).mpr
  cases slot with
  | a => decide
  | b => decide
  | none => decide

theorem inForce_oneImage (slot : FirmwareSlot) (image : List UInt8) (version : UInt32) :
    inForce (oneImage slot image version) = none := by
  have herased : forall c, copyAt (oneImage slot image version) c = none := by
    intro c
    have hmeta : fsMetaAddr c + 2048 <= firmwareDescAAddr := by
      unfold fsMetaAddr
      split
      · decide
      · decide
    have hdesc := fsDescAddr_le slot
    have hbelow := fsDescAddr_below slot slot
    apply copyAt_erasedByte
    unfold oneImage
    rw [Memory.program_sameOutside _ _ _ _ (.inl (by omega)),
      Memory.program_sameOutside _ _ _ _ (.inl (by omega))]
  exact inForce_none (herased 0) (herased 1)

theorem inForce_deviceFlash (slot : FirmwareSlot) (hvalid : RecordIsValid r) :
    inForce (deviceFlash slot r) = some (0, r) := by
  have hnone := inForce_oneImage slot (smallImage slot) 1
  have hforce := inForce_writtenAll (m := oneImage slot (smallImage slot) 1) hvalid (by
    intro c r₀ h
    rw [hnone] at h
    cases h)
  rw [targetOf_none hnone] at hforce
  exact hforce

end

/-- A record whose successor has the erased word as its CRC. -/
def earlyRecord : FirmwareBootMeta :=
  fsMetaRecord firmwareBankB firmwareMetaStateTrialPending firmwareBankA 0x1E7F82BE 1

/-- A trial to start behind the last generation. -/
def lastRecord : FirmwareBootMeta :=
  fsMetaRecord firmwareBankB firmwareMetaStateTrialPending firmwareBankA 0 firmwareErasedWord

theorem earlyRecord_valid : RecordIsValid earlyRecord :=
  fsMetaRecord_valid (.inr rfl) (.inl rfl) metaStateLegal_trialPending

theorem lastRecord_valid : RecordIsValid lastRecord :=
  fsMetaRecord_valid (.inr rfl) (.inl rfl) metaStateLegal_trialPending

theorem earlyRecord_next_crc : (trialRecord earlyRecord).crc32 = firmwareErasedWord := by
  decide +kernel

/-- Once the first 16 bytes are programmed the bootloader finds the new record already; and a
trial started behind the last generation is not found by the application. -/
theorem record_selected_early :
    (BothSelect (deviceFlash .b earlyRecord) (some (0, earlyRecord)) ∧
      ¬ BothSelect
        ((recordWrite (some (0, earlyRecord)) firmwareBankB firmwareMetaStateTrialRunning
          firmwareBankA 0x1E7F82BE).cutAfter internalFlash 2 (deviceFlash .b earlyRecord))
        (some (0, earlyRecord))) ∧
    ((bootCoreRun.eval internalFlash (deviceFlash .b lastRecord)).1.outcome = .run ∧
      (bootCoreRun.eval internalFlash (deviceFlash .b lastRecord)).1.events.metaWriteFailed =
        false ∧
      ((firmwareStoreCreate
          (bootCoreRun.eval internalFlash (deviceFlash .b lastRecord)).1.slotBase).eval
        internalFlash (bootCoreRun.eval internalFlash (deviceFlash .b lastRecord)).2).1.map
          (fun fs => fs.boot.otaCapable) = some false) := by
  constructor
  · have hforce := inForce_deviceFlash .b earlyRecord_valid
    have hvalid : RecordIsValid (trialRecord earlyRecord) :=
      fsMetaRecord_valid (.inr rfl) (.inl rfl) metaStateLegal_trialRunning
    have htarget : targetOf (deviceFlash .b earlyRecord) = 1 := by
      rw [← targetOf_eq, hforce]
      rfl
    refine ⟨bothSelect_iff.mpr hforce, ?_⟩
    intro hsame
    rw [bothSelect_iff, cutAfter_recordWrite _ _ (.inr rfl) (.inl rfl) metaStateLegal_trialRunning
      (by omega)] at hsame
    have hcopy := copyAt_written (deviceFlash .b earlyRecord) 1 (trialRecord earlyRecord)
      (k := 16) (by omega)
    rw [metaParse_torn_head hvalid rfl, if_pos earlyRecord_next_crc] at hcopy
    have hnew : inForce (written (deviceFlash .b earlyRecord) 1 (trialRecord earlyRecord) 16) =
        some (1, trialRecord earlyRecord) := by
      rw [← htarget] at hcopy ⊢
      apply inForce_written
      · intro c hc hne
        exact copyAt_otherPage (written_sameOutside _ _ _ 16) (by rw [htarget]; decide) hc hne
      · exact hcopy
      · intro c r₀ hfound
        rw [hforce] at hfound
        cases hfound
        decide
    cases hnew.symm.trans hsame
  · have hforce := inForce_deviceFlash .b lastRecord_valid
    have htarget : targetOf (deviceFlash .b lastRecord) = 1 := by
      rw [← targetOf_eq, hforce]
      rfl
    have hboot := bootable_deviceFlash .b lastRecord
    rcases boot_trial hforce rfl hboot with ⟨start, hflag, heval⟩
    rw [heval]
    refine ⟨rfl, hflag, ?_⟩
    have hstill : inForce (written (deviceFlash .b lastRecord)
        (targetOf (deviceFlash .b lastRecord)) (trialRecord lastRecord) 24) =
        some (0, lastRecord) := by
      rw [htarget]
      have hvalid : RecordIsValid (trialRecord lastRecord) :=
        fsMetaRecord_valid (.inr rfl) (.inl rfl) metaStateLegal_trialRunning
      have hnew := copyAt_written (deviceFlash .b lastRecord) 1 (trialRecord lastRecord)
        (Nat.le_refl 24)
      rw [torn_all, metaParse_bytes hvalid] at hnew
      apply inForce_first
      · rw [copyAt_otherPage (written_sameOutside _ 1 _ 24) (by omega) (by omega) (by omega)]
        exact inForce_copy hforce
      · intro r' hother
        rw [hnew] at hother
        cases hother
        decide
    rw [(reads_firmwareStoreCreate _ _ _).eval_eq]
    change some (otaCapable _ (fsMetaIn _)) = some false
    unfold fsMetaIn
    rw [hstill]
    rfl

theorem both_sides_select_one_record_deviceFlash :
    (exists fs, (firmwareStoreCreate
        (bootCoreRun.eval internalFlash (deviceFlash .b earlyRecord)).1.slotBase).eval
          internalFlash (bootCoreRun.eval internalFlash (deviceFlash .b earlyRecord)).2 =
            (some fs, (bootCoreRun.eval internalFlash (deviceFlash .b earlyRecord)).2) ∧
      fs.boot.otaCapable = true) ∧
    BothSelect
      ((fsMetaWrite (fsMetaOf 0 earlyRecord) firmwareBankA firmwareMetaStateConfirmed
        firmwareBankB 7).eval internalFlash (deviceFlash .b earlyRecord)).2
      (some (1, fsMetaRecord firmwareBankA firmwareMetaStateConfirmed firmwareBankB 7 2)) := by
  have hforce := inForce_deviceFlash .b earlyRecord_valid
  have hboth := bothSelect_iff.mpr hforce
  constructor
  · rcases boot_trial hforce rfl (bootable_deviceFlash .b earlyRecord) with ⟨start, hflag, heval⟩
    have hexec := Program.exec_eval internalFlash (Faults.never iflash) bootCoreRun
      (deviceFlash .b earlyRecord)
    have hhand := both_sides_select_one_record.2.2 _ _ _ _ _ hboth hexec (by rw [heval]; rfl)
      (by rw [heval]; exact hflag) (by
        intro c r hsome
        cases hsome
        rw [heval]
        change earlyRecord.generation <= (trialRecord earlyRecord).generation
        decide)
    rcases hhand with ⟨fs, hcreated, hcapable, _⟩
    exact ⟨fs, hcreated, hcapable⟩
  · have hloaded := fsMetaLoad_eval (deviceFlash .b earlyRecord)
    have hmeta : fsMetaIn (deviceFlash .b earlyRecord) = fsMetaOf 0 earlyRecord := by
      unfold fsMetaIn
      rw [hforce]
    rw [hmeta] at hloaded
    have hwrite := both_sides_select_one_record.2.1 _ _ _ firmwareBankA firmwareMetaStateConfirmed
      firmwareBankB 7 hboth hloaded (.inl rfl) (.inr rfl) metaStateLegal_confirmed (by
        intro c r hsome
        cases hsome
        decide)
    exact hwrite.1.2

end EnvMonitor.Gateway.FirmwareStore
