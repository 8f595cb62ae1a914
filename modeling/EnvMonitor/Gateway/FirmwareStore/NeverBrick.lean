import EnvMonitor.Gateway.FirmwareStore.Acceptance
import EnvMonitor.Gateway.FirmwareStore.Lifetime

/-!
# The device always boots

Over one on-chip flash that can lose power but does not fail, no life of the device ends in a
bootloader that halts: the record in force never asks for a slot without a bootable way out.
-/

namespace EnvMonitor.Gateway.FirmwareStore

open Device Drivers Gateway.ConfigStore Bootloader

/-!
## Safe records
-/

/-- On-chip flash that only power cuts interrupt, and a CRC that rejects what they tear. -/
def OnlyCuts (F : Faults iflash) : Prop :=
  F.NeverFails ∧ RejectsTorn F

/-- With the slot of `bank` bootable a boot from the record `r` finds a slot to run, and is left
with a safe record again.  `n` bounds the rollbacks counted before. -/
structure SafeFor (n : Nat) (bank : UInt8) (r : FirmwareBootMeta) : Prop where
  confirmed : r.bootState = firmwareMetaStateConfirmed ->
    r.activeBank = bank ∧ r.rollbackCount.toNat <= n
  pending : r.bootState = firmwareMetaStateTrialPending ->
    r.previousBank = bank ∧ r.rollbackCount.toNat <= n
  running : r.bootState = firmwareMetaStateTrialRunning -> r.rollbackCount.toNat <= n
  rolledBack : r.bootState = firmwareMetaStateRolledBack ->
    r.rollbackCount.toNat <= n + 2 ∧ (r.activeBank = bank ∨ r.rollbackCount.toNat <= n + 1)
  banks : r.bootState ≠ firmwareMetaStateConfirmed -> r.activeBank ≠ r.previousBank

section

variable {n : Nat} {bank bank' : UInt8} {r r' : FirmwareBootMeta} {F : Faults iflash}
variable {m m' : Memory}

theorem SafeFor.of_confirmed (hstate : r.bootState = firmwareMetaStateConfirmed)
    (hactive : r.activeBank = bank) (hcount : r.rollbackCount.toNat <= n) : SafeFor n bank r where
  confirmed _ := ⟨hactive, hcount⟩
  pending h := by
    rw [hstate] at h
    cases h
  running h := by
    rw [hstate] at h
    cases h
  rolledBack h := by
    rw [hstate] at h
    cases h
  banks h := absurd hstate h

theorem SafeFor.of_running (hstate : r.bootState = firmwareMetaStateTrialRunning)
    (hbanks : r.activeBank ≠ r.previousBank) (hcount : r.rollbackCount.toNat <= n) :
    SafeFor n bank r where
  confirmed h := by
    rw [hstate] at h
    cases h
  pending h := by
    rw [hstate] at h
    cases h
  running _ := hcount
  rolledBack h := by
    rw [hstate] at h
    cases h
  banks _ := hbanks

theorem SafeFor.of_rolledBack (hstate : r.bootState = firmwareMetaStateRolledBack)
    (hbanks : r.activeBank ≠ r.previousBank) (hcount : r.rollbackCount.toNat <= n + 2)
    (haway : r.activeBank = bank ∨ r.rollbackCount.toNat <= n + 1) : SafeFor n bank r where
  confirmed h := by
    rw [hstate] at h
    cases h
  pending h := by
    rw [hstate] at h
    cases h
  running h := by
    rw [hstate] at h
    cases h
  rolledBack _ := ⟨hcount, haway⟩
  banks _ := hbanks

theorem bootState_cases (h : RecordIsValid r) :
    r.bootState = firmwareMetaStateTrialPending ∨ r.bootState = firmwareMetaStateConfirmed ∨
      r.bootState = firmwareMetaStateTrialRunning ∨ r.bootState = firmwareMetaStateRolledBack := by
  by_cases hpending : r.bootState = firmwareMetaStateTrialPending
  · exact .inl hpending
  · rcases firmwareBootState_cases h hpending with ⟨hstate, _⟩ | ⟨hstate, _⟩ | ⟨hstate, _⟩
    · exact .inr (.inl hstate)
    · exact .inr (.inr (.inl hstate))
    · exact .inr (.inr (.inr hstate))

theorem SafeFor.count (h : SafeFor n bank r) (hvalid : RecordIsValid r) :
    r.rollbackCount.toNat <= n + 2 := by
  rcases bootState_cases hvalid with hstate | hstate | hstate | hstate
  · have hcount := (h.pending hstate).2
    omega
  · have hcount := (h.confirmed hstate).2
    omega
  · have hcount := h.running hstate
    omega
  · exact (h.rolledBack hstate).1

theorem SafeFor.active (h : SafeFor n bank r)
    (hstate : r.bootState ≠ firmwareMetaStateTrialPending) : SafeFor n r.activeBank r where
  confirmed hconfirmed := ⟨rfl, (h.confirmed hconfirmed).2⟩
  pending hpending := absurd hpending hstate
  running := h.running
  rolledBack hrolled := ⟨(h.rolledBack hrolled).1, .inl rfl⟩
  banks := h.banks

theorem count_succ {count : UInt32} (h : count.toNat <= n) (hn : n < 20) :
    (count + 1).toNat = count.toNat + 1 := by
  have hone : (1 : UInt32).toNat = 1 := rfl
  rw [UInt32.toNat_add, hone]
  omega

theorem not_limit {count : UInt32} (h : count.toNat < 16) : ¬ count >= bootMaxRollbacks := by
  intro hge
  rw [ge_iff_le, UInt32.le_iff_toNat_le] at hge
  change 16 <= count.toNat at hge
  omega

theorem otherBank_ne (h : metaBankLegal bank) : otherBank bank ≠ bank := by
  rcases h with hbank | hbank
  · subst hbank
    decide
  · subst hbank
    decide

theorem otherBank_eq (h : metaBankLegal bank) (h' : metaBankLegal bank') (hne : bank ≠ bank') :
    otherBank bank' = bank := by
  rcases h with hbank | hbank
  · rcases h' with hbank' | hbank'
    · exact absurd (hbank.trans hbank'.symm) hne
    · subst hbank hbank'
      rfl
  · rcases h' with hbank' | hbank'
    · subst hbank hbank'
      rfl
    · exact absurd (hbank.trans hbank'.symm) hne

/-!
## Boots
-/

theorem OnlyCuts.refused (h : OnlyCuts F) (hrefused : Refusable F m bank) : ¬ Bootable m bank := by
  rcases hrefused with hnot | ⟨_, _, _, _, hfails⟩
  · exact hnot
  · exact absurd hfails (h.1 _ _)

variable {c : Nat} {report : BootReport} {phase : DevicePhase}

theorem safe_written (h : SafeFor n bank r) (hn : n <= 14) (hwrite : BootWrite (some (c, r)) r') :
    SafeFor n bank r' := by
  cases hwrite with
  | trial hpending =>
      exact .of_running rfl (h.banks (by rw [hpending]; decide)) (h.pending hpending).2
  | abandon hrunning _ =>
      have hcount := h.running hrunning
      have hsucc : (r.rollbackCount + 1).toNat <= n + 1 := by
        rw [count_succ hcount (by omega)]
        omega
      exact .of_rolledBack rfl (Ne.symm (h.banks (by rw [hrunning]; decide)))
        (Nat.le_succ_of_le hsucc) (.inr hsucc)

/-- Where the slot to run is not the one known to be bootable, a rollback can still be
counted. -/
theorem safe_stage {c₁ : Nat} {r₁ : FirmwareBootMeta} {bank₁ : UInt8} {failed : Bool}
    (hcuts : OnlyCuts F) (hforce : inForce m = some (c, r)) (h : SafeFor n bank r) (hn : n <= 14)
    (hstage : BootStage F m c₁ r₁ bank₁ m' failed) (hne : bank ≠ bank₁) :
    r₁.rollbackCount.toNat <= n + 1 := by
  cases hstage with
  | settled hforce' hpending hrunning =>
      rw [hforce] at hforce'
      cases hforce'
      rcases bootState_cases (inForce_valid hforce) with hstate | hstate | hstate | hstate
      · exact absurd hstate hpending
      · exact absurd (h.confirmed hstate).1.symm hne
      · exact absurd hstate hrunning
      · rcases (h.rolledBack hstate).2 with hactive | hcount
        · exact absurd hactive.symm hne
        · exact hcount
  | recorded hwrite =>
      rw [hforce] at hwrite
      have hafter := safe_written h hn hwrite
      cases hwrite with
      | trial _ => exact Nat.le_succ_of_le (hafter.running rfl)
      | abandon _ _ =>
          rcases (hafter.rolledBack rfl).2 with hactive | hcount
          · exact absurd hactive.symm hne
          · exact hcount
  | unrecorded _ _ _ _ hfault =>
      rcases hfault with ⟨op, k, hfails⟩
      exact absurd hfails (hcuts.1 op k)

theorem safe_keeps (hcuts : OnlyCuts F) (hbank : metaBankLegal bank) (hboot : Bootable m bank)
    (hforce : inForce m = some (c, r)) (h : SafeFor n bank r) (hn : n <= 14) :
    BootKeeps (SafeFor n bank) F m c r where
  write _ hwrite := safe_written h hn hwrite
  fallback := by
    intro c₁ r₁ bank₁ m₁ failed hstage hfalls
    have hkept := bootStage_kept hstage hcuts.2 hforce h fun _ hwrite => safe_written h hn hwrite
    have hne : bank ≠ bank₁ := by
      rintro rfl
      exact hcuts.refused hfalls.1 ((hkept.slots _).mpr hboot)
    have hcount := safe_stage hcuts hforce h hn hstage hne
    refine .of_rolledBack rfl (otherBank_ne hkept.legal) ?_
      (.inl (otherBank_eq hbank hkept.legal hne))
    change (r₁.rollbackCount + 1).toNat <= n + 2
    rw [count_succ hcount (by omega)]
    omega

theorem safe_boot (hcuts : OnlyCuts F) (hbank : metaBankLegal bank) (hboot : Bootable m bank)
    (hforce : inForce m = some (c, r)) (h : SafeFor n bank r) (hn : n <= 14)
    (hexit : BootExit F m report m') :
    report.outcome = .run ∧ exists bank', metaBankLegal bank' ∧
      report.slotBase = slotBase bank' ∧ Bootable m' bank' := by
  cases hexit with
  | unreadable _ hfails => exact absurd hfails (hcuts.1 _ _)
  | refused _ _ _ _ hfault =>
      rcases hfault with ⟨op, k, hfails⟩
      exact absurd hfails (hcuts.1 op k)
  | limit _ hforce' hrunning hlimit =>
      rw [hforce] at hforce'
      cases hforce'
      have hcount := h.running hrunning
      exact absurd hlimit (not_limit (by omega))
  | slots hstage _ hslots =>
      have hkept := bootStage_kept hstage hcuts.2 hforce h fun _ hwrite => safe_written h hn hwrite
      have hstill := (hkept.slots bank).mpr hboot
      rename_i bank₁ m₁ failed _
      have hne : Refusable F m₁ bank₁ -> bank ≠ bank₁ := by
        rintro hrefused rfl
        exact hcuts.refused hrefused hstill
      cases hslots with
      | ran hran => exact ⟨finish_outcome _ _ _, _, hkept.legal, rfl, hran⟩
      | limit hrefused hlimit =>
          have hcount := safe_stage hcuts hforce h hn hstage (hne hrefused)
          exact absurd hlimit (not_limit (by omega))
      | noImage hrefused hnone =>
          rw [otherBank_eq hbank hkept.legal (hne hrefused)] at hnone
          exact absurd hstill (hcuts.refused hnone)
      | fellBack _ _ hother =>
          exact ⟨finish_outcome _ _ _, _, otherBank_legal _, rfl,
            (bootable_metaPage (written_sameOutside _ _ _ 24)).mpr hother⟩
      | unrecorded _ _ _ _ hfault =>
          rcases hfault with ⟨op, k, hfails⟩
          exact absurd hfails (hcuts.1 op k)

/-!
## Sessions
-/

theorem fsBankFromSlot_bank (h : metaBankLegal bank) :
    fsBankFromSlot (fsSlotFromBank bank) = bank := by
  rcases h with hbank | hbank
  · subst hbank
    rfl
  · subst hbank
    rfl

theorem fsSlotFromBank_ne_none (h : metaBankLegal bank) : fsSlotFromBank bank ≠ .none := by
  rcases h with hbank | hbank
  · subst hbank
    decide
  · subst hbank
    decide

theorem fsBankFromSlot_other (slot : FirmwareSlot) :
    fsBankFromSlot (fsOtherSlot slot) ≠ fsBankFromSlot slot ∨ slot = .none := by
  cases slot with
  | a => exact .inl (by decide)
  | b => exact .inl (by decide)
  | none => exact .inr rfl

/-- A session beside a bootable slot; a capable instance runs from that slot. -/
structure SafeSession (n : Nat) (bank : UInt8) (fs : FsInst) (m : Memory) : Prop where
  legal : metaBankLegal bank
  bootable : Bootable m bank
  running : Running (SafeFor n bank) fs m
  slot : fs.boot.otaCapable = true -> fs.boot.runningSlot = fsSlotFromBank bank

section

variable {fs fs' : FsInst} {c : Nat} {call : FsCall}

theorem SafeSession.record (h : SafeSession n bank fs m) (hota : fs.boot.otaCapable = true) :
    exists c r, Holding fs m c r ∧ SafeFor n bank r ∧ r.activeBank = bank ∧ RecordIsValid r := by
  rcases h.running.holding hota with ⟨c, r, hholding, hsafe⟩
  have hvalid := copyAt_valid hholding.copy
  refine ⟨c, r, hholding, hsafe, ?_, hvalid⟩
  rw [← fsBankFromSlot_bank hvalid.2.2.1, hholding.running, h.slot hota,
    fsBankFromSlot_bank h.legal]

theorem SafeSession.requested (h : SafeSession n bank fs m) (hn : n <= 14)
    (hrequests : Requests fs call) : SafeFor n bank (requestedRecord fs call) := by
  rcases h.record hrequests.capable with ⟨c, r, hholding, hsafe, hactive, hvalid⟩
  have hstates := hholding.bootState hvalid
  have hmeta := hholding.fsMeta
  have hslot := h.slot hrequests.capable
  have hsettled : SafeFor n bank (fsMetaRecord fs.fsMeta.activeBank firmwareMetaStateConfirmed
      fs.fsMeta.previousBank 0 (fsMetaNextGeneration fs.fsMeta)) := by
    refine .of_confirmed rfl ?_ (Nat.zero_le _)
    rw [hmeta]
    exact hactive
  cases call with
  | activate =>
      have hcount := (hsafe.confirmed (hstates.1 hrequests.2.2)).2
      have hbank : fsBankFromSlot fs.boot.runningSlot = bank := by
        rw [hslot, fsBankFromSlot_bank h.legal]
      have htarget := h.running.inv.target (.inr (.inr hrequests.2.1))
      have hother : fsBankFromSlot fs.targetSlot ≠ fsBankFromSlot fs.boot.runningSlot := by
        rcases fsBankFromSlot_other fs.boot.runningSlot with hne | hnone
        · rw [htarget]
          exact hne
        · rw [hslot] at hnone
          exact absurd hnone (fsSlotFromBank_ne_none h.legal)
      constructor
      · intro hstate
        cases hstate
      · intro _
        refine ⟨hbank, ?_⟩
        change fs.fsMeta.rollbackCount.toNat <= n
        rw [hmeta]
        exact hcount
      · intro hstate
        cases hstate
      · intro hstate
        cases hstate
      · exact fun _ => hother
  | rollback =>
      have hrunning := hstates.2.1 hrequests.2
      have hcount := hsafe.running hrunning
      have hsucc : (fs.fsMeta.rollbackCount + 1).toNat <= n + 1 := by
        rw [hmeta]
        change (r.rollbackCount + 1).toNat <= n + 1
        rw [count_succ hcount (by omega)]
        omega
      refine .of_rolledBack rfl ?_ (Nat.le_succ_of_le hsucc) (.inr hsucc)
      change fs.fsMeta.previousBank ≠ fs.fsMeta.activeBank
      rw [hmeta]
      exact Ne.symm (hsafe.banks (by rw [hrunning]; decide))
  | confirm => exact hsettled
  | acknowledgeRollback => exact hsettled
  | _ => exact hrequests.elim

theorem SafeSession.spared (h : SafeSession n bank fs m) (call : FsCall) :
    Spared fs call (fsSlotFromBank bank) := by
  refine ⟨fsSlotFromBank_ne_none h.legal, ?_, fun hrequests hsettles hleft => ?_⟩
  · by_cases hota : fs.boot.otaCapable = true
    · exact .inl (h.slot hota).symm
    · exact .inr fun hopen => hota hopen.1
  · rcases h.record hrequests.capable with ⟨c, r, hholding, hsafe, hactive, hvalid⟩
    have hstates := hholding.bootState hvalid
    have hstate : r.bootState ≠ firmwareMetaStateConfirmed := by
      cases call with
      | confirm =>
          rw [hstates.2.1 hrequests.2]
          decide
      | acknowledgeRollback =>
          rw [hstates.2.2 hrequests.2]
          decide
      | _ => exact hsettles.elim
    have hbanks := hsafe.banks hstate
    have hprevious : fsSlotFromBank r.previousBank = fsSlotFromBank bank := by
      unfold leftSlot at hleft
      rw [hholding.fsMeta] at hleft
      exact hleft
    have hequal := congrArg fsBankFromSlot hprevious
    rw [fsBankFromSlot_bank hvalid.2.2.2.1, fsBankFromSlot_bank h.legal] at hequal
    exact hbanks (hactive.trans hequal.symm)

theorem SafeSession.still_bootable (h : SafeSession n bank fs m)
    (hslots : forall slot, Spared fs call slot -> SlotSame slot m m') : Bootable m' bank := by
  have hsame := (hslots _ (h.spared call)).bootable
  rw [fsBankFromSlot_bank h.legal] at hsame
  exact hsame.mpr h.bootable

theorem safe_created {run : UInt8} (hbank : metaBankLegal bank) (hboot : Bootable m bank)
    (hin : InForceIs (SafeFor n bank) m) (hrun : metaBankLegal run) (hrunning : Bootable m run) :
    exists bank', SafeSession n bank' (createdStore m (slotBase run)) m := by
  have hslot : (createdStore m (slotBase run)).boot.runningSlot = fsSlotFromBank run := by
    rcases hrun with hrun | hrun
    · subst hrun
      rfl
    · subst hrun
      rfl
  by_cases hota : (createdStore m (slotBase run)).boot.otaCapable = true
  · -- the record in force names the slot that runs, so it is safe for that slot as well
    exists run
    rcases hin with ⟨c, r, hforce, hsafe⟩
    rcases (running_created (K := fun r' => r' = r) ⟨c, r, hforce, rfl⟩ (slotBase run)).holding
      hota with ⟨c', r', hholding, hsame⟩
    subst hsame
    have hvalid := copyAt_valid hholding.copy
    have hactive : r'.activeBank = run := by
      rw [← fsBankFromSlot_bank hvalid.2.2.1, hholding.running, hslot, fsBankFromSlot_bank hrun]
    have hactiveSafe := hsafe.active hholding.started
    rw [hactive] at hactiveSafe
    exact ⟨hrun, hrunning, running_created ⟨c, r', hforce, hactiveSafe⟩ _, fun _ => hslot⟩
  · exact ⟨bank, hbank, hboot, running_created hin _, fun hcapable => absurd hcapable hota⟩

end

/-!
## Runs
-/

/-- Some slot is bootable, and the record in force is safe for it. -/
def SafeFlash (n : Nat) (m : Memory) : Prop :=
  exists bank, metaBankLegal bank ∧ Bootable m bank ∧ InForceIs (SafeFor n bank) m

/-- The report of a boot that runs a bootable slot. -/
def RunsBootable (report : BootReport) (m : Memory) : Prop :=
  report.outcome = .run ∧ exists bank, metaBankLegal bank ∧ report.slotBase = slotBase bank ∧
    Bootable m bank

/-- What holds of a device that is not bricked. -/
def Unbricked (n : Nat) : DevicePhase -> Memory -> Prop
  | .off, m => SafeFlash n m
  | .booted report, m => SafeFlash n m ∧ RunsBootable report m
  | .up fs, m => exists bank, SafeSession n bank fs m

theorem SafeSession.flash {fs : FsInst} (h : SafeSession n bank fs m) : SafeFlash n m :=
  ⟨bank, h.legal, h.bootable, h.running.inForce⟩

theorem unbricked_flash (h : Unbricked n phase m) : SafeFlash n m := by
  cases phase with
  | off => exact h
  | booted report => exact h.1
  | up fs =>
      rcases h with ⟨bank, hsession⟩
      exact hsession.flash

theorem SafeFlash.booted (h : SafeFlash n m) (hn : n <= 14) (hcuts : OnlyCuts F)
    (hexec : Program.Exec internalFlash F bootCoreRun m (some report) m') :
    SafeFlash n m' ∧ RunsBootable report m' := by
  rcases h with ⟨bank, hbank, hboot, c, r, hforce, hsafe⟩
  have hexit : BootExit F m report m' := Program.wp_returns wp_bootCoreRun hexec
  have hkept := bootExit_kept hexit hcuts.2 hforce hsafe
    (safe_keeps hcuts hbank hboot hforce hsafe hn)
  exact ⟨⟨bank, hbank, (hkept.2 bank).mpr hboot, hkept.1⟩,
    safe_boot hcuts hbank hboot hforce hsafe hn hexit⟩

theorem SafeFlash.bootCut (h : SafeFlash n m) (hn : n <= 14) (hcuts : OnlyCuts F)
    (hexec : Program.Exec internalFlash F bootCoreRun m none m') : SafeFlash n m' := by
  rcases h with ⟨bank, hbank, hboot, c, r, hforce, hsafe⟩
  have hcut : BootCut F m m' := Program.wp_crash wp_bootCoreRun hexec
  have hkept := bootCut_kept hcut hcuts.2 hforce hsafe
    (safe_keeps hcuts hbank hboot hforce hsafe hn)
  exact ⟨bank, hbank, (hkept.2 bank).mpr hboot, hkept.1⟩

theorem DeviceRun.unbricked {crypto : OtaCrypto} {may : FsCall -> Prop} {phase₀ : DevicePhase}
    {m₀ : Memory} (hn : n <= 14) (hrun : DeviceRun crypto OnlyCuts may phase₀ m₀ phase m)
    (h : Unbricked n phase₀ m₀) : Unbricked n phase m := by
  induction hrun with
  | start => exact h
  | boot _ hcuts hexec ih => exact ih.booted hn hcuts hexec
  | bootCut _ hcuts hexec ih => exact ih.bootCut hn hcuts hexec
  | reset _ ih => exact unbricked_flash ih
  | create _ _ hcuts hexec ih =>
      rename_i F m m' report fs _ _
      rcases ih with ⟨⟨bank, hbank, hboot, hin⟩, _, run, hrun, hbase, hrunning⟩
      rcases Program.wp_returns (reads_firmwareStoreCreate F m report.slotBase) hexec with
        ⟨hsame, hfs | ⟨hnone, _⟩⟩
      · subst hsame
        cases hfs
        rw [hbase]
        exact safe_created hbank hboot hin hrun hrunning
      · cases hnone
  | call _ _ hcuts hexec ih =>
      rcases ih with ⟨bank, hsession⟩
      have hafter := hsession.running.called hcuts.2 (fun hrequests => hsession.requested hn hrequests)
        hexec
      have hboot := hsession.still_bootable hafter.2.2
      split
      · exact ⟨bank, hsession.legal, hboot, hafter.1⟩
      · rename_i hgoes
        rcases hafter.2.1 hgoes with ⟨hrunning, hdevice⟩
        refine ⟨bank, hsession.legal, hboot, hrunning, fun hota => ?_⟩
        rw [hdevice.otaCapable] at hota
        rw [hdevice.runningSlot]
        exact hsession.slot hota
  | callCut _ _ hcuts hexec ih =>
      rcases ih with ⟨bank, hsession⟩
      have hafter := hsession.running.callCut hcuts.2
        (fun hrequests => hsession.requested hn hrequests) hexec
      exact ⟨bank, hsession.legal, hsession.still_bootable hafter.2, hafter.1⟩

end

/-- In every life that begins with a confirmed record of a bootable slot, at most 14 rollbacks
counted, every boot runs a slot that passes the bootloader's test, and at most two rollbacks more
are ever counted in force. -/
theorem every_boot_runs {crypto : OtaCrypto} {m₀ m m' : Memory} {c : Nat} {r : FirmwareBootMeta}
    {F : Faults iflash} {report : BootReport} (hforce : inForce m₀ = some (c, r))
    (hconfirmed : r.bootState = firmwareMetaStateConfirmed) (hcount : r.rollbackCount.toNat <= 14)
    (hboot : ((slotIsBootable r.activeBank).eval internalFlash m₀).1.isSome = true)
    (hrun : DeviceRun crypto OnlyCuts (fun _ => True) .off m₀ .off m) (hcuts : OnlyCuts F)
    (hexec : Program.Exec internalFlash F bootCoreRun m (some report) m') :
    report.outcome = .run ∧
      (exists bank, metaBankLegal bank ∧ report.slotBase = slotBase bank ∧
        ((slotIsBootable bank).eval internalFlash m').1.isSome = true) ∧
      exists c' r', inForce m' = some (c', r') ∧
        r'.rollbackCount.toNat <= r.rollbackCount.toNat + 2 := by
  have hstart : SafeFlash r.rollbackCount.toNat m₀ :=
    ⟨r.activeBank, (inForce_valid hforce).2.2.1, (slotIsBootable_eval m₀ _).mp hboot, c, r, hforce,
      .of_confirmed hconfirmed rfl (Nat.le_refl _)⟩
  have hsafe : SafeFlash r.rollbackCount.toNat m := hrun.unbricked hcount hstart
  rcases hsafe.booted hcount hcuts hexec with
    ⟨⟨_, _, _, c', r', hforce', hsafe'⟩, hran, bank, hbank, hbase, hbootable⟩
  exact ⟨hran, ⟨bank, hbank, hbase, (slotIsBootable_eval m' bank).mpr hbootable⟩, c', r', hforce',
    hsafe'.count (inForce_valid hforce')⟩

/-!
## A small update
-/

theorem onlyCuts_never : OnlyCuts (Faults.never iflash) :=
  ⟨Faults.never_neverFails, fun _ _ _ _ _ h => (or_self_iff.mp h).elim⟩

/-- The boot behind the activation starts the installed image. -/
theorem every_boot_runs_update :
    (bootCoreRun.eval internalFlash (settledActivated 0 1)).1.outcome = .run := by
  have hok : (sampleAnswer updateStaging .activate (settledInstalled 0 1)).err = .ok := by
    decide +kernel
  exact (every_boot_runs (inForce_deviceFlash .a (settledRecord_valid 0 1)) rfl (by decide)
    ((slotIsBootable_eval _ _).mpr (bootable_deviceFlash .a _)) (life_activated onlyCuts_never hok) onlyCuts_never
    (Program.exec_eval internalFlash (Faults.never iflash) _ _)).1

/-- From a confirmed record with 16 rollbacks counted, an update that is never confirmed ends in
a bootloader that halts. -/
theorem counted_rollbacks_halt :
    inForce (deviceFlash .a (settledRecord 16 1)) = some (0, settledRecord 16 1) ∧
    (settledRecord 16 1).bootState = firmwareMetaStateConfirmed ∧
    ((slotIsBootable (settledRecord 16 1).activeBank).eval internalFlash
      (deviceFlash .a (settledRecord 16 1))).1.isSome = true ∧
    exists m, DeviceRun openCrypto OnlyCuts (fun _ => True) .off
        (deviceFlash .a (settledRecord 16 1)) .off m ∧
      (bootCoreRun.eval internalFlash m).1.outcome = .haltRollbackLimit := by
  have hfacts : (sampleAnswer updateStaging .activate (settledInstalled 16 1)).err = .ok ∧
      (bootCoreRun.eval internalFlash
        (bootCoreRun.eval internalFlash (settledActivated 16 1)).2).1.outcome =
          .haltRollbackLimit := by
    decide +kernel
  refine ⟨inForce_deviceFlash .a (settledRecord_valid 16 1), rfl,
    (slotIsBootable_eval _ _).mpr (bootable_deviceFlash .a _), _, ?_, hfacts.2⟩
  exact ((life_activated onlyCuts_never hfacts.1).boot onlyCuts_never
    (Program.exec_eval internalFlash (Faults.never iflash) _ _)).reset

end EnvMonitor.Gateway.FirmwareStore
