import EnvMonitor.Gateway.FirmwareStore.NeverBrick

/-!
# Every trial is supervised

An activated image is followed from the call that put its record in force.  Whatever becomes of
the writes of the record, it is started at most once before it is confirmed.
-/

namespace EnvMonitor.Gateway.FirmwareStore

open Device Drivers Gateway.ConfigStore Bootloader

/-!
## The records of a trial
-/

/-- On-chip calls that may fail or be cut in any way, but for the reads of the slots, and a CRC
that rejects torn records. -/
def SlotsReadable (F : Faults iflash) : Prop :=
  ¬ SlotReadFails F ∧ RejectsTorn F

/-- No confirm and no further activation. -/
def Unconfirmed (call : FsCall) : Prop :=
  call ≠ .confirm ∧ call ≠ .activate

/-- What can be written once the trial of the record `p` has begun: that it runs, that it was
given up, or that giving it up was acknowledged. -/
structure AfterStart (p r : FirmwareBootMeta) : Prop where
  notPending : r.bootState ≠ firmwareMetaStateTrialPending
  running : r.bootState = firmwareMetaStateTrialRunning ->
    r.activeBank = p.activeBank ∧ r.previousBank = p.previousBank ∧
      r.rollbackCount = p.rollbackCount
  rolledBack : r.bootState = firmwareMetaStateRolledBack ->
    r.activeBank = p.previousBank ∧ r.previousBank = p.activeBank
  confirmed : r.bootState = firmwareMetaStateConfirmed -> r.activeBank = p.previousBank

/-- Records of the trial of `p`, with or without its own. -/
structure TrialKind (p : FirmwareBootMeta) (K : FirmwareBootMeta -> Prop) : Prop where
  only : forall r, K r -> r = p ∨ AfterStart p r
  all : forall r, AfterStart p r -> K r

/-- The record of an activation. -/
structure Pending (p : FirmwareBootMeta) : Prop where
  state : p.bootState = firmwareMetaStateTrialPending
  valid : RecordIsValid p
  banks : p.activeBank ≠ p.previousBank

section

variable {p r r' : FirmwareBootMeta} {K : FirmwareBootMeta -> Prop} {F : Faults iflash}
variable {m m' : Memory} {c : Nat}

theorem AfterStart.of_running (hstate : r.bootState = firmwareMetaStateTrialRunning)
    (hactive : r.activeBank = p.activeBank) (hprevious : r.previousBank = p.previousBank)
    (hcount : r.rollbackCount = p.rollbackCount) : AfterStart p r where
  notPending := by
    rw [hstate]
    decide
  running _ := ⟨hactive, hprevious, hcount⟩
  rolledBack h := by
    rw [hstate] at h
    cases h
  confirmed h := by
    rw [hstate] at h
    cases h

theorem AfterStart.of_rolledBack (hstate : r.bootState = firmwareMetaStateRolledBack)
    (hactive : r.activeBank = p.previousBank) (hprevious : r.previousBank = p.activeBank) :
    AfterStart p r where
  notPending := by
    rw [hstate]
    decide
  running h := by
    rw [hstate] at h
    cases h
  rolledBack _ := ⟨hactive, hprevious⟩
  confirmed h := by
    rw [hstate] at h
    cases h

theorem AfterStart.of_confirmed (hstate : r.bootState = firmwareMetaStateConfirmed)
    (hactive : r.activeBank = p.previousBank) : AfterStart p r where
  notPending := by
    rw [hstate]
    decide
  running h := by
    rw [hstate] at h
    cases h
  rolledBack h := by
    rw [hstate] at h
    cases h
  confirmed _ := hactive

theorem TrialKind.started (hkind : TrialKind p K) (hpending : Pending p) (hr : K r)
    (hstate : r.bootState ≠ firmwareMetaStateTrialPending) : AfterStart p r := by
  rcases hkind.only r hr with hequal | hafter
  · rw [hequal] at hstate
    exact absurd hpending.state hstate
  · exact hafter

theorem TrialKind.pending (hkind : TrialKind p K) (hr : K r)
    (hstate : r.bootState = firmwareMetaStateTrialPending) : r = p := by
  rcases hkind.only r hr with hequal | hafter
  · exact hequal
  · exact absurd hstate hafter.notPending

/-!
## Boots
-/

variable {bank : UInt8} {report : BootReport} {call : FsCall} {fs : FsInst}

theorem SlotsReadable.refused (h : SlotsReadable F) (hrefused : Refusable F m bank) :
    ¬ Bootable m bank := by
  rcases hrefused with hnot | hfails
  · exact hnot
  · exact absurd hfails h.1

theorem TrialKind.written (hkind : TrialKind p K) (hpending : Pending p) (hr : K r)
    (hwrite : BootWrite (some (c, r)) r') : AfterStart p r' := by
  cases hwrite with
  | trial hstate =>
      have hequal := hkind.pending hr hstate
      subst hequal
      exact .of_running rfl rfl rfl rfl
  | abandon hstate _ =>
      have hrunning := (hkind.started hpending hr (by rw [hstate]; decide)).running hstate
      exact .of_rolledBack rfl hrunning.2.1 hrunning.1

/-- A stage of a boot goes for the previous slot, unless it is the one that starts the
trial. -/
theorem TrialKind.stage (hkind : TrialKind p K) (hpending : Pending p)
    (hforce : inForce m = some (c, r)) (hr : K r) {c₁ : Nat} {r₁ : FirmwareBootMeta} {failed : Bool}
    (hstage : BootStage F m c₁ r₁ bank m' failed) :
    bank = p.previousBank ∨
      (bank = p.activeBank ∧ r = p ∧ r₁ = trialRecord p ∧
        m' = FirmwareStore.written m (targetOf m) (trialRecord p) 24) := by
  cases hstage with
  | settled hforce' hnot hrunning =>
      rw [hforce] at hforce'
      cases hforce'
      have hafter := hkind.started hpending hr hnot
      rcases bootState_cases (inForce_valid hforce) with hstate | hstate | hstate | hstate
      · exact absurd hstate hnot
      · exact .inl (hafter.confirmed hstate)
      · exact absurd hstate hrunning
      · exact .inl (hafter.rolledBack hstate).1
  | recorded hwrite =>
      rw [hforce] at hwrite
      have hafter := hkind.written hpending hr hwrite
      cases hwrite with
      | trial hstate =>
          have hequal := hkind.pending hr hstate
          subst hequal
          exact .inr ⟨rfl, rfl, rfl, rfl⟩
      | abandon _ _ => exact .inl (hafter.rolledBack rfl).1
  | unrecorded hforce' hstate _ _ _ =>
      rw [hforce] at hforce'
      cases hforce'
      exact .inl ((hkind.started hpending hr (by rw [hstate]; decide)).running hstate).2.1

theorem TrialKind.bootKeeps (hkind : TrialKind p K) (hpending : Pending p)
    (hreadable : SlotsReadable F) (hboot : Bootable m p.previousBank)
    (hforce : inForce m = some (c, r)) (hr : K r) : BootKeeps K F m c r where
  write r' hwrite := hkind.all r' (hkind.written hpending hr hwrite)
  fallback := by
    intro c₁ r₁ bank m₁ failed hstage hfalls
    have hkept := bootStage_kept hstage hreadable.2 hforce hr
      fun r' hwrite => hkind.all r' (hkind.written hpending hr hwrite)
    rcases hkind.stage hpending hforce hr hstage with hprevious | ⟨hactive, _, _, _⟩
    · rw [hprevious] at hfalls
      exact absurd ((hkept.slots _).mpr hboot) (hreadable.refused hfalls.1)
    · apply hkind.all
      rw [hactive]
      exact .of_rolledBack rfl (otherBank_eq hpending.valid.2.2.2.1 hpending.valid.2.2.1
        (Ne.symm hpending.banks)) rfl

/-- A boot that runs a slot runs the previous one, unless it starts the trial: then the record
that says so is in force. -/
theorem TrialKind.booted (hkind : TrialKind p K) (hpending : Pending p)
    (hreadable : SlotsReadable F) (hboot : Bootable m p.previousBank)
    (hforce : inForce m = some (c, r)) (hr : K r) (hexit : BootExit F m report m')
    (hran : report.outcome = .run) :
    report.slotBase = slotBase p.previousBank ∨
      (report.slotBase = slotBase p.activeBank ∧ r = p ∧
        m' = FirmwareStore.written m (targetOf m) (trialRecord p) 24) := by
  cases hexit with
  | unreadable hhalt _ =>
      rw [hhalt] at hran
      cases hran
  | refused hhalt _ _ _ _ =>
      rw [hhalt] at hran
      cases hran
  | limit hhalt _ _ _ =>
      rw [hhalt] at hran
      cases hran
  | slots hstage _ hslots =>
      have hkept := bootStage_kept hstage hreadable.2 hforce hr
        fun r' hwrite => hkind.all r' (hkind.written hpending hr hwrite)
      have hstill := (hkept.slots p.previousBank).mpr hboot
      have hother : otherBank p.activeBank = p.previousBank :=
        otherBank_eq hpending.valid.2.2.2.1 hpending.valid.2.2.1 (Ne.symm hpending.banks)
      rcases hkind.stage hpending hforce hr hstage with hprevious | ⟨hactive, hequal, _, hflash⟩
      · subst hprevious
        cases hslots with
        | ran _ => exact .inl rfl
        | limit hrefused _ => exact absurd hstill (hreadable.refused hrefused)
        | noImage hrefused _ => exact absurd hstill (hreadable.refused hrefused)
        | fellBack hrefused _ _ => exact absurd hstill (hreadable.refused hrefused)
        | unrecorded hrefused _ _ _ _ => exact absurd hstill (hreadable.refused hrefused)
      · subst hactive
        rw [← hother]
        cases hslots with
        | ran _ => exact .inr ⟨rfl, hequal, hflash⟩
        | limit _ _ =>
            rw [finish_outcome] at hran
            cases hran
        | noImage _ _ =>
            rw [finish_outcome] at hran
            cases hran
        | fellBack _ _ _ => exact .inl rfl
        | unrecorded _ _ _ _ _ => exact .inl rfl

theorem afterStart_runs (hpending : Pending p) (hreadable : SlotsReadable F)
    (hmeta : forall c n, ¬ F.fails (.read (fsMetaAddr c) 24) n)
    (hcount : p.rollbackCount < bootMaxRollbacks) (hboot : Bootable m p.previousBank)
    (hforce : inForce m = some (c, r)) (hafter : AfterStart p r) (hexit : BootExit F m report m') :
    report.outcome = .run := by
  have hkind : TrialKind p (AfterStart p) := ⟨fun _ h => .inr h, fun _ h => h⟩
  cases hexit with
  | unreadable _ hfails => exact absurd hfails (hmeta _ _)
  | refused _ hwrite hnot _ _ =>
      rw [hforce] at hwrite
      cases hwrite with
      | trial hstate => exact absurd hstate hafter.notPending
      | abandon _ _ => exact absurd rfl hnot
  | limit _ hforce' hstate hlimit =>
      rw [hforce] at hforce'
      cases hforce'
      rw [(hafter.running hstate).2.2] at hlimit
      exact absurd hlimit (UInt32.not_le.mpr hcount)
  | slots hstage _ hslots =>
      have hkept := bootStage_kept hstage hreadable.2 hforce hafter
        fun r' hwrite => hkind.written hpending hafter hwrite
      have hstill := (hkept.slots p.previousBank).mpr hboot
      rcases hkind.stage hpending hforce hafter hstage with hprevious | ⟨_, hequal, _, _⟩
      · subst hprevious
        cases hslots with
        | ran _ => exact finish_outcome _ _ _
        | limit hrefused _ => exact absurd hstill (hreadable.refused hrefused)
        | noImage hrefused _ => exact absurd hstill (hreadable.refused hrefused)
        | fellBack hrefused _ _ => exact absurd hstill (hreadable.refused hrefused)
        | unrecorded hrefused _ _ _ _ => exact absurd hstill (hreadable.refused hrefused)
      · rw [hequal] at hafter
        exact absurd hpending.state hafter.notPending

/-!
## Sessions
-/

theorem TrialKind.requested (hkind : TrialKind p K) (hpending : Pending p) (h : Running K fs m)
    (hmay : Unconfirmed call) (hrequests : Requests fs call) :
    AfterStart p (requestedRecord fs call) := by
  rcases h.holding hrequests.capable with ⟨c, r, hholding, hr⟩
  have hstates := hholding.bootState (copyAt_valid hholding.copy)
  have hafter := hkind.started hpending hr hholding.started
  have hmeta := hholding.fsMeta
  cases call with
  | rollback =>
      have hrunning := hafter.running (hstates.2.1 hrequests.2)
      refine .of_rolledBack rfl ?_ ?_
      · change fs.fsMeta.previousBank = p.previousBank
        rw [hmeta]
        exact hrunning.2.1
      · change fs.fsMeta.activeBank = p.activeBank
        rw [hmeta]
        exact hrunning.1
  | acknowledgeRollback =>
      have hrolled := hafter.rolledBack (hstates.2.2 hrequests.2)
      refine .of_confirmed rfl ?_
      change fs.fsMeta.activeBank = p.previousBank
      rw [hmeta]
      exact hrolled.1
  | activate => exact absurd rfl hmay.2
  | confirm => exact absurd rfl hmay.1
  | _ => exact hrequests.elim

theorem TrialKind.spared (hkind : TrialKind p K) (hpending : Pending p) (h : Running K fs m)
    (hmay : Unconfirmed call) : Spared fs call (fsSlotFromBank p.previousBank) := by
  refine ⟨fsSlotFromBank_ne_none hpending.valid.2.2.2.1, ?_, fun hrequests hsettles => ?_⟩
  · by_cases hopen : Open fs
    · rcases h.holding hopen.1 with ⟨c, r, hholding, hr⟩
      have hstate := (hholding.bootState (copyAt_valid hholding.copy)).1 hopen.2
      have hafter := hkind.started hpending hr hholding.started
      rw [← hafter.confirmed hstate]
      exact .inl hholding.running
    · exact .inr hopen
  · cases call with
    | acknowledgeRollback =>
        rcases h.holding hrequests.capable with ⟨c, r, hholding, hr⟩
        have hvalid := copyAt_valid hholding.copy
        have hafter := hkind.started hpending hr hholding.started
        have hrolled := hafter.rolledBack ((hholding.bootState hvalid).2.2 hrequests.2)
        have hleft : leftSlot fs = fsSlotFromBank p.activeBank := by
          unfold leftSlot
          rw [hholding.fsMeta]
          exact congrArg fsSlotFromBank hrolled.2
        rw [hleft]
        intro hequal
        have hbanks := congrArg fsBankFromSlot hequal
        rw [fsBankFromSlot_bank hpending.valid.2.2.1,
          fsBankFromSlot_bank hpending.valid.2.2.2.1] at hbanks
        exact hpending.banks hbanks
    | confirm => exact absurd rfl hmay.1
    | _ => exact hsettles.elim

theorem TrialKind.runKeeps (hkind : TrialKind p K) (hpending : Pending p) :
    RunKeeps SlotsReadable Unconfirmed K (fun m => Bootable m p.previousBank) where
  torn _ hok := hok.2
  boot _ _ _ _ hok hboot hforce hr := hkind.bootKeeps hpending hok hboot hforce hr
  booted _ _ hslots hboot := (hslots _).mpr hboot
  request _ _ _ h hmay hrequests := hkind.all _ (hkind.requested hpending h hmay hrequests)
  called _ _ _ _ h hmay hslots hboot := by
    have hsame := (hslots _ (hkind.spared hpending h hmay)).bootable
    rw [fsBankFromSlot_bank hpending.valid.2.2.2.1] at hsame
    exact hsame.mpr hboot

end

/-!
## From the activation on
-/

/-- The activation, with the phase and the flash it leaves. -/
inductive ActivateStep (crypto : OtaCrypto) (fs : FsInst) (m : Memory) :
    DevicePhase -> Memory -> Prop where
  | returned {F : Faults storeIo} {m' : Memory} {fs' : FsInst} {answer : FsAnswer}
      {t t' : (qspiFlash.sum cryptoDevice).State} : SlotsReadable F.left ->
      Program.Exec storeDevice F (fsPerform crypto fs .activate) (m, t) (some (answer, fs'))
        (m', t') ->
      ActivateStep crypto fs m (if MustReset .activate answer then .off else .up fs') m'
  | cut {F : Faults storeIo} {m' : Memory} {t t' : (qspiFlash.sum cryptoDevice).State} :
      SlotsReadable F.left ->
      Program.Exec storeDevice F (fsPerform crypto fs .activate) (m, t) none (m', t') ->
      ActivateStep crypto fs m .off m'

/-- After the report every boot that runs a slot runs `slot`, and it does run one if it can read
the record and rollbacks can still be counted. -/
def LaterBootsRun (crypto : OtaCrypto) (report : BootReport) (m : Memory) (slot : FirmwareSlot)
    (count : UInt32) : Prop :=
  forall (F : Faults iflash) (m₁ m₂ : Memory) (report' : BootReport),
    DeviceRun crypto SlotsReadable Unconfirmed (.booted report) m .off m₁ -> SlotsReadable F ->
    Program.Exec internalFlash F bootCoreRun m₁ (some report') m₂ ->
    (report'.outcome = .run -> report'.slotBase = fsSlotBase slot) ∧
      (count < bootMaxRollbacks -> (forall c n, ¬ F.fails (.read (fsMetaAddr c) 24) n) ->
        report'.outcome = .run)

section

variable {crypto : OtaCrypto} {fs : FsInst} {m m' : Memory} {phase : DevicePhase} {c : Nat}

theorem runKeeps_any :
    RunKeeps SlotsReadable (fun _ => True) (fun _ => True) (fun _ => True) where
  torn _ hok := hok.2
  boot _ _ _ _ _ _ _ _ := ⟨fun _ _ => trivial, fun _ _ _ _ _ _ _ => trivial⟩
  booted _ _ _ _ := trivial
  request _ _ _ _ _ _ := trivial
  called _ _ _ _ _ _ _ _ := trivial

theorem activation_pending (h : Running (fun _ => True) fs m) (hrequests : Requests fs .activate) :
    Pending (requestedRecord fs .activate) where
  state := rfl
  valid := (requestedRecord_valid h.legalBanks hrequests).1
  banks := by
    rcases h.holding hrequests.capable with ⟨c, r, hholding, _⟩
    have htarget := h.inv.target (.inr (.inr hrequests.2.1))
    change fsBankFromSlot fs.targetSlot ≠ fsBankFromSlot fs.boot.runningSlot
    rcases fsBankFromSlot_other fs.boot.runningSlot with hne | hnone
    · rw [htarget]
      exact hne
    · rw [← hholding.running] at hnone
      exact absurd hnone (fsSlotFromBank_ne_none (copyAt_valid hholding.copy).2.2.1)

theorem activate_failed {F : Faults storeIo} {fs' : FsInst} {answer : FsAnswer}
    {t t' : (qspiFlash.sum cryptoDevice).State} (hlegal : LegalBanks fs)
    (hexec : Program.Exec storeDevice F (fsPerform crypto fs .activate) (m, t)
      (some (answer, fs')) (m', t')) (hgoes : ¬ MustReset .activate answer) : fs' = fs := by
  have hcall : IsBootControl .activate := trivial
  have hexit : BootCallExit F.left m fs .activate answer.err fs' m' :=
    Program.wp_returns (wp_bootControl hcall hlegal) hexec
  generalize herr : answer.err = err at hexit
  cases hexit with
  | idle _ _ => rfl
  | failed _ _ _ => rfl
  | done _ _ => exact absurd ⟨.inl rfl, herr⟩ hgoes
  | settled _ hsettles => exact hsettles.elim
  | unsettled _ _ hsettles _ => exact hsettles.elim

theorem ActivateStep.begins (hact : ActivateStep crypto fs m phase m')
    (h : Running (fun _ => True) fs m) (hrequests : Requests fs .activate)
    (hforce : inForce m' = some (c, requestedRecord fs .activate))
    (hboot : Bootable m' (requestedRecord fs .activate).previousBank) :
    PhaseKept (fun r => r = requestedRecord fs .activate ∨
        AfterStart (requestedRecord fs .activate) r)
      (fun m => Bootable m (requestedRecord fs .activate).previousBank) phase m' := by
  cases hact with
  | cut _ _ => exact ⟨⟨c, _, hforce, .inl rfl⟩, hboot⟩
  | returned hok hexec =>
      have hafter := h.called hok.2 (fun _ => trivial) hexec
      split
      · exact ⟨⟨c, _, hforce, .inl rfl⟩, hboot⟩
      · rename_i hgoes
        have hrunning := (hafter.2.1 hgoes).1
        have hsame := activate_failed h.legalBanks hexec hgoes
        subst hsame
        refine ⟨⟨hrunning.inv, ⟨c, _, hforce, .inl rfl⟩, hrunning.idle, fun hota => ?_⟩, hboot⟩
        rcases hrunning.holding hota with ⟨c', r, hholding, _⟩
        have hvalid := copyAt_valid hholding.copy
        refine ⟨c', r, hholding, .inr (.of_confirmed
          ((hholding.bootState hvalid).1 hrequests.2.2) ?_)⟩
        rw [← fsBankFromSlot_bank hvalid.2.2.1, hholding.running]
        rfl

end

/-- In every life of a device, from the activation that put its record in force: a boot without a
confirm runs the previous slot, or it starts the activated image with the record in force that
says so, and then every later boot runs the previous slot. -/
theorem trials_are_supervised {crypto : OtaCrypto} {m₀ m m₁ m₂ m₃ : Memory}
    {start : Nat × FirmwareBootMeta} {fs : FsInst} {phase : DevicePhase} {c : Nat}
    {F : Faults iflash} {report : BootReport} (hstart : inForce m₀ = some start)
    (hrun₀ : DeviceRun crypto SlotsReadable (fun _ => True) .off m₀ (.up fs) m)
    (hrequests : Requests fs .activate) (hact : ActivateStep crypto fs m phase m₁)
    (hforce : inForce m₁ = some (c, requestedRecord fs .activate))
    (hgeneration : (requestedRecord fs .activate).generation < firmwareErasedWord)
    (hprevious : ((slotIsBootable (fsBankFromSlot fs.boot.runningSlot)).eval internalFlash
      m₁).1.isSome = true)
    (hrun₁ : DeviceRun crypto SlotsReadable Unconfirmed phase m₁ .off m₂)
    (hreadable : SlotsReadable F)
    (hexec : Program.Exec internalFlash F bootCoreRun m₂ (some report) m₃)
    (hran : report.outcome = .run) :
    report.slotBase = fsSlotBase fs.boot.runningSlot ∨
      (report.slotBase = fsSlotBase fs.targetSlot ∧
        (exists c' r', inForce m₃ = some (c', r') ∧
          r'.bootState = firmwareMetaStateTrialRunning ∧
          r'.activeBank = fsBankFromSlot fs.targetSlot) ∧
        LaterBootsRun crypto report m₃ fs.boot.runningSlot fs.fsMeta.rollbackCount) := by
  have hrunning : Running (fun _ => True) fs m :=
    (hrun₀.kept runKeeps_any ⟨⟨start.1, start.2, hstart, trivial⟩, trivial⟩).1
  have hpending := activation_pending hrunning hrequests
  have hboot : Bootable m₁ (requestedRecord fs .activate).previousBank :=
    (slotIsBootable_eval m₁ _).mp hprevious
  have hbegun := hact.begins hrunning hrequests hforce hboot
  rw [← slotBase_slot, ← slotBase_slot]
  generalize hrecord : requestedRecord fs .activate = p at hpending hbegun hgeneration
  have htarget : p.activeBank = fsBankFromSlot fs.targetSlot := by
    rw [← hrecord]
    rfl
  have hback : p.previousBank = fsBankFromSlot fs.boot.runningSlot := by
    rw [← hrecord]
    rfl
  have hcount : p.rollbackCount = fs.fsMeta.rollbackCount := by
    rw [← hrecord]
    rfl
  have hkind : TrialKind p (fun r => r = p ∨ AfterStart p r) := ⟨fun _ h => h, fun _ h => .inr h⟩
  rcases hrun₁.kept (hkind.runKeeps hpending) hbegun with ⟨⟨c₂, r, hforce₂, hr⟩, hboot₂⟩
  have hexit : BootExit F m₂ report m₃ := Program.wp_returns wp_bootCoreRun hexec
  rw [← htarget, ← hback]
  rcases hkind.booted hpending hreadable hboot₂ hforce₂ hr hexit hran with hback' |
    ⟨hactive, hequal, hflash⟩
  · exact .inl hback'
  · subst hequal hflash
    have hvalid : RecordIsValid (trialRecord r) :=
      fsMetaRecord_valid hpending.valid.2.2.1 hpending.valid.2.2.2.1 metaStateLegal_trialRunning
    have hnewer := @recordNextGeneration_newer (inForce m₂) (by
      intro c' r' hsome
      rw [hforce₂] at hsome
      cases hsome
      exact hgeneration)
    have hnow := inForce_writtenAll (m := m₂) hvalid (by
      intro c' r' hsome
      have hlt := hnewer c' r' hsome
      rw [hforce₂] at hlt
      exact hlt)
    have hstarted : AfterStart r (trialRecord r) := .of_running rfl rfl rfl rfl
    have hlater : TrialKind r (AfterStart r) := ⟨fun _ h => .inr h, fun _ h => h⟩
    refine .inr ⟨hactive, ⟨_, _, hnow, rfl, rfl⟩, fun F' m₄ m₅ report' hrun hok hexec' => ?_⟩
    have hphase : PhaseKept (AfterStart r) (fun m => Bootable m r.previousBank) (.booted report)
        (written m₂ (targetOf m₂) (trialRecord r) 24) :=
      ⟨⟨_, _, hnow, hstarted⟩, (bootable_metaPage (written_sameOutside _ _ _ 24)).mpr hboot₂⟩
    rcases hrun.kept (hlater.runKeeps hpending) hphase with ⟨⟨c₄, r₄, hforce₄, hr₄⟩, hboot₄⟩
    have hexit' : BootExit F' m₄ report' m₅ := Program.wp_returns wp_bootCoreRun hexec'
    rw [← slotBase_slot, ← hback, ← hcount]
    constructor
    · intro hran'
      rcases hlater.booted hpending hok hboot₄ hforce₄ hr₄ hexit' hran' with hslot |
        ⟨_, hequal, _⟩
      · exact hslot
      · rw [hequal] at hr₄
        exact absurd hpending.state hr₄.notPending
    · intro hroom hmeta
      exact afterStart_runs hpending hok hmeta hroom hboot₄ hforce₄ hr₄ hexit'

/-!
## Two trials
-/

theorem slotsReadable_never : SlotsReadable (Faults.never iflash) :=
  ⟨fun ⟨_, _, _, _, hfails⟩ => hfails, onlyCuts_never.2⟩

/-- The trial of a small update: the first boot starts it, the second one gives it up. -/
theorem trials_are_supervised_update :
    (bootCoreRun.eval internalFlash (settledActivated 0 1)).1.slotBase = firmwareSlotBBase ∧
    (bootCoreRun.eval internalFlash
      (bootCoreRun.eval internalFlash (settledActivated 0 1)).2).1.slotBase =
        firmwareSlotABase := by
  have hfacts : (sampleAnswer updateStaging .activate (settledInstalled 0 1)).err = .ok ∧
      ((settledInstalled 0 1).1.boot.otaCapable = true ∧
        (settledInstalled 0 1).1.op = .installed ∧
        (settledInstalled 0 1).1.boot.state = .confirmed) ∧
      inForce (settledActivated 0 1) =
        some (1, requestedRecord (settledInstalled 0 1).1 .activate) ∧
      (requestedRecord (settledInstalled 0 1).1 .activate).generation < firmwareErasedWord ∧
      ((slotIsBootable (fsBankFromSlot (settledInstalled 0 1).1.boot.runningSlot)).eval
        internalFlash (settledActivated 0 1)).1.isSome = true ∧
      (bootCoreRun.eval internalFlash (settledActivated 0 1)).1.outcome = .run ∧
      (bootCoreRun.eval internalFlash (settledActivated 0 1)).1.slotBase = firmwareSlotBBase ∧
      (settledInstalled 0 1).1.boot.runningSlot = .a ∧
      (settledInstalled 0 1).1.fsMeta.rollbackCount < bootMaxRollbacks := by
    decide +kernel
  rcases hfacts with ⟨hok, hrequests, hforce, hgeneration, hprevious, hran, hbase, hslot, hcount⟩
  have hact : ActivateStep openCrypto (settledInstalled 0 1).1 (settledInstalled 0 1).2 _
      (settledActivated 0 1) := .returned (F := Faults.never storeIo) slotsReadable_never
    (Program.exec_eval storeDevice (Faults.never storeIo) _ (_, updateStaging))
  rw [if_pos ⟨.inl rfl, hok⟩] at hact
  refine ⟨hbase, ?_⟩
  have hfirst := trials_are_supervised (inForce_deviceFlash .a (settledRecord_valid 0 1))
    (life_installed 0 1 slotsReadable_never) hrequests hact hforce hgeneration hprevious .start
    slotsReadable_never (Program.exec_eval internalFlash (Faults.never iflash) _ _) hran
  rw [hslot, hbase] at hfirst
  rcases hfirst with hback | ⟨_, _, hlater⟩
  · cases hback
  · have hsecond := hlater _ _ _ _ (.reset .start) slotsReadable_never
      (Program.exec_eval internalFlash (Faults.never iflash) bootCoreRun _)
    exact hsecond.1 (hsecond.2 hcount fun _ _ h => h)

/-- A trial behind the last generation is started again and again: its record never comes into
force. -/
theorem last_generation_starts_twice :
    DeviceRun openCrypto SlotsReadable (fun _ => True) .off
      (deviceFlash .a (settledRecord 0 0xFFFFFFFE)) .off (settledActivated 0 0xFFFFFFFE) ∧
    (bootCoreRun.eval internalFlash (settledActivated 0 0xFFFFFFFE)).1.outcome = .run ∧
    (bootCoreRun.eval internalFlash (settledActivated 0 0xFFFFFFFE)).1.slotBase =
      firmwareSlotBBase ∧
    ((slotIsBootable firmwareBankA).eval internalFlash
      (bootCoreRun.eval internalFlash (settledActivated 0 0xFFFFFFFE)).2).1.isSome = true ∧
    (bootCoreRun.eval internalFlash
      (bootCoreRun.eval internalFlash (settledActivated 0 0xFFFFFFFE)).2).1.outcome = .run ∧
    (bootCoreRun.eval internalFlash
      (bootCoreRun.eval internalFlash (settledActivated 0 0xFFFFFFFE)).2).1.slotBase =
        firmwareSlotBBase := by
  have hok : (sampleAnswer updateStaging .activate (settledInstalled 0 0xFFFFFFFE)).err = .ok := by
    decide +kernel
  refine ⟨life_activated slotsReadable_never hok, ?_⟩
  decide +kernel

end EnvMonitor.Gateway.FirmwareStore
