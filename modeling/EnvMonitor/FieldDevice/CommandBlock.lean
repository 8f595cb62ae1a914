import EnvMonitor.FieldDevice.ConfigService.AllOrNothing

/-!
# The command block

Which writes reach a command of the register map: a command stands alone in its request, and the
two registers of the time go together.
-/

namespace EnvMonitor.FieldDevice

open Modbus
open ConfigService (regWrites opBlock blockWrites ReachesApply)

abbrev mrmRegCmdAckAlarm : UInt16 := 0x0200
abbrev mrmRegCmdResetMetrics : UInt16 := 0x0201
abbrev mrmRegCmdSoftRestart : UInt16 := 0x0202

def WritesCommandBlock (op : Operation) : Prop :=
  exists addr value, (addr, value) ∈ regWrites op ∧ inCmdBlock addr = true

/-!
## What every write keeps
-/

section Preserves

variable {sigma : Type} {svc : Services sigma} {rel : Device sigma -> Device sigma -> Prop}

theorem writableSlot_preserves
    (hslots : forall slot, slot ∈ kSlots svc -> forall writeFn, slot.writeFn = some writeFn ->
      forall value d, rel d (writeFn value d).2)
    {addr : UInt16} {found : WriteFn sigma × Option (ValidateFn sigma)}
    (h : writableSlot svc addr = some found) (value : UInt16) (d : Device sigma) :
    rel d (found.1 value d).2 := by
  unfold writableSlot at h
  cases hslot : findSlot svc addr with
  | none =>
      rw [hslot] at h
      cases h
  | some slot =>
      rw [hslot] at h
      dsimp only at h
      split at h
      · rcases Option.map_eq_some_iff.mp h with ⟨write, hwrite, heq⟩
        cases heq
        exact hslots slot (List.mem_of_find?_eq_some hslot) write hwrite value d
      · cases h

theorem applyAll_preserves (hrefl : forall d, rel d d)
    (htrans : forall d d' d'', rel d d' -> rel d' d'' -> rel d d'')
    (hslots : forall slot, slot ∈ kSlots svc -> forall writeFn, slot.writeFn = some writeFn ->
      forall value d, rel d (writeFn value d).2)
    (addr : UInt16) (values : List UInt16) (d : Device sigma) :
    rel d (applyAll svc addr values d).2 := by
  induction values generalizing addr d with
  | nil => exact hrefl d
  | cons value values ih =>
      unfold applyAll
      cases hslot : writableSlot svc addr with
      | none => exact hrefl d
      | some slot =>
          have hone := writableSlot_preserves hslots hslot value d
          dsimp only
          cases hwrite : slot.1 value d with
          | mk rc d' =>
              rw [hwrite] at hone
              cases rc with
              | none => exact htrans _ _ _ hone (ih (addr + 1) d')
              | illegalFunction => exact hone
              | illegalDataAddr => exact hone
              | illegalDataValue => exact hone

theorem perform_preserves (hrefl : forall d, rel d d)
    (htrans : forall d d' d'', rel d d' -> rel d' d'' -> rel d d'')
    (hslots : forall slot, slot ∈ kSlots svc -> forall writeFn, slot.writeFn = some writeFn ->
      forall value d, rel d (writeFn value d).2)
    (htime : forall hi lo d, rel d (applyCmdSetTime svc hi lo d).2)
    (d : Device sigma) (op : Operation) : rel d (perform svc d op).2 := by
  cases op with
  | readInput start count =>
      rw [perform_readInput_state]
      exact hrefl d
  | writeSingle reg value =>
      change rel d (writeAnswer _ (mrmWriteSingleReg svc reg value d)).2
      rw [writeAnswer_state]
      unfold mrmWriteSingleReg
      split
      · exact hrefl d
      · cases hslot : writableSlot svc reg with
        | none => exact hrefl d
        | some slot =>
            dsimp only
            split
            · exact writableSlot_preserves hslots hslot value d
            · exact hrefl d
  | writeMultiple start values =>
      change rel d (writeAnswer _ (mrmWriteMultipleRegs svc start values d)).2
      rw [writeAnswer_state]
      unfold mrmWriteMultipleRegs
      dsimp only
      split
      · exact hrefl d
      · split
        · exact hrefl d
        · split
          · exact htime _ _ d
          · split
            · exact hrefl d
            · split
              · exact applyAll_preserves hrefl htrans hslots start values d
              · exact hrefl d

end Preserves

/-!
## Writes of the command block
-/

section CommandBlock

variable {sigma : Type} {svc : Services sigma}

theorem writeAnswer_refused {rc : ModbusException} (h : rc ≠ .none) (words : List UInt16)
    (d : Device sigma) : exists code, writeAnswer words (rc, d) = (.error code, d) := by
  cases rc with
  | none => exact absurd rfl h
  | illegalFunction => exact ⟨modbusExcIllegalAddr, rfl⟩
  | illegalDataAddr => exact ⟨modbusExcIllegalAddr, rfl⟩
  | illegalDataValue => exact ⟨modbusExcIllegalValue, rfl⟩

variable {addr value : UInt16} {op : Operation}

theorem command_register (hwritable : writableSlot svc addr ≠ none)
    (hblock : inCmdBlock addr = true) :
    addr = mrmRegCmdAckAlarm ∨ addr = mrmRegCmdResetMetrics ∨ addr = mrmRegCmdSoftRestart ∨
      inTimePair addr = true := by
  have hall : ConfigService.writableAddrs.all (fun a => decide (inCmdBlock a = true ->
      a = mrmRegCmdAckAlarm ∨ a = mrmRegCmdResetMetrics ∨ a = mrmRegCmdSoftRestart ∨
        inTimePair a = true)) = true := by decide +kernel
  have hmem := ConfigService.mem_writableAddrs hwritable
  exact of_decide_eq_true (List.all_eq_true.mp hall addr hmem) hblock

/-- The ways in which the device answers a write to the command block. -/
inductive CommandAnswer (svc : Services sigma) (d : Device sigma) (op : Operation) : Prop where
  | refused (code : UInt8) (answer : perform svc d op = (.error code, d))
  | ackAlarm (value : UInt16) (words : List UInt16)
      (writes : regWrites op = [(mrmRegCmdAckAlarm, value)])
      (answer : perform svc d op = writeAnswer words (writeCmdAckAlarm svc value d))
  | resetMetrics (value : UInt16) (words : List UInt16)
      (writes : regWrites op = [(mrmRegCmdResetMetrics, value)])
      (answer : perform svc d op = writeAnswer words (writeCmdResetMetrics svc value d))
  | softRestart (value : UInt16) (words : List UInt16)
      (writes : regWrites op = [(mrmRegCmdSoftRestart, value)])
      (answer : perform svc d op = writeAnswer words (writeCmdSoftRestart svc value d))
  | setTime (hi lo : UInt16) (words : List UInt16)
      (writes : op = .writeMultiple mrmRegCmdSetTimeHi [hi, lo])
      (answer : perform svc d op = writeAnswer words (applyCmdSetTime svc hi lo d))

theorem commandAnswer_single {d : Device sigma} {words : List UInt16}
    (hwrites : regWrites op = [(addr, value)]) (hblock : inCmdBlock addr = true)
    {slot : WriteFn sigma × Option (ValidateFn sigma)} (hslot : writableSlot svc addr = some slot)
    (hanswer : perform svc d op = writeAnswer words (slot.1 value d)) : CommandAnswer svc d op := by
  rcases command_register (by rw [hslot]; exact Option.some_ne_none slot) hblock with
    haddr | haddr | haddr | htime
  · subst haddr
    cases hslot
    exact .ackAlarm value words hwrites hanswer
  · subst haddr
    cases hslot
    exact .resetMetrics value words hwrites hanswer
  · subst haddr
    cases hslot
    exact .softRestart value words hwrites hanswer
  · have hrefused : slot.1 value d = (.illegalDataValue, d) := by
      rcases of_decide_eq_true htime with haddr | haddr
      · subst haddr
        cases hslot
        rfl
      · subst haddr
        cases hslot
        rfl
    rw [hrefused] at hanswer
    exact .refused modbusExcIllegalValue hanswer

theorem commandBlock_single {start : UInt16} {values : List UInt16}
    (hwritable : forall a, a ∈ blockAddrs start values.length -> writableSlot svc a ≠ none)
    (halone : ¬1 < (blockAddrs start values.length).countP inCmdBlock)
    (hmem : (addr, value) ∈ blockWrites start values) (hblock : inCmdBlock addr = true) :
    exists single, values = [single] ∧ inCmdBlock start = true := by
  have haddr := ConfigService.mem_blockAddrs hmem
  have huniform := fun a => @ConfigService.block_uniform start (fun a => a < mrmCmdBlockFirst)
    ConfigService.cmdBlock_next values.length
    (fun b hb => ConfigService.mem_writableAddrs (hwritable b hb)) a
  have hlist : ConfigService.writableAddrs.all (fun a => decide (¬a < mrmCmdBlockFirst ->
      inCmdBlock a = true)) = true := by decide +kernel
  have hhigh : ¬start < mrmCmdBlockFirst := by
    intro hlow
    have hfirst : mrmCmdBlockFirst ≤ addr := (of_decide_eq_true hblock).1
    exact absurd ((huniform addr haddr).mpr hlow) (UInt16.not_lt.mpr hfirst)
  have hall : forall a, a ∈ blockAddrs start values.length -> inCmdBlock a = true :=
    fun a ha => of_decide_eq_true
      (List.all_eq_true.mp hlist a (ConfigService.mem_writableAddrs (hwritable a ha)))
      (fun hlow => hhigh ((huniform a ha).mp hlow))
  rw [List.countP_eq_length.mpr hall] at halone
  cases values with
  | nil => cases hmem
  | cons first rest =>
      cases rest with
      | nil => exact ⟨first, rfl, hall start List.mem_cons_self⟩
      | cons second rest =>
          have hlong : 1 < (blockAddrs start (first :: second :: rest).length).length :=
            Nat.succ_lt_succ (Nat.succ_pos _)
          exact absurd hlong halone

theorem commandAnswer {d : Device sigma} (hinit : d.initialised = true)
    (hcommand : WritesCommandBlock op) : CommandAnswer svc d op := by
  rcases hcommand with ⟨addr, value, hmem, hblock⟩
  cases op with
  | readInput start count => cases hmem
  | writeSingle reg v =>
      cases List.mem_singleton.mp hmem
      have hperform : perform svc d (.writeSingle reg value) =
          writeAnswer [reg, value] (mrmWriteSingleReg svc reg value d) := rfl
      unfold mrmWriteSingleReg at hperform
      rw [hinit, if_neg (by decide)] at hperform
      cases hslot : writableSlot svc reg with
      | none =>
          rw [hslot] at hperform
          exact .refused modbusExcIllegalAddr hperform
      | some slot =>
          rw [hslot] at hperform
          dsimp only at hperform
          split at hperform
          · exact commandAnswer_single rfl hblock hslot hperform
          · rename_i hvalid
            rcases writeAnswer_refused hvalid [reg, value] d with ⟨code, hcode⟩
            exact .refused code (hperform.trans hcode)
  | writeMultiple start values =>
      have hperform : perform svc d (.writeMultiple start values) =
          writeAnswer [start, UInt16.ofNat values.length]
            (mrmWriteMultipleRegs svc start values d) := rfl
      unfold mrmWriteMultipleRegs at hperform
      dsimp only at hperform
      rw [hinit, if_neg (by decide)] at hperform
      split at hperform
      · exact .refused modbusExcIllegalValue hperform
      · split at hperform
        · rename_i htime
          rcases htime with ⟨hstart, hlength⟩
          rcases List.length_eq_two.mp hlength with ⟨hi, lo, hvalues⟩
          subst hstart hvalues
          exact .setTime hi lo _ rfl hperform
        · split at hperform
          · exact .refused modbusExcIllegalValue hperform
          · rename_i hcount htime hmixed
            split at hperform
            · rename_i hvalid
              have hreach : ReachesApply svc d (.writeMultiple start values) :=
                ⟨hinit, hcount, htime, hmixed, hvalid⟩
              have hwritable := ConfigService.reaches_writable hreach
              rcases commandBlock_single hwritable (fun halone => hmixed (Or.inr halone)) hmem
                hblock with ⟨single, hvalues, hstart⟩
              subst hvalues
              cases hslot : writableSlot svc start with
              | none => exact absurd hslot (hwritable start List.mem_cons_self)
              | some slot =>
                  rw [ConfigService.applyAll_single hslot] at hperform
                  exact commandAnswer_single rfl hstart hslot hperform
            · rename_i hvalid
              rcases writeAnswer_refused hvalid [start, UInt16.ofNat values.length] d with
                ⟨code, hcode⟩
              exact .refused code (hperform.trans hcode)

theorem regWrites_single (h : regWrites op = [(addr, value)]) :
    op = .writeSingle addr value ∨ op = .writeMultiple addr [value] := by
  cases op with
  | readInput start count => cases h
  | writeSingle reg v =>
      cases h
      exact Or.inl rfl
  | writeMultiple start values =>
      cases values with
      | nil => cases h
      | cons first rest =>
          cases rest with
          | nil =>
              cases h
              exact Or.inr rfl
          | cons second rest => cases h

theorem perform_command {d : Device sigma} {writeFn : WriteFn sigma} (hinit : d.initialised = true)
    (hwrites : regWrites op = [(addr, value)])
    (hslot : writableSlot svc addr = some (writeFn, none)) (htime : inTimePair addr = false) :
    exists words, perform svc d op = writeAnswer words (writeFn value d) := by
  have hreach : ReachesApply svc d op ∧ opBlock op = (addr, [value]) := by
    rcases regWrites_single hwrites with hop | hop
    · subst hop
      exact ⟨⟨hinit, _, hslot, rfl⟩, rfl⟩
    · subst hop
      refine ⟨⟨hinit, ?_, ?_, ?_, ?_⟩, rfl⟩
      · change ¬(1 = 0 ∨ 123 < 1)
        decide
      · intro hpair
        cases hpair.2
      · intro hmixed
        rcases hmixed with hany | hmany
        · change (inTimePair addr || false) = true at hany
          rw [htime] at hany
          cases hany
        · exact absurd hmany (Nat.not_lt.mpr List.countP_le_length)
      · unfold validateAll
        rw [hslot]
        rfl
  rcases ConfigService.perform_reaches hreach.1 with ⟨words, hperform⟩
  rw [hreach.2, ConfigService.applyAll_single hslot] at hperform
  exact ⟨words, hperform⟩

theorem perform_timePair {d : Device sigma} (hinit : d.initialised = true) (hi lo : UInt16) :
    perform svc d (.writeMultiple mrmRegCmdSetTimeHi [hi, lo]) =
      writeAnswer [mrmRegCmdSetTimeHi, 2] (applyCmdSetTime svc hi lo d) := by
  unfold perform mrmWriteMultipleRegs
  dsimp only
  rw [hinit]
  rfl

end CommandBlock

end EnvMonitor.FieldDevice
