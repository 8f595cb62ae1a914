import EnvMonitor.FieldDevice.Serve

/-!
# Which requests move the device to another address

Only a write of the slave address register does, and it has to stand alone: both neighbours of
that register are unmapped, so a longer block over it is refused before anything is applied.
-/

namespace EnvMonitor.FieldDevice

open Modbus

variable {sigma : Type} (svc : Services sigma)

/-- The value of a write of the slave address register. -/
def addressWrite : Operation -> Option UInt16
  | .writeSingle reg value => if reg = mrmRegModbusSlaveAddr then some value else none
  | .writeMultiple start [value] => if start = mrmRegModbusSlaveAddr then some value else none
  | _ => none

/-- The map takes the write and the value is another address. -/
def ChangesAddress (d : Device sigma) (op : Operation) : Prop :=
  exists value, addressWrite op = some value ∧ d.initialised = true ∧
    validateSlaveAddr value d = .none ∧
    (svc.setParam (.modbusSlaveAddr value.toUInt8) d.rest).1 = true ∧
    value.toUInt8 ≠ d.slaveAddr

theorem not_changesAddress {d : Device sigma} {op : Operation} (h : addressWrite op = none) :
    ¬ChangesAddress svc d op := by
  intro hchange
  rcases hchange with ⟨value, hvalue, hrest⟩
  rw [h] at hvalue
  cases hvalue

/-!
## Handlers that keep the address
-/

def KeepsAddress (writeFn : WriteFn sigma) : Prop :=
  forall value d, (writeFn value d).2.slaveAddr = d.slaveAddr

theorem writeParam_keeps (param : UInt16 -> ConfigParam) :
    KeepsAddress (writeParam svc param) :=
  fun _ _ => rfl

theorem writeCmdAckAlarm_keeps : KeepsAddress (writeCmdAckAlarm svc) := by
  intro value d
  unfold writeCmdAckAlarm
  dsimp only
  split
  · rfl
  · rfl

theorem writeCmdResetMetrics_keeps : KeepsAddress (writeCmdResetMetrics svc) := by
  intro value d
  unfold writeCmdResetMetrics
  dsimp only
  split
  · rfl
  · rfl

theorem writeCmdSoftRestart_keeps : KeepsAddress (writeCmdSoftRestart svc) := by
  intro value d
  unfold writeCmdSoftRestart
  dsimp only
  split
  · rfl
  · rfl

theorem applyCmdSetTime_keeps (hi lo : UInt16) (d : Device sigma) :
    (applyCmdSetTime svc hi lo d).2.slaveAddr = d.slaveAddr := by
  unfold applyCmdSetTime
  dsimp only
  split
  · rfl
  · rfl

theorem slot_keeps : forall slot, slot ∈ kSlots svc -> slot.addr ≠ mrmRegModbusSlaveAddr ->
    forall writeFn, slot.writeFn = some writeFn -> KeepsAddress writeFn := by
  unfold kSlots
  simp only [List.forall_mem_cons, readOnly, configSlot, commandSlot, reduceCtorEq,
    Option.some.injEq, forall_eq', false_implies, implies_true, true_and, List.not_mem_nil]
  exact ⟨fun _ => writeParam_keeps svc _, fun _ => writeParam_keeps svc _,
    fun _ => writeParam_keeps svc _, fun _ => writeParam_keeps svc _,
    fun _ => writeParam_keeps svc _, fun _ => writeParam_keeps svc _,
    fun _ => writeParam_keeps svc _, fun _ => writeParam_keeps svc _,
    fun _ => writeParam_keeps svc _, fun _ => writeParam_keeps svc _,
    fun _ _ _ => rfl, fun _ _ _ => rfl, fun h => absurd rfl h,
    fun _ => writeCmdAckAlarm_keeps svc, fun _ => writeCmdResetMetrics_keeps svc,
    fun _ => writeCmdSoftRestart_keeps svc, fun _ _ _ => rfl, fun _ _ _ => rfl, trivial⟩

variable {a addr : UInt16} {count : Nat} {values : List UInt16}

theorem writableSlot_keeps {writeFn : WriteFn sigma} {validateFn : Option (ValidateFn sigma)}
    (h : writableSlot svc addr = some (writeFn, validateFn)) (hother : addr ≠ mrmRegModbusSlaveAddr)
    : KeepsAddress writeFn := by
  unfold writableSlot at h
  cases hslot : findSlot svc addr with
  | none =>
      rw [hslot] at h
      cases h
  | some slot =>
      have hmem : slot ∈ kSlots svc := List.mem_of_find?_eq_some hslot
      have haddr : slot.addr = addr := by
        simpa using List.find?_some hslot
      rw [hslot] at h
      dsimp only at h
      split at h
      · cases hwrite : slot.writeFn with
        | none =>
            rw [hwrite] at h
            cases h
        | some write =>
            rw [hwrite] at h
            cases h
            exact slot_keeps svc slot hmem (by rw [haddr]; exact hother) writeFn hwrite
      · cases h

theorem writeAnswer_state (words : List UInt16) (result : ModbusException × Device sigma) :
    (writeAnswer words result).2 = result.2 := by
  unfold writeAnswer
  cases (bridgeExcToErr result.1).code with
  | none => rfl
  | some code => rfl

/-!
## Single writes
-/

theorem writableSlot_slaveAddr :
    writableSlot svc mrmRegModbusSlaveAddr =
      some (writeModbusSlaveAddrReg svc, some validateSlaveAddr) :=
  rfl

theorem mrmWriteSingleReg_keeps (hother : addr ≠ mrmRegModbusSlaveAddr) (value : UInt16)
    (d : Device sigma) : (mrmWriteSingleReg svc addr value d).2.slaveAddr = d.slaveAddr := by
  unfold mrmWriteSingleReg
  split
  · rfl
  · cases hslot : writableSlot svc addr with
    | none => rfl
    | some slot =>
        dsimp only
        split
        · exact writableSlot_keeps svc hslot hother value d
        · rfl

theorem requireValue_none {cond : Bool} : requireValue cond = .none ↔ cond = true := by
  cases cond with
  | true => exact ⟨fun _ => rfl, fun _ => rfl⟩
  | false => exact ⟨fun h => (by cases h), fun h => (by cases h)⟩

theorem modbusSlaveSetAddress_valid {value : UInt16} {d : Device sigma}
    (h : validateSlaveAddr value d = .none) (d' : Device sigma) :
    (modbusSlaveSetAddress value.toUInt8 d').slaveAddr = value.toUInt8 := by
  have hspan : slaveAddrMin ≤ value ∧ value ≤ slaveAddrMax :=
    of_decide_eq_true (requireValue_none.mp h)
  have hlow : 1 ≤ value.toNat := hspan.1
  have hhigh : value.toNat ≤ 247 := hspan.2
  have hnat : value.toUInt8.toNat = value.toNat := by
    rw [UInt16.toNat_toUInt8]
    omega
  unfold modbusSlaveSetAddress
  rw [if_neg]
  rw [not_or]
  constructor
  · intro hsmall
    have hsmall' : value.toUInt8.toNat < 1 := hsmall
    omega
  · intro hbig
    have hbig' : 247 < value.toUInt8.toNat := hbig
    omega

theorem mrmWriteSingleReg_slaveAddr (value : UInt16) (d : Device sigma) :
    (mrmWriteSingleReg svc mrmRegModbusSlaveAddr value d).2.slaveAddr = d.slaveAddr ↔
      ¬ChangesAddress svc d (.writeSingle mrmRegModbusSlaveAddr value) := by
  have hchange : ChangesAddress svc d (.writeSingle mrmRegModbusSlaveAddr value) ↔
      d.initialised = true ∧ validateSlaveAddr value d = .none ∧
        (svc.setParam (.modbusSlaveAddr value.toUInt8) d.rest).1 = true ∧
        value.toUInt8 ≠ d.slaveAddr := by
    constructor
    · intro h
      rcases h with ⟨v, hv, hrest⟩
      cases hv
      exact hrest
    · intro h
      exact ⟨value, rfl, h⟩
  rw [hchange]
  unfold mrmWriteSingleReg
  cases hinit : d.initialised with
  | false =>
      rw [if_pos (by rfl)]
      exact ⟨fun _ h => (by cases h.1), fun _ => rfl⟩
  | true =>
      rw [if_neg (by simp), writableSlot_slaveAddr]
      change (if validateSlaveAddr value d = ModbusException.none then
        writeModbusSlaveAddrReg svc value d
        else (validateSlaveAddr value d, d)).2.slaveAddr = d.slaveAddr ↔ _
      by_cases hvalid : validateSlaveAddr value d = .none
      · rw [if_pos hvalid]
        unfold writeModbusSlaveAddrReg
        dsimp only
        cases hset : (svc.setParam (.modbusSlaveAddr value.toUInt8) d.rest).1 with
        | false =>
            rw [if_neg Bool.false_ne_true]
            exact ⟨fun _ h => (by cases h.2.2.1), fun _ => rfl⟩
        | true =>
            rw [if_pos rfl, modbusSlaveSetAddress_valid hvalid]
            constructor
            · intro hsame h
              exact h.2.2.2 hsame
            · intro h
              exact Classical.byContradiction (fun hne => h ⟨rfl, hvalid, rfl, hne⟩)
      · rw [if_neg hvalid]
        exact ⟨fun _ h => hvalid h.2.1, fun _ => rfl⟩

/-!
## Block writes
-/

theorem blockAddrs_previous (h : a ∈ blockAddrs addr count) :
    a = addr ∨ a - 1 ∈ blockAddrs addr count := by
  induction count generalizing addr with
  | zero => cases h
  | succ count ih =>
      unfold blockAddrs at h ⊢
      rcases List.mem_cons.mp h with hhead | htail
      · exact Or.inl hhead
      · rcases ih htail with hnext | hprev
        · refine Or.inr (List.mem_cons.mpr (Or.inl ?_))
          rw [hnext, UInt16.add_sub_cancel]
        · exact Or.inr (List.mem_cons_of_mem addr hprev)

theorem blockAddrs_neighbour (h : a ∈ blockAddrs addr count) (hcount : 2 ≤ count) :
    a - 1 ∈ blockAddrs addr count ∨ a + 1 ∈ blockAddrs addr count := by
  rcases blockAddrs_previous h with hfirst | hprev
  · cases count with
    | zero => cases h
    | succ count =>
        cases count with
        | zero => exact absurd hcount (by decide)
        | succ count =>
            right
            rw [hfirst]
            exact List.mem_cons_of_mem addr List.mem_cons_self
  · exact Or.inl hprev

theorem validateAll_writable {d : Device sigma} (h : validateAll svc d addr values = .none) :
    forall a, a ∈ blockAddrs addr values.length -> writableSlot svc a ≠ none := by
  induction values generalizing addr with
  | nil =>
      intro a ha
      cases ha
  | cons value values ih =>
      intro a ha
      unfold validateAll at h
      cases hslot : writableSlot svc addr with
      | none =>
          rw [hslot] at h
          cases h
      | some slot =>
          rw [hslot] at h
          dsimp only at h
          split at h
          · rcases List.mem_cons.mp ha with hhead | htail
            · rw [hhead, hslot]
              exact Option.some_ne_none slot
            · exact ih h a htail
          · rename_i hinvalid
            exact absurd h hinvalid

theorem applyAll_keeps
    (hother : forall a, a ∈ blockAddrs addr values.length -> a ≠ mrmRegModbusSlaveAddr)
    (d : Device sigma) : (applyAll svc addr values d).2.slaveAddr = d.slaveAddr := by
  induction values generalizing addr d with
  | nil => rfl
  | cons value values ih =>
      have hhead := hother addr List.mem_cons_self
      have htail : forall a, a ∈ blockAddrs (addr + 1) values.length ->
          a ≠ mrmRegModbusSlaveAddr :=
        fun a ha => hother a (List.mem_cons_of_mem addr ha)
      unfold applyAll
      cases hslot : writableSlot svc addr with
      | none => rfl
      | some slot =>
          have hkeep : (slot.1 value d).2.slaveAddr = d.slaveAddr :=
            writableSlot_keeps svc hslot hhead value d
          dsimp only
          cases hwrite : slot.1 value d with
          | mk rc d' =>
              rw [hwrite] at hkeep
              cases rc with
              | none => exact (ih htail d').trans hkeep
              | illegalFunction => exact hkeep
              | illegalDataAddr => exact hkeep
              | illegalDataValue => exact hkeep

theorem validateAll_slaveAddr {d : Device sigma}
    (hmem : mrmRegModbusSlaveAddr ∈ blockAddrs addr values.length) (hlen : 2 ≤ values.length) :
    validateAll svc d addr values ≠ .none := by
  intro h
  rcases blockAddrs_neighbour hmem hlen with hbelow | habove
  · exact validateAll_writable svc h _ hbelow rfl
  · exact validateAll_writable svc h _ habove rfl

theorem mrmWriteMultipleRegs_keeps
    (hother : mrmRegModbusSlaveAddr ∉ blockAddrs addr values.length ∨ 2 ≤ values.length)
    (d : Device sigma) : (mrmWriteMultipleRegs svc addr values d).2.slaveAddr = d.slaveAddr := by
  unfold mrmWriteMultipleRegs
  dsimp only
  split
  · rfl
  · split
    · rfl
    · split
      · exact applyCmdSetTime_keeps svc _ _ d
      · split
        · rfl
        · split
          · rename_i hvalid
            apply applyAll_keeps
            intro a ha heq
            rw [heq] at ha
            rcases hother with hout | hlen
            · exact hout ha
            · exact validateAll_slaveAddr svc ha hlen hvalid
          · rfl

theorem validateAll_alone (value : UInt16) (d : Device sigma) :
    validateAll svc d mrmRegModbusSlaveAddr [value] = validateSlaveAddr value d := by
  unfold validateAll
  rw [writableSlot_slaveAddr]
  change (if validateSlaveAddr value d = ModbusException.none then ModbusException.none
    else validateSlaveAddr value d) = _
  split
  · rename_i hvalid
    exact hvalid.symm
  · rfl

theorem applyAll_alone (value : UInt16) (d : Device sigma) :
    applyAll svc mrmRegModbusSlaveAddr [value] d = writeModbusSlaveAddrReg svc value d := by
  unfold applyAll
  rw [writableSlot_slaveAddr]
  dsimp only
  cases writeModbusSlaveAddrReg svc value d with
  | mk rc d' =>
      cases rc with
      | none => rfl
      | illegalFunction => rfl
      | illegalDataAddr => rfl
      | illegalDataValue => rfl

theorem mrmWriteMultipleRegs_slaveAddr (value : UInt16) (d : Device sigma) :
    mrmWriteMultipleRegs svc mrmRegModbusSlaveAddr [value] d =
      mrmWriteSingleReg svc mrmRegModbusSlaveAddr value d := by
  unfold mrmWriteMultipleRegs mrmWriteSingleReg
  cases hinit : d.initialised with
  | false => rfl
  | true =>
      have hblock : ¬((blockAddrs mrmRegModbusSlaveAddr [value].length).any inTimePair = true ∨
          1 < (blockAddrs mrmRegModbusSlaveAddr [value].length).countP inCmdBlock) := by
        change ¬([mrmRegModbusSlaveAddr].any inTimePair = true ∨
          1 < [mrmRegModbusSlaveAddr].countP inCmdBlock)
        decide
      dsimp only
      rw [if_neg (by simp), if_neg (by simp), if_neg (by simp), if_neg hblock,
        validateAll_alone, applyAll_alone]
      rfl

theorem perform_slaveAddr (d : Device sigma) (op : Operation) :
    (perform svc d op).2.slaveAddr = d.slaveAddr ↔ ¬ChangesAddress svc d op := by
  cases op with
  | readInput start count =>
      have hsame : (perform svc d (.readInput start count)).2.slaveAddr = d.slaveAddr := by
        rw [perform_readInput_state]
      exact iff_of_true hsame (not_changesAddress svc rfl)
  | writeSingle reg value =>
      change (writeAnswer [reg, value] (mrmWriteSingleReg svc reg value d)).2.slaveAddr = _ ↔ _
      rw [writeAnswer_state]
      by_cases hreg : reg = mrmRegModbusSlaveAddr
      · rw [hreg]
        exact mrmWriteSingleReg_slaveAddr svc value d
      · exact iff_of_true (mrmWriteSingleReg_keeps svc hreg value d)
          (not_changesAddress svc (if_neg hreg))
  | writeMultiple start values =>
      change (writeAnswer [start, UInt16.ofNat values.length]
        (mrmWriteMultipleRegs svc start values d)).2.slaveAddr = _ ↔ _
      rw [writeAnswer_state]
      cases values with
      | nil =>
          exact iff_of_true
            (mrmWriteMultipleRegs_keeps svc (Or.inl List.not_mem_nil) d)
            (not_changesAddress svc rfl)
      | cons value rest =>
          cases rest with
          | nil =>
              by_cases hreg : start = mrmRegModbusSlaveAddr
              · rw [hreg, mrmWriteMultipleRegs_slaveAddr]
                exact mrmWriteSingleReg_slaveAddr svc value d
              · have hout : mrmRegModbusSlaveAddr ∉ blockAddrs start [value].length := by
                  intro h
                  exact hreg (List.mem_singleton.mp h).symm
                exact iff_of_true (mrmWriteMultipleRegs_keeps svc (Or.inl hout) d)
                  (not_changesAddress svc (if_neg hreg))
          | cons second rest =>
              have hlen : 2 ≤ (value :: second :: rest).length := Nat.le_add_left 2 rest.length
              exact iff_of_true (mrmWriteMultipleRegs_keeps svc (Or.inr hlen) d)
                (not_changesAddress svc rfl)

end EnvMonitor.FieldDevice
