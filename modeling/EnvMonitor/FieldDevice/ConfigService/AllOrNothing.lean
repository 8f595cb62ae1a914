import EnvMonitor.FieldDevice.ConfigService.Sequence

/-!
# Writes of configuration registers

When a write of one or more registers is all or nothing: what a refused write leaves behind, and
what an acknowledged one has stored.
-/

namespace EnvMonitor.FieldDevice.ConfigService

open Modbus

/-- First register and values of a write. -/
def opBlock : Operation -> UInt16 × List UInt16
  | .readInput _ _ => (0, [])
  | .writeSingle reg value => (reg, [value])
  | .writeMultiple start values => (start, values)

def blockWrites : UInt16 -> List UInt16 -> List (UInt16 × UInt16)
  | _, [] => []
  | addr, value :: values => (addr, value) :: blockWrites (addr + 1) values

/-- The registers that the request names, with their values. -/
def regWrites (op : Operation) : List (UInt16 × UInt16) :=
  blockWrites (opBlock op).1 (opBlock op).2

def blockCalls (addr : UInt16) (values : List UInt16) : List Call :=
  (blockWrites addr values).filterMap (fun w => writeCall w.1 w.2)

/-- The calls that a write makes as long as they succeed. -/
def opCalls (op : Operation) : List Call := blockCalls (opBlock op).1 (opBlock op).2

/-- The configuration block of the register map. -/
def InConfigBlock (addr : UInt16) : Prop := 0x0100 ≤ addr ∧ addr < mrmCmdBlockFirst

section Write

variable {rho : Type} (others : Services rho)
  (callback : ConfigParamId -> ConfigParams -> rho -> rho)

/-- The write passes the checks that come before the first register is written; the pair of time
registers is handled before them. -/
def ReachesApply {sigma : Type} (svc : Services sigma) (d : Device sigma) : Operation -> Prop
  | .readInput _ _ => False
  | .writeSingle reg value =>
      d.initialised = true ∧ exists slot, writableSlot svc reg = some slot ∧
        validateWith slot.2 value d = .none
  | .writeMultiple start values =>
      d.initialised = true ∧ ¬(values.length = 0 ∨ mrmMaxRegsPerWrite < values.length) ∧
        ¬(start = mrmRegCmdSetTimeHi ∧ values.length = 2) ∧
        ¬((blockAddrs start values.length).any inTimePair = true ∨
          1 < (blockAddrs start values.length).countP inCmdBlock) ∧
        validateAll svc d start values = .none

structure Unchanged (d d' : Device (Configured rho)) : Prop where
  live : d'.rest.config.params = d.rest.config.params
  stored : d'.rest.config.stored = d.rest.config.stored
  slaveAddr : d'.slaveAddr = d.slaveAddr

/-- The stored configuration has the value in the parameter of the register. -/
def StoredAt (s : Service) (addr value : UInt16) : Prop :=
  exists call p, writeCall addr value = some call ∧
    s.stored = some (.full configSchemaVersion p) ∧ p.get call.1 = call.2

/-- ConfigService took the first value, at least into the live configuration. -/
def PartApplied (d : Device (Configured rho)) (op : Operation) : Prop :=
  ReachesApply (configuredServices others callback) d op ∧
    exists call calls, opCalls op = call :: calls ∧
      validateParamInternal call.1 call.2 d.rest.config.params = true

/-- The values would be accepted one by one in some order. -/
def AcceptableInSomeOrder (p : ConfigParams) (calls : List Call) : Prop :=
  exists order, List.Perm order calls ∧ AcceptedInTurn p order

structure AllOrNothing (d : Device (Configured rho)) (op : Operation) : Prop where
  refused : forall code,
    (perform (configuredServices others callback) d op).1 = .error code ->
    Unchanged d (perform (configuredServices others callback) d op).2
  taken : forall words,
    (perform (configuredServices others callback) d op).1 = .ok words ->
    forall addr value, (addr, value) ∈ regWrites op -> InConfigBlock addr ->
      mrmReadHoldingRegs (configuredServices others callback)
        (perform (configuredServices others callback) d op).2 addr 1 = .ok [value] ∧
      StoredAt (perform (configuredServices others callback) d op).2.rest.config addr value
  unsplit : forall start values code, op = .writeMultiple start values ->
    (perform (configuredServices others callback) d op).1 = .error code ->
    PartApplied others callback d op ->
    ¬AcceptableInSomeOrder d.rest.config.params (opCalls op)

/-- A write that is refused although part of it was applied would not be accepted in any other
order either. -/
def NoOrderAccepts (p : ConfigParams) (op : Operation) : Prop :=
  forall start values, op = .writeMultiple start values ->
    forall call calls, opCalls op = call :: calls ->
      validateParamInternal call.1 call.2 p = true -> ¬AcceptableInSomeOrder p (opCalls op)

/-- A write that gets past the first checks names no register without a parameter, and it goes
through, or fails having rewritten live values only. -/
def WritesWhole (d : Device (Configured rho)) (op : Operation) : Prop :=
  ReachesApply (configuredServices others callback) d op ->
    (forall addr value, (addr, value) ∈ regWrites op -> InConfigBlock addr ->
      registerParam addr ≠ none) ∧
    (Completes d.rest.config.params d.rest.saves (opCalls op) ∨
      (RefusedUnchanged d.rest.config.stored d.rest.config.params d.rest.config.stored
        d.rest.saves (opCalls op) ∧ NoOrderAccepts d.rest.config.params op))

/-!
## Blocks
-/

theorem blockWrites_addrs (addr : UInt16) (values : List UInt16) :
    (blockWrites addr values).map (·.1) = blockAddrs addr values.length := by
  induction values generalizing addr with
  | nil => rfl
  | cons value values ih =>
      change addr :: (blockWrites (addr + 1) values).map (·.1) =
        addr :: blockAddrs (addr + 1) values.length
      rw [ih]

theorem blockCalls_cons (addr value : UInt16) (values : List UInt16) :
    blockCalls addr (value :: values) =
      match writeCall addr value with
      | none => blockCalls (addr + 1) values
      | some call => call :: blockCalls (addr + 1) values := by
  unfold blockCalls
  rw [blockWrites, List.filterMap_cons]
  dsimp only
  cases writeCall addr value with
  | none => rfl
  | some call => rfl

variable {values words : List UInt16} {a addr value : UInt16} {op : Operation} {sigma : Type}
variable {code : UInt8}

theorem mem_blockAddrs (h : (a, value) ∈ blockWrites addr values) :
    a ∈ blockAddrs addr values.length := by
  rw [← blockWrites_addrs]
  exact List.mem_map_of_mem h

theorem mem_opCalls {call : Call} (hmem : (addr, value) ∈ regWrites op)
    (hcall : writeCall addr value = some call) : call ∈ opCalls op :=
  List.mem_filterMap.mpr ⟨(addr, value), hmem, hcall⟩

theorem blockAddrs_ge {count : Nat}
    (hmem : forall b, b ∈ blockAddrs addr count -> b ∈ writableAddrs)
    (h : a ∈ blockAddrs addr count) : addr ≤ a := by
  induction count generalizing addr with
  | zero => cases h
  | succ count ih =>
      rcases List.mem_cons.mp h with heq | hrest
      · rw [heq]
        exact UInt16.le_refl addr
      · have hnext := ih (fun b hb => hmem b (List.mem_cons_of_mem addr hb)) hrest
        exact UInt16.le_trans (UInt16.le_of_lt (lt_next (hmem addr List.mem_cons_self))) hnext

theorem blockCalls_separate
    (hmem : forall b, b ∈ blockAddrs addr values.length -> b ∈ writableAddrs) :
    Separate (blockCalls addr values) := by
  induction values generalizing addr with
  | nil => exact List.nodup_nil
  | cons value values ih =>
      have hrest := ih fun b hb => hmem b (List.mem_cons_of_mem addr hb)
      rw [blockCalls_cons]
      cases hcall : writeCall addr value with
      | none => exact hrest
      | some call =>
          dsimp only
          unfold Separate
          rw [List.map_cons, List.nodup_cons]
          refine ⟨fun hagain => ?_, hrest⟩
          rcases List.mem_map.mp hagain with ⟨other, hother, hid⟩
          rcases List.mem_filterMap.mp hother with ⟨w, hw, hcall'⟩
          have hsame : w.1 = addr := by
            rw [← paramRegister_call hcall', hid, paramRegister_call hcall]
          have hge := blockAddrs_ge (fun b hb => hmem b (List.mem_cons_of_mem addr hb))
            (mem_blockAddrs hw)
          rw [hsame] at hge
          exact absurd (lt_next (hmem addr List.mem_cons_self)) (UInt16.not_lt.mpr hge)

theorem applyAll_calls (hwritable : forall a, a ∈ blockAddrs addr values.length ->
      writableSlot (configuredServices others callback) a ≠ none)
    (hparams : forall a, a ∈ blockAddrs addr values.length -> registerParam a ≠ none)
    (d : Device (Configured rho)) :
    (applyAll (configuredServices others callback) addr values d).1 =
        requireValue (runCalls callback (blockCalls addr values) d.rest).1 ∧
      (applyAll (configuredServices others callback) addr values d).2.rest =
        (runCalls callback (blockCalls addr values) d.rest).2 ∧
      (applyAll (configuredServices others callback) addr values d).2.initialised =
        d.initialised := by
  induction values generalizing addr d with
  | nil => exact ⟨rfl, rfl, rfl⟩
  | cons value values ih =>
      have hrest := fun d => ih (fun a ha => hwritable a (List.mem_cons_of_mem addr ha))
        (fun a ha => hparams a (List.mem_cons_of_mem addr ha)) d
      cases hslot : writableSlot (configuredServices others callback) addr with
      | none => exact absurd hslot (hwritable addr List.mem_cons_self)
      | some slot =>
          cases hparam : registerParam addr with
          | none => exact absurd hparam (hparams addr List.mem_cons_self)
          | some param =>
              have hmakes := writableSlot_makesCall others callback hslot hparam value d
              have hcall : writeCall addr value = some (registerCall (param value)) := by
                unfold writeCall
                rw [hparam]
                rfl
              rw [blockCalls_cons, hcall, applyAll, hslot]
              dsimp only
              cases hwrite : slot.1 value d with
              | mk rc d' =>
                  rw [hwrite] at hmakes
                  rcases hmakes with ⟨hrc, hd, hinit⟩
                  dsimp only at hrc hd hinit
                  cases hset : (setParam callback (registerCall (param value)) d.rest).1 with
                  | true =>
                      rw [runCalls_cons_ok callback hset, ← hd]
                      rw [hset] at hrc
                      subst hrc
                      rcases hrest d' with ⟨h1, h2, h3⟩
                      exact ⟨h1, h2, h3.trans hinit⟩
                  | false =>
                      rw [runCalls_cons_stop callback hset, ← hd]
                      rw [hset] at hrc
                      subst hrc
                      exact ⟨rfl, rfl, hinit⟩

/-- A block of registers without parameters does not touch the configuration, and below the
command block nothing in it can fail. -/
theorem applyAll_plain (hwritable : forall a, a ∈ blockAddrs addr values.length ->
      writableSlot (configuredServices others callback) a ≠ none)
    (hparams : forall a, a ∈ blockAddrs addr values.length -> registerParam a = none)
    (d : Device (Configured rho)) :
    LeavesConfig others d.rest
        (applyAll (configuredServices others callback) addr values d).2.rest ∧
      ((forall a, a ∈ blockAddrs addr values.length -> a < mrmCmdBlockFirst) ->
        (applyAll (configuredServices others callback) addr values d).1 = .none) := by
  induction values generalizing addr d with
  | nil => exact ⟨.refl others d.rest, fun _ => rfl⟩
  | cons value values ih =>
      have hrest := fun d => ih (fun a ha => hwritable a (List.mem_cons_of_mem addr ha))
        (fun a ha => hparams a (List.mem_cons_of_mem addr ha)) d
      cases hslot : writableSlot (configuredServices others callback) addr with
      | none => exact absurd hslot (hwritable addr List.mem_cons_self)
      | some slot =>
          have hkeeps := writableSlot_keepsConfig others callback hslot
            (hparams addr List.mem_cons_self)
          have hconfig := hkeeps.1 value d
          rw [applyAll, hslot]
          dsimp only
          cases hwrite : slot.1 value d with
          | mk rc d' =>
              rw [hwrite] at hconfig
              dsimp only at hconfig
              cases rc with
              | none =>
                  rcases hrest d' with ⟨h1, h2⟩
                  exact ⟨hconfig.trans others h1,
                    fun hlow => h2 fun a ha => hlow a (List.mem_cons_of_mem addr ha)⟩
              | illegalFunction =>
                  refine ⟨hconfig, fun hlow => ?_⟩
                  have hnone := hkeeps.2 (hlow addr List.mem_cons_self) value d
                  rw [hwrite] at hnone
                  exact hnone
              | illegalDataAddr =>
                  refine ⟨hconfig, fun hlow => ?_⟩
                  have hnone := hkeeps.2 (hlow addr List.mem_cons_self) value d
                  rw [hwrite] at hnone
                  exact hnone
              | illegalDataValue =>
                  refine ⟨hconfig, fun hlow => ?_⟩
                  have hnone := hkeeps.2 (hlow addr List.mem_cons_self) value d
                  rw [hwrite] at hnone
                  exact hnone

/-!
## Requests
-/

theorem writeAnswer_ok {answer : List UInt16} {result : ModbusException × Device sigma}
    (h : (writeAnswer words result).1 = .ok answer) : result.1 = .none := by
  unfold writeAnswer at h
  cases hrc : result.1 with
  | none => rfl
  | illegalFunction =>
      rw [hrc] at h
      cases h
  | illegalDataAddr =>
      rw [hrc] at h
      cases h
  | illegalDataValue =>
      rw [hrc] at h
      cases h

theorem writeAnswer_error {result : ModbusException × Device sigma}
    (h : (writeAnswer words result).1 = .error code) : result.1 ≠ .none := by
  intro hrc
  unfold writeAnswer at h
  rw [hrc] at h
  cases h

theorem writeAnswer_cases (words : List UInt16) (result : ModbusException × Device sigma) :
    (result.1 = .none ∧ exists answer, (writeAnswer words result).1 = .ok answer) ∨
      (result.1 ≠ .none ∧ exists code, (writeAnswer words result).1 = .error code) := by
  cases h : (writeAnswer words result).1 with
  | ok answer => exact Or.inl ⟨writeAnswer_ok h, answer, rfl⟩
  | error code => exact Or.inr ⟨writeAnswer_error h, code, rfl⟩

theorem applyAll_single {svc : Services sigma} {slot : WriteFn sigma × Option (ValidateFn sigma)}
    (h : writableSlot svc addr = some slot) (d : Device sigma) :
    applyAll svc addr [value] d = slot.1 value d := by
  rw [applyAll, h]
  dsimp only
  cases slot.1 value d with
  | mk rc d' => cases rc <;> rfl

theorem perform_reaches {svc : Services sigma} {d : Device sigma} (h : ReachesApply svc d op) :
    exists words, perform svc d op =
      writeAnswer words (applyAll svc (opBlock op).1 (opBlock op).2 d) := by
  cases op with
  | readInput start count => exact h.elim
  | writeSingle reg value =>
      rcases h with ⟨hinit, slot, hslot, hvalid⟩
      have hwrite : mrmWriteSingleReg svc reg value d = slot.1 value d := by
        unfold mrmWriteSingleReg
        rw [hinit, if_neg (by decide), hslot]
        exact if_pos hvalid
      refine ⟨[reg, value], ?_⟩
      change writeAnswer [reg, value] (mrmWriteSingleReg svc reg value d) =
        writeAnswer [reg, value] (applyAll svc reg [value] d)
      rw [hwrite, applyAll_single hslot]
  | writeMultiple start values =>
      rcases h with ⟨hinit, hcount, htime, hblock, hvalid⟩
      have hwrite : mrmWriteMultipleRegs svc start values d = applyAll svc start values d := by
        unfold mrmWriteMultipleRegs
        dsimp only
        rw [hinit, if_neg (by decide), if_neg hcount, if_neg htime, if_neg hblock, if_pos hvalid]
      refine ⟨[start, UInt16.ofNat values.length], ?_⟩
      change writeAnswer _ (mrmWriteMultipleRegs svc start values d) = _
      rw [hwrite]
      rfl

theorem validateAll_each {svc : Services sigma} {d : Device sigma}
    (h : validateAll svc d addr values = .none) (hmem : (a, value) ∈ blockWrites addr values) :
    exists slot, writableSlot svc a = some slot ∧ validateWith slot.2 value d = .none := by
  induction values generalizing addr with
  | nil => cases hmem
  | cons v values ih =>
      unfold validateAll at h
      cases hslot : writableSlot svc addr with
      | none =>
          rw [hslot] at h
          cases h
      | some slot =>
          rw [hslot] at h
          dsimp only at h
          split at h
          · rename_i hvalid
            rcases List.mem_cons.mp hmem with heq | hrest
            · cases heq
              exact ⟨slot, hslot, hvalid⟩
            · exact ih h hrest
          · rename_i hvalid
            exact absurd h hvalid

theorem reaches_each {svc : Services sigma} {d : Device sigma} (h : ReachesApply svc d op)
    (hmem : (a, value) ∈ regWrites op) :
    exists slot, writableSlot svc a = some slot ∧ validateWith slot.2 value d = .none := by
  cases op with
  | readInput start count => exact h.elim
  | writeSingle reg v =>
      have heq : (a, value) = (reg, v) := List.mem_singleton.mp hmem
      cases heq
      exact h.2
  | writeMultiple start values => exact validateAll_each h.2.2.2.2 hmem

theorem reaches_writable {svc : Services sigma} {d : Device sigma} (h : ReachesApply svc d op) :
    forall a, a ∈ blockAddrs (opBlock op).1 (opBlock op).2.length -> writableSlot svc a ≠ none := by
  intro a ha
  rw [← blockWrites_addrs] at ha
  rcases List.mem_map.mp ha with ⟨w, hw, heq⟩
  rcases reaches_each h hw with ⟨slot, hslot, _⟩
  rw [← heq, hslot]
  exact Option.some_ne_none slot

/-- A request that is not applied register by register leaves the configuration alone, and if it
is acknowledged it names no configuration register. -/
theorem perform_notReached {d : Device (Configured rho)}
    (h : ¬ReachesApply (configuredServices others callback) d op) :
    (LeavesConfig others d.rest (perform (configuredServices others callback) d op).2.rest ∧
        (perform (configuredServices others callback) d op).2.slaveAddr = d.slaveAddr) ∧
      forall words, (perform (configuredServices others callback) d op).1 = .ok words ->
        forall addr value, (addr, value) ∈ regWrites op -> ¬InConfigBlock addr := by
  have hsame : LeavesConfig others d.rest d.rest ∧ d.slaveAddr = d.slaveAddr :=
    ⟨.refl others d.rest, rfl⟩
  cases op with
  | readInput start count =>
      rw [perform_readInput_state]
      exact ⟨hsame, fun words _ addr value hmem => nomatch hmem⟩
  | writeSingle reg value =>
      have hrefused : exists rc, rc ≠ ModbusException.none ∧
          mrmWriteSingleReg (configuredServices others callback) reg value d = (rc, d) := by
        unfold mrmWriteSingleReg
        cases hinit : d.initialised with
        | false => exact ⟨.illegalDataValue, by decide, rfl⟩
        | true =>
            rw [if_neg (by decide)]
            cases hslot : writableSlot (configuredServices others callback) reg with
            | none => exact ⟨.illegalDataAddr, by decide, rfl⟩
            | some slot =>
                have hvalid : ¬validateWith slot.2 value d = .none :=
                  fun hvalid => h ⟨hinit, slot, hslot, hvalid⟩
                exact ⟨_, hvalid, if_neg hvalid⟩
      rcases hrefused with ⟨rc, hrc, hwrite⟩
      change (LeavesConfig others d.rest
            (writeAnswer _ (mrmWriteSingleReg _ reg value d)).2.rest ∧
          (writeAnswer _ (mrmWriteSingleReg _ reg value d)).2.slaveAddr = d.slaveAddr) ∧
        forall words, (writeAnswer _ (mrmWriteSingleReg _ reg value d)).1 = .ok words -> _
      rw [writeAnswer_state, hwrite]
      exact ⟨hsame, fun words hok => absurd (writeAnswer_ok hok) hrc⟩
  | writeMultiple start values =>
      change (LeavesConfig others d.rest
            (writeAnswer _ (mrmWriteMultipleRegs _ start values d)).2.rest ∧
          (writeAnswer _ (mrmWriteMultipleRegs _ start values d)).2.slaveAddr = d.slaveAddr) ∧
        forall words, (writeAnswer _ (mrmWriteMultipleRegs _ start values d)).1 = .ok words -> _
      rw [writeAnswer_state]
      have hrefused : forall rc, rc ≠ ModbusException.none ->
          mrmWriteMultipleRegs (configuredServices others callback) start values d = (rc, d) ->
          (LeavesConfig others d.rest
              (mrmWriteMultipleRegs (configuredServices others callback) start values d).2.rest ∧
            (mrmWriteMultipleRegs (configuredServices others callback) start values d).2.slaveAddr =
              d.slaveAddr) ∧
            forall words, (writeAnswer [start, UInt16.ofNat values.length]
                (mrmWriteMultipleRegs (configuredServices others callback) start values d)).1 =
                  .ok words ->
              forall addr value, (addr, value) ∈ regWrites (.writeMultiple start values) ->
                ¬InConfigBlock addr := by
        intro rc hrc hwrite
        rw [hwrite]
        exact ⟨hsame, fun words hok => absurd (writeAnswer_ok hok) hrc⟩
      cases hinit : d.initialised with
      | false =>
          exact hrefused .illegalDataValue (by decide)
            (by unfold mrmWriteMultipleRegs; rw [hinit]; rfl)
      | true =>
          by_cases hcount : values.length = 0 ∨ mrmMaxRegsPerWrite < values.length
          · exact hrefused .illegalDataValue (by decide)
              (by unfold mrmWriteMultipleRegs; rw [hinit, if_neg (by decide), if_pos hcount])
          · by_cases htime : start = mrmRegCmdSetTimeHi ∧ values.length = 2
            · have hwrite : mrmWriteMultipleRegs (configuredServices others callback) start values d =
                  applyCmdSetTime (configuredServices others callback) (values.getD 0 0)
                    (values.getD 1 0) d := by
                unfold mrmWriteMultipleRegs
                rw [hinit, if_neg (by decide), if_neg hcount, if_pos htime]
              rw [hwrite]
              have hconfig := applyCmdSetTime_keepsConfig others callback (values.getD 0 0)
                (values.getD 1 0) d
              refine ⟨⟨hconfig, applyCmdSetTime_keeps _ _ _ d⟩, ?_⟩
              intro words _ addr value hmem hblock
              have haddr := mem_blockAddrs hmem
              have hpair : addr ∈ blockAddrs mrmRegCmdSetTimeHi 2 := by
                rw [← htime.1, ← htime.2]
                exact haddr
              have hall : (blockAddrs mrmRegCmdSetTimeHi 2).all
                  (fun a => decide (¬a < mrmCmdBlockFirst)) = true := by decide
              exact of_decide_eq_true (List.all_eq_true.mp hall addr hpair) hblock.2
            · by_cases hblock : (blockAddrs start values.length).any inTimePair = true ∨
                  1 < (blockAddrs start values.length).countP inCmdBlock
              · exact hrefused .illegalDataValue (by decide)
                  (by
                    unfold mrmWriteMultipleRegs
                    dsimp only
                    rw [hinit, if_neg (by decide), if_neg hcount, if_neg htime, if_pos hblock])
              · have hvalid : ¬validateAll (configuredServices others callback) d start values =
                    .none := fun hvalid => h ⟨hinit, hcount, htime, hblock, hvalid⟩
                exact hrefused _ hvalid
                  (by
                    unfold mrmWriteMultipleRegs
                    dsimp only
                    rw [hinit, if_neg (by decide), if_neg hcount, if_neg htime, if_neg hblock,
                      if_neg hvalid])

theorem slaveAddr_acknowledged {svc : Services sigma} {d : Device sigma}
    (hinit : d.initialised = true) (hvalid : validateSlaveAddr value d = .none)
    (hset : (svc.setParam (.modbusSlaveAddr value.toUInt8) d.rest).1 = true) :
    (mrmWriteSingleReg svc mrmRegModbusSlaveAddr value d).1 = .none := by
  unfold mrmWriteSingleReg
  rw [hinit, if_neg (by decide), writableSlot_slaveAddr]
  change (if validateSlaveAddr value d = ModbusException.none then
    writeModbusSlaveAddrReg svc value d else (validateSlaveAddr value d, d)).1 = _
  rw [if_pos hvalid]
  unfold writeModbusSlaveAddrReg
  dsimp only
  rw [hset, if_pos rfl]

theorem perform_error_slaveAddr {svc : Services sigma} {d : Device sigma}
    (h : (perform svc d op).1 = .error code) : (perform svc d op).2.slaveAddr = d.slaveAddr := by
  rw [perform_slaveAddr]
  intro hchange
  rcases hchange with ⟨value, haddr, hinit, hvalid, hset, _⟩
  have htaken := slaveAddr_acknowledged hinit hvalid hset
  cases op with
  | readInput start count => cases haddr
  | writeSingle reg v =>
      change (if reg = mrmRegModbusSlaveAddr then some v else none) = some value at haddr
      split at haddr
      · rename_i hreg
        cases haddr
        rw [hreg] at h
        exact absurd htaken (writeAnswer_error h)
      · cases haddr
  | writeMultiple start values =>
      unfold addressWrite at haddr
      split at haddr
      · rename_i heq
        cases heq
      · rename_i heq
        cases heq
        split at haddr
        · rename_i hreg
          cases haddr
          rw [hreg] at h
          change (writeAnswer _ (mrmWriteMultipleRegs svc mrmRegModbusSlaveAddr [value] d)).1 = _ at h
          rw [mrmWriteMultipleRegs_slaveAddr] at h
          exact absurd htaken (writeAnswer_error h)
        · cases haddr
      · cases haddr

theorem opCalls_nil (hparams : forall a, a ∈ blockAddrs (opBlock op).1 (opBlock op).2.length ->
      registerParam a = none) : opCalls op = [] := by
  apply List.filterMap_eq_nil_iff.mpr
  intro w hw
  unfold writeCall
  rw [hparams w.1 (mem_blockAddrs hw)]
  rfl

theorem reaches_initialised {svc : Services sigma} {d : Device sigma} (h : ReachesApply svc d op) :
    d.initialised = true := by
  cases op with
  | readInput start count => exact h.elim
  | writeSingle reg value => exact h.1
  | writeMultiple start values => exact h.1

theorem plain_allOrNothing_iff {d : Device (Configured rho)}
    (hreach : ReachesApply (configuredServices others callback) d op)
    (hparams : forall a, a ∈ blockAddrs (opBlock op).1 (opBlock op).2.length ->
      registerParam a = none) :
    AllOrNothing others callback d op ↔ WritesWhole others callback d op := by
  have hwritable := reaches_writable hreach
  have hcalls := opCalls_nil hparams
  have hplain := applyAll_plain others callback hwritable hparams d
  rcases perform_reaches hreach with ⟨words, hperform⟩
  constructor
  · intro hall _
    refine ⟨fun addr value hmem hblock _ => ?_, Or.inl ?_⟩
    · have hlow : forall a, a ∈ blockAddrs (opBlock op).1 (opBlock op).2.length ->
          a < mrmCmdBlockFirst := by
        have huniform := fun a => @block_uniform (opBlock op).1 (fun a => a < mrmCmdBlockFirst)
          cmdBlock_next (opBlock op).2.length (fun b hb => mem_writableAddrs (hwritable b hb)) a
        intro a ha
        exact (huniform a ha).mpr ((huniform addr (mem_blockAddrs hmem)).mp hblock.2)
      -- nothing in the block fails, so it is acknowledged, though no parameter is stored
      rcases writeAnswer_cases words
        (applyAll (configuredServices others callback) (opBlock op).1 (opBlock op).2 d) with
        hok | herr
      · rcases hok.2 with ⟨answer, hanswer⟩
        rw [← hperform] at hanswer
        rcases (hall.taken answer hanswer addr value hmem hblock).2 with ⟨call, p, hcall, _⟩
        have hmemcall := mem_opCalls hmem hcall
        rw [hcalls] at hmemcall
        cases hmemcall
      · exact herr.1 (hplain.2 hlow)
    · rw [hcalls]
      exact ⟨trivial, fun i hi => absurd hi (Nat.not_lt_zero i)⟩
  · intro hwhole
    have hstate : (perform (configuredServices others callback) d op).2.rest.config =
        d.rest.config := by
      rw [hperform, writeAnswer_state]
      exact hplain.1.config
    exact
      { refused := fun code herror =>
          ⟨by rw [hstate], by rw [hstate], perform_error_slaveAddr herror⟩
        taken := fun _ _ addr value hmem hblock =>
          absurd (hparams addr (mem_blockAddrs hmem)) ((hwhole hreach).1 addr value hmem hblock)
        unsplit := by
          intro start values code _ _ hpart
          rcases hpart.2 with ⟨call, calls, hcons, _⟩
          rw [hcalls] at hcons
          cases hcons }

theorem params_allOrNothing_iff {d : Device (Configured rho)}
    (hreach : ReachesApply (configuredServices others callback) d op)
    (hparams : forall a, a ∈ blockAddrs (opBlock op).1 (opBlock op).2.length ->
      registerParam a ≠ none) :
    AllOrNothing others callback d op ↔ WritesWhole others callback d op := by
  have hwritable := reaches_writable hreach
  have hseparate : Separate (opCalls op) :=
    blockCalls_separate fun b hb => mem_writableAddrs (hwritable b hb)
  rcases applyAll_calls others callback hwritable hparams d with ⟨hrc, hrest, hinit⟩
  rcases perform_reaches hreach with ⟨words, hperform⟩
  have hstate : (perform (configuredServices others callback) d op).2.rest =
      (runCalls callback (opCalls op) d.rest).2 := by
    rw [hperform, writeAnswer_state]
    exact hrest
  have hinit' : (perform (configuredServices others callback) d op).2.initialised = true := by
    rw [hperform, writeAnswer_state, hinit]
    exact reaches_initialised hreach
  have hok : forall answer, (perform (configuredServices others callback) d op).1 = .ok answer ->
      (runCalls callback (opCalls op) d.rest).1 = true := by
    intro answer hanswer
    rw [hperform] at hanswer
    have hnone := writeAnswer_ok hanswer
    rw [hrc] at hnone
    exact requireValue_none.mp hnone
  have herr : forall code, (perform (configuredServices others callback) d op).1 = .error code ->
      (runCalls callback (opCalls op) d.rest).1 = false := by
    intro code hanswer
    rw [hperform] at hanswer
    have hsome := writeAnswer_error hanswer
    rw [hrc] at hsome
    exact Bool.eq_false_iff.mpr fun htrue => hsome (requireValue_none.mpr htrue)
  constructor
  · intro hall _
    refine ⟨fun addr value hmem _ => hparams addr (mem_blockAddrs hmem), ?_⟩
    cases hrun : (runCalls callback (opCalls op) d.rest).1 with
    | true => exact Or.inl ((runCalls_ok_iff callback (opCalls op) d.rest).mp hrun)
    | false =>
        have hfails : exists code,
            (perform (configuredServices others callback) d op).1 = .error code := by
          rw [hperform]
          rcases writeAnswer_cases words
            (applyAll (configuredServices others callback) (opBlock op).1 (opBlock op).2 d) with
            htaken | hrefused
          · have hnone := htaken.1
            rw [hrc, requireValue_none] at hnone
            have hboth := hnone.symm.trans hrun
            cases hboth
          · exact hrefused.2
        rcases hfails with ⟨code, hcode⟩
        have hsame := hall.refused code hcode
        right
        constructor
        · apply (runCalls_unchanged_iff callback hseparate d.rest.config.stored d.rest).mp
          rw [← hstate]
          exact ⟨hrun, hsame.live, hsame.stored⟩
        · intro start values hop call calls hcons hvalid
          exact hall.unsplit start values code hop hcode ⟨hreach, call, calls, hcons, hvalid⟩
  · intro hwhole
    have hends := (hwhole hreach).2
    have hfailed : forall code,
        (perform (configuredServices others callback) d op).1 = .error code ->
        RefusedUnchanged d.rest.config.stored d.rest.config.params d.rest.config.stored
          d.rest.saves (opCalls op) ∧ NoOrderAccepts d.rest.config.params op := by
      intro code hcode
      rcases hends with hcompletes | hrefused
      · have htrue := (runCalls_ok_iff callback (opCalls op) d.rest).mpr hcompletes
        rw [herr code hcode] at htrue
        cases htrue
      · exact hrefused
    exact
      { refused := by
          intro code hcode
          have hsame := (runCalls_unchanged_iff callback hseparate d.rest.config.stored
            d.rest).mpr (hfailed code hcode).1
          rw [← hstate] at hsame
          exact ⟨hsame.2.1, hsame.2.2, perform_error_slaveAddr hcode⟩
        taken := by
          intro answer hanswer addr value hmem _
          cases hcall : writeCall addr value with
          | none =>
              exact absurd (Option.map_eq_none_iff.mp hcall) (hparams addr (mem_blockAddrs hmem))
          | some call =>
              have hmemcall := mem_opCalls hmem hcall
              have hcompleted := runCalls_completed callback hseparate (hok answer hanswer)
                (List.ne_nil_of_mem hmemcall)
              rw [← hstate] at hcompleted
              have hlive := hcompleted.1 call hmemcall
              rcases reaches_each hreach hmem with ⟨slot, hslot, hvalid⟩
              exact ⟨mrmReadHoldingRegs_param others callback hslot hvalid hcall hinit' hlive,
                call, _, hcall, hcompleted.2, hlive⟩
        unsplit := by
          intro start values code hop hcode hpart
          rcases hpart.2 with ⟨call, calls, hcons, hvalid⟩
          exact (hfailed code hcode).2 start values hop call calls hcons hvalid }

/-- A request is all or nothing exactly when a write that gets past the first checks goes through
with every save, or stops before it has changed anything. -/
theorem all_or_nothing_iff (d : Device (Configured rho)) (op : Operation) :
    AllOrNothing others callback d op ↔ WritesWhole others callback d op := by
  by_cases hreach : ReachesApply (configuredServices others callback) d op
  · have huniform := fun a => @block_uniform (opBlock op).1 (fun a => registerParam a = none)
      registerParam_next (opBlock op).2.length
      (fun b hb => mem_writableAddrs (reaches_writable hreach b hb)) a
    by_cases hfirst : registerParam (opBlock op).1 = none
    · exact plain_allOrNothing_iff others callback hreach fun a ha => (huniform a ha).mpr hfirst
    · exact params_allOrNothing_iff others callback hreach fun a ha hnone =>
        hfirst ((huniform a ha).mp hnone)
  · have hrefused := perform_notReached others callback hreach
    constructor
    · intro _ h
      exact absurd h hreach
    · intro _
      exact
        { refused := fun _ _ =>
            ⟨by rw [hrefused.1.1.config], by rw [hrefused.1.1.config], hrefused.1.2⟩
          taken := fun answer hanswer addr value hmem hblock =>
            absurd hblock (hrefused.2 answer hanswer addr value hmem)
          unsplit := fun _ _ _ _ _ hpart => absurd hpart.1 hreach }

/-- What a request does to ConfigService and the rest: the calls it makes, or steps of the rest
only. -/
theorem perform_rest (d : Device (Configured rho)) (op : Operation) :
    LeavesConfig others d.rest (perform (configuredServices others callback) d op).2.rest ∨
      (perform (configuredServices others callback) d op).2.rest =
        (runCalls callback (opCalls op) d.rest).2 := by
  by_cases hreach : ReachesApply (configuredServices others callback) d op
  · rcases perform_reaches hreach with ⟨words, hperform⟩
    have hwritable := reaches_writable hreach
    have huniform := fun a => @block_uniform (opBlock op).1 (fun a => registerParam a = none)
      registerParam_next (opBlock op).2.length (fun b hb => mem_writableAddrs (hwritable b hb)) a
    rw [hperform, writeAnswer_state]
    by_cases hfirst : registerParam (opBlock op).1 = none
    · exact Or.inl (applyAll_plain others callback hwritable
        (fun a ha => (huniform a ha).mpr hfirst) d).1
    · exact Or.inr (applyAll_calls others callback hwritable
        (fun a ha hnone => hfirst ((huniform a ha).mp hnone)) d).2.1
  · exact Or.inl (perform_notReached others callback hreach).1.1

end Write

/-!
## A refused block that was half applied
-/

/-- Nothing but the register map and ConfigService. -/
def quietServices : Services Unit where
  version := ⟨1, 0, 0⟩
  sensorSnapshot _ := none
  alarmStates _ _ := .clear
  params _ := applyDefaults.registers
  healthSnapshot _ := ⟨0, 0, 0⟩
  setParam _ _ := (true, ())
  ackAll _ := ()
  handleRemoteCommand _ _ := ()
  setTime _ _ := (true, ())

def defaultDevice : Device (Configured Unit) where
  slaveAddr := 1
  rxBuf := []
  initialised := true
  cmdAckAlarmLast := 0
  cmdResetMetricsLast := 0
  cmdSoftRestartLast := 0
  cmdSetTimeHiLast := 0
  cmdSetTimeLoLast := 0
  lastStatsSnapshot := ⟨0, 0⟩
  rest := ⟨configServiceInit none, [], ()⟩

/-- A lower and an upper temperature limit closer than the hysteresis: the block is refused, and
the lower limit stays changed. -/
theorem refused_block_half_applied :
    ¬forall (d : Device (Configured Unit)) (op : Operation),
      AllOrNothing quietServices (fun _ _ rest => rest) d op := by
  intro hclaim
  have hall := hclaim defaultDevice (.writeMultiple 0x0100 [3000, 3050])
  have hcode : (perform (configuredServices quietServices (fun _ _ rest => rest)) defaultDevice
      (.writeMultiple 0x0100 [3000, 3050])).1 = .error modbusExcIllegalValue := by
    decide +kernel
  have hlive := (hall.refused modbusExcIllegalValue hcode).live
  have hnum := congrArg (fun p => ConfigParams.num p (.channel .temperature .alarmLow)) hlive
  revert hnum
  decide +kernel

end EnvMonitor.FieldDevice.ConfigService
