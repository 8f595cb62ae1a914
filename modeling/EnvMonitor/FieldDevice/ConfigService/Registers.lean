import EnvMonitor.FieldDevice.AddressChange
import EnvMonitor.FieldDevice.ConfigService.Service

/-!
# ConfigService behind the register map

The services of the register map where the parameters are those of ConfigService, and what a
write of each configuration register hands to `config_service_set_param`.
-/

namespace EnvMonitor.FieldDevice.ConfigService

/-- One call of `config_service_set_param`. -/
abbrev Call : Type := (id : ConfigParamId) × id.Value

/-- The parameters that have a register. -/
def ConfigParams.registers (p : ConfigParams) : FieldDevice.ConfigParams where
  tempAlarmLow := p.get (.channel .temperature .alarmLow)
  tempAlarmHigh := p.get (.channel .temperature .alarmHigh)
  tempHysteresis := p.get (.channel .temperature .hysteresis)
  humidityAlarmLow := p.get (.channel .humidity .alarmLow)
  humidityAlarmHigh := p.get (.channel .humidity .alarmHigh)
  humidityHysteresis := p.get (.channel .humidity .hysteresis)
  pressureAlarmLow := p.get (.channel .pressure .alarmLow)
  pressureAlarmHigh := p.get (.channel .pressure .alarmHigh)
  pressureHysteresis := p.get (.channel .pressure .hysteresis)
  pollingIntervalMs := p.get .pollInterval
  modbusSlaveAddr := p.get .modbusSlaveAddr

def registerCall : ConfigParam -> Call
  | .tempAlarmLow value => ⟨.channel .temperature .alarmLow, value⟩
  | .tempAlarmHigh value => ⟨.channel .temperature .alarmHigh, value⟩
  | .tempHysteresis value => ⟨.channel .temperature .hysteresis, value⟩
  | .humidityAlarmLow value => ⟨.channel .humidity .alarmLow, value⟩
  | .humidityAlarmHigh value => ⟨.channel .humidity .alarmHigh, value⟩
  | .humidityHysteresis value => ⟨.channel .humidity .hysteresis, value⟩
  | .pressureAlarmLow value => ⟨.channel .pressure .alarmLow, value⟩
  | .pressureAlarmHigh value => ⟨.channel .pressure .alarmHigh, value⟩
  | .pressureHysteresis value => ⟨.channel .pressure .hysteresis, value⟩
  | .pollInterval value => ⟨.pollInterval, value⟩
  | .modbusSlaveAddr value => ⟨.modbusSlaveAddr, value⟩

/-- ConfigService beside the rest of the device; `saves` is how the coming saves end, and those
after them succeed. -/
structure Configured (rho : Type) where
  config : Service
  saves : List SaveOutcome
  others : rho

section Services

variable {rho : Type} (others : Services rho)
  (callback : ConfigParamId -> ConfigParams -> rho -> rho)

/-- `config_service_set_param` with its callbacks: `true` for `CONFIG_SERVICE_OK`. -/
def setParam (call : Call) (c : Configured rho) : Bool × Configured rho :=
  match configServiceSetParam (c.saves.headD .saved) call.1 call.2 c.config with
  | (.ok, config) => (true, ⟨config, c.saves.tail, callback call.1 config.params c.others⟩)
  | (.persist, config) => (false, ⟨config, c.saves.tail, c.others⟩)
  | (.invalid, config) => (false, ⟨config, c.saves, c.others⟩)

def configuredServices : Services (Configured rho) where
  version := others.version
  sensorSnapshot c := others.sensorSnapshot c.others
  alarmStates c := others.alarmStates c.others
  params c := c.config.params.registers
  healthSnapshot c := others.healthSnapshot c.others
  setParam param c := setParam callback (registerCall param) c
  ackAll c := { c with others := others.ackAll c.others }
  handleRemoteCommand cmd c := { c with others := others.handleRemoteCommand cmd c.others }
  setTime epoch c :=
    let (ok, rest) := others.setTime epoch c.others
    (ok, { c with others := rest })

variable {call : Call}

theorem setParam_rejected {c : Configured rho}
    (h : ¬validateParamInternal call.1 call.2 c.config.params = true) :
    setParam callback call c = (false, c) := by
  unfold setParam
  rw [configServiceSetParam_rejected h]

theorem setParam_saved {c : Configured rho}
    (h : validateParamInternal call.1 call.2 c.config.params = true)
    (hsave : c.saves.headD .saved = .saved) :
    (setParam callback call c).1 = true ∧
      (setParam callback call c).2.config.params =
        applyParamToStruct c.config.params call.1 call.2 ∧
      (setParam callback call c).2.config.stored =
        some (.full configSchemaVersion (applyParamToStruct c.config.params call.1 call.2)) ∧
      (setParam callback call c).2.saves = c.saves.tail := by
  unfold setParam
  rw [configServiceSetParam_accepted h, hsave]
  exact ⟨rfl, rfl, rfl, rfl⟩

theorem setParam_failed {c : Configured rho} {left : Option ConfigBlob}
    (h : validateParamInternal call.1 call.2 c.config.params = true)
    (hsave : c.saves.headD .saved = .failed left) :
    (setParam callback call c).1 = false ∧
      (setParam callback call c).2.config.params =
        applyParamToStruct c.config.params call.1 call.2 ∧
      (setParam callback call c).2.config.stored = left := by
  unfold setParam
  rw [configServiceSetParam_accepted h, hsave]
  exact ⟨rfl, rfl, rfl⟩

end Services

/-!
## Configuration registers
-/

/-- The registers behind `config_service_set_param`, with the parameter each writes. -/
def configRegisters : List (UInt16 × (UInt16 -> ConfigParam)) := [
  (0x0100, fun value => .tempAlarmLow value.toInt16),
  (0x0101, fun value => .tempAlarmHigh value.toInt16),
  (0x0102, fun value => .tempHysteresis value.toInt16),
  (0x0110, .humidityAlarmLow),
  (0x0111, .humidityAlarmHigh),
  (0x0112, .humidityHysteresis),
  (0x0120, .pressureAlarmLow),
  (0x0121, .pressureAlarmHigh),
  (0x0122, .pressureHysteresis),
  (0x0130, fun value => .pollInterval value.toUInt32),
  (mrmRegModbusSlaveAddr, fun value => .modbusSlaveAddr value.toUInt8)]

def registerParam (addr : UInt16) : Option (UInt16 -> ConfigParam) :=
  (configRegisters.find? (fun row => row.1 = addr)).map (·.2)

/-- The call that a write of the register makes, if it makes one. -/
def writeCall (addr value : UInt16) : Option Call :=
  (registerParam addr).map (fun param => registerCall (param value))

variable {addr : UInt16}

theorem registerParam_mem {param : UInt16 -> ConfigParam} (h : registerParam addr = some param) :
    (addr, param) ∈ configRegisters := by
  rcases Option.map_eq_some_iff.mp h with ⟨row, hrow, hparam⟩
  have hmem := List.mem_of_find?_eq_some hrow
  have haddr : row.1 = addr := by
    simpa using List.find?_some hrow
  rw [← haddr, ← hparam]
  exact hmem

/-!
## Handlers
-/

section Handlers

variable {rho : Type} (others : Services rho)
  (callback : ConfigParamId -> ConfigParams -> rho -> rho)

/-- The handler makes the call and answers by its result. -/
def MakesCall (writeFn : WriteFn (Configured rho)) (param : UInt16 -> ConfigParam) : Prop :=
  forall value d,
    (writeFn value d).1 = requireValue (setParam callback (registerCall (param value)) d.rest).1 ∧
      (writeFn value d).2.rest = (setParam callback (registerCall (param value)) d.rest).2 ∧
      (writeFn value d).2.initialised = d.initialised

/-- What commands do to the rest of the device. -/
inductive OthersSteps : rho -> rho -> Prop
  | refl (r : rho) : OthersSteps r r
  | ackAll {r r' : rho} (h : OthersSteps r r') : OthersSteps r (others.ackAll r')
  | remote (cmd : RemoteCommand) {r r' : rho} (h : OthersSteps r r') :
      OthersSteps r (others.handleRemoteCommand cmd r')
  | setTime (epoch : UInt32) {r r' : rho} (h : OthersSteps r r') :
      OthersSteps r (others.setTime epoch r').2

theorem OthersSteps.trans {r r' r'' : rho} (h : OthersSteps others r r')
    (h' : OthersSteps others r' r'') : OthersSteps others r r'' := by
  induction h' with
  | refl _ => exact h
  | ackAll _ ih => exact .ackAll (ih h)
  | remote cmd _ ih => exact .remote cmd (ih h)
  | setTime epoch _ ih => exact .setTime epoch (ih h)

/-- The rest of the device makes such steps, and ConfigService none. -/
def LeavesConfig (c c' : Configured rho) : Prop :=
  exists r, OthersSteps others c.others r ∧ c' = { c with others := r }

theorem LeavesConfig.refl (c : Configured rho) : LeavesConfig others c c :=
  ⟨c.others, .refl c.others, rfl⟩

theorem LeavesConfig.trans {c c' c'' : Configured rho} (h : LeavesConfig others c c')
    (h' : LeavesConfig others c' c'') : LeavesConfig others c c'' := by
  rcases h with ⟨r, hr, rfl⟩
  rcases h' with ⟨r', hr', rfl⟩
  exact ⟨r', hr.trans others hr', rfl⟩

theorem LeavesConfig.config {c c' : Configured rho} (h : LeavesConfig others c c') :
    c'.config = c.config := by
  rcases h with ⟨r, _, heq⟩
  rw [heq]

def KeepsConfig (writeFn : WriteFn (Configured rho)) : Prop :=
  forall value d, LeavesConfig others d.rest (writeFn value d).2.rest

theorem modbusSlaveSetAddress_rest {sigma : Type} (addr : UInt8) (d : Device sigma) :
    (modbusSlaveSetAddress addr d).rest = d.rest ∧
      (modbusSlaveSetAddress addr d).initialised = d.initialised := by
  unfold modbusSlaveSetAddress
  split
  · exact ⟨rfl, rfl⟩
  · exact ⟨rfl, rfl⟩

theorem writeModbusSlaveAddrReg_makesCall :
    MakesCall callback (writeModbusSlaveAddrReg (configuredServices others callback))
      (fun value => .modbusSlaveAddr value.toUInt8) := by
  intro value d
  have hset : (configuredServices others callback).setParam (.modbusSlaveAddr value.toUInt8) d.rest =
      setParam callback (registerCall (.modbusSlaveAddr value.toUInt8)) d.rest := rfl
  unfold writeModbusSlaveAddrReg
  rw [hset]
  dsimp only
  cases (setParam callback (registerCall (.modbusSlaveAddr value.toUInt8)) d.rest).1 with
  | false =>
      rw [if_neg Bool.false_ne_true]
      exact ⟨rfl, rfl, rfl⟩
  | true =>
      rw [if_pos rfl]
      exact ⟨rfl, modbusSlaveSetAddress_rest _ _⟩

theorem writeCmdAckAlarm_keepsConfig :
    KeepsConfig others (writeCmdAckAlarm (configuredServices others callback)) := by
  intro value d
  unfold writeCmdAckAlarm
  dsimp only
  split
  · exact .refl others d.rest
  · exact ⟨_, .ackAll (.refl _), rfl⟩

theorem writeCmdResetMetrics_keepsConfig :
    KeepsConfig others (writeCmdResetMetrics (configuredServices others callback)) := by
  intro value d
  unfold writeCmdResetMetrics
  dsimp only
  split
  · exact .refl others d.rest
  · exact ⟨_, .remote .resetMetrics (.refl _), rfl⟩

theorem writeCmdSoftRestart_keepsConfig :
    KeepsConfig others (writeCmdSoftRestart (configuredServices others callback)) := by
  intro value d
  unfold writeCmdSoftRestart
  dsimp only
  split
  · exact .refl others d.rest
  · exact ⟨_, .remote .softRestart (.refl _), rfl⟩

theorem applyCmdSetTime_keepsConfig (hi lo : UInt16) (d : Device (Configured rho)) :
    LeavesConfig others d.rest
      (applyCmdSetTime (configuredServices others callback) hi lo d).2.rest := by
  unfold applyCmdSetTime
  dsimp only
  split
  · exact .refl others d.rest
  · exact ⟨_, .setTime _ (.refl _), rfl⟩

/-- What a row of the table is for ConfigService: its parameter, written and read back, or
nothing. -/
def RowOk (slot : RegSlot (Configured rho)) : Prop :=
  match registerParam slot.addr with
  | some param =>
      slot.access = .rw ∧
        (forall writeFn, slot.writeFn = some writeFn -> MakesCall callback writeFn param) ∧
        forall value d d', validateWith slot.validateFn value d = .none ->
          d'.rest.config.params.get (registerCall (param value)).1 =
            (registerCall (param value)).2 ->
          slot.readFn d' = .ok value
  | none =>
      forall writeFn, slot.writeFn = some writeFn -> KeepsConfig others writeFn ∧
        (slot.addr < mrmCmdBlockFirst -> forall value d, (writeFn value d).1 = .none)

variable {addr value : UInt16} {param : UInt16 -> ConfigParam}

theorem readOnly_rowOk (readFn : ReadFn (Configured rho)) (h : registerParam addr = none) :
    RowOk others callback (readOnly addr readFn) := by
  unfold RowOk readOnly
  rw [h]
  intro writeFn hwrite
  cases hwrite

theorem commandSlot_rowOk (readFn : ReadFn (Configured rho)) {writeFn : WriteFn (Configured rho)}
    (h : registerParam addr = none) (haddr : ¬addr < mrmCmdBlockFirst)
    (hkeeps : KeepsConfig others writeFn) :
    RowOk others callback (commandSlot addr readFn writeFn) := by
  unfold RowOk commandSlot
  rw [h]
  intro writeFn' hwrite
  cases hwrite
  exact ⟨hkeeps, fun hlow => absurd hlow haddr⟩

theorem configSlot_rowOk {readFn : ReadFn (Configured rho)} {writeFn : WriteFn (Configured rho)}
    {validateFn : ValidateFn (Configured rho)} (h : registerParam addr = some param)
    (hcall : MakesCall callback writeFn param)
    (hread : forall value d d', validateFn value d = .none ->
      d'.rest.config.params.get (registerCall (param value)).1 =
        (registerCall (param value)).2 -> readFn d' = .ok value) :
    RowOk others callback (configSlot addr readFn writeFn validateFn) := by
  unfold RowOk configSlot
  rw [h]
  refine ⟨rfl, ?_, hread⟩
  intro writeFn' hwrite
  cases hwrite
  exact hcall

theorem placeholderSlot_rowOk (readFn : ReadFn (Configured rho))
    {writeFn : WriteFn (Configured rho)} (validateFn : ValidateFn (Configured rho))
    (h : registerParam addr = none) (hnothing : forall value d, writeFn value d = (.none, d)) :
    RowOk others callback (configSlot addr readFn writeFn validateFn) := by
  unfold RowOk configSlot
  rw [h]
  intro writeFn' hwrite
  cases hwrite
  refine ⟨fun value d => ?_, fun _ value d => by rw [hnothing]⟩
  rw [hnothing]
  exact .refl others d.rest

theorem samplingPeriod_word (value : UInt16) : value.toUInt32.toUInt16 = value := by
  simp

theorem slaveAddr_word (h : slaveAddrMin ≤ value ∧ value ≤ slaveAddrMax) :
    value.toUInt8.toUInt16 = value := by
  have hhigh : value.toNat ≤ 247 := h.2
  apply UInt16.toNat_inj.mp
  rw [UInt8.toNat_toUInt16, UInt16.toNat_toUInt8]
  omega

theorem kSlots_rowOk :
    forall slot, slot ∈ kSlots (configuredServices others callback) -> RowOk others callback slot := by
  have htemp : forall (value : UInt16) (word : Int16), word = value.toInt16 ->
      (Except.ok word.toUInt16 : Except ModbusException UInt16) = .ok value := by
    intro value word h
    rw [h]
    rfl
  have hword : forall (value word : UInt16), word = value ->
      (Except.ok word : Except ModbusException UInt16) = .ok value :=
    fun value word h => congrArg Except.ok h
  unfold kSlots
  iterate 23 refine List.forall_mem_cons.mpr ⟨readOnly_rowOk others callback _ rfl, ?_⟩
  iterate 3
    refine List.forall_mem_cons.mpr ⟨configSlot_rowOk others callback rfl (fun _ _ => ⟨rfl, rfl, rfl⟩)
      (fun value d d' _ h => htemp value _ h), ?_⟩
  iterate 6
    refine List.forall_mem_cons.mpr ⟨configSlot_rowOk others callback rfl (fun _ _ => ⟨rfl, rfl, rfl⟩)
      (fun value d d' _ h => hword value _ h), ?_⟩
  refine List.forall_mem_cons.mpr ⟨configSlot_rowOk others callback rfl (fun _ _ => ⟨rfl, rfl, rfl⟩)
    (fun value d d' _ h => hword value _
      ((congrArg UInt32.toUInt16 h).trans (samplingPeriod_word value))), ?_⟩
  iterate 2
    refine List.forall_mem_cons.mpr
      ⟨placeholderSlot_rowOk others callback _ _ rfl (fun _ _ => rfl), ?_⟩
  refine List.forall_mem_cons.mpr ⟨configSlot_rowOk others callback rfl
    (writeModbusSlaveAddrReg_makesCall others callback)
    (fun value d d' hvalid h => hword value _ ((congrArg UInt8.toUInt16 h).trans
      (slaveAddr_word (of_decide_eq_true (requireValue_none.mp hvalid))))), ?_⟩
  refine List.forall_mem_cons.mpr ⟨commandSlot_rowOk others callback _ rfl (by decide)
    (writeCmdAckAlarm_keepsConfig others callback), ?_⟩
  refine List.forall_mem_cons.mpr ⟨commandSlot_rowOk others callback _ rfl (by decide)
    (writeCmdResetMetrics_keepsConfig others callback), ?_⟩
  refine List.forall_mem_cons.mpr ⟨commandSlot_rowOk others callback _ rfl (by decide)
    (writeCmdSoftRestart_keepsConfig others callback), ?_⟩
  iterate 2
    refine List.forall_mem_cons.mpr ⟨commandSlot_rowOk others callback _ rfl (by decide)
      (fun _ d => .refl others d.rest), ?_⟩
  intro slot hslot
  cases hslot

theorem writableSlot_row {writeFn : WriteFn (Configured rho)}
    {validateFn : Option (ValidateFn (Configured rho))}
    (h : writableSlot (configuredServices others callback) addr = some (writeFn, validateFn)) :
    exists slot, findSlot (configuredServices others callback) addr = some slot ∧
      slot.addr = addr ∧ slot.writeFn = some writeFn ∧ slot.validateFn = validateFn ∧
      RowOk others callback slot := by
  unfold writableSlot at h
  cases hslot : findSlot (configuredServices others callback) addr with
  | none =>
      rw [hslot] at h
      cases h
  | some slot =>
      have haddr : slot.addr = addr := by
        simpa using List.find?_some hslot
      rw [hslot] at h
      dsimp only at h
      split at h
      · rcases Option.map_eq_some_iff.mp h with ⟨write, hwrite, heq⟩
        cases heq
        exact ⟨slot, rfl, haddr, hwrite, rfl,
          kSlots_rowOk others callback slot (List.mem_of_find?_eq_some hslot)⟩
      · cases h

theorem writableSlot_makesCall {writeFn : WriteFn (Configured rho)}
    {validateFn : Option (ValidateFn (Configured rho))}
    (h : writableSlot (configuredServices others callback) addr = some (writeFn, validateFn))
    (hparam : registerParam addr = some param) : MakesCall callback writeFn param := by
  rcases writableSlot_row others callback h with ⟨slot, _, haddr, hwrite, _, hrow⟩
  unfold RowOk at hrow
  rw [haddr, hparam] at hrow
  exact hrow.2.1 writeFn hwrite

theorem writableSlot_keepsConfig {writeFn : WriteFn (Configured rho)}
    {validateFn : Option (ValidateFn (Configured rho))}
    (h : writableSlot (configuredServices others callback) addr = some (writeFn, validateFn))
    (hparam : registerParam addr = none) :
    KeepsConfig others writeFn ∧ (addr < mrmCmdBlockFirst -> forall value d, (writeFn value d).1 = .none) := by
  rcases writableSlot_row others callback h with ⟨slot, _, haddr, hwrite, _, hrow⟩
  unfold RowOk at hrow
  rw [haddr, hparam] at hrow
  exact hrow writeFn hwrite

theorem mrmReadHoldingRegs_param {writeFn : WriteFn (Configured rho)}
    {validateFn : Option (ValidateFn (Configured rho))} {call : Call}
    {d d' : Device (Configured rho)}
    (h : writableSlot (configuredServices others callback) addr = some (writeFn, validateFn))
    (hvalid : validateWith validateFn value d = .none) (hcall : writeCall addr value = some call)
    (hinit : d'.initialised = true) (hget : d'.rest.config.params.get call.1 = call.2) :
    mrmReadHoldingRegs (configuredServices others callback) d' addr 1 = .ok [value] := by
  rcases Option.map_eq_some_iff.mp hcall with ⟨param, hparam, heq⟩
  rcases writableSlot_row others callback h with ⟨slot, hslot, haddr, _, hvalidate, hrow⟩
  unfold RowOk at hrow
  rw [haddr, hparam, hvalidate] at hrow
  rw [← heq] at hget
  have hread := hrow.2.2 value d d' hvalid hget
  have hreg : mrmReadReg (configuredServices others callback) .rw d' addr = .ok value := by
    unfold mrmReadReg
    rw [hslot]
    dsimp only
    rw [if_pos hrow.1, hread]
  unfold mrmReadHoldingRegs mrmReadRegs
  rw [hinit]
  change mrmReadLoop (configuredServices others callback) .rw d' addr 1 = .ok [value]
  unfold mrmReadLoop
  rw [hreg]
  rfl

end Handlers

/-!
## Which registers lie together
-/

def writableAddrs : List UInt16 :=
  configRegisters.map (·.1) ++
    [0x0140, 0x0141, 0x0200, 0x0201, 0x0202, mrmRegCmdSetTimeHi, mrmRegCmdSetTimeLo]

theorem mem_writableAddrs {sigma : Type} {svc : Services sigma} (h : writableSlot svc addr ≠ none) :
    addr ∈ writableAddrs := by
  have hrows : forall slot, slot ∈ kSlots svc -> slot.access = .rw -> slot.addr ∈ writableAddrs := by
    unfold kSlots
    simp only [List.forall_mem_cons, readOnly, configSlot, commandSlot, reduceCtorEq,
      false_implies, true_implies, true_and, List.not_mem_nil, implies_true, and_true]
    decide
  unfold writableSlot at h
  cases hslot : findSlot svc addr with
  | none => exact absurd (by rw [hslot]) h
  | some slot =>
      have haddr : slot.addr = addr := by
        simpa using List.find?_some hslot
      rw [hslot] at h
      dsimp only at h
      split at h
      · rename_i hrw
        rw [← haddr]
        exact hrows slot (List.mem_of_find?_eq_some hslot) hrw
      · exact absurd rfl h

theorem registerParam_next (h : addr ∈ writableAddrs) (hnext : addr + 1 ∈ writableAddrs) :
    registerParam addr = none ↔ registerParam (addr + 1) = none := by
  have hall : writableAddrs.all (fun a => decide (a + 1 ∈ writableAddrs ->
      ((registerParam a).isNone ↔ (registerParam (a + 1)).isNone))) = true := by decide
  have hiff := of_decide_eq_true (List.all_eq_true.mp hall addr h) hnext
  rw [Option.isNone_iff_eq_none, Option.isNone_iff_eq_none] at hiff
  exact hiff

theorem cmdBlock_next (h : addr ∈ writableAddrs) (hnext : addr + 1 ∈ writableAddrs) :
    addr < mrmCmdBlockFirst ↔ addr + 1 < mrmCmdBlockFirst := by
  have hall : writableAddrs.all (fun a => decide (a + 1 ∈ writableAddrs ->
      (a < mrmCmdBlockFirst ↔ a + 1 < mrmCmdBlockFirst))) = true := by decide
  exact of_decide_eq_true (List.all_eq_true.mp hall addr h) hnext

theorem block_uniform {holds : UInt16 -> Prop}
    (hnext : forall {a}, a ∈ writableAddrs -> a + 1 ∈ writableAddrs -> (holds a ↔ holds (a + 1)))
    {count : Nat} (hmem : forall a, a ∈ blockAddrs addr count -> a ∈ writableAddrs) {a : UInt16}
    (ha : a ∈ blockAddrs addr count) : holds a ↔ holds addr := by
  induction count generalizing addr with
  | zero => cases ha
  | succ count ih =>
      rcases List.mem_cons.mp ha with rfl | ha
      · exact Iff.rfl
      · have hrest := ih (fun b hb => hmem b (List.mem_cons_of_mem addr hb)) ha
        -- the block goes on, so its second register can be written as well
        have hsecond : addr + 1 ∈ blockAddrs addr (count + 1) := by
          cases count with
          | zero => cases ha
          | succ count => exact List.mem_cons_of_mem addr List.mem_cons_self
        exact hrest.trans (hnext (hmem addr List.mem_cons_self) (hmem _ hsecond)).symm

theorem lt_next (h : addr ∈ writableAddrs) : addr < addr + 1 := by
  have hall : writableAddrs.all (fun a => decide (a < a + 1)) = true := by decide
  exact of_decide_eq_true (List.all_eq_true.mp hall addr h)

/-- The register of a parameter. -/
def paramRegister : ConfigParamId -> UInt16
  | .channel .temperature .alarmLow => 0x0100
  | .channel .temperature .alarmHigh => 0x0101
  | .channel .temperature .hysteresis => 0x0102
  | .channel .humidity .alarmLow => 0x0110
  | .channel .humidity .alarmHigh => 0x0111
  | .channel .humidity .hysteresis => 0x0112
  | .channel .pressure .alarmLow => 0x0120
  | .channel .pressure .alarmHigh => 0x0121
  | .channel .pressure .hysteresis => 0x0122
  | .pollInterval => 0x0130
  | .modbusSlaveAddr => mrmRegModbusSlaveAddr
  | _ => 0

theorem paramRegister_call {value : UInt16} {call : Call} (h : writeCall addr value = some call) :
    paramRegister call.1 = addr := by
  have hrows : forall row, row ∈ configRegisters -> forall v : UInt16,
      paramRegister (registerCall (row.2 v)).1 = row.1 := by
    unfold configRegisters
    simp only [List.forall_mem_cons, List.not_mem_nil, false_implies, implies_true, and_true]
    exact ⟨fun _ => rfl, fun _ => rfl, fun _ => rfl, fun _ => rfl, fun _ => rfl, fun _ => rfl,
      fun _ => rfl, fun _ => rfl, fun _ => rfl, fun _ => rfl, fun _ => rfl⟩
  rcases Option.map_eq_some_iff.mp h with ⟨param, hparam, heq⟩
  have hrow := hrows (addr, param) (registerParam_mem hparam) value
  rw [← heq]
  exact hrow

end EnvMonitor.FieldDevice.ConfigService
