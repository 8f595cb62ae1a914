import Mathlib.Data.List.GetD
import EnvMonitor.FieldDevice.ModbusSlave

/-!
# Which bytes of the receive buffer are used

The handlers index the receive buffer; behind the bytes of a frame before its CRC stand the CRC
and what earlier frames left.  Nothing else of the device depends on the buffer.
-/

namespace EnvMonitor.FieldDevice

open Modbus

variable {sigma : Type}

/-- The device with another receive buffer. -/
def Device.withBuf (d : Device sigma) (buf : List UInt8) : Device sigma := { d with rxBuf := buf }

@[simp] theorem withBuf_withBuf (d : Device sigma) (buf buf' : List UInt8) :
    (d.withBuf buf).withBuf buf' = d.withBuf buf' := rfl

@[simp] theorem withBuf_rxBuf (d : Device sigma) (buf : List UInt8) :
    (d.withBuf buf).rxBuf = buf := rfl

/-!
## The register map does not look at the buffer
-/

/-- The same result, and the same device but for the buffer. -/
def Blind (f : Device sigma -> result × Device sigma) : Prop :=
  forall d buf, f (d.withBuf buf) = ((f d).1, (f d).2.withBuf buf)

structure BlindSlot (slot : RegSlot sigma) : Prop where
  read : forall d buf, slot.readFn (d.withBuf buf) = slot.readFn d
  write : forall writeFn, slot.writeFn = some writeFn -> forall value, Blind (writeFn value)
  validate : forall validateFn, slot.validateFn = some validateFn ->
    forall value d buf, validateFn value (d.withBuf buf) = validateFn value d

variable {addr : UInt16} {i : Nat} {body frame junk : List UInt8}

theorem readOnly_blind {readFn : ReadFn sigma}
    (hread : forall d buf, readFn (d.withBuf buf) = readFn d) :
    BlindSlot (readOnly addr readFn) where
  read := hread
  write _ h := by cases h
  validate _ h := by cases h

theorem configSlot_blind {readFn : ReadFn sigma} {writeFn : WriteFn sigma}
    {validateFn : ValidateFn sigma} (hread : forall d buf, readFn (d.withBuf buf) = readFn d)
    (hwrite : forall value, Blind (writeFn value))
    (hvalidate : forall value d buf, validateFn value (d.withBuf buf) = validateFn value d) :
    BlindSlot (configSlot addr readFn writeFn validateFn) where
  read := hread
  write _ h := by
    cases h
    exact hwrite
  validate _ h := by
    cases h
    exact hvalidate

theorem commandSlot_blind {readFn : ReadFn sigma} {writeFn : WriteFn sigma}
    (hread : forall d buf, readFn (d.withBuf buf) = readFn d)
    (hwrite : forall value, Blind (writeFn value)) :
    BlindSlot (commandSlot addr readFn writeFn) where
  read := hread
  write _ h := by
    cases h
    exact hwrite
  validate _ h := by cases h

variable (svc : Services sigma)

theorem writeModbusSlaveAddrReg_blind (value : UInt16) :
    Blind (writeModbusSlaveAddrReg svc value) := by
  intro d buf
  unfold writeModbusSlaveAddrReg modbusSlaveSetAddress
  change (if (svc.setParam (.modbusSlaveAddr value.toUInt8) d.rest).1 then _ else _) = _
  cases hok : (svc.setParam (.modbusSlaveAddr value.toUInt8) d.rest).1 with
  | false =>
      dsimp only
      rw [hok]
      rfl
  | true =>
      dsimp only
      rw [hok]
      by_cases hrange : value.toUInt8 < 1 ∨ 247 < value.toUInt8
      · simp only [if_pos hrange]
        rfl
      · simp only [if_neg hrange]
        rfl

theorem writeCmdAckAlarm_blind (value : UInt16) : Blind (writeCmdAckAlarm svc value) := by
  intro d buf
  unfold writeCmdAckAlarm
  dsimp only
  split
  · rfl
  · rfl

theorem writeCmdResetMetrics_blind (value : UInt16) : Blind (writeCmdResetMetrics svc value) := by
  intro d buf
  unfold writeCmdResetMetrics
  dsimp only
  split
  · rfl
  · rfl

theorem writeCmdSoftRestart_blind (value : UInt16) : Blind (writeCmdSoftRestart svc value) := by
  intro d buf
  unfold writeCmdSoftRestart
  dsimp only
  split
  · rfl
  · rfl

theorem applyCmdSetTime_blind (hi lo : UInt16) : Blind (applyCmdSetTime svc hi lo) := by
  intro d buf
  unfold applyCmdSetTime
  dsimp only
  split
  · rfl
  · rfl

theorem kSlots_blind : forall slot, slot ∈ kSlots svc -> BlindSlot slot := by
  unfold kSlots
  iterate 23 refine List.forall_mem_cons.mpr ⟨readOnly_blind fun _ _ => rfl, ?_⟩
  iterate 12
    refine List.forall_mem_cons.mpr
      ⟨configSlot_blind (fun _ _ => rfl) (fun _ _ _ => rfl) (fun _ _ _ => rfl), ?_⟩
  refine List.forall_mem_cons.mpr
    ⟨configSlot_blind (fun _ _ => rfl) (writeModbusSlaveAddrReg_blind svc) (fun _ _ _ => rfl), ?_⟩
  refine List.forall_mem_cons.mpr
    ⟨commandSlot_blind (fun _ _ => rfl) (writeCmdAckAlarm_blind svc), ?_⟩
  refine List.forall_mem_cons.mpr
    ⟨commandSlot_blind (fun _ _ => rfl) (writeCmdResetMetrics_blind svc), ?_⟩
  refine List.forall_mem_cons.mpr
    ⟨commandSlot_blind (fun _ _ => rfl) (writeCmdSoftRestart_blind svc), ?_⟩
  iterate 2
    refine List.forall_mem_cons.mpr ⟨commandSlot_blind (fun _ _ => rfl) (fun _ _ _ => rfl), ?_⟩
  intro slot hslot
  cases hslot

theorem findSlot_blind {slot : RegSlot sigma} (h : findSlot svc addr = some slot) :
    BlindSlot slot :=
  kSlots_blind svc slot (List.mem_of_find?_eq_some h)

theorem mrmReadReg_withBuf (access : RegAccess) (d : Device sigma) (buf : List UInt8)
    (addr : UInt16) : mrmReadReg svc access (d.withBuf buf) addr = mrmReadReg svc access d addr := by
  unfold mrmReadReg
  cases hslot : findSlot svc addr with
  | none => rfl
  | some slot =>
      dsimp only
      rw [(findSlot_blind svc hslot).read]

theorem mrmReadLoop_withBuf (access : RegAccess) (d : Device sigma) (buf : List UInt8)
    (addr : UInt16) (count : Nat) :
    mrmReadLoop svc access (d.withBuf buf) addr count = mrmReadLoop svc access d addr count := by
  induction count generalizing addr with
  | zero => rfl
  | succ count ih =>
      unfold mrmReadLoop
      rw [mrmReadReg_withBuf, ih]

theorem writableSlot_blind {writeFn : WriteFn sigma} {validateFn : Option (ValidateFn sigma)}
    (h : writableSlot svc addr = some (writeFn, validateFn)) :
    (forall value, Blind (writeFn value)) ∧
      forall value d buf,
        validateWith validateFn value (d.withBuf buf) = validateWith validateFn value d := by
  unfold writableSlot at h
  cases hslot : findSlot svc addr with
  | none =>
      rw [hslot] at h
      cases h
  | some slot =>
      have hblind := findSlot_blind svc hslot
      rw [hslot] at h
      dsimp only at h
      split at h
      · cases hwrite : slot.writeFn with
        | none =>
            rw [hwrite] at h
            cases h
        | some write =>
            rw [hwrite] at h
            cases h
            constructor
            · exact hblind.write _ hwrite
            · cases hvalidate : slot.validateFn with
              | none => exact fun _ _ _ => rfl
              | some validate => exact hblind.validate _ hvalidate
      · cases h

theorem mrmWriteSingleReg_blind (addr value : UInt16) :
    Blind (mrmWriteSingleReg svc addr value) := by
  intro d buf
  unfold mrmWriteSingleReg
  change (if !d.initialised then _ else _) = _
  split
  · rfl
  · cases hslot : writableSlot svc addr with
    | none => rfl
    | some pair =>
        rcases pair with ⟨writeFn, validateFn⟩
        have hblind := writableSlot_blind svc hslot
        dsimp only
        rw [hblind.2]
        split
        · exact hblind.1 value d buf
        · rfl

theorem validateAll_withBuf (d : Device sigma) (buf : List UInt8) (addr : UInt16)
    (values : List UInt16) :
    validateAll svc (d.withBuf buf) addr values = validateAll svc d addr values := by
  induction values generalizing addr with
  | nil => rfl
  | cons value values ih =>
      unfold validateAll
      cases hslot : writableSlot svc addr with
      | none => rfl
      | some pair =>
          rcases pair with ⟨writeFn, validateFn⟩
          dsimp only
          rw [(writableSlot_blind svc hslot).2, ih]

theorem applyAll_blind (addr : UInt16) (values : List UInt16) :
    Blind (applyAll svc addr values) := by
  induction values generalizing addr with
  | nil => exact fun _ _ => rfl
  | cons value values ih =>
      intro d buf
      unfold applyAll
      cases hslot : writableSlot svc addr with
      | none => rfl
      | some pair =>
          rcases pair with ⟨writeFn, validateFn⟩
          dsimp only
          rw [(writableSlot_blind svc hslot).1 value d buf]
          cases hresult : writeFn value d with
          | mk rc d' =>
              cases rc with
              | none => exact ih (addr + 1) d' buf
              | _ => rfl

theorem mrmWriteMultipleRegs_blind (addr : UInt16) (values : List UInt16) :
    Blind (mrmWriteMultipleRegs svc addr values) := by
  intro d buf
  unfold mrmWriteMultipleRegs
  change (if !d.initialised then _ else _) = _
  dsimp only
  rw [validateAll_withBuf, applyCmdSetTime_blind, applyAll_blind]
  split
  · rfl
  · split
    · rfl
    · split
      · rfl
      · split
        · rfl
        · split
          · rfl
          · rfl

/-!
## What a handler reads
-/

/-- The payload bytes of an FC16 whose count and byte count agree. -/
def announcedBytes (body : List UInt8) : Nat :=
  let regCount := wordAt body 4
  if body.getD 6 0 ≠ (regCount * 2).toUInt8 then 0
  else if regCount = 0 ∨ modbusSlaveMaxWriteRegs < regCount then 0
  else 2 * regCount.toNat

/-- How far into the buffer the handler of the function code reads. -/
def bytesRead (body : List UInt8) : Nat :=
  let fc := body.getD 1 0
  if fc = fcReadHolding ∨ fc = fcReadInput ∨ fc = fcWriteSingle then 6
  else if fc = fcWriteMultiple then 7 + announcedBytes body
  else 2

theorem getD_append_junk (h : i < body.length) : (body ++ junk).getD i 0 = body.getD i 0 := by
  rw [List.getD_append _ _ _ _ h]

theorem wordAt_append_junk (h : i + 1 < body.length) : wordAt (body ++ junk) i = wordAt body i := by
  unfold wordAt
  rw [getD_append_junk (Nat.lt_of_succ_lt h), getD_append_junk h]

theorem blockValues_append_junk {count : Nat} (h : 7 + 2 * count ≤ body.length) :
    blockValues (body ++ junk) count = blockValues body count := by
  unfold blockValues
  apply List.map_congr_left
  intro i hi
  have hlt := List.mem_range.mp hi
  exact wordAt_append_junk (by omega)

theorem buildReadResponse_withBuf (d : Device sigma) (buf : List UInt8) (fc : UInt8)
    (startAddr regCount : UInt16) :
    buildReadResponse svc (d.withBuf buf) fc startAddr regCount =
      buildReadResponse svc d fc startAddr regCount := by
  have hinput : bridgeReadInput svc (d.withBuf buf) = bridgeReadInput svc d := by
    funext addr
    unfold bridgeReadInput mrmReadInputRegs mrmReadRegs
    rw [mrmReadLoop_withBuf]
    rfl
  have hholding : bridgeReadHolding svc (d.withBuf buf) = bridgeReadHolding svc d := by
    funext addr
    unfold bridgeReadHolding mrmReadHoldingRegs mrmReadRegs
    rw [mrmReadLoop_withBuf]
    rfl
  unfold buildReadResponse
  rw [hinput, hholding]
  rfl

theorem buildWriteResponse_withBuf (fc : UInt8) (first second : UInt16) (buf : List UInt8)
    (result : ModbusSlaveErr × Device sigma) :
    buildWriteResponse fc first second (result.1, result.2.withBuf buf) =
      ((buildWriteResponse fc first second result).1,
        (buildWriteResponse fc first second result).2.withBuf buf) := by
  rcases result with ⟨err, d⟩
  unfold buildWriteResponse
  cases err with
  | ok => rfl
  | _ => rfl

theorem bridgeWriteHolding_blind (addr value : UInt16) :
    Blind (bridgeWriteHolding svc addr value) := by
  intro d buf
  unfold bridgeWriteHolding
  rw [mrmWriteSingleReg_blind]

theorem bridgeWriteBlock_blind (addr : UInt16) (values : List UInt16) :
    Blind (bridgeWriteBlock svc addr values) := by
  intro d buf
  unfold bridgeWriteBlock
  rw [mrmWriteMultipleRegs_blind]

theorem buildWriteSingleResponse_body {d : Device sigma} (h : 6 ≤ body.length) (junk : List UInt8) :
    buildWriteSingleResponse svc (d.withBuf (body ++ junk)) =
      ((buildWriteSingleResponse svc (d.withBuf body)).1,
        (buildWriteSingleResponse svc (d.withBuf body)).2.withBuf (body ++ junk)) := by
  unfold buildWriteSingleResponse
  simp only [withBuf_rxBuf]
  rw [wordAt_append_junk (by omega), wordAt_append_junk (by omega),
    ← withBuf_withBuf d body (body ++ junk), bridgeWriteHolding_blind,
    buildWriteResponse_withBuf]

/-- The counts of an FC16 agree and are in range. -/
def CountsOk (buf : List UInt8) : Prop :=
  buf.getD 6 0 = (wordAt buf 4 * 2).toUInt8 ∧
    ¬(wordAt buf 4 = 0 ∨ modbusSlaveMaxWriteRegs < wordAt buf 4)

theorem buildWriteMultipleResponse_refused {d : Device sigma} (h : ¬CountsOk d.rxBuf) :
    buildWriteMultipleResponse svc d =
      (buildExceptionResponse d fcWriteMultiple modbusExcIllegalValue, d) := by
  unfold buildWriteMultipleResponse
  dsimp only
  split
  · rfl
  · rename_i hbytes
    split
    · rfl
    · rename_i hcount
      exact absurd ⟨not_not.mp hbytes, hcount⟩ h

theorem buildWriteMultipleResponse_taken {d : Device sigma} (h : CountsOk d.rxBuf) :
    buildWriteMultipleResponse svc d =
      buildWriteResponse fcWriteMultiple (wordAt d.rxBuf 2) (wordAt d.rxBuf 4)
        (bridgeWriteBlock svc (wordAt d.rxBuf 2)
          (blockValues d.rxBuf (wordAt d.rxBuf 4).toNat) d) := by
  unfold buildWriteMultipleResponse
  dsimp only
  rw [if_neg (not_not_intro h.1), if_neg h.2]

theorem buildWriteMultipleResponse_body {d : Device sigma}
    (h : 7 + announcedBytes body ≤ body.length) (junk : List UInt8) :
    buildWriteMultipleResponse svc (d.withBuf (body ++ junk)) =
      ((buildWriteMultipleResponse svc (d.withBuf body)).1,
        (buildWriteMultipleResponse svc (d.withBuf body)).2.withBuf (body ++ junk)) := by
  have hstart : wordAt (body ++ junk) 2 = wordAt body 2 := wordAt_append_junk (by omega)
  have hregs : wordAt (body ++ junk) 4 = wordAt body 4 := wordAt_append_junk (by omega)
  have hbyte : (body ++ junk).getD 6 0 = body.getD 6 0 := getD_append_junk (by omega)
  have hcounts : CountsOk (body ++ junk) ↔ CountsOk body := by
    unfold CountsOk
    rw [hregs, hbyte]
  by_cases hok : CountsOk body
  · have hlong : 7 + 2 * (wordAt body 4).toNat ≤ body.length := by
      unfold announcedBytes at h
      dsimp only at h
      rw [if_neg (not_not_intro hok.1), if_neg hok.2] at h
      exact h
    rw [@buildWriteMultipleResponse_taken _ svc (d.withBuf (body ++ junk)) (hcounts.mpr hok),
      @buildWriteMultipleResponse_taken _ svc (d.withBuf body) hok]
    simp only [withBuf_rxBuf]
    rw [hstart, hregs, blockValues_append_junk hlong, ← withBuf_withBuf d body (body ++ junk),
      bridgeWriteBlock_blind, buildWriteResponse_withBuf]
  · rw [@buildWriteMultipleResponse_refused _ svc (d.withBuf (body ++ junk))
        (fun hother => hok (hcounts.mp hother)),
      @buildWriteMultipleResponse_refused _ svc (d.withBuf body) hok]
    rfl

/-- The dispatch of a function code. -/
def dispatchCode (d : Device sigma) (fc : UInt8) : List UInt8 × Device sigma :=
  if fc = fcReadHolding then
    (buildReadResponse svc d fcReadHolding (wordAt d.rxBuf 2) (wordAt d.rxBuf 4), d)
  else if fc = fcReadInput then
    (buildReadResponse svc d fcReadInput (wordAt d.rxBuf 2) (wordAt d.rxBuf 4), d)
  else if fc = fcWriteSingle then buildWriteSingleResponse svc d
  else if fc = fcWriteMultiple then buildWriteMultipleResponse svc d
  else (buildExceptionResponse d fc modbusExcIllegalFc, d)

theorem dispatch_eq (d : Device sigma) :
    dispatch svc d = dispatchCode svc d (d.rxBuf.getD 1 0) := rfl

theorem dispatch_body {d : Device sigma} (htwo : 2 ≤ body.length) (h : bytesRead body ≤ body.length)
    (junk : List UInt8) :
    dispatch svc (d.withBuf (body ++ junk)) =
      ((dispatch svc (d.withBuf body)).1,
        (dispatch svc (d.withBuf body)).2.withBuf (body ++ junk)) := by
  rw [dispatch_eq, dispatch_eq, withBuf_rxBuf, withBuf_rxBuf,
    getD_append_junk (show 1 < body.length by omega)]
  unfold bytesRead at h
  dsimp only at h
  generalize body.getD 1 0 = fc at h ⊢
  unfold dispatchCode
  by_cases hholding : fc = fcReadHolding
  · rw [if_pos (Or.inl hholding)] at h
    rw [if_pos hholding, if_pos hholding, withBuf_rxBuf, withBuf_rxBuf,
      wordAt_append_junk (by omega), wordAt_append_junk (by omega),
      buildReadResponse_withBuf, buildReadResponse_withBuf]
    rfl
  · rw [if_neg hholding, if_neg hholding]
    by_cases hinput : fc = fcReadInput
    · rw [if_pos (Or.inr (Or.inl hinput))] at h
      rw [if_pos hinput, if_pos hinput, withBuf_rxBuf, withBuf_rxBuf,
        wordAt_append_junk (by omega), wordAt_append_junk (by omega),
        buildReadResponse_withBuf, buildReadResponse_withBuf]
      rfl
    · rw [if_neg hinput, if_neg hinput]
      by_cases hsingle : fc = fcWriteSingle
      · rw [if_pos (Or.inr (Or.inr hsingle))] at h
        rw [if_pos hsingle, if_pos hsingle]
        exact buildWriteSingleResponse_body svc h junk
      · rw [if_neg hsingle, if_neg hsingle]
        have hother : ¬(fc = fcReadHolding ∨ fc = fcReadInput ∨ fc = fcWriteSingle) := by
          intro hcases
          rcases hcases with hcase | hcase | hcase
          · exact hholding hcase
          · exact hinput hcase
          · exact hsingle hcase
        rw [if_neg hother] at h
        by_cases hmultiple : fc = fcWriteMultiple
        · rw [if_pos hmultiple] at h
          rw [if_pos hmultiple, if_pos hmultiple]
          exact buildWriteMultipleResponse_body svc h junk
        · rw [if_neg hmultiple, if_neg hmultiple]
          rfl

/-!
## Frame after frame
-/

/-- The bytes before the CRC. -/
def bodyOf (frame : List UInt8) : List UInt8 := frame.take (frame.length - 2)

/-- The frame is for this device and its CRC is right. -/
def Accepted (frame : List UInt8) (d : Device sigma) : Prop :=
  4 ≤ frame.length ∧ frame.getD 0 0 = d.slaveAddr ∧
    modbusCrc16 (bodyOf frame) = crcAt frame (frame.length - 2)

/-- No fewer bytes stand before the CRC than the handler reads. -/
def Whole (frame : List UInt8) : Prop := bytesRead (bodyOf frame) ≤ (bodyOf frame).length

/-- The device but for its receive buffer. -/
def SameButBuf (d d' : Device sigma) : Prop := d.withBuf [] = d'.withBuf []

/-- Two outcomes that differ in the receive buffer at most. -/
def SameOutcome {response : Type} (a b : response × Device sigma) : Prop :=
  a.1 = b.1 ∧ SameButBuf a.2 b.2

/-- What the slave is to do with a frame: nothing outside the bytes before its CRC, whatever
stands behind them in the buffer, and nothing at all on a frame that is too short. -/
structure FrameOk (frame : List UInt8) (d : Device sigma) : Prop where
  bytes : Accepted frame d -> forall junk junk',
    SameOutcome (dispatch svc (d.withBuf (bodyOf frame ++ junk)))
      (dispatch svc (d.withBuf (bodyOf frame ++ junk')))
  short : ¬Whole frame -> SameButBuf (modbusSlaveProcess svc frame d).2 d

/-- The answers to a sequence of frames, and the device after it. -/
def serve : List (List UInt8) -> Device sigma -> List (Option (List UInt8)) × Device sigma
  | [], d => ([], d)
  | frame :: frames, d =>
      let (response, d) := modbusSlaveProcess svc frame d
      let (responses, d) := serve frames d
      (response :: responses, d)

/-- Every frame that is accepted when it comes is long enough. -/
def AllWhole : List (List UInt8) -> Device sigma -> Prop
  | [], _ => True
  | frame :: frames, d =>
      (Accepted frame d -> Whole frame) ∧ AllWhole frames (modbusSlaveProcess svc frame d).2

/-- Every frame is treated as it should be when it comes, and what came before the sequence into
the buffer makes no difference. -/
structure FramesOk (frames : List (List UInt8)) (d : Device sigma) : Prop where
  each : forall before frame after, frames = before ++ frame :: after ->
    FrameOk svc frame (serve svc before d).2
  history : forall buf, SameOutcome (serve svc frames (d.withBuf buf)) (serve svc frames d)

theorem length_bodyOf (h : 4 ≤ frame.length) : 2 ≤ (bodyOf frame).length := by
  unfold bodyOf
  rw [List.length_take]
  omega

theorem modbusSlaveProcess_accepted {d : Device sigma} (h : Accepted frame d) :
    exists junk, modbusSlaveProcess svc frame d =
      (some (dispatch svc (d.withBuf (bodyOf frame ++ junk))).1,
        (dispatch svc (d.withBuf (bodyOf frame ++ junk))).2) := by
  have hfirst : (frame ++ d.rxBuf.drop frame.length).getD 0 0 = frame.getD 0 0 :=
    getD_append_junk (by have := h.1; omega)
  have hbuf : frame ++ d.rxBuf.drop frame.length =
      bodyOf frame ++ (frame.drop (frame.length - 2) ++ d.rxBuf.drop frame.length) := by
    unfold bodyOf
    rw [← List.append_assoc, List.take_append_drop]
  have hcrc : modbusCrc16 (frame.take (frame.length - 2)) = crcAt frame (frame.length - 2) :=
    h.2.2
  have haddr : (frame ++ d.rxBuf.drop frame.length).getD 0 0 = d.slaveAddr := by
    rw [hfirst]
    exact h.2.1
  exists frame.drop (frame.length - 2) ++ d.rxBuf.drop frame.length
  rw [← hbuf]
  unfold modbusSlaveProcess
  dsimp only
  rw [if_neg (Nat.not_lt.mpr h.1)]
  split
  · rename_i hother
    exact absurd haddr hother
  · rw [if_neg (not_not_intro hcrc)]
    rfl

theorem modbusSlaveProcess_dropped {d : Device sigma} (h : ¬Accepted frame d) :
    modbusSlaveProcess svc frame d = (none, d.received frame) := by
  unfold modbusSlaveProcess
  dsimp only
  split
  · rfl
  · rename_i hlen
    have hfirst : (d.received frame).rxBuf.getD 0 0 = frame.getD 0 0 :=
      getD_append_junk (by omega)
    split
    · rfl
    · rename_i haddr
      rw [hfirst, not_not] at haddr
      split
      · rfl
      · rename_i hcrc
        rw [not_not] at hcrc
        exact absurd ⟨by omega, haddr, hcrc⟩ h

theorem SameButBuf.rest {d d' : Device sigma} (h : SameButBuf d d') : d.rest = d'.rest := by
  rw [show d.rest = (d.withBuf []).rest from rfl, show d'.rest = (d'.withBuf []).rest from rfl]
  exact congrArg Device.rest h

theorem SameButBuf.eq_withBuf {d d' : Device sigma} (h : SameButBuf d d') :
    d = d'.withBuf d.rxBuf := by
  have hbuf := congrArg (fun device => device.withBuf d.rxBuf) h
  exact hbuf

theorem modbusSlaveProcess_withBuf {d : Device sigma} (hwhole : Accepted frame d -> Whole frame)
    (buf : List UInt8) :
    SameOutcome (modbusSlaveProcess svc frame (d.withBuf buf)) (modbusSlaveProcess svc frame d) := by
  by_cases haccepted : Accepted frame d
  · have haccepted' : Accepted frame (d.withBuf buf) := haccepted
    rcases modbusSlaveProcess_accepted svc haccepted with ⟨junk, hd⟩
    rcases modbusSlaveProcess_accepted svc haccepted' with ⟨junk', hbuf⟩
    have htwo := length_bodyOf haccepted.1
    have hlong := hwhole haccepted
    rw [hd, hbuf, withBuf_withBuf, dispatch_body svc htwo hlong junk,
      dispatch_body svc htwo hlong junk']
    exact ⟨rfl, rfl⟩
  · have haccepted' : ¬Accepted frame (d.withBuf buf) := haccepted
    rw [modbusSlaveProcess_dropped svc haccepted, modbusSlaveProcess_dropped svc haccepted']
    exact ⟨rfl, rfl⟩

theorem serve_history {frames : List (List UInt8)} {d d' : Device sigma}
    (hwhole : AllWhole svc frames d) (hsame : SameButBuf d' d) :
    SameOutcome (serve svc frames d') (serve svc frames d) := by
  induction frames generalizing d d' with
  | nil => exact ⟨rfl, hsame⟩
  | cons frame frames ih =>
      have hstep := modbusSlaveProcess_withBuf svc hwhole.1 d'.rxBuf
      rw [← hsame.eq_withBuf] at hstep
      have hrest := ih hwhole.2 hstep.2
      constructor
      · change (modbusSlaveProcess svc frame d').1 ::
            (serve svc frames (modbusSlaveProcess svc frame d').2).1 =
          (modbusSlaveProcess svc frame d).1 ::
            (serve svc frames (modbusSlaveProcess svc frame d).2).1
        rw [hstep.1, hrest.1]
      · exact hrest.2

theorem frameOk_of_whole {d : Device sigma} (hwhole : Accepted frame d -> Whole frame) :
    FrameOk svc frame d where
  bytes haccepted junk junk' := by
    have htwo := length_bodyOf haccepted.1
    have hlong := hwhole haccepted
    rw [dispatch_body svc htwo hlong junk, dispatch_body svc htwo hlong junk']
    exact ⟨rfl, rfl⟩
  short hshort := by
    have hdropped : ¬Accepted frame d := fun haccepted => hshort (hwhole haccepted)
    rw [modbusSlaveProcess_dropped svc hdropped]
    rfl

theorem allWhole_at {before after : List (List UInt8)} {d : Device sigma}
    (h : AllWhole svc (before ++ frame :: after) d) :
    Accepted frame (serve svc before d).2 -> Whole frame := by
  induction before generalizing d with
  | nil => exact h.1
  | cons first before ih => exact ih h.2

/-- In a sequence of frames that are long enough the slave acts on the bytes before the CRC of the
frame it received, and on nothing else. -/
theorem frames_acted_on_alone {frames : List (List UInt8)} {d : Device sigma}
    (hwhole : AllWhole svc frames d) : FramesOk svc frames d where
  each before frame after hsplit := by
    rw [hsplit] at hwhole
    exact frameOk_of_whole svc (allWhole_at svc hwhole)
  history _ := serve_history svc hwhole rfl

/-!
## On a recording device
-/

/-- Services that take every write and record it. -/
def recordingServices : Services (List ConfigParam) where
  version := ⟨1, 0, 0⟩
  sensorSnapshot _ := none
  alarmStates _ _ := .clear
  params _ := ⟨500, 3000, 100, 3000, 8000, 200, 9800, 10400, 20, 1000, 1⟩
  healthSnapshot _ := ⟨1, 0, 0⟩
  setParam param written := (true, written ++ [param])
  ackAll written := written
  handleRemoteCommand _ written := written
  setTime _ written := (true, written)

def recordingDevice : Device (List ConfigParam) where
  slaveAddr := 1
  rxBuf := List.replicate 256 0
  initialised := true
  cmdAckAlarmLast := 0
  cmdResetMetricsLast := 0
  cmdSoftRestartLast := 0
  cmdSetTimeHiLast := 0
  cmdSetTimeLoLast := 0
  lastStatsSnapshot := ⟨0, 0⟩
  rest := []

/-- An FC16 of two registers, the beginning of an FC06 with a wrong CRC, and an FC06. -/
def threeFrames : List (List UInt8) :=
  [appendCrc [1, 16, 0x01, 0x30, 0x00, 0x02, 4, 0x01, 0xF4, 0x0B, 0xB8],
    [1, 6, 0x01, 0x30, 0x07, 0xFF], appendCrc [1, 6, 0x01, 0x30, 0x00, 0x64]]

/-- The third frame is acted on as if the others had not been in the buffer before it. -/
theorem frames_acted_on_alone_third :
    FramesOk recordingServices threeFrames recordingDevice ∧
      (serve recordingServices threeFrames recordingDevice).2.rest.getLast? =
        some (.pollInterval 100) := by
  have hbroken : forall d : Device (List ConfigParam),
      ¬Accepted [1, 6, 0x01, 0x30, 0x07, 0xFF] d := by
    intro d haccepted
    have hcrc := haccepted.2.2
    revert hcrc
    decide +kernel
  have hfirst : Whole (appendCrc [1, 16, 0x01, 0x30, 0x00, 0x02, 4, 0x01, 0xF4, 0x0B, 0xB8]) := by
    unfold Whole
    decide +kernel
  have hthird : Whole (appendCrc [1, 6, 0x01, 0x30, 0x00, 0x64]) := by
    unfold Whole
    decide +kernel
  exact ⟨frames_acted_on_alone recordingServices
    ⟨fun _ => hfirst, fun haccepted => absurd haccepted (hbroken _), fun _ => hthird, trivial⟩,
    by decide +kernel⟩

/-- An FC06 frame without a value: its CRC is written to the register. -/
theorem crc_written_as_value :
    (modbusSlaveProcess recordingServices [1, 6, 0x01, 0x30, 0xE0, 0x5D] recordingDevice).2.rest =
        [.pollInterval 0xE05D] ∧
      ¬FramesOk recordingServices [[1, 6, 0x01, 0x30, 0xE0, 0x5D]] recordingDevice := by
  have hwritten :
      (modbusSlaveProcess recordingServices [1, 6, 0x01, 0x30, 0xE0, 0x5D]
        recordingDevice).2.rest = [.pollInterval 0xE05D] := by
    decide +kernel
  refine ⟨hwritten, fun hok => ?_⟩
  have hshort : ¬Whole [1, 6, 0x01, 0x30, 0xE0, 0x5D] := by
    unfold Whole
    decide +kernel
  have hframe : FrameOk recordingServices [1, 6, 0x01, 0x30, 0xE0, 0x5D] recordingDevice :=
    hok.each [] [1, 6, 0x01, 0x30, 0xE0, 0x5D] [] rfl
  have hrest := (hframe.short hshort).rest
  rw [hwritten] at hrest
  cases hrest

end EnvMonitor.FieldDevice
