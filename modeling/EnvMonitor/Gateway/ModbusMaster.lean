import EnvMonitor.Modbus.Frame

/-!
# Modbus master of the gateway

`modbus_master_transact`: one outcome of the UART for each attempt, the first accepted or refused
response ends the call.
-/

namespace EnvMonitor.Gateway

open Modbus

/-- `modbus_master_err_t`, as far as `modbus_master_transact` returns it once started. -/
inductive ModbusMasterErr where
  | ok
  | timeout
  | rxError
  | badResponse
  | crc
  | exception
  | invalidArg
  deriving DecidableEq, Repr

/-- Build addr + FC + data + CRC (low byte first). -/
def mbmBuildWireFrame (request : ModbusFrame) : List UInt8 :=
  let body := request.slaveAddr :: request.functionCode :: request.data
  body ++ crcBytes (mbmCrc16 body)

/-- What the UART does in one attempt. -/
inductive Attempt where
  | txFailed
  | noResponse
  | rxError
  | frame (bytes : List UInt8)
  deriving DecidableEq, Repr

/-- How a call ends: the error code and what is in `*response`. -/
abbrev Transacted := ModbusMasterErr × Option ModbusFrame

/-- ProcessingResponse: an error is retried, a value is returned. -/
def processResponse (request : ModbusFrame) (rx : List UInt8) :
    Except ModbusMasterErr Transacted :=
  let body := rx.take (rx.length - 2)
  if rx.length < 4 then .error .badResponse
  else if mbmCrc16 body ≠ crcAt rx (rx.length - 2) then .error .crc
  else if rx.getD 0 0 ≠ request.slaveAddr then .ok (.badResponse, none)
  else if rx.getD 1 0 = request.functionCode ||| exceptionFlag then
    if rx.length < 5 then .ok (.badResponse, none)
    else .ok (.exception, some ⟨rx.getD 0 0, rx.getD 1 0, [rx.getD 2 0]⟩)
  else if rx.getD 1 0 ≠ request.functionCode then .ok (.badResponse, none)
  else .ok (.ok, some ⟨rx.getD 0 0, rx.getD 1 0, body.drop 2⟩)

def runAttempt (request : ModbusFrame) : Attempt -> Except ModbusMasterErr Transacted
  | .txFailed => .error .timeout
  | .noResponse => .error .timeout
  | .rxError => .error .rxError
  | .frame bytes => processResponse request bytes

def transactLoop (request : ModbusFrame) : ModbusMasterErr -> List Attempt -> Transacted
  | lastErr, [] => (lastErr, none)
  | _, attempt :: attempts =>
      match runAttempt request attempt with
      | .ok done => done
      | .error err => transactLoop request err attempts

/-- `modbus_master_transact`; there are `max_retries + 1` attempts. -/
def modbusMasterTransact (request : ModbusFrame) (attempts : List Attempt) : Transacted :=
  if modbusMaxDataBytes < request.data.length then (.invalidArg, none)
  else transactLoop request .timeout attempts

theorem mbmBuildWireFrame_eq (frame : ModbusFrame) : mbmBuildWireFrame frame = frame.onWire :=
  rfl

variable {frame request response : ModbusFrame} {bytes : List UInt8} {attempts : List Attempt}

theorem processResponse_otherSlave (h : frame.slaveAddr ≠ request.slaveAddr) :
    processResponse request frame.onWire = .ok (.badResponse, none) := by
  unfold processResponse
  rw [ModbusFrame.onWire_take, ModbusFrame.onWire_crcAt, ModbusFrame.onWire_length, if_neg (by omega), if_neg (by simp)]
  rw [if_pos]
  exact h

theorem processResponse_ok (haddr : frame.slaveAddr = request.slaveAddr)
    (hfc : frame.functionCode = request.functionCode)
    (hplain : request.functionCode ≠ request.functionCode ||| exceptionFlag) :
    processResponse request frame.onWire = .ok (.ok, some frame) := by
  unfold processResponse
  rw [ModbusFrame.onWire_take, ModbusFrame.onWire_crcAt, ModbusFrame.onWire_length, if_neg (by omega), if_neg (by simp)]
  change (if frame.slaveAddr ≠ request.slaveAddr then _ else
    if frame.functionCode = request.functionCode ||| exceptionFlag then _ else
    if frame.functionCode ≠ request.functionCode then _ else _) = _
  rw [if_neg (by simp [haddr]), if_neg (by rw [hfc]; exact hplain), if_neg (by simp [hfc])]
  rfl

theorem processResponse_exception (addr code : UInt8) (haddr : addr = request.slaveAddr) :
    processResponse request
        (ModbusFrame.onWire ⟨addr, request.functionCode ||| exceptionFlag, [code]⟩) =
      .ok (.exception, some ⟨addr, request.functionCode ||| exceptionFlag, [code]⟩) := by
  unfold processResponse
  rw [ModbusFrame.onWire_take, ModbusFrame.onWire_crcAt, ModbusFrame.onWire_length, if_neg (by simp),
    if_neg (by simp)]
  change (if addr ≠ request.slaveAddr then _ else
    if request.functionCode ||| exceptionFlag = request.functionCode ||| exceptionFlag then _
    else _) = _
  rw [if_neg (by simp [haddr]), if_pos rfl]
  rfl

theorem processResponse_accepts
    (h : processResponse request frame.onWire = .ok (.ok, some response)) :
    response = frame ∧ frame.slaveAddr = request.slaveAddr ∧
      frame.functionCode = request.functionCode := by
  unfold processResponse at h
  rw [ModbusFrame.onWire_take, ModbusFrame.onWire_crcAt, ModbusFrame.onWire_length,
    if_neg (by omega), if_neg (by simp)] at h
  change (if frame.slaveAddr ≠ request.slaveAddr then _ else
    if frame.functionCode = request.functionCode ||| exceptionFlag then _ else
    if frame.functionCode ≠ request.functionCode then _ else _) = _ at h
  by_cases haddr : frame.slaveAddr = request.slaveAddr
  · rw [if_neg (fun hne => hne haddr)] at h
    split at h
    · split at h
      · cases h
      · cases h
    · by_cases hfc : frame.functionCode = request.functionCode
      · rw [if_neg (fun hne => hne hfc)] at h
        cases h
        exact ⟨rfl, haddr, hfc⟩
      · rw [if_pos hfc] at h
        cases h
  · rw [if_pos haddr] at h
    cases h

/-- Bytes in which the receiver detects the damage. -/
def Garbled (bytes : List UInt8) : Prop :=
  bytes.length < 4 ∨ mbmCrc16 (bytes.take (bytes.length - 2)) ≠ crcAt bytes (bytes.length - 2)

theorem processResponse_garbled (h : Garbled bytes) :
    exists err, processResponse request bytes = .error err := by
  unfold processResponse
  dsimp only
  by_cases hshort : bytes.length < 4
  · rw [if_pos hshort]
    exact ⟨.badResponse, rfl⟩
  · rw [if_neg hshort, if_pos (h.resolve_left hshort)]
    exact ⟨.crc, rfl⟩

theorem transactLoop_ok {lastErr : ModbusMasterErr}
    (h : transactLoop request lastErr attempts = (.ok, some response)) :
    exists attempt, attempt ∈ attempts ∧
      runAttempt request attempt = .ok (.ok, some response) := by
  induction attempts generalizing lastErr with
  | nil => cases h
  | cons attempt attempts ih =>
      unfold transactLoop at h
      cases hrun : runAttempt request attempt with
      | ok done =>
          rw [hrun] at h
          exact ⟨attempt, List.mem_cons_self, by rw [hrun, ← h]⟩
      | error err =>
          rw [hrun] at h
          rcases ih h with ⟨later, hmem, hlater⟩
          exact ⟨later, List.mem_cons_of_mem attempt hmem, hlater⟩

theorem transact_ok (h : modbusMasterTransact request attempts = (.ok, some response)) :
    exists bytes, Attempt.frame bytes ∈ attempts ∧
      processResponse request bytes = .ok (.ok, some response) := by
  unfold modbusMasterTransact at h
  split at h
  · cases h
  · rcases transactLoop_ok h with ⟨attempt, hmem, hrun⟩
    cases attempt with
    | txFailed => cases hrun
    | noResponse => cases hrun
    | rxError => cases hrun
    | frame bytes => exact ⟨bytes, hmem, hrun⟩

theorem processResponse_slaveAddr {rx : List UInt8}
    (h : processResponse request rx = .ok (.ok, some response)) :
    response.slaveAddr = request.slaveAddr := by
  unfold processResponse at h
  dsimp only at h
  split at h
  · cases h
  · split at h
    · cases h
    · split at h
      · cases h
      · rename_i haddr
        split at h
        · split at h
          · cases h
          · cases h
        · split at h
          · cases h
          · cases h
            exact Classical.not_not.mp haddr

theorem transact_slaveAddr (h : modbusMasterTransact request attempts = (.ok, some response)) :
    response.slaveAddr = request.slaveAddr := by
  rcases transact_ok h with ⟨bytes, -, hprocess⟩
  exact processResponse_slaveAddr hprocess

theorem transact_first {done : Transacted} (attempts : List Attempt)
    (hlen : request.data.length ≤ modbusMaxDataBytes) (h : processResponse request bytes = .ok done)
    : modbusMasterTransact request (.frame bytes :: attempts) = done := by
  unfold modbusMasterTransact
  rw [if_neg (Nat.not_lt.mpr hlen)]
  change (match processResponse request bytes with | .ok done => done | .error err => _) = done
  rw [h]

end EnvMonitor.Gateway
