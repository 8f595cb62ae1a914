import EnvMonitor.FieldDevice.AddressChange
import EnvMonitor.Gateway.ModbusPoller.Requests

/-!
# One exchange between poller and field device

The request goes to the field device unmodified, its response comes back unmodified.
-/

namespace EnvMonitor.Gateway

open Modbus FieldDevice

/-- The words that `post_command_result` hands to the caller of a command. -/
def commandResultWords (response : ModbusFrame) : List UInt16 :=
  (List.range (min (response.data.length / 2) 125)).map (fun i => wordAt response.data (i * 2))

/-- The words the poller takes out of a response. -/
def wordsOf (op : Operation) (response : ModbusFrame) : List UInt16 :=
  match op with
  | .readInput _ count => (List.range count.toNat).map (responseWord response)
  | _ => commandResultWords response

variable {sigma : Type} (svc : Services sigma)

/-- The device reads the request that was sent, performs it once and answers; the same call of
the master returns the words or the exception code of that answer. -/
def Understood (d : Device sigma) (req : PollerRequest) (attempts : List Attempt) : Prop :=
  let wire := mbmBuildWireFrame req.frame
  let answer := perform svc (d.received wire) req.operation
  Decoded (d.received wire).rxBuf req.slaveAddr req.operation ∧
    exists reply, modbusSlaveProcess svc wire d = (some reply, answer.2) ∧
      match answer.1 with
      | .ok words =>
          exists response,
            modbusMasterTransact req.frame (.frame reply :: attempts) = (.ok, some response) ∧
              wordsOf req.operation response = words
      | .error code =>
          modbusMasterTransact req.frame (.frame reply :: attempts) =
            (.exception,
              some ⟨req.slaveAddr, req.operation.functionCode ||| exceptionFlag, [code]⟩)

variable {words : List UInt16}

theorem wordsOf_read (addr : UInt8) (start count : UInt16) (h : words.length = count.toNat) :
    wordsOf (.readInput start count)
      ((Operation.readInput start count).response addr (.ok words)) = words := by
  have hwords := map_wordAt [Operation.byteCount words.length] [] words
  rw [List.append_nil] at hwords
  unfold wordsOf
  dsimp only
  rw [← h]
  exact hwords

theorem commandResultWords_eq (addr fc : UInt8) (h : words.length ≤ 125) :
    commandResultWords ⟨addr, fc, wordsBytes words⟩ = words := by
  have hwords := map_wordAt [] [] words
  simp only [List.nil_append, List.append_nil, List.length_nil, Nat.zero_add] at hwords
  unfold commandResultWords
  rw [wordsBytes_length, Nat.mul_div_cancel_left words.length (by decide), Nat.min_eq_left h]
  exact hwords

theorem writeAnswer_words {answer : List UInt16} {result : ModbusException × Device sigma}
    (h : (writeAnswer words result).1 = .ok answer) : answer = words := by
  unfold writeAnswer at h
  cases hcode : (bridgeExcToErr result.1).code with
  | none =>
      rw [hcode] at h
      exact (Except.ok.inj h).symm
  | some code =>
      rw [hcode] at h
      cases h

theorem wordsOf_response (d : Device sigma) (op : Operation) (addr : UInt8)
    (h : (perform svc d op).1 = .ok words) : wordsOf op (op.response addr (.ok words)) = words := by
  cases op with
  | readInput start count =>
      apply wordsOf_read
      unfold perform at h
      dsimp only at h
      cases hread : mrmReadInputRegs svc d start count.toNat with
      | error exc =>
          rw [hread] at h
          cases h
      | ok values =>
          rw [hread] at h
          rw [← Except.ok.inj h]
          exact mrmReadInputRegs_length svc hread
  | writeSingle reg value =>
      rw [writeAnswer_words h]
      exact commandResultWords_eq addr fcWriteSingle (Nat.le_of_ble_eq_true rfl)
  | writeMultiple start values =>
      rw [writeAnswer_words h]
      exact commandResultWords_eq addr fcWriteMultiple (Nat.le_of_ble_eq_true rfl)

theorem transact_response (req : PollerRequest) (answer : Answer) (attempts : List Attempt) :
    modbusMasterTransact req.frame
        (.frame (req.operation.response req.slaveAddr answer).onWire :: attempts) =
      match answer with
      | .ok words => (.ok, some (req.operation.response req.slaveAddr (.ok words)))
      | .error code => (.exception,
          some ⟨req.slaveAddr, req.operation.functionCode ||| exceptionFlag, [code]⟩) := by
  have hlen : req.frame.data.length ≤ modbusMaxDataBytes := by
    rw [frame_eq]
    exact Operation.data_length (operation_fits req)
  have haddr : req.slaveAddr = req.frame.slaveAddr := by
    rw [frame_eq]
    rfl
  have hfc : req.operation.functionCode = req.frame.functionCode := by
    rw [frame_eq]
    rfl
  cases answer with
  | ok words =>
      apply transact_first attempts hlen
      apply processResponse_ok
      · rw [Operation.response_slaveAddr]
        exact haddr
      · rw [Operation.response_functionCode]
        exact hfc
      · rw [← hfc]
        exact Operation.functionCode_plain req.operation
  | error code =>
      have hresponse : req.operation.response req.slaveAddr (.error code) =
          ⟨req.slaveAddr, req.frame.functionCode ||| exceptionFlag, [code]⟩ := by
        rw [← hfc]
        rfl
      dsimp only
      rw [hresponse, hfc]
      exact transact_first attempts hlen (processResponse_exception req.slaveAddr code haddr)

theorem transact_moved (req : PollerRequest) (answer : Answer) (attempts : List Attempt)
    {addr : UInt8} (h : addr ≠ req.slaveAddr) :
    modbusMasterTransact req.frame (.frame (req.operation.response addr answer).onWire :: attempts) =
      (.badResponse, none) := by
  have hlen : req.frame.data.length ≤ modbusMaxDataBytes := by
    rw [frame_eq]
    exact Operation.data_length (operation_fits req)
  apply transact_first attempts hlen
  apply processResponse_otherSlave
  rw [Operation.response_slaveAddr, frame_eq]
  exact h

theorem process_frame (d : Device sigma) (req : PollerRequest)
    (haddr : req.slaveAddr = d.slaveAddr) :
    Decoded (d.received (mbmBuildWireFrame req.frame)).rxBuf req.slaveAddr req.operation ∧
      modbusSlaveProcess svc (mbmBuildWireFrame req.frame) d =
        let after := perform svc (d.received (mbmBuildWireFrame req.frame)) req.operation
        (some (req.operation.response after.2.slaveAddr after.1).onWire, after.2) := by
  have hwire : mbmBuildWireFrame req.frame = (req.operation.request d.slaveAddr).onWire := by
    rw [mbmBuildWireFrame_eq, frame_eq, haddr]
  rw [hwire, haddr]
  exact ⟨received_request d req.operation d.slaveAddr,
    modbusSlaveProcess_request svc d req.operation (operation_fits req)⟩

theorem not_understood (d : Device sigma) (req : PollerRequest) (attempts : List Attempt)
    (haddr : req.slaveAddr = d.slaveAddr) (hchange : ChangesAddress svc d req.operation) :
    ¬Understood svc d req attempts := by
  let received := d.received (mbmBuildWireFrame req.frame)
  rcases process_frame svc d req haddr with ⟨-, hprocess⟩
  have haway : (perform svc received req.operation).2.slaveAddr ≠ req.slaveAddr := by
    intro hsame
    rw [haddr] at hsame
    exact (perform_slaveAddr svc received req.operation).mp hsame hchange
  intro h
  rcases h with ⟨-, reply, hreply, hresult⟩
  rw [hprocess] at hreply
  rw [← Option.some.inj (Prod.mk.inj hreply).1, transact_moved req _ attempts haway] at hresult
  cases hanswer : (perform svc received req.operation).1 with
  | ok words =>
      rw [hanswer] at hresult
      rcases hresult with ⟨response, hresponse, -⟩
      cases hresponse
  | error code =>
      rw [hanswer] at hresult
      cases hresult

theorem understood_of_stays (d : Device sigma) (req : PollerRequest) (attempts : List Attempt)
    (haddr : req.slaveAddr = d.slaveAddr) (hstays : ¬ChangesAddress svc d req.operation) :
    Understood svc d req attempts := by
  let received := d.received (mbmBuildWireFrame req.frame)
  rcases process_frame svc d req haddr with ⟨hdecoded, hprocess⟩
  have hsame : (perform svc received req.operation).2.slaveAddr = d.slaveAddr :=
    (perform_slaveAddr svc received req.operation).mpr hstays
  refine ⟨hdecoded, _, hprocess, ?_⟩
  rw [hsame, ← haddr, transact_response]
  cases hanswer : (perform svc received req.operation).1 with
  | ok words =>
      exact ⟨_, rfl, wordsOf_response svc received req.operation req.slaveAddr hanswer⟩
  | error code => rfl

/-- The two CRCs agree, and gateway and device understand each other exactly when the request
does not move the device to another address. -/
theorem understood_iff (d : Device sigma) (req : PollerRequest) (attempts : List Attempt)
    (haddr : req.slaveAddr = d.slaveAddr) :
    (forall data, modbusCrc16 data = mbmCrc16 data) ∧
      (Understood svc d req attempts ↔ ¬ChangesAddress svc d req.operation) := by
  refine ⟨crc16_agree, ?_, understood_of_stays svc d req attempts haddr⟩
  intro h hchange
  exact not_understood svc d req attempts haddr hchange h

/-- A device that takes every parameter. -/
def quietServices : Services Unit where
  version := ⟨1, 0, 0⟩
  sensorSnapshot := fun _ => none
  alarmStates := fun _ _ => .clear
  params := fun _ => ⟨0, 4000, 50, 2000, 8000, 100, 9000, 10500, 10, 1000, 1⟩
  healthSnapshot := fun _ => ⟨1, 60, 0⟩
  setParam := fun _ rest => (true, rest)
  ackAll := fun rest => rest
  handleRemoteCommand := fun _ rest => rest
  setTime := fun _ rest => (true, rest)

def quietDevice : Device Unit where
  slaveAddr := 1
  rxBuf := []
  initialised := true
  cmdAckAlarmLast := 0
  cmdResetMetricsLast := 0
  cmdSoftRestartLast := 0
  cmdSetTimeHiLast := 0
  cmdSetTimeLoLast := 0
  lastStatsSnapshot := ⟨0, 0⟩
  rest := ()

theorem understood_iff_identity :
    (forall data, modbusCrc16 data = mbmCrc16 data) ∧
      (Understood quietServices quietDevice (.identity defaultProfile) [] ↔
        ¬ChangesAddress quietServices quietDevice (.readInput identityRegStart identityRegCount)) :=
  understood_iff quietServices quietDevice (.identity defaultProfile) [] rfl

/-- Address 1 is told to become address 2. -/
theorem addressWrite_not_understood :
    ¬Understood quietServices quietDevice
      (.command ⟨1, fcWriteSingle, mrmRegModbusSlaveAddr, 0, [2]⟩ (by decide)) [] :=
  not_understood quietServices quietDevice _ [] rfl
    ⟨2, rfl, rfl, rfl, rfl, by decide⟩

end EnvMonitor.Gateway
