import EnvMonitor.FieldDevice.ModbusSlave.Process

/-!
# A valid frame gets one well-formed response

The response length, the 8-bit byte count and the place of each data byte are computed separately
from the register count, and the limit on that count is 128.
-/

namespace EnvMonitor.FieldDevice.ModbusSlave

open Modbus EnvMonitor.Device

/-!
## What is asked of a response
-/

/-- The length that goes with the function code; for a block write, with its byte count. -/
def FullLength (frame : List UInt8) : Prop :=
  let fc := frame.getD 1 0
  if fc = fcReadHolding ∨ fc = fcReadInput ∨ fc = fcWriteSingle then frame.length = 8
  else if fc = fcWriteMultiple then frame.length = 9 + (frame.getD 6 0).toNat
  else 4 ≤ frame.length

/-- A response without its CRC, to the request `frame`. -/
inductive ResponseBody (frame : List UInt8) (addr : UInt8) : List UInt8 -> Prop
  | read (byteCount : UInt8) (data : List UInt8)
      (fc : frame.getD 1 0 = fcReadHolding ∨ frame.getD 1 0 = fcReadInput)
      (count : byteCount.toNat = 2 * (wordAt frame 4).toNat)
      (length : data.length = 2 * (wordAt frame 4).toNat) :
      ResponseBody frame addr ([addr, frame.getD 1 0, byteCount] ++ data)
  | write (fc : frame.getD 1 0 = fcWriteSingle ∨ frame.getD 1 0 = fcWriteMultiple) :
      ResponseBody frame addr
        ([addr, frame.getD 1 0] ++ (wordBytes (wordAt frame 2) ++ wordBytes (wordAt frame 4)))
  | exception (code : UInt8) :
      ResponseBody frame addr [addr, frame.getD 1 0 ||| exceptionFlag, code]

section Answered

variable {map : Type} (regMap : IModbusRegisterMap map)

structure ValidFrame (s : Slave map) (frame : List UInt8) : Prop where
  initialised : s.initialised = true
  address : frame.getD 0 0 = s.shared.slaveAddr
  crc : modbusCrc16 (frame.take (frame.length - 2)) = crcAt frame (frame.length - 2)
  full : FullLength frame

/-- One response goes out, of a permitted length and with the slave's address, which the request
itself may change; and no byte was written behind the transmit buffer. -/
def Answered (s : Slave map) (frame : List UInt8) : Prop :=
  let s' := (modbusSlaveProcess regMap frame s).2
  s'.txBuf.top ≤ modbusMaxFrameBytes ∧
    exists addr body, (modbusSlaveProcess regMap frame s).1 = some (FieldDevice.appendCrc body) ∧
      (addr = s.shared.slaveAddr ∨ addr = s'.shared.slaveAddr) ∧ ResponseBody frame addr body ∧
      5 ≤ (FieldDevice.appendCrc body).length ∧ (FieldDevice.appendCrc body).length ≤ 256

/-- How many of the rounds `i`, `i + 1`, … pass before one fails. -/
def acceptedReads (read : UInt16 -> Shared map -> SlaveErr × UInt16 × Shared map)
    (startAddr : UInt16) : Nat -> Nat -> Shared map -> Nat
  | 0, _, _ => 0
  | rounds + 1, i, shared =>
      match read (startAddr + UInt16.ofNat i) shared with
      | (.invalidAddr, _, _) => 0
      | (.deviceFail, _, _) => 0
      | (_, _, shared) => acceptedReads read startAddr rounds (i + 1) shared + 1

def readFunction (fc : UInt8) : UInt16 -> Shared map -> SlaveErr × UInt16 × Shared map :=
  if fc = fcReadInput then regMap.readInput else regMap.readHolding

/-- A read of 126 to 128 registers of which the map gives all, or the first 127. -/
def LongRead (s : Slave map) (frame : List UInt8) : Prop :=
  let count := (wordAt frame 4).toNat
  (frame.getD 1 0 = fcReadHolding ∨ frame.getD 1 0 = fcReadInput) ∧
    (126 ≤ count ∧ count ≤ 128) ∧
    min count 127 ≤
      acceptedReads (readFunction regMap (frame.getD 1 0)) (wordAt frame 2) count 0 s.shared

/-!
## Complete responses
-/

/-- The transmit buffer begins with the whole response, and that is what will be sent. -/
structure Complete (s : Slave map) (body : List UInt8) : Prop where
  holds : s.txBuf.Holds (FieldDevice.appendCrc body)
  length : s.txLen = (FieldDevice.appendCrc body).length

def SlaveStats.answered (stats : SlaveStats) : UInt32 :=
  stats.successfulResponses + stats.exceptionResponses

/-- One response was built, and counted once. -/
structure Counted (s s' : Slave map) : Prop where
  valid : s'.stats.validFrames = s.stats.validFrames
  answered : s'.stats.answered = s.stats.answered + 1
  sent : 0 < s'.txLen

variable {regMap} {s : Slave map} {body : List UInt8}

theorem appendCrc_length (body : List UInt8) :
    (FieldDevice.appendCrc body).length = body.length + 2 := by
  unfold FieldDevice.appendCrc
  rw [List.length_append, crcBytes_length]

theorem fill_holds (s : Slave map) (bytes : List UInt8) : (s.fill bytes).txBuf.Holds bytes :=
  (IndexedBuffer.holds_nil s.txBuf).putAll bytes

theorem fill_top (s : Slave map) (bytes : List UInt8) (hne : bytes ≠ []) :
    (s.fill bytes).txBuf.top = max s.txBuf.top bytes.length := by
  change (s.txBuf.putAll 0 bytes).top = _
  rw [IndexedBuffer.putAll_top hne, Nat.zero_add]

theorem finish_complete (h : s.txBuf.Holds body) : Complete (s.finish body.length) body where
  holds := by
    change (s.txBuf.putAll body.length (crcBytes (modbusCrc16 (s.txBuf.read body.length)))).Holds _
    rw [h]
    exact h.putAll (crcBytes (modbusCrc16 body))
  length := (appendCrc_length body).symm

theorem finish_top (s : Slave map) (pduLen : Nat) :
    (s.finish pduLen).txBuf.top = max s.txBuf.top (pduLen + 2) :=
  IndexedBuffer.putAll_top (List.cons_ne_nil _ _)

theorem exception_complete (fc code : UInt8) (s : Slave map) :
    Complete (buildExceptionResponse fc code s)
      [s.shared.slaveAddr, fc ||| exceptionFlag, code] := by
  have hcomplete := finish_complete (fill_holds s [s.shared.slaveAddr, fc ||| exceptionFlag, code])
  exact ⟨hcomplete.holds, hcomplete.length⟩

theorem exception_top (fc code : UInt8) (s : Slave map) :
    (buildExceptionResponse fc code s).txBuf.top = max s.txBuf.top 5 := by
  change ((s.fill _).finish 3).txBuf.top = _
  rw [finish_top, fill_top s _ (List.cons_ne_nil _ _)]
  change max (max s.txBuf.top 3) 5 = _
  omega

theorem exception_counted (fc code : UInt8) (s : Slave map) :
    Counted s (buildExceptionResponse fc code s) where
  valid := rfl
  answered := by
    change s.stats.successfulResponses + (s.stats.exceptionResponses + 1) = _
    rw [← UInt32.add_assoc]
    rfl
  sent := Nat.succ_pos _

theorem countSuccess_counted (h : 0 < s.txLen) : Counted s s.countSuccess where
  valid := rfl
  answered := by
    change s.stats.successfulResponses + 1 + s.stats.exceptionResponses = _
    rw [UInt32.add_assoc, UInt32.add_comm 1, ← UInt32.add_assoc]
    rfl
  sent := h

/-!
## Writes
-/

/-- The body of an acknowledgement: of the exception, or of the two words. -/
def ackBody (fc : UInt8) (first second : UInt16) (err : SlaveErr) (addr : UInt8) : List UInt8 :=
  match err with
  | .invalidAddr => [addr, fc ||| exceptionFlag, modbusExcIllegalAddr]
  | .invalidValue => [addr, fc ||| exceptionFlag, modbusExcIllegalValue]
  | .deviceFail => [addr, fc ||| exceptionFlag, modbusExcDeviceFail]
  | _ => [addr, fc] ++ (wordBytes first ++ wordBytes second)

theorem ackBody_length (fc : UInt8) (first second : UInt16) (err : SlaveErr) (addr : UInt8) :
    (ackBody fc first second err addr).length = 3 ∨
      (ackBody fc first second err addr).length = 6 := by
  cases err with
  | invalidAddr => exact .inl rfl
  | invalidValue => exact .inl rfl
  | deviceFail => exact .inl rfl
  | ok => exact .inr rfl
  | notInit => exact .inr rfl
  | nullArg => exact .inr rfl

theorem echo_complete (fc : UInt8) (first second : UInt16) (s : Slave map) :
    Complete (((s.fill ([s.shared.slaveAddr, fc] ++ (wordBytes first ++ wordBytes second))).finish
      6).countSuccess) ([s.shared.slaveAddr, fc] ++ (wordBytes first ++ wordBytes second)) := by
  have hcomplete := finish_complete
    (fill_holds s ([s.shared.slaveAddr, fc] ++ (wordBytes first ++ wordBytes second)))
  exact ⟨hcomplete.holds, hcomplete.length⟩

theorem acknowledge_complete (fc : UInt8) (first second : UInt16) (err : SlaveErr)
    (s : Slave map) :
    Complete (acknowledge fc first second err s)
      (ackBody fc first second err s.shared.slaveAddr) := by
  cases err with
  | invalidAddr => exact exception_complete fc modbusExcIllegalAddr s
  | invalidValue => exact exception_complete fc modbusExcIllegalValue s
  | deviceFail => exact exception_complete fc modbusExcDeviceFail s
  | ok => exact echo_complete fc first second s
  | notInit => exact echo_complete fc first second s
  | nullArg => exact echo_complete fc first second s

theorem echo_top (fc : UInt8) (first second : UInt16) (s : Slave map) :
    (((s.fill ([s.shared.slaveAddr, fc] ++ (wordBytes first ++ wordBytes second))).finish
      6).countSuccess).txBuf.top = max s.txBuf.top 8 := by
  have hfill := fill_top s ([s.shared.slaveAddr, fc] ++ (wordBytes first ++ wordBytes second))
    (List.cons_ne_nil _ _)
  change ((s.fill _).finish 6).txBuf.top = _
  rw [finish_top, hfill]
  change max (max s.txBuf.top 6) 8 = _
  omega

theorem acknowledge_top (fc : UInt8) (first second : UInt16) (err : SlaveErr) (s : Slave map) :
    (acknowledge fc first second err s).txBuf.top ≤ max s.txBuf.top 8 := by
  have hexception : forall code, (buildExceptionResponse fc code s).txBuf.top ≤
      max s.txBuf.top 8 := by
    intro code
    rw [exception_top]
    omega
  cases err with
  | invalidAddr => exact hexception modbusExcIllegalAddr
  | invalidValue => exact hexception modbusExcIllegalValue
  | deviceFail => exact hexception modbusExcDeviceFail
  | ok => exact Nat.le_of_eq (echo_top fc first second s)
  | notInit => exact Nat.le_of_eq (echo_top fc first second s)
  | nullArg => exact Nat.le_of_eq (echo_top fc first second s)

theorem acknowledge_counted (fc : UInt8) (first second : UInt16) (err : SlaveErr)
    (s : Slave map) : Counted s (acknowledge fc first second err s) := by
  have hecho : Counted s (((s.fill ([s.shared.slaveAddr, fc] ++
      (wordBytes first ++ wordBytes second))).finish 6).countSuccess) := by
    have hcounted := countSuccess_counted
      (s := (s.fill ([s.shared.slaveAddr, fc] ++ (wordBytes first ++ wordBytes second))).finish 6)
      (Nat.succ_pos _)
    exact ⟨hcounted.valid, hcounted.answered, hcounted.sent⟩
  cases err with
  | invalidAddr => exact exception_counted fc modbusExcIllegalAddr s
  | invalidValue => exact exception_counted fc modbusExcIllegalValue s
  | deviceFail => exact exception_counted fc modbusExcDeviceFail s
  | ok => exact hecho
  | notInit => exact hecho
  | nullArg => exact hecho

/-- A response in order: it stays inside the buffer, and it is a body that answers the request,
under the address from before the request or from after it. -/
structure InOrder (frame : List UInt8) (s s' : Slave map) : Prop where
  top : s'.txBuf.top ≤ max s.txBuf.top modbusMaxFrameBytes
  body : exists addr body, Complete s' body ∧
    (addr = s.shared.slaveAddr ∨ addr = s'.shared.slaveAddr) ∧ ResponseBody frame addr body ∧
    3 ≤ body.length ∧ body.length ≤ 254

variable {frame : List UInt8} {i : Nat}

theorem exception_inOrder (code : UInt8) {s1 : Slave map}
    (htop : s1.txBuf.top ≤ max s.txBuf.top modbusMaxFrameBytes) :
    InOrder frame s (buildExceptionResponse (frame.getD 1 0) code s1) where
  top := by
    rw [exception_top]
    change s1.txBuf.top ≤ max s.txBuf.top 256 at htop
    change max s1.txBuf.top 5 ≤ max s.txBuf.top 256
    omega
  body := ⟨s1.shared.slaveAddr, _, exception_complete _ code s1, .inr rfl, .exception code,
    Nat.le_refl 3, Nat.le_add_right 3 251⟩

theorem acknowledge_shared (fc : UInt8) (first second : UInt16) (err : SlaveErr)
    (s : Slave map) : (acknowledge fc first second err s).shared = s.shared := by
  cases err <;> rfl

theorem acknowledge_inOrder
    (hfc : frame.getD 1 0 = fcWriteSingle ∨ frame.getD 1 0 = fcWriteMultiple) (err : SlaveErr)
    (s : Slave map) (shared : Shared map) :
    InOrder frame s (acknowledge (frame.getD 1 0) (wordAt frame 2) (wordAt frame 4) err
      { s with shared := shared }) where
  top := by
    have htop := acknowledge_top (frame.getD 1 0) (wordAt frame 2) (wordAt frame 4) err
      { s with shared := shared }
    change _ ≤ max s.txBuf.top 8 at htop
    change _ ≤ max s.txBuf.top 256
    omega
  body := by
    have hlength := ackBody_length (frame.getD 1 0) (wordAt frame 2) (wordAt frame 4) err
      shared.slaveAddr
    have hbody : ResponseBody frame shared.slaveAddr
        (ackBody (frame.getD 1 0) (wordAt frame 2) (wordAt frame 4) err shared.slaveAddr) := by
      cases err with
      | invalidAddr => exact .exception modbusExcIllegalAddr
      | invalidValue => exact .exception modbusExcIllegalValue
      | deviceFail => exact .exception modbusExcDeviceFail
      | ok => exact .write hfc
      | notInit => exact .write hfc
      | nullArg => exact .write hfc
    have hcomplete := acknowledge_complete (frame.getD 1 0) (wordAt frame 2) (wordAt frame 4) err
      { s with shared := shared }
    refine ⟨shared.slaveAddr, _, hcomplete, ?_, hbody, ?_, ?_⟩
    · rw [acknowledge_shared]
      exact .inr rfl
    · change 3 ≤ (ackBody _ _ _ err shared.slaveAddr).length
      omega
    · change (ackBody _ _ _ err shared.slaveAddr).length ≤ 254
      omega

/-!
## Reads
-/

section Loop

variable (read : UInt16 -> Shared map -> SlaveErr × UInt16 × Shared map) (fc : UInt8)
  (startAddr : UInt16)

/-- One round whose register the map gives. -/
def Slave.readRound (s : Slave map) (i : Nat) (value : UInt16) (shared : Shared map) :
    Slave map :=
  { s with shared := shared, txBuf := s.txBuf.putAll (3 + i * 2) (wordBytes value) }

variable {i rounds : Nat}

theorem readRound_top (htop : s.txBuf.top = 3 + i * 2) (value : UInt16) (shared : Shared map) :
    (s.readRound i value shared).txBuf.top = 3 + (i + 1) * 2 := by
  have hround : (s.txBuf.putAll (3 + i * 2) (wordBytes value)).top =
      max s.txBuf.top (3 + i * 2 + (wordBytes value).length) :=
    IndexedBuffer.putAll_top (List.cons_ne_nil _ _)
  change (s.txBuf.putAll (3 + i * 2) (wordBytes value)).top = _
  rw [hround, htop, wordBytes_length]
  omega

theorem readRegs_fails (htop : s.txBuf.top = 3 + i * 2)
    (hfails : acceptedReads read startAddr rounds i s.shared < rounds) :
    exists s' code, readRegs read fc startAddr rounds i s =
        (false, buildExceptionResponse fc code s') ∧
      s'.txBuf.top = 3 + (i + acceptedReads read startAddr rounds i s.shared) * 2 ∧
      s'.stats = s.stats := by
  induction rounds generalizing s i with
  | zero => exact absurd hfails (Nat.not_lt_zero _)
  | succ rounds ih =>
      unfold readRegs
      unfold acceptedReads at hfails ⊢
      rcases hread : read (startAddr + UInt16.ofNat i) s.shared with ⟨err, value, shared⟩
      rw [hread] at hfails
      have hnext : acceptedReads read startAddr rounds (i + 1) shared + 1 < rounds + 1 ->
          exists s' code, readRegs read fc startAddr rounds (i + 1) (s.readRound i value shared) =
              (false, buildExceptionResponse fc code s') ∧
            s'.txBuf.top =
              3 + (i + (acceptedReads read startAddr rounds (i + 1) shared + 1)) * 2 ∧
            s'.stats = s.stats := by
        intro hlt
        have hrest := ih (s := s.readRound i value shared) (readRound_top htop value shared)
          (Nat.lt_of_succ_lt_succ hlt)
        rw [Nat.add_assoc, Nat.add_comm 1] at hrest
        exact hrest
      cases err with
      | invalidAddr => exact ⟨_, _, rfl, htop, rfl⟩
      | deviceFail => exact ⟨_, _, rfl, htop, rfl⟩
      | ok => exact hnext hfails
      | notInit => exact hnext hfails
      | nullArg => exact hnext hfails
      | invalidValue => exact hnext hfails

theorem acceptedReads_le (rounds i : Nat) (shared : Shared map) :
    acceptedReads read startAddr rounds i shared ≤ rounds := by
  induction rounds generalizing i shared with
  | zero => exact Nat.le_refl 0
  | succ rounds ih =>
      unfold acceptedReads
      rcases read (startAddr + UInt16.ofNat i) shared with ⟨err, value, after⟩
      have hnext := Nat.succ_le_succ (ih (i + 1) after)
      cases err with
      | invalidAddr => exact Nat.zero_le _
      | deviceFail => exact Nat.zero_le _
      | ok => exact hnext
      | notInit => exact hnext
      | nullArg => exact hnext
      | invalidValue => exact hnext

theorem readRegs_passes {xs : List UInt8} (hholds : s.txBuf.Holds xs) (hxs : xs.length = 3 + i * 2)
    (htop : s.txBuf.top = 3 + i * 2)
    (hpasses : acceptedReads read startAddr rounds i s.shared = rounds) :
    exists s' words, readRegs read fc startAddr rounds i s = (true, s') ∧
      words.length = rounds ∧ s'.txBuf.Holds (xs ++ wordsBytes words) ∧
      s'.txBuf.top = 3 + (i + rounds) * 2 ∧ s'.stats = s.stats := by
  induction rounds generalizing s i xs with
  | zero =>
      refine ⟨s, [], rfl, rfl, ?_, htop, rfl⟩
      change s.txBuf.Holds (xs ++ [])
      rw [List.append_nil]
      exact hholds
  | succ rounds ih =>
      unfold readRegs
      unfold acceptedReads at hpasses
      rcases hread : read (startAddr + UInt16.ofNat i) s.shared with ⟨err, value, shared⟩
      rw [hread] at hpasses
      have hnext : acceptedReads read startAddr rounds (i + 1) shared + 1 = rounds + 1 ->
          exists s' words,
            readRegs read fc startAddr rounds (i + 1) (s.readRound i value shared) = (true, s') ∧
            words.length = rounds + 1 ∧ s'.txBuf.Holds (xs ++ wordsBytes words) ∧
            s'.txBuf.top = 3 + (i + (rounds + 1)) * 2 ∧ s'.stats = s.stats := by
        intro hall
        have hround : (s.readRound i value shared).txBuf.Holds (xs ++ wordBytes value) := by
          change (s.txBuf.putAll (3 + i * 2) (wordBytes value)).Holds _
          rw [← hxs]
          exact hholds.putAll (wordBytes value)
        have hlength : (xs ++ wordBytes value).length = 3 + (i + 1) * 2 := by
          rw [List.length_append, wordBytes_length, hxs]
          omega
        rcases ih hround hlength (readRound_top htop value shared) (Nat.succ.inj hall) with
          ⟨s', words, heq, hwords, hholds', htop', hstats⟩
        refine ⟨s', value :: words, heq, ?_, ?_, ?_, hstats⟩
        · rw [List.length_cons, hwords]
        · rw [List.append_assoc] at hholds'
          exact hholds'
        · rw [htop']
          omega
      cases err with
      | invalidAddr => exact absurd hpasses.symm (Nat.succ_ne_zero _)
      | deviceFail => exact absurd hpasses.symm (Nat.succ_ne_zero _)
      | ok => exact hnext hpasses
      | notInit => exact hnext hpasses
      | nullArg => exact hnext hpasses
      | invalidValue => exact hnext hpasses

end Loop

theorem Counted.of_stats {s1 s' : Slave map} (h : Counted s1 s') (hstats : s1.stats = s.stats) :
    Counted s s' where
  valid := hstats ▸ h.valid
  answered := hstats ▸ h.answered
  sent := h.sent

theorem byteCount_toNat (count : UInt16) (h : count.toNat ≤ 127) :
    (count * 2).toUInt8.toNat = 2 * count.toNat := by
  rw [UInt16.toNat_toUInt8, UInt16.toNat_mul]
  change count.toNat * 2 % 65536 % 256 = 2 * count.toNat
  omega

/-- What a read request comes to: the 126th register and those behind it do not fit. -/
structure ReadOutcome (frame : List UInt8) (accepted : Nat) (s s' : Slave map) : Prop where
  counted : Counted s s'
  inOrder : ¬((126 ≤ (wordAt frame 4).toNat ∧ (wordAt frame 4).toNat ≤ 128) ∧
    min (wordAt frame 4).toNat 127 ≤ accepted) -> InOrder frame s s'
  overrun : ((126 ≤ (wordAt frame 4).toNat ∧ (wordAt frame 4).toNat ≤ 128) ∧
    min (wordAt frame 4).toNat 127 ≤ accepted) -> modbusMaxFrameBytes < s'.txBuf.top

/-- The end of a read, after the rounds of the loop. -/
def Slave.endRead (byteCount : UInt8) (loop : Bool × Slave map) : Slave map :=
  match loop with
  | (false, s) => s
  | (true, s) => (s.finish (3 + byteCount.toNat)).countSuccess

section Outcome

variable {read : UInt16 -> Shared map -> SlaveErr × UInt16 × Shared map} {frame : List UInt8}
  {s0 : Slave map}

theorem endRead_fails (htop : s0.txBuf.top = 3 + 0 * 2) (hstats : s0.stats = s.stats)
    (hmax : (wordAt frame 4).toNat ≤ 128)
    (hfails : acceptedReads read (wordAt frame 2) (wordAt frame 4).toNat 0 s0.shared <
      (wordAt frame 4).toNat) :
    ReadOutcome frame (acceptedReads read (wordAt frame 2) (wordAt frame 4).toNat 0 s0.shared) s
      (Slave.endRead (wordAt frame 4 * 2).toUInt8
        (readRegs read (frame.getD 1 0) (wordAt frame 2) (wordAt frame 4).toNat 0 s0)) := by
  rcases readRegs_fails read (frame.getD 1 0) (wordAt frame 2) htop hfails with ⟨s1, code, heq, htop1, hstats1⟩
  rw [heq]
  rw [Nat.zero_add] at htop1
  constructor
  · exact (exception_counted _ _ s1).of_stats (hstats1.trans hstats)
  · intro hshort
    apply exception_inOrder
    change s1.txBuf.top ≤ max s.txBuf.top 256
    omega
  · intro hlong
    change 256 < (buildExceptionResponse _ code s1).txBuf.top
    rw [exception_top, htop1]
    omega

theorem endRead_passes {addr : UInt8}
    (hholds : s0.txBuf.Holds [addr, frame.getD 1 0, (wordAt frame 4 * 2).toUInt8])
    (htop : s0.txBuf.top = 3 + 0 * 2) (hstats : s0.stats = s.stats)
    (haddr : addr = s.shared.slaveAddr)
    (hfc : frame.getD 1 0 = fcReadHolding ∨ frame.getD 1 0 = fcReadInput)
    (hmax : (wordAt frame 4).toNat ≤ 128)
    (hpasses : acceptedReads read (wordAt frame 2) (wordAt frame 4).toNat 0 s0.shared =
      (wordAt frame 4).toNat) :
    ReadOutcome frame (acceptedReads read (wordAt frame 2) (wordAt frame 4).toNat 0 s0.shared) s
      (Slave.endRead (wordAt frame 4 * 2).toUInt8
        (readRegs read (frame.getD 1 0) (wordAt frame 2) (wordAt frame 4).toNat 0 s0)) := by
  rcases readRegs_passes read (frame.getD 1 0) (wordAt frame 2) hholds rfl htop hpasses with
    ⟨s1, words, heq, hwords, hholds1, htop1, hstats1⟩
  rw [heq, hpasses]
  rw [Nat.zero_add] at htop1
  have htop2 := finish_top s1 (3 + (wordAt frame 4 * 2).toUInt8.toNat)
  rw [htop1] at htop2
  constructor
  · have hcounted := countSuccess_counted
      (s := s1.finish (3 + (wordAt frame 4 * 2).toUInt8.toNat)) (Nat.succ_pos _)
    exact hcounted.of_stats (hstats1.trans hstats)
  · intro hshort
    have hfits : (wordAt frame 4).toNat ≤ 125 := by omega
    have hbytes := byteCount_toNat (wordAt frame 4) (by omega)
    have hlength : ([addr, frame.getD 1 0, (wordAt frame 4 * 2).toUInt8] ++
        wordsBytes words).length = 3 + (wordAt frame 4 * 2).toUInt8.toNat := by
      rw [List.length_append, wordsBytes_length, hwords, hbytes]
      rfl
    have hcomplete := finish_complete hholds1
    rw [hlength] at hcomplete
    constructor
    · change (s1.finish _).txBuf.top ≤ max s.txBuf.top 256
      rw [htop2, hbytes]
      omega
    · refine ⟨addr, _, ⟨hcomplete.holds, hcomplete.length⟩, .inl haddr,
        .read _ _ hfc hbytes ?_, ?_, ?_⟩
      · rw [wordsBytes_length, hwords]
      · rw [hlength]
        exact Nat.le_add_right 3 _
      · rw [hlength, hbytes]
        omega
  · intro hlong
    change 256 < (s1.finish _).txBuf.top
    rw [htop2]
    by_cases hlast : (wordAt frame 4).toNat = 126
    · rw [byteCount_toNat (wordAt frame 4) (by omega), hlast]
      decide
    · omega

end Outcome

theorem buildReadResponse_outcome (regMap : IModbusRegisterMap map)
    (hfc : frame.getD 1 0 = fcReadHolding ∨ frame.getD 1 0 = fcReadInput) (htop : s.txBuf.top = 0) :
    ReadOutcome frame
      (acceptedReads (readFunction regMap (frame.getD 1 0)) (wordAt frame 2)
        (wordAt frame 4).toNat 0 s.shared) s
      (buildReadResponse regMap (frame.getD 1 0) (wordAt frame 2) (wordAt frame 4) s) := by
  unfold buildReadResponse
  by_cases hrange : wordAt frame 4 = 0 ∨ modbusMaxFrameBytes / 2 < (wordAt frame 4).toNat
  · rw [if_pos hrange]
    constructor
    · exact exception_counted _ _ s
    · intro _
      exact exception_inOrder _ (Nat.le_max_left _ _)
    · intro hlong
      rcases hrange with hzero | hbig
      · rw [hzero] at hlong
        exact absurd hlong.1.1 (by decide)
      · exact absurd hlong.1.2 (Nat.not_le_of_lt hbig)
  · rw [if_neg hrange]
    have hmax : (wordAt frame 4).toNat ≤ 128 := Nat.not_lt.mp (not_or.mp hrange).2
    have hheader := fill_holds s [s.shared.slaveAddr, frame.getD 1 0,
      (wordAt frame 4 * 2).toUInt8]
    have hheaderTop := fill_top s [s.shared.slaveAddr, frame.getD 1 0,
      (wordAt frame 4 * 2).toUInt8] (List.cons_ne_nil _ _)
    rw [htop] at hheaderTop
    have hle := acceptedReads_le (readFunction regMap (frame.getD 1 0)) (wordAt frame 2)
      (wordAt frame 4).toNat 0 s.shared
    rcases Nat.lt_or_eq_of_le hle with hfails | hpasses
    · exact endRead_fails hheaderTop rfl hmax hfails
    · exact endRead_passes hheader hheaderTop rfl rfl hfc hmax hpasses

/-!
## Frames
-/

theorem received_byte (s : Slave map) (h : i < frame.length) :
    (s.received frame).rxBuf i = frame.getD i 0 := by
  change (if hi : i < frame.length then frame[i] else s.rxBuf i) = _
  rw [dif_pos h, List.getD_eq_getElem?_getD, List.getElem?_eq_getElem h, Option.getD_some]

theorem received_word (s : Slave map) (h : i + 1 < frame.length) :
    (s.received frame).rxWord i = wordAt frame i := by
  unfold Slave.rxWord
  rw [received_byte s h, received_byte s (Nat.lt_of_succ_lt h)]
  rfl

theorem FullLength.four_le (h : FullLength frame) : 4 ≤ frame.length := by
  unfold FullLength at h
  dsimp only at h
  split at h
  · omega
  · split at h <;> omega

theorem FullLength.eight_le (h : FullLength frame)
    (hfc : frame.getD 1 0 = fcReadHolding ∨ frame.getD 1 0 = fcReadInput ∨
      frame.getD 1 0 = fcWriteSingle ∨ frame.getD 1 0 = fcWriteMultiple) : 8 ≤ frame.length := by
  unfold FullLength at h
  dsimp only at h
  split at h
  · omega
  · rename_i hother
    have hmultiple : frame.getD 1 0 = fcWriteMultiple := by
      rcases hfc with hfc | hfc | hfc | hfc
      · exact absurd (.inl hfc) hother
      · exact absurd (.inr (.inl hfc)) hother
      · exact absurd (.inr (.inr hfc)) hother
      · exact hfc
    rw [if_pos hmultiple] at h
    omega

/-- What the slave reads out of its buffer is the frame, as far as the function code uses it. -/
structure Seen (frame : List UInt8) (s : Slave map) : Prop where
  code : s.rxBuf 1 = frame.getD 1 0
  words : (frame.getD 1 0 = fcReadHolding ∨ frame.getD 1 0 = fcReadInput ∨
      frame.getD 1 0 = fcWriteSingle ∨ frame.getD 1 0 = fcWriteMultiple) ->
    s.rxWord 2 = wordAt frame 2 ∧ s.rxWord 4 = wordAt frame 4

theorem received_seen (s : Slave map) (h : FullLength frame) : Seen frame (s.received frame) where
  code := received_byte s (Nat.lt_of_lt_of_le (by decide) h.four_le)
  words := by
    intro hfc
    have height := h.eight_le hfc
    exact ⟨received_word s (by omega), received_word s (by omega)⟩

theorem seen_buffer (s : Slave map) : Seen ((List.range 8).map s.rxBuf) s :=
  ⟨rfl, fun _ => ⟨rfl, rfl⟩⟩

/-- What comes of dispatching a frame. -/
structure FrameOutcome (regMap : IModbusRegisterMap map) (frame : List UInt8) (s s' : Slave map) :
    Prop where
  counted : Counted s s'
  inOrder : ¬LongRead regMap s frame -> InOrder frame s s'
  overrun : LongRead regMap s frame -> modbusMaxFrameBytes < s'.txBuf.top

theorem buildWriteMultipleResponse_outcome (regMap : IModbusRegisterMap map)
    (hfc : frame.getD 1 0 = fcWriteMultiple) (hstart : s.rxWord 2 = wordAt frame 2)
    (hcount : s.rxWord 4 = wordAt frame 4) :
    Counted s (buildWriteMultipleResponse regMap s) ∧
      InOrder frame s (buildWriteMultipleResponse regMap s) := by
  have hrefused : Counted s (buildExceptionResponse fcWriteMultiple modbusExcIllegalValue s) ∧
      InOrder frame s (buildExceptionResponse fcWriteMultiple modbusExcIllegalValue s) := by
    constructor
    · exact exception_counted _ _ s
    · rw [← hfc]
      exact exception_inOrder _ (Nat.le_max_left _ _)
  have htaken : forall result : SlaveErr × Shared map,
      Counted s (acknowledge fcWriteMultiple (wordAt frame 2) (wordAt frame 4) result.1
          { s with shared := result.2 }) ∧
        InOrder frame s (acknowledge fcWriteMultiple (wordAt frame 2) (wordAt frame 4) result.1
          { s with shared := result.2 }) := by
    intro result
    constructor
    · exact (acknowledge_counted _ _ _ result.1 { s with shared := result.2 }).of_stats rfl
    · rw [← hfc]
      exact acknowledge_inOrder (.inr hfc) result.1 s result.2
  unfold buildWriteMultipleResponse
  rw [hstart, hcount]
  dsimp only
  split
  · exact hrefused
  · cases regMap.writeBlock with
    | none => exact htaken _
    | some writeBlock =>
        dsimp only
        split
        · exact hrefused
        · exact htaken _

theorem dispatch_outcome (regMap : IModbusRegisterMap map) (frame : List UInt8)
    (hseen : Seen frame s) (htop : s.txBuf.top = 0) :
    FrameOutcome regMap frame s (dispatch regMap s) := by
  have hnotRead : ¬(frame.getD 1 0 = fcReadHolding ∨ frame.getD 1 0 = fcReadInput) ->
      ¬LongRead regMap s frame := fun hother hlong => hother hlong.1
  unfold dispatch
  dsimp only
  rw [hseen.code]
  by_cases hread : frame.getD 1 0 = fcReadHolding ∨ frame.getD 1 0 = fcReadInput
  · rcases hseen.words (hread.elim .inl (fun h => .inr (.inl h))) with ⟨hstart, hcount⟩
    have houtcome := buildReadResponse_outcome regMap hread htop
    rw [hstart, hcount]
    have hbuilt : (if frame.getD 1 0 = fcReadHolding then
          buildReadResponse regMap fcReadHolding (wordAt frame 2) (wordAt frame 4) s
        else if frame.getD 1 0 = fcReadInput then
          buildReadResponse regMap fcReadInput (wordAt frame 2) (wordAt frame 4) s
        else if frame.getD 1 0 = fcWriteSingle then buildWriteSingleResponse regMap s
        else if frame.getD 1 0 = fcWriteMultiple then buildWriteMultipleResponse regMap s
        else
          { buildExceptionResponse (frame.getD 1 0) modbusExcIllegalFc s with
            stats.unsupportedFc := (buildExceptionResponse (frame.getD 1 0) modbusExcIllegalFc
              s).stats.unsupportedFc + 1 }) =
        buildReadResponse regMap (frame.getD 1 0) (wordAt frame 2) (wordAt frame 4) s := by
      rcases hread with hfc | hfc
      · rw [if_pos hfc, hfc]
      · rw [if_neg (by rw [hfc]; decide), if_pos hfc, hfc]
    rw [hbuilt]
    constructor
    · exact houtcome.counted
    · exact fun hshort => houtcome.inOrder fun hlong => hshort ⟨hread, hlong⟩
    · exact fun hlong => houtcome.overrun hlong.2
  · rw [if_neg (fun h => hread (.inl h)), if_neg (fun h => hread (.inr h))]
    by_cases hsingle : frame.getD 1 0 = fcWriteSingle
    · rcases hseen.words (.inr (.inr (.inl hsingle))) with ⟨hstart, hcount⟩
      rw [if_pos hsingle]
      unfold buildWriteSingleResponse
      rw [hstart, hcount]
      constructor
      · exact (acknowledge_counted _ _ _ _ { s with shared := _ }).of_stats rfl
      · intro _
        rw [← hsingle]
        exact acknowledge_inOrder (.inl hsingle) _ s _
      · exact fun hlong => absurd hlong (hnotRead hread)
    · rw [if_neg hsingle]
      by_cases hmultiple : frame.getD 1 0 = fcWriteMultiple
      · rcases hseen.words (.inr (.inr (.inr hmultiple))) with ⟨hstart, hcount⟩
        have houtcome := buildWriteMultipleResponse_outcome regMap hmultiple hstart hcount
        rw [if_pos hmultiple]
        exact ⟨houtcome.1, fun _ => houtcome.2, fun hlong => absurd hlong (hnotRead hread)⟩
      · rw [if_neg hmultiple]
        have hcounted := exception_counted (frame.getD 1 0) modbusExcIllegalFc s
        have hinOrder : InOrder frame s
            (buildExceptionResponse (frame.getD 1 0) modbusExcIllegalFc s) :=
          exception_inOrder _ (Nat.le_max_left _ _)
        rcases hinOrder.body with ⟨addr, body, hcomplete, hrest⟩
        constructor
        · exact ⟨hcounted.valid, hcounted.answered, hcounted.sent⟩
        · exact fun _ => ⟨hinOrder.top, addr, body, ⟨hcomplete.holds, hcomplete.length⟩, hrest⟩
        · exact fun hlong => absurd hlong (hnotRead hread)

theorem process_valid (regMap : IModbusRegisterMap map) (h : ValidFrame s frame) :
    modbusSlaveProcess regMap frame s =
      let s' := dispatch regMap { s.received frame with
        stats.validFrames := s.stats.validFrames + 1 }
      if 0 < s'.txLen then (some (s'.txBuf.read s'.txLen), s') else (none, s') := by
  have haddr : (s.received frame).rxBuf 0 = (s.received frame).shared.slaveAddr := by
    rw [received_byte s (Nat.lt_of_lt_of_le (by decide) h.full.four_le), h.address]
    rfl
  unfold modbusSlaveProcess
  rw [h.initialised]
  dsimp only
  rw [if_neg (by decide), if_neg (Nat.not_lt.mpr h.full.four_le), if_neg (not_not_intro haddr),
    if_neg (not_not_intro h.crc)]
  rfl

theorem answered_iff (regMap : IModbusRegisterMap map) (h : ValidFrame s frame) :
    Answered regMap s frame ↔ ¬LongRead regMap s frame := by
  have houtcome := dispatch_outcome regMap frame
    (s := { s.received frame with stats.validFrames := s.stats.validFrames + 1 })
    ⟨(received_seen s h.full).code, (received_seen s h.full).words⟩ rfl
  unfold Answered
  rw [process_valid regMap h]
  dsimp only
  rw [if_pos houtcome.counted.sent]
  constructor
  · intro hgood hlong
    exact absurd hgood.1 (Nat.not_le_of_lt (houtcome.overrun hlong))
  · intro hshort
    have horder := houtcome.inOrder hshort
    rcases horder.body with ⟨addr, body, hcomplete, haddr, hbody, hmin, hmax⟩
    have hlength := appendCrc_length body
    refine ⟨horder.top, addr, body, ?_, haddr, hbody, by omega, by omega⟩
    rw [hcomplete.length, hcomplete.holds]

/-!
## Runs
-/

/-- As many responses as valid frames, modulo 2^32. -/
def Balanced (s : Slave map) : Prop := s.stats.validFrames = s.stats.answered

theorem Balanced.process (regMap : IModbusRegisterMap map) (h : Balanced s)
    (frame : List UInt8) : Balanced (modbusSlaveProcess regMap frame s).2 := by
  unfold modbusSlaveProcess
  dsimp only
  split
  · exact h
  · split
    · exact h
    · split
      · exact h
      · split
        · exact h
        · have hseen := seen_buffer
            { s.received frame with stats.validFrames := s.stats.validFrames + 1 }
          have hcounted := (dispatch_outcome regMap _ hseen rfl).counted
          have hnext : s.stats.validFrames + 1 = s.stats.answered + 1 := congrArg (· + 1) h
          have hbalanced := hcounted.valid.trans (hnext.trans hcounted.answered.symm)
          split <;> exact hbalanced

theorem Reached.balanced (h : Reached regMap s) : Balanced s := by
  induction h with
  | boot => rfl
  | init _ slaveAddr ih =>
      unfold modbusSlaveInit
      split <;> exact ih
  | setAddress _ newAddr ih =>
      unfold modbusSlaveSetAddress
      split
      · exact ih
      · split <;> exact ih
  | resetStats => rfl
  | process _ frame ih => exact ih.process regMap frame
  | others _ _ _ _ ih => exact ih

/-- In every run the responses are counted as the frames are, and a valid frame gets its one
response in order exactly if it is no long read. -/
theorem valid_frames_answered_iff (h : Reached regMap s) :
    s.stats.validFrames = s.stats.successfulResponses + s.stats.exceptionResponses ∧
      forall frame, ValidFrame s frame ->
        (Answered regMap s frame ↔ ¬LongRead regMap s frame) :=
  ⟨h.balanced, fun _ hvalid => answered_iff regMap hvalid⟩

/-- A map whose registers all read zero and take every value. -/
def zeroMap : IModbusRegisterMap Unit where
  readInput _ shared := (.ok, 0, shared)
  readHolding _ shared := (.ok, 0, shared)
  writeHolding _ _ shared := (.ok, shared)
  writeBlock := none

/-- A slave at address 1. -/
def freshSlave : Slave Unit :=
  (modbusSlaveInit 1 ⟨false, ⟨0, ()⟩, fun _ => 0, ⟨fun _ => 0, 0⟩, 0, .zero⟩).2

/-- The slave when it has taken a register and rejected an unknown function code. -/
def askedSlave : Slave Unit :=
  (modbusSlaveProcess zeroMap (FieldDevice.appendCrc [1, 0x2B, 0, 0])
    (modbusSlaveProcess zeroMap (FieldDevice.appendCrc [1, fcWriteSingle, 0, 1, 0, 9])
      freshSlave).2).2

/-- Both responses are counted, and a read of two registers gets its response. -/
theorem valid_frames_answered_read :
    askedSlave.stats.validFrames = 2 ∧
      askedSlave.stats.successfulResponses + askedSlave.stats.exceptionResponses = 2 ∧
      askedSlave.stats.exceptionResponses = 1 ∧
      Answered zeroMap askedSlave (FieldDevice.appendCrc [1, fcReadInput, 0, 0, 0, 2]) := by
  have hreached : Reached zeroMap askedSlave := .process (.process (.init (.boot () _ _) 1) _) _
  rcases valid_frames_answered_iff hreached with ⟨hbalanced, hanswered⟩
  have htwo : askedSlave.stats.validFrames = 2 := by decide +kernel
  have hvalid : ValidFrame askedSlave (FieldDevice.appendCrc [1, fcReadInput, 0, 0, 0, 2]) := by
    constructor
    · decide +kernel
    · decide +kernel
    · decide +kernel
    · unfold FullLength
      decide +kernel
  have hshort : ¬LongRead zeroMap askedSlave
      (FieldDevice.appendCrc [1, fcReadInput, 0, 0, 0, 2]) := by
    rintro ⟨_, ⟨hcount, _⟩, _⟩
    exact absurd hcount (by decide +kernel)
  exact ⟨htwo, hbalanced.symm.trans htwo, by decide +kernel, (hanswered _ hvalid).mpr hshort⟩

/-- A read of 126 input registers, with its CRC. -/
def longRequest : List UInt8 := FieldDevice.appendCrc [1, fcReadInput, 0, 0, 0, 126]

/-- The second CRC byte of the response goes behind the buffer. -/
theorem long_read_overruns :
    ¬forall (regMap : IModbusRegisterMap Unit) (s : Slave Unit), Reached regMap s ->
      forall frame, ValidFrame s frame -> Answered regMap s frame := by
  intro hclaim
  have hvalid : ValidFrame freshSlave longRequest := by
    constructor
    · decide
    · decide +kernel
    · decide +kernel
    · unfold FullLength
      decide +kernel
  have hanswered := hclaim zeroMap freshSlave (.init (.boot () _ _) 1) longRequest hvalid
  exact absurd hanswered.1 (by decide +kernel)

end Answered

end EnvMonitor.FieldDevice.ModbusSlave
