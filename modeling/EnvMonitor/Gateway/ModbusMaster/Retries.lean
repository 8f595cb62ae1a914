import EnvMonitor.Gateway.ModbusMaster

/-!
# The retries of the Modbus master

`modbus_master_transact` attempt by attempt, with its counters and its `uint8_t` loop variable,
over everything the UART can do.
-/

namespace EnvMonitor.Gateway

open Modbus

/-!
## Counters
-/

/-- `modbus_master_stats_t`. -/
structure ModbusMasterStats where
  transactionsSent : UInt32
  transactionsOk : UInt32
  timeouts : UInt32
  crcErrors : UInt32
  rxErrors : UInt32
  exceptionResponses : UInt32
  badResponses : UInt32
  deriving DecidableEq, Repr

/-- The counters as `memset` leaves them. -/
def modbusMasterStatsZero : ModbusMasterStats := ⟨0, 0, 0, 0, 0, 0, 0⟩

/-- Every exit of an attempt raises the counter of the error it sets or returns. -/
def ModbusMasterStats.count (stats : ModbusMasterStats) : ModbusMasterErr -> ModbusMasterStats
  | .ok => { stats with transactionsOk := stats.transactionsOk + 1 }
  | .timeout => { stats with timeouts := stats.timeouts + 1 }
  | .rxError => { stats with rxErrors := stats.rxErrors + 1 }
  | .badResponse => { stats with badResponses := stats.badResponses + 1 }
  | .crc => { stats with crcErrors := stats.crcErrors + 1 }
  | .exception => { stats with exceptionResponses := stats.exceptionResponses + 1 }
  | .invalidArg => stats

def ModbusMasterStats.sent (stats : ModbusMasterStats) : ModbusMasterStats :=
  { stats with transactionsSent := stats.transactionsSent + 1 }

/-- Every request sent is in exactly one of the other counters, modulo `2 ^ 32`. -/
def ModbusMasterStats.Balanced (stats : ModbusMasterStats) : Prop :=
  stats.transactionsSent = stats.transactionsOk + stats.timeouts + stats.rxErrors +
    stats.badResponses + stats.crcErrors + stats.exceptionResponses

/-!
## The loop
-/

/-- `s_mm`, once started. -/
structure ModbusMaster where
  maxRetries : UInt8
  stats : ModbusMasterStats
  deriving DecidableEq, Repr

/-- Where a call stands: in front of an attempt, or back at the caller. -/
inductive Transaction where
  | attempting (attempt : UInt8) (lastErr : ModbusMasterErr)
  | returned (done : Transacted)
  deriving DecidableEq, Repr

structure TransactRun where
  stats : ModbusMasterStats
  transaction : Transaction
  deriving DecidableEq, Repr

/-- `attempt <= s_mm.max_retries`, else the last error. -/
def loopHead (maxRetries attempt : UInt8) (lastErr : ModbusMasterErr) : Transaction :=
  if attempt <= maxRetries then .attempting attempt lastErr else .returned (lastErr, none)

/-- The call up to the head of its loop. -/
def transactStart (master : ModbusMaster) (request : ModbusFrame) : TransactRun :=
  if modbusMaxDataBytes < request.data.length then
    ⟨master.stats, .returned (.invalidArg, none)⟩
  else
    ⟨master.stats, loopHead master.maxRetries 0 .timeout⟩

/-- One pass through the loop. -/
def attemptStep (request : ModbusFrame) (maxRetries : UInt8) (run : TransactRun)
    (attempt : Attempt) : TransactRun :=
  match run.transaction with
  | .returned _ => run
  | .attempting n _ =>
      match runAttempt request attempt with
      | .ok done => ⟨run.stats.sent.count done.1, .returned done⟩
      | .error err => ⟨run.stats.sent.count err, loopHead maxRetries (n + 1) err⟩

/-- The call after `n` attempts, with the UART's behaviour in each. -/
def afterAttempts (master : ModbusMaster) (request : ModbusFrame) (uart : Nat -> Attempt) :
    Nat -> TransactRun
  | 0 => transactStart master request
  | n + 1 =>
      attemptStep request master.maxRetries (afterAttempts master request uart n) (uart n)

/-- The states of the master between two calls, from `modbus_master_init` on. -/
inductive MasterReached : ModbusMaster -> Prop where
  | init (maxRetries : UInt8) : MasterReached ⟨maxRetries, modbusMasterStatsZero⟩
  | resetStats {master : ModbusMaster} :
      MasterReached master -> MasterReached { master with stats := modbusMasterStatsZero }
  | transact {master : ModbusMaster} {request : ModbusFrame} {uart : Nat -> Attempt} {n : Nat}
      {done : Transacted} : MasterReached master ->
      (afterAttempts master request uart n).transaction = .returned done ->
      MasterReached { master with stats := (afterAttempts master request uart n).stats }

/-- The receiver finds no damage. -/
def Intact (bytes : List UInt8) : Prop :=
  4 <= bytes.length ∧ mbmCrc16 (bytes.take (bytes.length - 2)) = crcAt bytes (bytes.length - 2)

instance (bytes : List UInt8) : Decidable (Intact bytes) := by
  unfold Intact
  infer_instance

/-- The data bytes between the function code and the check sum. -/
def frameData (bytes : List UInt8) : List UInt8 :=
  (bytes.take (bytes.length - 2)).drop 2

/-- What a call keeps to. -/
structure TransactionKeeps (master : ModbusMaster) (request : ModbusFrame)
    (uart : Nat -> Attempt) : Prop where
  /-- It returns after at most `max_retries + 1` attempts. -/
  ends : exists n done, n <= master.maxRetries.toNat + 1 ∧
    (afterAttempts master request uart n).transaction = .returned done
  /-- It returns OK for an intact frame of the slave and the function asked for only, with
  that frame's data. -/
  exact : forall n response,
    (afterAttempts master request uart n).transaction = .returned (.ok, response) ->
    exists i bytes, i < n ∧ uart i = .frame bytes ∧ Intact bytes ∧
      bytes.getD 0 0 = request.slaveAddr ∧ bytes.getD 1 0 = request.functionCode ∧
      response = some ⟨request.slaveAddr, request.functionCode, frameData bytes⟩
  /-- The counters balance in front of every attempt and at the end. -/
  balanced : forall n, (afterAttempts master request uart n).stats.Balanced

/-!
## One attempt
-/

section Attempts

variable {stats : ModbusMasterStats} {request : ModbusFrame} {bytes : List UInt8}
variable {master : ModbusMaster} {uart : Nat -> Attempt} {n : Nat}

theorem ModbusMasterStats.Balanced.attempt (h : stats.Balanced) {err : ModbusMasterErr}
    (herr : err ≠ .invalidArg) : (stats.sent.count err).Balanced := by
  unfold Balanced at h ⊢
  cases err with
  | invalidArg => exact absurd rfl herr
  | ok | timeout | rxError | badResponse | crc | exception =>
      dsimp only [count, sent]
      rw [h]
      ac_rfl

theorem processResponse_intact (request : ModbusFrame) (h : Intact bytes) :
    exists done, processResponse request bytes = .ok done ∧ done.1 ≠ .invalidArg ∧
      (done.1 = .ok -> bytes.getD 0 0 = request.slaveAddr ∧
        bytes.getD 1 0 = request.functionCode ∧
        done.2 = some ⟨request.slaveAddr, request.functionCode, frameData bytes⟩) := by
  unfold processResponse
  dsimp only
  rw [if_neg (Nat.not_lt.mpr h.1), if_neg (fun hne => hne h.2)]
  by_cases haddr : bytes.getD 0 0 = request.slaveAddr
  · rw [if_neg (fun hne => hne haddr)]
    by_cases hexception : bytes.getD 1 0 = request.functionCode ||| exceptionFlag
    · rw [if_pos hexception]
      by_cases hshort : bytes.length < 5
      · rw [if_pos hshort]
        exact ⟨_, rfl, ModbusMasterErr.noConfusion, fun hok => ModbusMasterErr.noConfusion hok⟩
      · rw [if_neg hshort]
        exact ⟨_, rfl, ModbusMasterErr.noConfusion, fun hok => ModbusMasterErr.noConfusion hok⟩
    · rw [if_neg hexception]
      by_cases hfc : bytes.getD 1 0 = request.functionCode
      · rw [if_neg (fun hne => hne hfc), haddr, hfc]
        exact ⟨_, rfl, ModbusMasterErr.noConfusion, fun _ => ⟨rfl, rfl, rfl⟩⟩
      · rw [if_pos hfc]
        exact ⟨_, rfl, ModbusMasterErr.noConfusion, fun hok => ModbusMasterErr.noConfusion hok⟩
  · rw [if_pos haddr]
    exact ⟨_, rfl, ModbusMasterErr.noConfusion, fun hok => ModbusMasterErr.noConfusion hok⟩

theorem processResponse_damaged (request : ModbusFrame) (h : ¬ Intact bytes) :
    exists err, processResponse request bytes = .error err ∧ err ≠ .invalidArg ∧ err ≠ .ok := by
  unfold processResponse
  dsimp only
  by_cases hshort : bytes.length < 4
  · rw [if_pos hshort]
    exact ⟨_, rfl, ModbusMasterErr.noConfusion, ModbusMasterErr.noConfusion⟩
  · rw [if_neg hshort, if_pos (fun hcrc => h ⟨Nat.le_of_not_lt hshort, hcrc⟩)]
    exact ⟨_, rfl, ModbusMasterErr.noConfusion, ModbusMasterErr.noConfusion⟩

theorem runAttempt_cases (request : ModbusFrame) (attempt : Attempt) :
    (exists bytes done, attempt = .frame bytes ∧ Intact bytes ∧
      runAttempt request attempt = .ok done ∧ done.1 ≠ .invalidArg ∧
      (done.1 = .ok -> bytes.getD 0 0 = request.slaveAddr ∧
        bytes.getD 1 0 = request.functionCode ∧
        done.2 = some ⟨request.slaveAddr, request.functionCode, frameData bytes⟩)) ∨
    ((forall bytes, attempt = .frame bytes -> ¬ Intact bytes) ∧
      exists err, runAttempt request attempt = .error err ∧ err ≠ .invalidArg ∧ err ≠ .ok) := by
  cases attempt with
  | txFailed | noResponse | rxError =>
      exact .inr ⟨fun _ h => (Attempt.noConfusion h), _, rfl, ModbusMasterErr.noConfusion,
        ModbusMasterErr.noConfusion⟩
  | frame bytes =>
      by_cases hintact : Intact bytes
      · rcases processResponse_intact request hintact with ⟨done, hdone, hvalid, hok⟩
        exact .inl ⟨bytes, done, rfl, hintact, hdone, hvalid, hok⟩
      · rcases processResponse_damaged request hintact with ⟨err, herr, hvalid⟩
        refine .inr ⟨?_, err, herr, hvalid⟩
        intro other hother
        cases hother
        exact hintact

theorem returned_after_intact (hframe : uart n = .frame bytes) (hintact : Intact bytes) :
    exists done, (afterAttempts master request uart (n + 1)).transaction = .returned done := by
  unfold afterAttempts attemptStep
  cases hbefore : (afterAttempts master request uart n).transaction with
  | returned done => exact ⟨done, hbefore⟩
  | attempting attempt lastErr =>
      rcases runAttempt_cases request (uart n) with ⟨_, done, _, _, hrun, _⟩ | ⟨hnone, _⟩
      · dsimp only
        rw [hrun]
        exact ⟨done, rfl⟩
      · exact absurd hintact (hnone bytes hframe)

theorem attempts_counted (hfits : request.data.length <= modbusMaxDataBytes) {limit : Nat}
    (hlimit : limit <= master.maxRetries.toNat + 1) (hbyte : limit <= 255) (hn : n <= limit) :
    (exists done, (afterAttempts master request uart n).transaction = .returned done) ∨
      exists lastErr, (afterAttempts master request uart n).transaction =
        loopHead master.maxRetries (UInt8.ofNat n) lastErr := by
  induction n with
  | zero =>
      refine .inr ⟨.timeout, ?_⟩
      unfold afterAttempts transactStart
      rw [if_neg (Nat.not_lt.mpr hfits)]
      rfl
  | succ n ih =>
      unfold afterAttempts attemptStep
      rcases ih (by omega) with ⟨done, hdone⟩ | ⟨lastErr, hhead⟩
      · rw [hdone]
        exact .inl ⟨done, hdone⟩
      · have hle : UInt8.ofNat n <= master.maxRetries := by
          rw [UInt8.le_iff_toNat_le, UInt8.toNat_ofNat']
          omega
        rw [hhead, loopHead, if_pos hle]
        dsimp only
        rcases runAttempt_cases request (uart n) with ⟨_, done, _, _, hrun, _⟩ | ⟨_, err, hrun, _⟩
        · rw [hrun]
          exact .inl ⟨done, rfl⟩
        · rw [hrun]
          refine .inr ⟨err, ?_⟩
          change loopHead master.maxRetries (UInt8.ofNat n + 1) err = _
          rw [UInt8.ofNat_add]
          rfl

theorem attempting_forever (hfits : request.data.length <= modbusMaxDataBytes)
    (hmax : master.maxRetries = 255)
    (hnone : forall i bytes, i < n -> uart i = .frame bytes -> ¬ Intact bytes) :
    exists attempt lastErr,
      (afterAttempts master request uart n).transaction = .attempting attempt lastErr := by
  have hhead : forall attempt lastErr,
      loopHead master.maxRetries attempt lastErr = .attempting attempt lastErr := by
    intro attempt lastErr
    unfold loopHead
    rw [hmax, if_pos]
    rw [UInt8.le_iff_toNat_le]
    exact Nat.le_of_lt_succ attempt.toNat_lt
  induction n with
  | zero =>
      unfold afterAttempts transactStart
      rw [if_neg (Nat.not_lt.mpr hfits)]
      exact ⟨0, .timeout, hhead 0 .timeout⟩
  | succ n ih =>
      rcases ih (fun i bytes hi => hnone i bytes (Nat.lt_succ_of_lt hi)) with
        ⟨attempt, lastErr, hat⟩
      unfold afterAttempts attemptStep
      rw [hat]
      dsimp only
      rcases runAttempt_cases request (uart n) with ⟨bytes, _, hframe, hintact, _⟩ |
        ⟨_, err, hrun, _⟩
      · exact absurd hintact (hnone n bytes (Nat.lt_succ_self n) hframe)
      · rw [hrun]
        exact ⟨attempt + 1, err, hhead (attempt + 1) err⟩

theorem afterAttempts_keeps (hbalanced : master.stats.Balanced) (n : Nat) :
    (afterAttempts master request uart n).stats.Balanced ∧
      forall response,
        (afterAttempts master request uart n).transaction = .returned (.ok, response) ->
        exists i bytes, i < n ∧ uart i = .frame bytes ∧ Intact bytes ∧
          bytes.getD 0 0 = request.slaveAddr ∧ bytes.getD 1 0 = request.functionCode ∧
          response = some ⟨request.slaveAddr, request.functionCode, frameData bytes⟩ := by
  have hhead : forall attempt lastErr response, lastErr ≠ .ok ->
      loopHead master.maxRetries attempt lastErr ≠ .returned (.ok, response) := by
    intro attempt lastErr response hne
    unfold loopHead
    split
    · exact Transaction.noConfusion
    · intro h
      injection h with h
      injection h with herr _
      exact hne herr
  induction n with
  | zero =>
      unfold afterAttempts transactStart
      split
      · exact ⟨hbalanced, fun response h => by cases h⟩
      · exact ⟨hbalanced, fun response h =>
          (hhead 0 .timeout response ModbusMasterErr.noConfusion h).elim⟩
  | succ n ih =>
      rcases ih with ⟨hstats, hok⟩
      unfold afterAttempts attemptStep
      cases hbefore : (afterAttempts master request uart n).transaction with
      | returned done =>
          refine ⟨hstats, ?_⟩
          intro response h
          rcases hok response h with ⟨i, bytes, hi, hrest⟩
          exact ⟨i, bytes, Nat.lt_succ_of_lt hi, hrest⟩
      | attempting attempt lastErr =>
          dsimp only
          rcases runAttempt_cases request (uart n) with
            ⟨bytes, done, hframe, hintact, hrun, hvalid, hexact⟩ | ⟨_, err, hrun, hvalid, hretried⟩
          · rw [hrun]
            refine ⟨hstats.attempt hvalid, ?_⟩
            intro response h
            injection h with hdone
            have hfields := hexact (by rw [hdone])
            rw [hdone] at hfields
            exact ⟨n, bytes, Nat.lt_succ_self n, hframe, hintact, hfields⟩
          · rw [hrun]
            refine ⟨hstats.attempt hvalid, ?_⟩
            intro response h
            exact (hhead (attempt + 1) err response hretried h).elim

theorem MasterReached.balanced (h : MasterReached master) : master.stats.Balanced := by
  induction h with
  | init _ => rfl
  | resetStats _ _ => rfl
  | transact _ _ ih => exact (afterAttempts_keeps ih _).1

theorem ends_within_retries (hmax : master.maxRetries ≠ 255) :
    exists n done, n <= master.maxRetries.toNat + 1 ∧
      (afterAttempts master request uart n).transaction = .returned done := by
  have hbyte := master.maxRetries.toNat_lt
  have hlt : master.maxRetries.toNat < 255 := by
    have hne : master.maxRetries.toNat ≠ 255 := fun h => hmax (UInt8.toNat_inj.mp h)
    omega
  by_cases hfits : request.data.length <= modbusMaxDataBytes
  · rcases @attempts_counted request master uart _ hfits (master.maxRetries.toNat + 1)
      (Nat.le_refl _) (by omega) (Nat.le_refl _) with ⟨done, hdone⟩ | ⟨lastErr, hhead⟩
    · exact ⟨_, done, Nat.le_refl _, hdone⟩
    · refine ⟨_, (lastErr, none), Nat.le_refl _, hhead.trans ?_⟩
      apply if_neg
      rw [UInt8.le_iff_toNat_le, UInt8.toNat_ofNat']
      omega
  · refine ⟨0, (.invalidArg, none), Nat.zero_le _, ?_⟩
    unfold afterAttempts transactStart
    rw [if_pos (Nat.lt_of_not_le hfits)]

end Attempts

/-!
## The call as a whole
-/

/-- A call of the master ends as promised exactly when there are fewer than 255 retries, the
request is refused, or one of the first 256 attempts brings an intact frame. -/
theorem transaction_keeps_iff {master : ModbusMaster} (h : MasterReached master)
    (request : ModbusFrame) (uart : Nat -> Attempt) :
    TransactionKeeps master request uart ↔
      (master.maxRetries ≠ 255 ∨ modbusMaxDataBytes < request.data.length ∨
        exists i bytes, i < 256 ∧ uart i = .frame bytes ∧ Intact bytes) := by
  constructor
  · rintro ⟨⟨n, done, hn, hreturned⟩, _, _⟩
    by_cases hmax : master.maxRetries = 255
    · right
      by_cases hfits : request.data.length <= modbusMaxDataBytes
      · right
        by_contra hnone
        have hgarbled : forall i bytes, i < n -> uart i = .frame bytes -> ¬ Intact bytes := by
          intro i bytes hi hframe hintact
          rw [hmax] at hn
          change n <= 256 at hn
          exact hnone ⟨i, bytes, by omega, hframe, hintact⟩
        rcases attempting_forever hfits hmax hgarbled with ⟨_, _, hattempting⟩
        rw [hreturned] at hattempting
        cases hattempting
      · exact .inl (Nat.lt_of_not_le hfits)
    · exact .inl hmax
  · intro hcond
    refine ⟨?_, fun n => (afterAttempts_keeps h.balanced n).2,
      fun n => (afterAttempts_keeps h.balanced n).1⟩
    by_cases hmax : master.maxRetries = 255
    · rcases hcond with hne | hlong | ⟨i, bytes, hi, hframe, hintact⟩
      · exact absurd hmax hne
      · refine ⟨0, (.invalidArg, none), Nat.zero_le _, ?_⟩
        unfold afterAttempts transactStart
        rw [if_pos hlong]
      · rcases returned_after_intact hframe hintact with ⟨done, hdone⟩
        refine ⟨i + 1, done, ?_, hdone⟩
        rw [hmax]
        change i + 1 <= 256
        omega
    · exact ends_within_retries hmax

/-- With the three retries of the board and a silent bus the call still ends. -/
theorem transaction_keeps_silentBus :
    TransactionKeeps ⟨3, modbusMasterStatsZero⟩ ⟨1, 4, [0, 0, 0, 2]⟩ (fun _ => .noResponse) :=
  (transaction_keeps_iff (.init 3) ⟨1, 4, [0, 0, 0, 2]⟩ fun _ => .noResponse).mpr
    (.inl (by decide))

/-- With 255 retries a silent bus holds the caller for good. -/
theorem transaction_endless :
    ¬ forall master request uart, MasterReached master ->
      TransactionKeeps master request uart := by
  intro hclaim
  rcases (hclaim ⟨255, modbusMasterStatsZero⟩ ⟨1, 4, [0, 0, 0, 2]⟩ (fun _ => .noResponse)
    (.init 255)).ends with ⟨n, done, _, hreturned⟩
  have hsilent : forall i bytes, i < n -> (fun _ => Attempt.noResponse) i = .frame bytes ->
      ¬ Intact bytes := by
    intro i bytes _ hframe
    cases hframe
  rcases @attempting_forever ⟨1, 4, [0, 0, 0, 2]⟩ ⟨255, modbusMasterStatsZero⟩ _ _ (by decide) rfl
    hsilent with ⟨_, _, hattempting⟩
  rw [hreturned] at hattempting
  cases hattempting

end EnvMonitor.Gateway
