import EnvMonitor.Gateway.ModbusPoller.Requests

/-!
# Time push to the field device

`prv_push_time_to_fd` posts a command to the poller's queue and waits for a limited time on a
response queue of one entry.  The two queues carry no number that pairs them.
-/

namespace EnvMonitor.Gateway

open Modbus

abbrev tsFdSlaveAddr : UInt8 := 1
abbrev tsFdRegCmdSetTimeHi : UInt16 := 0x0210
abbrev modbusCmdQueueDepth : Nat := 4

/-- The command of one push. -/
def pushCommand (utc : UInt32) : ModbusCommand where
  slaveAddr := tsFdSlaveAddr
  functionCode := fcWriteMultiple
  startReg := tsFdRegCmdSetTimeHi
  regCount := 2
  data := [(utc >>> 16).toUInt16, utc.toUInt16]

/-- A command in the queue.  Commands of the push carry its response queue; `push` numbers the
call that posted them and is not in the record. -/
inductive Queued where
  | push (push : Nat) (cmd : ModbusCommand)
  | other (cmd : ModbusCommand)

def Queued.cmd : Queued -> ModbusCommand
  | push _ cmd => cmd
  | other cmd => cmd

/-- An entry of the response queue, with the call whose command it answers. -/
structure PushResponse where
  push : Nat
  status : ModbusMasterErr

/-- How a call ended: the response it took, if any, and whether it returned `TIME_SERVICE_OK`. -/
structure PushResult where
  push : Nat
  taken : Option PushResponse
  ok : Bool

structure Pushes where
  count : Nat
  waiting : Option Nat
  queue : List Queued
  executing : Option Queued
  responses : List PushResponse
  results : List PushResult

def Pushes.initial : Pushes :=
  { count := 0, waiting := none, queue := [], executing := none, responses := [], results := [] }

/-- `modbus_poller_send_command`, for a slave that is registered or not. -/
def sendCommand (queue : List Queued) (registered : Bool) (queued : Queued) :
    Option (List Queued) :=
  if !commandIsEncodable queued.cmd || !registered then none
  else if modbusCmdQueueDepth ≤ queue.length then none
  else some (queue ++ [queued])

/-- `post_command_result`: a response that finds its queue full is dropped. -/
def postResult (responses : List PushResponse) (status : ModbusMasterErr) :
    Queued -> List PushResponse
  | .other _ => responses
  | .push push _ => if responses.isEmpty then [⟨push, status⟩] else responses

inductive PushEvent where
  | push (utc : UInt32) (registered : Bool)
  | otherCommand (cmd : ModbusCommand) (registered : Bool)
  | takeCommand
  | finishCommand (attempts : List Attempt)
  | receive
  | timeout

/-- Steps of TimeService, of other clients of the poller, and of the poller. -/
inductive PushStep : Pushes -> PushEvent -> Pushes -> Prop
  | posted {s : Pushes} {utc : UInt32} {registered : Bool} {queue : List Queued}
      (idle : s.waiting = none)
      (sent : sendCommand s.queue registered (.push (s.count + 1) (pushCommand utc)) =
        some queue) :
      PushStep s (.push utc registered)
        { s with count := s.count + 1, waiting := some (s.count + 1), queue := queue }
  | refused {s : Pushes} {utc : UInt32} {registered : Bool} (idle : s.waiting = none)
      (sent : sendCommand s.queue registered (.push (s.count + 1) (pushCommand utc)) = none) :
      PushStep s (.push utc registered)
        { s with count := s.count + 1, results := ⟨s.count + 1, none, false⟩ :: s.results }
  | otherCommand {s : Pushes} {cmd : ModbusCommand} {registered : Bool} {queue : List Queued}
      (sent : sendCommand s.queue registered (.other cmd) = some queue) :
      PushStep s (.otherCommand cmd registered) { s with queue := queue }
  | takeCommand {s : Pushes} {queued : Queued} {queue : List Queued}
      (idle : s.executing = none) (first : s.queue = queued :: queue) :
      PushStep s .takeCommand { s with executing := some queued, queue := queue }
  | finishCommand {s : Pushes} {queued : Queued} {attempts : List Attempt}
      (running : s.executing = some queued) :
      PushStep s (.finishCommand attempts)
        { s with executing := none,
                 responses :=
                   postResult s.responses (transactCommand queued.cmd attempts).1 queued }
  | receive {s : Pushes} {push : Nat} {response : PushResponse} {rest : List PushResponse}
      (waits : s.waiting = some push) (first : s.responses = response :: rest) :
      PushStep s .receive
        { s with waiting := none, responses := rest,
                 results := ⟨push, some response, response.status = .ok⟩ :: s.results }
  | timeout {s : Pushes} {push : Nat} (waits : s.waiting = some push)
      (empty : s.responses = []) :
      PushStep s .timeout
        { s with waiting := none, results := ⟨push, none, false⟩ :: s.results }

/-- The poller still works on a command of this call, or its response was not taken. -/
def Pushes.Pending (s : Pushes) (push : Nat) : Prop :=
  (exists cmd, Queued.push push cmd ∈ s.queue) ∨
    (exists cmd, s.executing = some (.push push cmd)) ∨
    exists response, response ∈ s.responses ∧ response.push = push

/-- When a push starts, nothing of an earlier one is pending. -/
def NothingPending (s : Pushes) : PushEvent -> Prop
  | .push _ _ => forall push, ¬s.Pending push
  | _ => True

inductive PushReachable (guard : Pushes -> PushEvent -> Prop) : Pushes -> Prop
  | initial : PushReachable guard Pushes.initial
  | step {s s' : Pushes} {event : PushEvent} (reached : PushReachable guard s)
      (meets : guard s event) (step : PushStep s event s') : PushReachable guard s'

/-- A call takes only its own response, and returns OK only if that reports OK. -/
def Acknowledged (s : Pushes) : Prop :=
  forall result, result ∈ s.results ->
    (forall response, result.taken = some response -> response.push = result.push) ∧
    (result.ok = true -> exists response, result.taken = some response ∧
      response.push = result.push ∧ response.status = .ok)

/-- While a call waits, whatever is pending is its own. -/
structure PushInv (s : Pushes) : Prop where
  own : forall waiting, s.waiting = some waiting -> forall push, s.Pending push -> push = waiting
  acknowledged : Acknowledged s

theorem PushInv.initial : PushInv Pushes.initial where
  own := fun _ h => (by cases h)
  acknowledged := fun _ h => (by cases h)

variable {queued : Queued} {s s' : Pushes} {event : PushEvent}

theorem sendCommand_mem {queue queue' : List Queued} {registered : Bool}
    (h : sendCommand queue registered queued = some queue') :
    forall other, other ∈ queue' -> other ∈ queue ∨ other = queued := by
  unfold sendCommand at h
  split at h
  · cases h
  · split at h
    · cases h
    · cases h
      intro other hother
      rcases List.mem_append.mp hother with hold | hnew
      · exact Or.inl hold
      · exact Or.inr (List.mem_singleton.mp hnew)

theorem postResult_mem {responses : List PushResponse} {status : ModbusMasterErr}
    {response : PushResponse} (h : response ∈ postResult responses status queued) :
    response ∈ responses ∨ exists cmd, queued = .push response.push cmd := by
  cases queued with
  | other cmd => exact Or.inl h
  | push push cmd =>
      unfold postResult at h
      dsimp only at h
      split at h
      · rw [List.mem_singleton.mp h]
        exact Or.inr ⟨cmd, rfl⟩
      · exact Or.inl h

theorem Acknowledged.cons {result : PushResult} (h : Acknowledged s)
    (hresults : s'.results = result :: s.results)
    (htaken : forall response, result.taken = some response ->
      response.push = result.push ∧ (result.ok = true -> response.status = .ok))
    (hok : result.taken = none -> result.ok = false) : Acknowledged s' := by
  intro other hother
  rw [hresults] at hother
  rcases List.mem_cons.mp hother with hnew | hold
  · rw [hnew]
    constructor
    · intro response hresponse
      exact (htaken response hresponse).1
    · intro hres
      cases htake : result.taken with
      | none =>
          rw [hok htake] at hres
          cases hres
      | some response =>
          exact ⟨response, rfl, (htaken response htake).1, (htaken response htake).2 hres⟩
  · exact h other hold

theorem PushInv.step (hinv : PushInv s) (hguard : NothingPending s event) (h : PushStep s event s')
    : PushInv s' := by
  cases h with
  | posted idle sent =>
      constructor
      · intro waiting hwaiting push hpending
        cases hwaiting
        rcases hpending with ⟨cmd, hqueue⟩ | hrunning | hresponse
        · rcases sendCommand_mem sent _ hqueue with hold | hnew
          · exact absurd (Or.inl ⟨cmd, hold⟩) (hguard push)
          · cases hnew
            rfl
        · exact absurd (Or.inr (Or.inl hrunning)) (hguard push)
        · exact absurd (Or.inr (Or.inr hresponse)) (hguard push)
      · exact hinv.acknowledged
  | refused idle sent =>
      constructor
      · intro waiting hwaiting
        rw [idle] at hwaiting
        cases hwaiting
      · exact hinv.acknowledged.cons rfl (fun _ h => (by cases h)) (fun _ => rfl)
  | otherCommand sent =>
      constructor
      · intro waiting hwaiting push hpending
        apply hinv.own waiting hwaiting
        rcases hpending with ⟨cmd, hqueue⟩ | hrest
        · rcases sendCommand_mem sent _ hqueue with hold | hnew
          · exact Or.inl ⟨cmd, hold⟩
          · cases hnew
        · exact Or.inr hrest
      · exact hinv.acknowledged
  | takeCommand idle first =>
      constructor
      · intro waiting hwaiting push hpending
        apply hinv.own waiting hwaiting
        rcases hpending with ⟨cmd, hqueue⟩ | ⟨cmd, hrunning⟩ | hresponse
        · refine Or.inl ⟨cmd, ?_⟩
          rw [first]
          exact List.mem_cons_of_mem _ hqueue
        · refine Or.inl ⟨cmd, ?_⟩
          rw [first, Option.some.inj hrunning]
          exact List.mem_cons_self
        · exact Or.inr (Or.inr hresponse)
      · exact hinv.acknowledged
  | finishCommand running =>
      constructor
      · intro waiting hwaiting push hpending
        apply hinv.own waiting hwaiting
        rcases hpending with hqueue | ⟨cmd, hrunning⟩ | ⟨response, hmem, hpush⟩
        · exact Or.inl hqueue
        · cases hrunning
        · rcases postResult_mem hmem with hold | ⟨cmd, hqueued⟩
          · exact Or.inr (Or.inr ⟨response, hold, hpush⟩)
          · refine Or.inr (Or.inl ⟨cmd, ?_⟩)
            rw [running, hqueued, hpush]
      · exact hinv.acknowledged
  | @receive push response rest waits first =>
      have hown : response.push = push := by
        apply hinv.own push waits
        refine Or.inr (Or.inr ⟨response, ?_, rfl⟩)
        rw [first]
        exact List.mem_cons_self
      constructor
      · intro waiting hwaiting
        cases hwaiting
      · apply hinv.acknowledged.cons rfl
        · intro other hother
          cases hother
          exact ⟨hown, of_decide_eq_true⟩
        · intro hnone
          cases hnone
  | timeout waits empty =>
      constructor
      · intro waiting hwaiting
        cases hwaiting
      · exact hinv.acknowledged.cons rfl (fun _ h => (by cases h)) (fun _ => rfl)

/-- In every run whose pushes each start with nothing of an earlier push pending, a push that
returns OK was acknowledged. -/
theorem push_acknowledged {s : Pushes} (h : PushReachable NothingPending s) :
    Acknowledged s := by
  have hinv : PushInv s := by
    induction h with
    | initial => exact PushInv.initial
    | step reached meets step ih => exact ih.step meets step
  exact hinv.acknowledged

/-- The acknowledgement the field device gives to a push. -/
def pushAck : ModbusFrame :=
  ⟨tsFdSlaveAddr, fcWriteMultiple, [0x02, 0x10, 0x00, 0x02]⟩

theorem transactCommand_pushAck (utc : UInt32) :
    transactCommand (pushCommand utc) [.frame pushAck.onWire] = (.ok, some pushAck) := by
  have hprocess :
      processResponse (buildCommandRequest (pushCommand utc)) pushAck.onWire =
        .ok (.ok, some pushAck) :=
    processResponse_ok rfl rfl (Operation.functionCode_plain (.writeMultiple 0 []))
  have hlen : (buildCommandRequest (pushCommand utc)).data.length ≤ modbusMaxDataBytes :=
    Nat.le_of_ble_eq_true rfl
  have hencodable : commandIsEncodable (pushCommand utc) = true := rfl
  unfold transactCommand
  rw [if_pos hencodable]
  exact transact_first [] hlen hprocess

theorem PushReachable.next {guard : Pushes -> PushEvent -> Prop} (h : PushReachable guard s)
    (step : PushStep s event s') (meets : guard s event) : PushReachable guard s' :=
  h.step meets step

def promptPush : Pushes :=
  { Pushes.initial with count := 1, results := [⟨1, some ⟨1, .ok⟩, true⟩] }

theorem promptPush_reachable : PushReachable NothingPending promptPush := by
  have hclear : NothingPending Pushes.initial (.push 0 true) := by
    intro push hpending
    rcases hpending with ⟨cmd, h⟩ | ⟨cmd, h⟩ | ⟨response, h, -⟩
    · cases h
    · cases h
    · cases h
  have hposted := PushReachable.initial.next
    (@PushStep.posted _ 0 true [.push 1 (pushCommand 0)] rfl rfl) hclear
  have htaken := hposted.next (PushStep.takeCommand rfl rfl) trivial
  have hdone := htaken.next
    (@PushStep.finishCommand _ (.push 1 (pushCommand 0)) [.frame pushAck.onWire] rfl) trivial
  have hstatus := transactCommand_pushAck 0
  have hfinal : PushReachable NothingPending
      { Pushes.initial with count := 1, waiting := some 1, responses := [⟨1, .ok⟩] } := by
    change PushReachable NothingPending
      { Pushes.initial with count := 1, waiting := some 1,
                            responses := [⟨1, (transactCommand (pushCommand 0)
                              [.frame pushAck.onWire]).1⟩] } at hdone
    rw [hstatus] at hdone
    exact hdone
  exact hfinal.next (PushStep.receive rfl rfl) trivial

theorem push_acknowledged_prompt : Acknowledged promptPush :=
  push_acknowledged promptPush_reachable

/-- The first push has given up when its command is executed; the second one, whose command is
still in the queue, takes the acknowledgement of the first. -/
def stalePush : Pushes :=
  { Pushes.initial with count := 2, queue := [.push 2 (pushCommand 0)],
                        results := [⟨2, some ⟨1, .ok⟩, true⟩, ⟨1, none, false⟩] }

theorem stalePush_reachable : PushReachable (fun _ _ => True) stalePush := by
  have hposted := (@PushReachable.initial (fun _ _ => True)).next
    (@PushStep.posted _ 0 true [.push 1 (pushCommand 0)] rfl rfl) trivial
  have htaken := hposted.next (PushStep.takeCommand rfl rfl) trivial
  have htimeout := htaken.next (PushStep.timeout rfl rfl) trivial
  have hdone := htimeout.next
    (@PushStep.finishCommand _ (.push 1 (pushCommand 0)) [.frame pushAck.onWire] rfl) trivial
  have hlate : PushReachable (fun _ _ => True)
      { Pushes.initial with count := 1, responses := [⟨1, .ok⟩], results := [⟨1, none, false⟩] } := by
    change PushReachable (fun _ _ => True)
      { Pushes.initial with count := 1,
                            responses := [⟨1, (transactCommand (pushCommand 0)
                              [.frame pushAck.onWire]).1⟩],
                            results := [⟨1, none, false⟩] } at hdone
    rw [transactCommand_pushAck 0] at hdone
    exact hdone
  have hagain := hlate.next (@PushStep.posted _ 0 true [.push 2 (pushCommand 0)] rfl rfl) trivial
  exact hagain.next (PushStep.receive rfl rfl) trivial

theorem stale_response_taken :
    exists s, PushReachable (fun _ _ => True) s ∧ ¬Acknowledged s := by
  refine ⟨stalePush, stalePush_reachable, ?_⟩
  intro h
  have hown := (h ⟨2, some ⟨1, .ok⟩, true⟩ List.mem_cons_self).1 ⟨1, .ok⟩ rfl
  exact absurd hown (by decide)

end EnvMonitor.Gateway
