import EnvMonitor.Gateway.ModbusPoller.Requests

/-!
# The poller on a faulty bus

The poller runs its transactions one after another.  Frames in flight may be delayed, lost,
duplicated or garbled; a slave answers each request it receives at most once.
-/

namespace EnvMonitor.Gateway

open Modbus

/-- A request on the bus, with the number of the transaction that sent it. -/
structure Sent where
  txn : Nat
  addr : UInt8
  op : Operation
  deriving DecidableEq

/-- A response on the bus. -/
structure Reply where
  sent : Sent
  answer : Answer

def Reply.frame (reply : Reply) : ModbusFrame :=
  reply.sent.op.response reply.sent.addr reply.answer

/-- The form a conforming slave gives its answers. -/
def Conforms (op : Operation) : Answer -> Prop
  | .error _ => True
  | .ok words =>
      match op with
      | .readInput _ count => words.length = count.toNat
      | _ => words = [op.start, op.countOrValue]

def isWrite : Operation -> Bool
  | .readInput _ _ => false
  | _ => true

/-- The transaction that `modbus_master_transact` is in. -/
structure Running where
  req : PollerRequest
  attempts : List Attempt
  waiting : Bool

/-- The attempt brought nothing; the next one follows. -/
def Running.failed (run : Running) (attempt : Attempt) : Running :=
  { run with attempts := run.attempts ++ [attempt], waiting := false }

structure Posted where
  sent : Sent
  response : ModbusFrame

/-- `answered` and `received` are what the slaves did, `posted` the results the poller reported:
status OK of a command, or the data of a read. -/
structure Bus where
  txn : Nat
  current : Option Running
  requests : List Sent
  responses : List Reply
  received : List Sent
  answered : List Reply
  posted : List Posted

def Bus.initial : Bus :=
  { txn := 0, current := none, requests := [], responses := [], received := [], answered := [],
    posted := [] }

def Bus.sentBy (s : Bus) (req : PollerRequest) : Sent :=
  ⟨s.txn, req.slaveAddr, req.operation⟩

/-- The length checks of the poller's reads. -/
def dataLengthOk (op : Operation) (response : ModbusFrame) : Bool :=
  match op with
  | .readInput _ count => response.data.length = 1 + count.toNat * 2
  | _ => true

/-- What the poller makes of the end of a transaction. -/
def Bus.post (s : Bus) (req : PollerRequest) : Transacted -> Bus
  | (.ok, some response) =>
      if dataLengthOk req.operation response then
        { s with posted := ⟨s.sentBy req, response⟩ :: s.posted }
      else s
  | _ => s

def ends (req : PollerRequest) (attempt : Attempt) : Bool :=
  match runAttempt req.frame attempt with
  | .ok _ => true
  | .error _ => false

/-- One attempt is over: the call returns, or the next attempt follows. -/
def Bus.finishAttempt (s : Bus) (maxRetries : Nat) (run : Running) (attempt : Attempt) : Bus :=
  let attempts := run.attempts ++ [attempt]
  if ends run.req attempt || maxRetries < attempts.length then
    ({ s with current := none }).post run.req (modbusMasterTransact run.req.frame attempts)
  else { s with current := some (run.failed attempt) }

inductive Event where
  | start (req : PollerRequest)
  | transmit
  | noFrame (attempt : Attempt)
  | garbledFrame (bytes : List UInt8)
  | responseArrives (reply : Reply)
  | slaveSilent (sent : Sent)
  | slaveAnswers (sent : Sent) (answer : Answer)
  | duplicateRequest (sent : Sent)
  | loseRequest (sent : Sent)
  | duplicateResponse (reply : Reply)
  | loseResponse (reply : Reply)

/-- One step of poller, bus or slave.  A response that comes while the poller does not wait is
lost: every attempt flushes the receiver first. -/
inductive Step (maxRetries : Nat) : Bus -> Event -> Bus -> Prop
  | start {s : Bus} {req : PollerRequest} (idle : s.current = none) :
      Step maxRetries s (.start req)
        { s with txn := s.txn + 1, current := some ⟨req, [], false⟩ }
  | transmit {s : Bus} {run : Running} (current : s.current = some run)
      (ready : run.waiting = false) :
      Step maxRetries s .transmit
        { s with current := some { run with waiting := true },
                 requests := s.sentBy run.req :: s.requests }
  | txFailed {s : Bus} {run : Running} (current : s.current = some run)
      (ready : run.waiting = false) :
      Step maxRetries s (.noFrame .txFailed) (s.finishAttempt maxRetries run .txFailed)
  | noResponse {s : Bus} {run : Running} (current : s.current = some run)
      (waits : run.waiting = true) :
      Step maxRetries s (.noFrame .noResponse) (s.finishAttempt maxRetries run .noResponse)
  | rxError {s : Bus} {run : Running} (current : s.current = some run)
      (waits : run.waiting = true) :
      Step maxRetries s (.noFrame .rxError) (s.finishAttempt maxRetries run .rxError)
  | garbledFrame {s : Bus} {run : Running} {bytes : List UInt8} (current : s.current = some run)
      (waits : run.waiting = true) (garbled : Garbled bytes) :
      Step maxRetries s (.garbledFrame bytes) (s.finishAttempt maxRetries run (.frame bytes))
  | responseArrives {s : Bus} {run : Running} {before after : List Reply} {reply : Reply}
      (current : s.current = some run) (waits : run.waiting = true)
      (flying : s.responses = before ++ reply :: after) :
      Step maxRetries s (.responseArrives reply)
        (({ s with responses := before ++ after }).finishAttempt maxRetries run
          (.frame reply.frame.onWire))
  | slaveSilent {s : Bus} {before after : List Sent} {sent : Sent}
      (flying : s.requests = before ++ sent :: after) :
      Step maxRetries s (.slaveSilent sent)
        { s with requests := before ++ after, received := sent :: s.received }
  | slaveAnswers {s : Bus} {before after : List Sent} {sent : Sent} {answer : Answer}
      (flying : s.requests = before ++ sent :: after) (conforms : Conforms sent.op answer) :
      Step maxRetries s (.slaveAnswers sent answer)
        { s with requests := before ++ after, received := sent :: s.received,
                 responses := ⟨sent, answer⟩ :: s.responses,
                 answered := ⟨sent, answer⟩ :: s.answered }
  | duplicateRequest {s : Bus} {sent : Sent} (flying : sent ∈ s.requests) :
      Step maxRetries s (.duplicateRequest sent) { s with requests := sent :: s.requests }
  | loseRequest {s : Bus} {before after : List Sent} {sent : Sent}
      (flying : s.requests = before ++ sent :: after) :
      Step maxRetries s (.loseRequest sent) { s with requests := before ++ after }
  | duplicateResponse {s : Bus} {reply : Reply} (flying : reply ∈ s.responses) :
      Step maxRetries s (.duplicateResponse reply) { s with responses := reply :: s.responses }
  | loseResponse {s : Bus} {before after : List Reply} {reply : Reply}
      (flying : s.responses = before ++ reply :: after) :
      Step maxRetries s (.loseResponse reply) { s with responses := before ++ after }

/-- Requests, and the requests behind the responses, that are still on the bus. -/
def Bus.InFlight (s : Bus) (sent : Sent) : Prop :=
  sent ∈ s.requests ∨ exists reply, reply ∈ s.responses ∧ reply.sent = sent

/-- When a write command starts, nothing of an earlier transaction with the same slave and the
same function code is on the bus. -/
def ClearFor (s : Bus) : Event -> Prop
  | .start req => isWrite req.operation = true -> forall sent, s.InFlight sent ->
      sent.addr = req.slaveAddr -> sent.op.functionCode ≠ req.operation.functionCode
  | _ => True

/-- States of runs in which every step meets `guard`. -/
inductive Reachable (maxRetries : Nat) (guard : Bus -> Event -> Prop) : Bus -> Prop
  | initial : Reachable maxRetries guard Bus.initial
  | step {s s' : Bus} {event : Event} (reached : Reachable maxRetries guard s)
      (meets : guard s event) (step : Step maxRetries s event s') :
      Reachable maxRetries guard s'

/-- Every reported result is what the slave answered to a request that it received: for a command
the very transaction that reports it, for a read the same block of the same slave. -/
def Faithful (s : Bus) : Prop :=
  forall posted, posted ∈ s.posted ->
    exists reply words, reply ∈ s.answered ∧ reply.sent ∈ s.received ∧
      reply.answer = .ok words ∧ posted.response = reply.frame ∧
      reply.sent.addr = posted.sent.addr ∧ reply.sent.op = posted.sent.op ∧
      (isWrite posted.sent.op = true -> reply.sent = posted.sent)

end EnvMonitor.Gateway
