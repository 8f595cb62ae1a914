import EnvMonitor.Histories
import EnvMonitor.Gateway.MqttClient
import EnvMonitor.Gateway.CloudPublisher.Tasks

/-!
# Replay of stored entries

`prv_drain_saf` and `prv_drain_publish_failed` over the calls of StoreAndForward they make, one
entry at a time.  What the flash does is an input.  The records of the log are numbered in the
order they were stored.
-/

namespace EnvMonitor.Gateway.CloudPublisher.Replay

/-!
## StoreAndForward
-/

/-- Records oldest first, and the entry that was returned and not confirmed. -/
structure SafLog where
  records : List Nat
  pending : Option Nat
  deriving DecidableEq, Repr

/-- How `cfl_consume_oldest` ends.  One that fails after it has moved the head leaves the records
that the log finds from there. -/
inductive Consumed where
  | done
  | kept
  | lost (left : List Nat)
  deriving DecidableEq, Repr

/-- Whether the consume returned `CFL_ERR_OK`, and the records after it. -/
def consumeOldest (consumed : Consumed) : List Nat -> Bool × List Nat
  | [] => (false, [])
  | record :: rest =>
      match consumed with
      | .done => (true, rest)
      | .kept => (false, record :: rest)
      | .lost left => (false, left)

/-- What a peek finds at the head of a log that is not empty. -/
inductive Peek where
  | parsed
  | unusable (consumed : Consumed)
  | failed
  deriving DecidableEq, Repr

/-- The loop of `saf_dequeue`: unusable records are consumed. -/
def safPeekLoop : List Peek -> List Nat -> Option Nat × List Nat
  | _, [] => (none, [])
  | [], records => (none, records)
  | peek :: peeks, record :: rest =>
      match peek with
      | .parsed => (some record, record :: rest)
      | .failed => (none, record :: rest)
      | .unusable consumed =>
          let after := consumeOldest consumed (record :: rest)
          if after.1 then safPeekLoop peeks after.2 else (none, after.2)

def safDequeue (peeks : List Peek) (log : SafLog) : Option Nat × SafLog :=
  match log.pending with
  | some entry => (some entry, log)
  | none =>
      let found := safPeekLoop peeks log.records
      (found.1, ⟨found.2, found.1⟩)

def safConfirm (consumed : Consumed) (log : SafLog) : Bool × SafLog :=
  match log.pending with
  | none => (true, log)
  | some entry =>
      let after := consumeOldest consumed log.records
      (after.1, ⟨after.2, if after.1 then none else some entry⟩)

/-- The drop-oldest loop of `saf_enqueue`, one consume for each append that found the log full. -/
def safDropLoop : List Consumed -> SafLog -> Bool × SafLog
  | [], log => (true, log)
  | consumed :: more, log =>
      let after := consumeOldest consumed log.records
      if after.1 then safDropLoop more ⟨after.2, none⟩ else (false, ⟨after.2, log.pending⟩)

/-- `saf_enqueue` of the record with this number; the last append may fail as well. -/
def safEnqueue (drops : List Consumed) (appended : Bool) (record : Nat) (log : SafLog) : SafLog :=
  let dropped := safDropLoop drops log
  if dropped.1 && appended then
    { dropped.2 with records := dropped.2.records ++ [record] }
  else dropped.2

/-!
## The publisher
-/

abbrev cpDrainBackoffMinS : Nat := 5
abbrev cpDrainBackoffMaxS : Nat := 60

/-- What happens to stored entries: an attempt to publish one, with the link before and after it,
and a drop by the poison rule. -/
inductive Happening where
  | attempt (entry : Nat) (ok upBefore upAfter : Bool)
  | dropped (entry : Nat)
  deriving DecidableEq, Repr

/-- Where the publisher is: outside a pass, before an entry, or after one, when the link is served
and yielded. -/
inductive Point where
  | idle
  | loop (sent bytes : Nat)
  | served (sent bytes : Nat)
  deriving DecidableEq, Repr

/-- `stored` counts the records that were ever appended. -/
structure Publisher where
  log : SafLog
  stored : Nat
  client : MqttClient
  drainEntryFails : Nat
  drainBackoffS : Nat
  point : Point
  history : List Happening

/-- After start-up, with what the log holds. -/
def Publisher.initial (records : List Nat) (stored : Nat) : Publisher where
  log := ⟨records, none⟩
  stored := stored
  client := mqttClientCreate
  drainEntryFails := 0
  drainBackoffS := cpDrainBackoffMinS
  point := .idle
  history := []

/-- The record that a confirm removes has left the log. -/
def removes (consumed : Consumed) : Bool :=
  match consumed with
  | .kept => false
  | _ => true

/-- What the confirm of the poison rule drops: the head of the log, if an entry is pending. -/
def poisonDrop (consumed : Consumed) (log : SafLog) : List Happening :=
  match log.pending, log.records with
  | some _, record :: _ => if removes consumed then [.dropped record] else []
  | _, _ => []

/-- `prv_drain_publish_failed` -/
def prvDrainPublishFailed (consumed : Consumed) (s : Publisher) : Publisher :=
  let backedOff : Publisher :=
    { s with
      drainBackoffS := min (s.drainBackoffS * 2) cpDrainBackoffMaxS
      drainEntryFails := s.drainEntryFails + 1 }
  if cpDrainPoisonFails ≤ backedOff.drainEntryFails then
    { backedOff with
      drainEntryFails := 0
      log := (safConfirm consumed s.log).2
      history := s.history ++ poisonDrop consumed s.log }
  else backedOff

/-- What the flash and the network do while one entry is replayed. -/
structure Turn where
  peeks : List Peek
  reaped : List Suback
  status : SendStatus
  payloadLen : Nat
  consumed : Consumed

/-- One turn of the loop of `prv_drain_saf`, from the dequeue to the give of `saf_lock`. -/
def drainEntry (turn : Turn) (sent bytes : Nat) (s : Publisher) : Publisher :=
  match safDequeue turn.peeks s.log with
  | (none, log) => { s with log := log, point := .idle }
  | (some entry, log) =>
      let published := mqttClientPublish turn.reaped turn.status s.client
      let ok : Bool := published.1 = .ok
      let tried : Publisher :=
        { s with
          log := log
          client := published.2.1
          history := s.history ++
            [.attempt entry ok s.client.connected published.2.1.connected] }
      if ok then
        let confirmed := safConfirm turn.consumed log
        { tried with
          drainEntryFails := 0
          drainBackoffS := cpDrainBackoffMinS
          log := confirmed.2
          point := if confirmed.1 then .served (sent + 1) (bytes + turn.payloadLen) else .idle }
      else { prvDrainPublishFailed turn.consumed tried with point := .idle }

/-- What happens next.  The link is somebody else's, or is served, outside a turn; whoever stores
an entry does it between two turns. -/
inductive Input where
  | enqueue (drops : List Consumed) (appended : Bool)
  | startPass
  | turn (turn : Turn)
  | endPass
  | recheck
  | link (client : MqttClient)
  | restart (records : List Nat)

def Publisher.step (s : Publisher) : Input -> Option Publisher
  | .enqueue drops appended =>
      some { s with
        log := safEnqueue drops appended s.stored s.log
        stored := s.stored + 1 }
  | .startPass =>
      match s.point with
      | .idle => if s.client.connected then some { s with point := .loop 0 0 } else none
      | _ => none
  | .turn turn =>
      match s.point with
      | .loop sent bytes =>
          if sent < cpDrainMaxEntries ∧ bytes < cpDrainMaxBytes then
            some (drainEntry turn sent bytes s)
          else none
      | _ => none
  | .endPass =>
      match s.point with
      | .loop _ _ => some { s with point := .idle }
      | _ => none
  | .recheck =>
      match s.point with
      | .served sent bytes =>
          some { s with point := if s.client.connected then .loop sent bytes else .idle }
      | _ => none
  | .link client =>
      match s.point with
      | .loop _ _ => none
      | _ => some { s with client := client }
  | .restart records =>
      some { Publisher.initial records s.stored with history := s.history }

/-- Runs whose steps are all allowed. -/
inductive Reached (allowed : Publisher -> Input -> Bool) : Publisher -> Prop
  | initial (records : List Nat) (stored : Nat) : Reached allowed (.initial records stored)
  | step {s s' : Publisher} {input : Input} (reached : Reached allowed s)
      (isAllowed : allowed s input = true) (step : s.step input = some s') : Reached allowed s'

def Publisher.run (allowed : Publisher -> Input -> Bool) (s : Publisher) :
    List Input -> Option Publisher
  | [] => some s
  | input :: inputs =>
      if allowed s input then (s.step input).bind fun s' => s'.run allowed inputs else none

theorem Reached.run {allowed : Publisher -> Input -> Bool} {inputs : List Input} :
    forall {s s' : Publisher}, Reached allowed s -> s.run allowed inputs = some s' ->
      Reached allowed s' := by
  induction inputs with
  | nil =>
      intro s s' h hrun
      cases hrun
      exact h
  | cons input inputs ih =>
      intro s s' h hrun
      simp only [Publisher.run] at hrun
      split at hrun
      · rename_i hallowed
        rcases Option.bind_eq_some_iff.mp hrun with ⟨next, hnext, hrest⟩
        exact ih (h.step hallowed hnext) hrest
      · cases hrun

end EnvMonitor.Gateway.CloudPublisher.Replay
