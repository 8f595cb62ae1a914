import EnvMonitor.Gateway.CloudPublisher.AlarmOnce

/-!
# Messages on their way to the broker

The two tasks again, and beside them a ledger of the messages: in whose hands each one is, what
waits in StoreAndForward, what was handed to MqttClient, and what the broker acknowledged.  A
session is clean: when it ends, MqttClient keeps no record of an unacknowledged PUBLISH.
-/

namespace EnvMonitor.Gateway.CloudPublisher

/-!
## The ledger
-/

/-- A message, numbered so that two with one content are told apart; `event` is the alarm event
it reports. -/
structure Message where
  id : Nat
  event : Option AlarmEvent
  qos1 : Bool

structure Ledger where
  /-- What was in StoreAndForward at the start, and what was passed to the gate since. -/
  passed : List Message
  /-- What a task passes to the gate and has neither published nor stored. -/
  hand : Task -> Option Message
  saf : List Message
  published : List Message
  unacked : List Message
  acked : List Message
  /-- Entries that left StoreAndForward by the drop-oldest or the poison rule. -/
  discarded : List Message

namespace Ledger

def start (found : List Message) : Ledger where
  passed := found
  hand := fun _ => none
  saf := found
  published := []
  unacked := []
  acked := []
  discarded := []

def pass (L : Ledger) (t : Task) (event : Option AlarmEvent) (qos1 : Bool) : Ledger :=
  { L with
    passed := L.passed ++ [⟨L.passed.length, event, qos1⟩]
    hand := Function.update L.hand t (some ⟨L.passed.length, event, qos1⟩) }

def release (L : Ledger) (t : Task) : Ledger :=
  { L with hand := Function.update L.hand t none }

/-- `mqtt_client_publish` returned `MQTT_CLIENT_ERR_OK`. -/
def publish (L : Ledger) (m : Message) : Ledger :=
  { L with
    published := L.published ++ [m]
    unacked := if m.qos1 then L.unacked ++ [m] else L.unacked }

/-- `saf_enqueue` stored the message and dropped the oldest `k` for it. -/
def store (L : Ledger) (m : Message) (k : Nat) : Ledger :=
  { L with saf := L.saf.drop k ++ [m], discarded := L.discarded ++ L.saf.take k }

/-- `saf_confirm` after a PUBLISH. -/
def confirm (L : Ledger) : Ledger :=
  { L with saf := L.saf.tail }

/-- `saf_confirm` without a PUBLISH. -/
def poison (L : Ledger) : Ledger :=
  { L with saf := L.saf.tail, discarded := L.discarded ++ L.saf.take 1 }

def lose (L : Ledger) : Ledger :=
  { L with unacked := [] }

end Ledger

/-!
## Stages
-/

/-- Where a task is on the way of a message. -/
inductive Stage where
  | idle
  | received (ev : AlarmEvent)
  | gate (item : Option AlarmEvent) (pc : GatePc)
  | replay (point : ReplayPoint)

def DrainPc.stage : DrainPc -> Stage
  | .receive => .idle
  | .received ev => .received ev
  | .handing ev _ g => .gate (some ev) g

def AlarmPc.stage : AlarmPc -> Stage
  | .draining _ pc => pc.stage
  | _ => .idle

def PublisherPc.stage : PublisherPc -> Stage
  | .gate g _ _ _ => .gate none g
  | .flushing pc _ => pc.stage
  | .replaying pc _ => .replay pc.point
  | _ => .idle

def System.stage (s : System) : Task -> Stage
  | .alarm => s.alarm.stage
  | .publisher => s.publisher.stage

/-- The PUBLISH of the front entry is out and its confirm is not done. -/
def ReplayPoint.settled : ReplayPoint -> Bool
  | .confirm => true
  | .confirming => true
  | _ => false

/-- What a step of a task does to the queue and the ledger.  Flash does not fail: an entry that
is stored or confirmed is stored or confirmed. -/
inductive Effect (connected : Bool) (t : Task) :
    List AlarmEvent -> Stage -> Ledger -> List AlarmEvent -> Stage -> Ledger -> Prop where
  | idle (q L) : Effect connected t q .idle L q .idle L
  | receive (ev q L) : Effect connected t (ev :: q) .idle L q (.received ev) L
  | serialised (q ev g L) (hg : g = .check ∨ g = .buffer) :
      Effect connected t q (.received ev) L q (.gate (some ev) g) (L.pass t (some ev) true)
  | begins (q L) (qos1 : Bool) :
      Effect connected t q .idle L q (.gate none .check) (L.pass t none qos1)
  | gate (q item g g' L) (hg : g.needsText = true) (hg' : g'.needsText = true) :
      Effect connected t q (.gate item g) L q (.gate item g') L
  | published (q item L m) (hup : connected = true) (hhand : L.hand t = some m) :
      Effect connected t q (.gate item .publishing) L q .idle ((L.publish m).release t)
  | stored (q item L m k) (hhand : L.hand t = some m) :
      Effect connected t q (.gate item .enqueuing) L q (.gate item .enqueued)
        ((L.store m k).release t)
  | returns (q item L) : Effect connected t q (.gate item .enqueued) L q .idle L
  | replayStarts (q L) : Effect connected t q .idle L q (.replay .check) L
  | replay (q p p' L) (hp : p.settled = false) (hp' : p'.settled = false)
      (hother : p ≠ .dequeue ∧ p ≠ .dropping) :
      Effect connected t q (.replay p) L q (.replay p') L
  | dequeued (q L) (found : Bool) (hfound : found = true ↔ L.saf ≠ []) :
      Effect connected t q (.replay .dequeue) L q (.replay (.dequeuing found)) L
  | replayed (q L m rest) (hup : connected = true) (hfront : L.saf = m :: rest) :
      Effect connected t q (.replay .publishing) L q (.replay .confirm) (L.publish m)
  | confirms (q L) : Effect connected t q (.replay .confirm) L q (.replay .confirming) L
  | confirmed (q L) :
      Effect connected t q (.replay .confirming) L q (.replay .giveNext) L.confirm
  | poisoned (q L) : Effect connected t q (.replay .dropping) L q (.replay .giveLast) L.poison
  | replayReturns (q p L) (hp : p.settled = false) : Effect connected t q (.replay p) L q .idle L

def Task.actor : Task -> Actor
  | .alarm => .alarm
  | .publisher => .publisher

/-- A step of the system, of the link, or of the broker. -/
inductive DeliveryStep (serial : DeviceSerial) : System -> Ledger -> System -> Ledger -> Prop where
  | task {s s' L L'} (t : Task) (hstep : Step serial s t.actor s')
      (heffect : Effect s.shared.connected t s.shared.alarmQueue (s.stage t) L
        s'.shared.alarmQueue (s'.stage t) L') : DeliveryStep serial s L s' L'
  | callback {s s' L source} (hstep : Step serial s (.callback source) s') :
      DeliveryStep serial s L s' L
  | up (s L) :
      DeliveryStep serial s L { s with shared := { s.shared with connected := true } } L
  | lost (s L) :
      DeliveryStep serial s L { s with shared := { s.shared with connected := false } } L.lose
  | acked {s L m before after} (hup : s.shared.connected = true)
      (hm : L.unacked = before ++ m :: after) :
      DeliveryStep serial s L s { L with unacked := before ++ after, acked := L.acked ++ [m] }

/-- The runs whose steps meet a condition, from what StoreAndForward held at the start. -/
inductive Deliveries (serial : DeviceSerial) (Ok : System -> Ledger -> System -> Ledger -> Prop)
    (found : List Message) : System -> Ledger -> Prop where
  | start : Deliveries serial Ok found .start (.start found)
  | next {s L s' L'} (hrun : Deliveries serial Ok found s L) (hstep : DeliveryStep serial s L s' L')
      (hok : Ok s L s' L') : Deliveries serial Ok found s' L'

/-- Every step is admitted. -/
def AnyDelivery (_ : System) (_ : Ledger) (_ : System) (_ : Ledger) : Prop :=
  True

/-!
## What a step leaves alone
-/

section Steps

variable {serial : DeviceSerial} {Ok : System -> Ledger -> System -> Ledger -> Prop}
variable {found : List Message} {s s' : System} {L L' : Ledger}

def Task.other : Task -> Task
  | .alarm => .publisher
  | .publisher => .alarm

theorem Task.other_ne (t : Task) : t.other ≠ t := by
  cases t <;> decide

theorem Task.eq_or_other (t u : Task) : u = t ∨ u = t.other := by
  cases t <;> cases u <;> decide

/-- No step of a task moves the link or counts an event as accepted. -/
def Leaves (sh sh' : Shared) : Prop :=
  sh'.connected = sh.connected ∧ sh'.accepted = sh.accepted

variable {sh sh' : Shared} {t : Task}

theorem GateStep.leaves {item : Option (AlarmEvent × Nat)} {g : GatePc} {g' : Option GatePc}
    (h : GateStep t item sh g sh' g') : Leaves sh sh' := by
  cases h with
  | published => cases item <;> exact ⟨rfl, rfl⟩
  | enqueued => cases item <;> exact ⟨rfl, rfl⟩
  | _ => exact ⟨rfl, rfl⟩

theorem DrainStep.leaves {linkHeld : Bool} {pc : DrainPc} {pc' : Option DrainPc}
    (h : DrainStep serial t linkHeld sh pc sh' pc') : Leaves sh sh' := by
  cases h with
  | gate hstep => exact hstep.leaves
  | handed hstep => exact hstep.leaves
  | _ => exact ⟨rfl, rfl⟩

theorem ReplayStep.leaves {pc : ReplayPc} {pc' : Option ReplayPc} (h : ReplayStep sh pc sh' pc') :
    Leaves sh sh' := by
  cases h <;> exact ⟨rfl, rfl⟩

theorem AlarmStep.leaves {pc pc' : AlarmPc} (h : AlarmStep serial sh pc sh' pc') :
    Leaves sh sh' := by
  cases h with
  | drain hstep => exact hstep.leaves
  | drained hstep => exact hstep.leaves
  | buffered hstep => exact hstep.leaves
  | _ => exact ⟨rfl, rfl⟩

theorem PublisherStep.leaves {pc pc' : PublisherPc} (h : PublisherStep serial sh pc sh' pc') :
    Leaves sh sh' := by
  cases h with
  | gateStep hstep => exact hstep.leaves
  | gateDone hstep => exact hstep.leaves
  | drain hstep => exact hstep.leaves
  | drained hstep => exact hstep.leaves
  | replayStep hstep => exact hstep.leaves
  | replayDone hstep => exact hstep.leaves
  | _ => exact ⟨rfl, rfl⟩

theorem Step.leaves (h : Step serial s t.actor s') : Leaves s.shared s'.shared := by
  cases t with
  | alarm =>
      cases h with
      | alarm hstep => exact hstep.leaves
  | publisher =>
      cases h with
      | publisher hstep => exact hstep.leaves

theorem Step.stage_other (h : Step serial s t.actor s') : s'.stage t.other = s.stage t.other := by
  cases t with
  | alarm =>
      cases h with
      | alarm hstep => rfl
  | publisher =>
      cases h with
      | publisher hstep => rfl

theorem Step.callback_frame {source : Source} (h : Step serial s (.callback source) s') :
    s'.alarm = s.alarm ∧ s'.publisher = s.publisher ∧
      s'.shared.connected = s.shared.connected := by
  cases h with
  | callback hstep =>
      refine ⟨rfl, rfl, ?_⟩
      generalize s.callback source = before at hstep
      cases hstep with
      | send ev events =>
          change (s.shared.sendAlarm ev).connected = s.shared.connected
          unfold Shared.sendAlarm
          split
          · rfl
          · rfl
      | notify => rfl
      | done => rfl
  | sensorAlarm => exact ⟨rfl, rfl, rfl⟩
  | fdAlarm => exact ⟨rfl, rfl, rfl⟩

/-!
## Messages in hand
-/

/-- A task has a message in hand only inside the gate, until it is published or stored. -/
def HandsOk (s : System) (L : Ledger) : Prop :=
  forall t m, L.hand t = some m -> exists g, s.stage t = .gate m.event g ∧ g.needsText = true

variable {connected : Bool} {t : Task} {q q' : List AlarmEvent} {before after : Stage}

theorem Effect.hands (heffect : Effect connected t q before L q' after L')
    (hhands : forall m, L.hand t = some m ->
      exists g, before = .gate m.event g ∧ g.needsText = true) :
    forall m, L'.hand t = some m -> exists g, after = .gate m.event g ∧ g.needsText = true := by
  have hreleased : forall (L₁ : Ledger) m, (L₁.release t).hand t = some m -> False := by
    intro L₁ m hm
    have hnone : (L₁.release t).hand t = none := Function.update_self ..
    rw [hnone] at hm
    cases hm
  have hpassed : forall (event : Option AlarmEvent) (qos1 : Bool) m,
      (L.pass t event qos1).hand t = some m -> m.event = event := by
    intro event qos1 m hm
    have hnew : (L.pass t event qos1).hand t = some ⟨L.passed.length, event, qos1⟩ :=
      Function.update_self ..
    rw [hnew] at hm
    cases hm
    rfl
  have hnogate : (forall item g, before = .gate item g -> g.needsText = false) ->
      forall m, L.hand t = some m -> False := by
    intro hno m hm
    rcases hhands m hm with ⟨g, hgate, hneeds⟩
    rw [hno _ g hgate] at hneeds
    cases hneeds
  cases heffect with
  | serialised _ ev g _ hg =>
      intro m hm
      rw [hpassed _ _ m hm]
      refine ⟨g, rfl, ?_⟩
      rcases hg with rfl | rfl
      · rfl
      · rfl
  | begins =>
      intro m hm
      rw [hpassed _ _ m hm]
      exact ⟨.check, rfl, rfl⟩
  | gate _ item g g' _ _ hg' =>
      intro m hm
      rcases hhands m hm with ⟨_, hgate, _⟩
      cases hgate
      exact ⟨g', rfl, hg'⟩
  | published => exact fun m hm => (hreleased _ m hm).elim
  | stored => exact fun m hm => (hreleased _ m hm).elim
  | returns =>
      refine fun m hm => (hnogate ?_ m hm).elim
      intro item g hgate
      cases hgate
      rfl
  | _ => exact fun m hm => (hnogate (fun _ _ hgate => by cases hgate) m hm).elim

theorem Effect.hand_other (heffect : Effect connected t q before L q' after L') {u : Task}
    (hu : u ≠ t) : L'.hand u = L.hand u := by
  cases heffect with
  | serialised => exact Function.update_of_ne hu ..
  | begins => exact Function.update_of_ne hu ..
  | published => exact Function.update_of_ne hu ..
  | stored => exact Function.update_of_ne hu ..
  | _ => rfl

theorem HandsOk.start (found : List Message) : HandsOk .start (.start found) :=
  fun _ _ hm => by cases hm

theorem HandsOk.task (h : HandsOk s L) (hstep : Step serial s t.actor s')
    (heffect : Effect s.shared.connected t s.shared.alarmQueue (s.stage t) L s'.shared.alarmQueue
      (s'.stage t) L') : HandsOk s' L' := by
  intro u m hm
  rcases t.eq_or_other u with rfl | rfl
  · exact heffect.hands (h u) m hm
  · rw [hstep.stage_other]
    rw [heffect.hand_other t.other_ne] at hm
    exact h _ m hm

/-!
## The entry that is being replayed
-/

theorem AlarmPc.stage_ne_replay (pc : AlarmPc) (p : ReplayPoint) : pc.stage ≠ .replay p := by
  intro h
  cases pc with
  | draining linkHeld pc => cases pc <;> cases h
  | _ => cases h

theorem Inv.replay_alone (hinv : Inv s) {item : Option AlarmEvent} {p : ReplayPoint}
    (hstores : s.stage .alarm = .gate item .enqueuing) (hreplays : s.stage .publisher = .replay p)
    (hp : p.settled = true) : False := by
  have halarm : s.holdsSaf .alarm = true := by
    change s.alarm.stage = .gate item .enqueuing at hstores
    change s.alarm.drain.holdsSaf = true
    generalize s.alarm = pc at hstores
    cases pc with
    | draining linkHeld pc =>
        cases pc with
        | handing ev n g =>
            cases hstores
            rfl
        | _ => cases hstores
    | _ => cases hstores
  have hpublisher : s.holdsSaf .publisher = true := by
    change s.publisher.stage = .replay p at hreplays
    change s.publisher.holdsSaf = true
    generalize s.publisher = pc at hreplays
    cases pc with
    | replaying pc todo =>
        cases hreplays
        change pc.point.holdsSaf = true
        generalize pc.point = point at hp
        cases point <;> first | rfl | cases hp
    | flushing pc todo => cases pc <;> cases hreplays
    | _ => cases hreplays
  cases hinv.saf.exclusive halarm hpublisher

/-!
## Runs
-/

theorem DeliveryStep.step (h : DeliveryStep serial s L s' L') :
    s' = s ∨ exists actor, Step serial s actor s' := by
  cases h with
  | task t hstep _ => exact .inr ⟨t.actor, hstep⟩
  | @callback _ _ source hstep => exact .inr ⟨.callback source, hstep⟩
  | up => exact .inr ⟨.link, .link s true⟩
  | lost => exact .inr ⟨.link, .link s false⟩
  | acked _ _ => exact .inl rfl

theorem Deliveries.reachable (h : Deliveries serial Ok found s L) : Reachable serial s := by
  induction h with
  | start => exact .start
  | next _ hstep _ ih =>
      rcases hstep.step with rfl | ⟨actor, hstep⟩
      · exact ih
      · exact ih.next hstep

end Steps

end EnvMonitor.Gateway.CloudPublisher
