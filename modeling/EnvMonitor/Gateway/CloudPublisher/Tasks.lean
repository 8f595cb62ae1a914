import EnvMonitor.Concurrency.Lock
import EnvMonitor.Gateway.CloudPublisher.AlarmPayload

/-!
# The publisher task and the alarm task

Both tasks, the two alarm callbacks and the state they share, with one step for each queue
operation, each take or give of a lock, and each entry into and return from MqttClient and
StoreAndForward.
-/

namespace EnvMonitor.Gateway.CloudPublisher

open TimeProvider

inductive Task where
  | alarm
  | publisher
  deriving DecidableEq, Repr

/-- A call of StoreAndForward; a dequeue finds an entry or not. -/
inductive SafCall where
  | enqueue (caller : Task)
  | dequeue (found : Bool)
  | confirm
  deriving DecidableEq, Repr

/-- What the tasks share.  The last three fields record what happened: the events the queue took,
what was published or passed to `saf_enqueue` for an event, and the StoreAndForward calls, the
last one first. -/
structure Shared where
  alarmQueue : List AlarmEvent
  alarmBuf : List UInt8
  alarmPending : Bool
  connected : Bool
  linkLock : Option Task
  safLock : Option Task
  drainEntryFails : Nat
  accepted : List AlarmEvent
  handed : List (AlarmEvent × List UInt8)
  safCalls : List SafCall

/-!
## The connectivity gate
-/

/-- Where a task is in `prv_enqueue_or_publish`; `buffer` is the start of `prv_buffer_to_saf`. -/
inductive GatePc where
  | check
  | publish
  | publishing
  | buffer
  | enqueue
  | enqueuing
  | enqueued
  deriving DecidableEq, Repr

/-- A call has read its payload, for an alarm the first bytes of the alarm buffer. -/
def Shared.handOver (s : Shared) : Option (AlarmEvent × Nat) -> Shared
  | none => s
  | some (ev, n) => { s with handed := s.handed ++ [(ev, s.alarmBuf.take n)] }

/-- One step of the gate; `none` is its return.  The payload is read at the end of a call, so
that what another task does during the call is seen. -/
inductive GateStep (t : Task) (item : Option (AlarmEvent × Nat)) :
    Shared -> GatePc -> Shared -> Option GatePc -> Prop where
  | linkUp {s} (hup : s.connected = true) : GateStep t item s .check s (some .publish)
  | linkDown {s} (hdown : s.connected = false) : GateStep t item s .check s (some .buffer)
  | publish (s) : GateStep t item s .publish s (some .publishing)
  | published (s) : GateStep t item s .publishing (s.handOver item) none
  | publishFailed (s) : GateStep t item s .publishing s (some .buffer)
  | takeSaf {s} (hfree : s.safLock = none) :
      GateStep t item s .buffer { s with safLock := some t } (some .enqueue)
  | enqueue (s) :
      GateStep t item s .enqueue { s with safCalls := .enqueue t :: s.safCalls }
        (some .enqueuing)
  | enqueued (s) : GateStep t item s .enqueuing (s.handOver item) (some .enqueued)
  | giveSaf (s) : GateStep t item s .enqueued { s with safLock := none } none

/-!
## Draining the alarm queue
-/

/-- Where a task is in `prv_drain_alarm_queue`. -/
inductive DrainPc where
  | receive
  | received (ev : AlarmEvent)
  | handing (ev : AlarmEvent) (n : Nat) (gate : GatePc)

inductive DrainStep (serial : DeviceSerial) (t : Task) (linkHeld : Bool) :
    Shared -> DrainPc -> Shared -> Option DrainPc -> Prop where
  | empty {s} (hempty : s.alarmQueue = []) : DrainStep serial t linkHeld s .receive s none
  | receive {s ev rest} (hqueue : s.alarmQueue = ev :: rest) :
      DrainStep serial t linkHeld s .receive { s with alarmQueue := rest } (some (.received ev))
  | tooLong {s ev} (hlong : (cpSerialiseAlarm serial ev s.alarmBuf).2 = 0) :
      DrainStep serial t linkHeld s (.received ev)
        { s with alarmBuf := (cpSerialiseAlarm serial ev s.alarmBuf).1 } (some .receive)
  | serialise {s ev} (hfits : (cpSerialiseAlarm serial ev s.alarmBuf).2 ≠ 0) :
      DrainStep serial t linkHeld s (.received ev)
        { s with alarmBuf := (cpSerialiseAlarm serial ev s.alarmBuf).1 }
        (some (.handing ev (cpSerialiseAlarm serial ev s.alarmBuf).2
          (if linkHeld then .check else .buffer)))
  | gate {s ev n g s' g'} (hstep : GateStep t (some (ev, n)) s g s' (some g')) :
      DrainStep serial t linkHeld s (.handing ev n g) s' (some (.handing ev n g'))
  | handed {s ev n g s'} (hstep : GateStep t (some (ev, n)) s g s' none) :
      DrainStep serial t linkHeld s (.handing ev n g) s' (some .receive)

/-!
## CpAlarmTask
-/

/-- Where `prv_alarm_task_step` is. -/
inductive AlarmPc where
  | waiting
  | check
  | takeLink
  | draining (linkHeld : Bool) (pc : DrainPc)
  | giveLink

/-- `mqtt_client_is_connected` reads one flag of the handle: it is one step and not an entry. -/
inductive AlarmStep (serial : DeviceSerial) :
    Shared -> AlarmPc -> Shared -> AlarmPc -> Prop where
  | wake {s} (hpending : s.alarmPending = true) :
      AlarmStep serial s .waiting { s with alarmPending := false } .check
  | linkDown {s} (hdown : s.connected = false) :
      AlarmStep serial s .check s (.draining false .receive)
  | linkUp {s} (hup : s.connected = true) : AlarmStep serial s .check s .takeLink
  | takeLink {s} (hfree : s.linkLock = none) :
      AlarmStep serial s .takeLink { s with linkLock := some .alarm } (.draining true .receive)
  | drain {s pc s' pc' linkHeld} (hstep : DrainStep serial .alarm linkHeld s pc s' (some pc')) :
      AlarmStep serial s (.draining linkHeld pc) s' (.draining linkHeld pc')
  | drained {s pc s'} (hstep : DrainStep serial .alarm true s pc s' none) :
      AlarmStep serial s (.draining true pc) s' .giveLink
  | buffered {s pc s'} (hstep : DrainStep serial .alarm false s pc s' none) :
      AlarmStep serial s (.draining false pc) s' .waiting
  | giveLink (s) : AlarmStep serial s .giveLink { s with linkLock := none } .waiting

/-!
## Replay
-/

abbrev cpDrainMaxEntries : Nat := 4
abbrev cpDrainMaxBytes : Nat := 2048
abbrev cpDrainPoisonFails : Nat := 3

inductive ReplayPoint where
  | check
  | loop
  | dequeue
  | dequeuing (found : Bool)
  | publish
  | publishing
  | failed
  | dropping
  | confirm
  | confirming
  | giveLast
  | giveNext
  | process
  | processing
  | yieldGive
  | yieldTake
  | recheck
  deriving DecidableEq, Repr

/-- Where `prv_drain_saf` is, with the counters of the pass. -/
structure ReplayPc where
  point : ReplayPoint
  sent : Nat
  bytes : Nat

def ReplayPc.to (pc : ReplayPc) (point : ReplayPoint) : ReplayPc := { pc with point := point }

/-- One step of a replay pass; `none` is its return.  The time limit of a pass may run out at any
turn of the loop. -/
inductive ReplayStep : Shared -> ReplayPc -> Shared -> Option ReplayPc -> Prop where
  | linkUp {s pc} (hat : pc.point = .check) (hup : s.connected = true) :
      ReplayStep s pc s (some (pc.to .loop))
  | linkDown {s pc} (hat : pc.point = .check) (hdown : s.connected = false) :
      ReplayStep s pc s none
  | takeSaf {s pc} (hat : pc.point = .loop) (hsent : pc.sent < cpDrainMaxEntries)
      (hbytes : pc.bytes < cpDrainMaxBytes) (hfree : s.safLock = none) :
      ReplayStep s pc { s with safLock := some .publisher } (some (pc.to .dequeue))
  | limit {s pc} (hat : pc.point = .loop) : ReplayStep s pc s none
  | dequeue {s pc} (hat : pc.point = .dequeue) (found : Bool) :
      ReplayStep s pc { s with safCalls := .dequeue found :: s.safCalls }
        (some (pc.to (.dequeuing found)))
  | dequeued {s pc} (hat : pc.point = .dequeuing true) :
      ReplayStep s pc s (some (pc.to .publish))
  | nothing {s pc} (hat : pc.point = .dequeuing false) :
      ReplayStep s pc s (some (pc.to .giveLast))
  | publish {s pc} (hat : pc.point = .publish) : ReplayStep s pc s (some (pc.to .publishing))
  | published {s pc} (hat : pc.point = .publishing) (len : Nat) :
      ReplayStep s pc { s with drainEntryFails := 0 }
        (some ⟨.confirm, pc.sent + 1, pc.bytes + len⟩)
  | publishFailed {s pc} (hat : pc.point = .publishing) :
      ReplayStep s pc { s with drainEntryFails := s.drainEntryFails + 1 } (some (pc.to .failed))
  | keep {s pc} (hat : pc.point = .failed) (hfew : s.drainEntryFails < cpDrainPoisonFails) :
      ReplayStep s pc s (some (pc.to .giveLast))
  | drop {s pc} (hat : pc.point = .failed) (hmany : cpDrainPoisonFails ≤ s.drainEntryFails) :
      ReplayStep s pc { s with drainEntryFails := 0, safCalls := .confirm :: s.safCalls }
        (some (pc.to .dropping))
  | dropped {s pc} (hat : pc.point = .dropping) : ReplayStep s pc s (some (pc.to .giveLast))
  | confirm {s pc} (hat : pc.point = .confirm) :
      ReplayStep s pc { s with safCalls := .confirm :: s.safCalls } (some (pc.to .confirming))
  | confirmed {s pc} (hat : pc.point = .confirming) :
      ReplayStep s pc s (some (pc.to .giveNext))
  | confirmFailed {s pc} (hat : pc.point = .confirming) :
      ReplayStep s pc s (some (pc.to .giveLast))
  | giveLast {s pc} (hat : pc.point = .giveLast) :
      ReplayStep s pc { s with safLock := none } none
  | giveNext {s pc} (hat : pc.point = .giveNext) :
      ReplayStep s pc { s with safLock := none } (some (pc.to .process))
  | process {s pc} (hat : pc.point = .process) : ReplayStep s pc s (some (pc.to .processing))
  | processed {s pc} (hat : pc.point = .processing) :
      ReplayStep s pc s (some (pc.to .yieldGive))
  | yieldGive {s pc} (hat : pc.point = .yieldGive) :
      ReplayStep s pc { s with linkLock := none } (some (pc.to .yieldTake))
  | yieldTake {s pc} (hat : pc.point = .yieldTake) (hfree : s.linkLock = none) :
      ReplayStep s pc { s with linkLock := some .publisher } (some (pc.to .recheck))
  | stillUp {s pc} (hat : pc.point = .recheck) (hup : s.connected = true) :
      ReplayStep s pc s (some (pc.to .loop))
  | lost {s pc} (hat : pc.point = .recheck) (hdown : s.connected = false) :
      ReplayStep s pc s none

/-!
## CloudPublisherTask
-/

/-- The calls of MqttClient that the publisher makes itself. -/
inductive MqttCall where
  | publish
  | process
  | getStats
  | connectStep
  | subscribePoll
  | subscribeStart
  deriving DecidableEq, Repr

/-- A message of the publisher's own goes through the gate, from its own buffer. -/
inductive OwnCall where
  | gate
  | mqtt (call : MqttCall)
  deriving DecidableEq, Repr

inductive Work where
  | commands
  | otaOut
  | flush
  | config
  | yield
  | telemetry
  | health
  | stats
  | process
  deriving DecidableEq, Repr

structure Notified where
  commandPending : Bool
  otaOut : Bool
  flushRequest : Bool
  configChanged : Bool
  telemetryTick : Bool
  healthTick : Bool
  statsTick : Bool

/-- What `prv_task_step` does for a set of notification bits, in its order. -/
def prvTaskStep (notif : Notified) : List Work :=
  (if notif.commandPending then [Work.commands] else []) ++
    (if notif.otaOut then [Work.otaOut] else []) ++
    (if notif.flushRequest then [Work.flush] else []) ++
    (if notif.configChanged then [Work.config] else []) ++
    (if notif.telemetryTick then [Work.yield, Work.telemetry] else []) ++
    (if notif.healthTick then [Work.yield, Work.health] else []) ++
    (if notif.statsTick then [Work.yield, Work.stats] else []) ++ [Work.yield, Work.process]

/-- The rounds of the loop in `prv_subscribe_commands`: a start that returned OK is polled at
once, and a poll that returns OK goes on to the next topic. -/
inductive SubscribeCalls : List OwnCall -> Prop where
  | allHeld : SubscribeCalls []
  | startFailed : SubscribeCalls [.mqtt .subscribeStart]
  | started {calls : List OwnCall} (more : SubscribeCalls calls) :
      SubscribeCalls (.mqtt .subscribeStart :: .mqtt .subscribePoll :: calls)

/-- The calls that one turn of a work item may make: a command is answered with up to two
messages, an OTA report goes through the gate and a chunk request does not, a payload that could
not be built is not sent, a stats tick polls, subscribes or takes a connect step. -/
inductive MayCall : Work -> List OwnCall -> Prop where
  | reply : MayCall .commands [.gate]
  | read : MayCall .commands [.gate, .gate]
  | silent : MayCall .commands []
  | report : MayCall .otaOut [.gate]
  | request : MayCall .otaOut [.mqtt .publish]
  | dropped : MayCall .otaOut []
  | telemetry : MayCall .telemetry [.gate]
  | noSnapshot : MayCall .telemetry []
  | health : MayCall .health [.gate]
  | tooLong : MayCall .health []
  | connect : MayCall .stats [.mqtt .getStats, .mqtt .connectStep]
  | subscribe {calls : List OwnCall} (rounds : SubscribeCalls calls) :
      MayCall .stats (.mqtt .getStats :: calls)
  | settle {calls : List OwnCall} (rounds : SubscribeCalls calls) :
      MayCall .stats (.mqtt .getStats :: .mqtt .subscribePoll :: calls)
  | process : MayCall .process [.mqtt .process]

/-- The items that loop over a queue. -/
def Work.loops : Work -> Bool
  | .commands => true
  | .otaOut => true
  | _ => false

/-- Where the publisher task is; `todo` is what is left of its step. -/
inductive PublisherPc where
  | waiting
  | takeLink (todo : List Work)
  | next (todo : List Work)
  | item (work : Work) (todo : List Work)
  | calls (calls : List OwnCall) (work : Work) (todo : List Work)
  | gate (pc : GatePc) (calls : List OwnCall) (work : Work) (todo : List Work)
  | calling (calls : List OwnCall) (work : Work) (todo : List Work)
  | flushing (pc : DrainPc) (todo : List Work)
  | replaying (pc : ReplayPc) (todo : List Work)
  | yieldTake (todo : List Work)

def ReplayPc.start : ReplayPc := ⟨.check, 0, 0⟩

inductive PublisherStep (serial : DeviceSerial) :
    Shared -> PublisherPc -> Shared -> PublisherPc -> Prop where
  | wake (s) (notif : Notified) :
      PublisherStep serial s .waiting s (.takeLink (prvTaskStep notif))
  | takeLink {s todo} (hfree : s.linkLock = none) :
      PublisherStep serial s (.takeLink todo) { s with linkLock := some .publisher }
        (.next todo)
  | finish (s) : PublisherStep serial s (.next []) { s with linkLock := none } .waiting
  | next (s work todo) : PublisherStep serial s (.next (work :: todo)) s (.item work todo)
  | yieldGive (s todo) :
      PublisherStep serial s (.item .yield todo) { s with linkLock := none } (.yieldTake todo)
  | yieldTake {s todo} (hfree : s.linkLock = none) :
      PublisherStep serial s (.yieldTake todo) { s with linkLock := some .publisher }
        (.next todo)
  | config (s todo) : PublisherStep serial s (.item .config todo) s (.next todo)
  | flush (s todo) : PublisherStep serial s (.item .flush todo) s (.flushing .receive todo)
  | turn {s work calls todo} (hmay : MayCall work calls) :
      PublisherStep serial s (.item work todo) s (.calls calls work todo)
  | empty {s work todo} (hloops : work.loops = true) :
      PublisherStep serial s (.item work todo) s (.next todo)
  | gateStart (s calls work todo) :
      PublisherStep serial s (.calls (.gate :: calls) work todo) s
        (.gate .check calls work todo)
  | gateStep {s g s' g' calls work todo} (hstep : GateStep .publisher none s g s' (some g')) :
      PublisherStep serial s (.gate g calls work todo) s' (.gate g' calls work todo)
  | gateDone {s g s' calls work todo} (hstep : GateStep .publisher none s g s' none) :
      PublisherStep serial s (.gate g calls work todo) s' (.calls calls work todo)
  | mqttStart (s call calls work todo) :
      PublisherStep serial s (.calls (.mqtt call :: calls) work todo) s
        (.calling calls work todo)
  | mqttDone (s calls work todo) :
      PublisherStep serial s (.calling calls work todo) s (.calls calls work todo)
  | again {s work todo} (hloops : work.loops = true) :
      PublisherStep serial s (.calls [] work todo) s (.item work todo)
  | done {s work todo} (honce : work.loops = false) :
      PublisherStep serial s (.calls [] work todo) s (.next todo)
  | replay (s todo) :
      PublisherStep serial s (.calls [] .stats todo) s (.replaying .start todo)
  | drain {s pc s' pc' todo} (hstep : DrainStep serial .publisher true s pc s' (some pc')) :
      PublisherStep serial s (.flushing pc todo) s' (.flushing pc' todo)
  | drained {s pc s' todo} (hstep : DrainStep serial .publisher true s pc s' none) :
      PublisherStep serial s (.flushing pc todo) s' (.replaying .start todo)
  | replayStep {s pc s' pc' todo} (hstep : ReplayStep s pc s' (some pc')) :
      PublisherStep serial s (.replaying pc todo) s' (.replaying pc' todo)
  | replayDone {s pc s' todo} (hstep : ReplayStep s pc s' none) :
      PublisherStep serial s (.replaying pc todo) s' (.next todo)

/-!
## The callbacks and the whole system
-/

inductive Source where
  | sensorTask
  | modbusPoller
  deriving DecidableEq, Repr

/-- Where a callback is; `notify` is between `xQueueSend` and `xTaskNotify`. -/
inductive CallbackPc where
  | idle
  | sending (events : List AlarmEvent)
  | notify (events : List AlarmEvent)

/-- `xQueueSend` without waiting. -/
def Shared.sendAlarm (s : Shared) (ev : AlarmEvent) : Shared :=
  if s.alarmQueue.length < cpAlarmQueueLen then
    { s with alarmQueue := s.alarmQueue ++ [ev], accepted := s.accepted ++ [ev] }
  else s

inductive CallbackStep : Shared -> CallbackPc -> Shared -> CallbackPc -> Prop where
  | send (s ev events) :
      CallbackStep s (.sending (ev :: events)) (s.sendAlarm ev) (.notify events)
  | notify (s events) :
      CallbackStep s (.notify events) { s with alarmPending := true } (.sending events)
  | done (s) : CallbackStep s (.sending []) s .idle

structure System where
  shared : Shared
  alarm : AlarmPc
  publisher : PublisherPc
  callback : Source -> CallbackPc
  lastRaised : SensorId -> AlarmTransition

def Shared.start : Shared where
  alarmQueue := []
  alarmBuf := List.replicate cpAlarmJsonBufSize 0
  alarmPending := false
  connected := false
  linkLock := none
  safLock := none
  drainEntryFails := 0
  accepted := []
  handed := []
  safCalls := []

def System.start : System where
  shared := .start
  alarm := .waiting
  publisher := .waiting
  callback := fun _ => .idle
  lastRaised := fun _ => .raisedHigh

/-- Who takes a step; the link goes up and down by itself. -/
inductive Actor where
  | alarm
  | publisher
  | callback (source : Source)
  | link
  deriving DecidableEq, Repr

inductive Step (serial : DeviceSerial) : System -> Actor -> System -> Prop where
  | alarm {s shared pc} (hstep : AlarmStep serial s.shared s.alarm shared pc) :
      Step serial s .alarm { s with shared := shared, alarm := pc }
  | publisher {s shared pc} (hstep : PublisherStep serial s.shared s.publisher shared pc) :
      Step serial s .publisher { s with shared := shared, publisher := pc }
  | callback {s source shared pc} (hstep : CallbackStep s.shared (s.callback source) shared pc) :
      Step serial s (.callback source)
        { s with shared := shared, callback := Function.update s.callback source pc }
  | sensorAlarm {s ev} (getLimit : SensorId -> AlarmTransition -> Option Int32)
      (sensor : SensorId) (event : AlarmTransition) (value : Int32) (timestamp : TimeProviderTs)
      (hidle : s.callback .sensorTask = .idle)
      (hev : prvAlarmEventCb getLimit s.lastRaised sensor event value timestamp = some ev) :
      Step serial s (.callback .sensorTask)
        { s with callback := Function.update s.callback .sensorTask (.sending [ev])
                 lastRaised := noteRaised s.lastRaised sensor event }
  | fdAlarm {s} (flagsBefore flagsNow : UInt16) (fd : Option FdCache) (ts : TimeProviderTs)
      (hidle : s.callback .modbusPoller = .idle) :
      Step serial s (.callback .modbusPoller)
        { s with callback := Function.update s.callback .modbusPoller
                   (.sending (prvFdAlarmCb flagsBefore flagsNow fd ts)) }
  | link (s) (connected : Bool) :
      Step serial s .link { s with shared := { s.shared with connected := connected } }

inductive Reachable (serial : DeviceSerial) : System -> Prop where
  | start : Reachable serial .start
  | next {s actor s'} (hrun : Reachable serial s) (hstep : Step serial s actor s') :
      Reachable serial s'

end EnvMonitor.Gateway.CloudPublisher
