import EnvMonitor.Gateway.CloudPublisher.AlarmHandover

/-!
# Alarms over whole runs

What holds in every run of the two tasks and the callbacks, and what holds in the runs in which
no task serialises an alarm while the other still needs the text in the buffer.
-/

namespace EnvMonitor.Gateway.CloudPublisher

open Concurrency
open TimeProvider

/-!
## In every run
-/

/-- What holds whatever the order of the steps. -/
structure Inv (s : System) : Prop where
  link : Agrees s.shared.linkLock s.holdsLink
  saf : Agrees s.shared.safLock s.holdsSaf
  shape : s.alarm.Shape
  ledger : (s.shared.accepted : Multiset AlarmEvent) =
    s.shared.handedEvents + s.alarm.drain.carried + s.publisher.drain.carried +
      s.shared.alarmQueue
  replayed : Replayed s.shared.safCalls s.publisher.holdsEntry
  /-- Nobody sleeps on a queued alarm. -/
  woken : s.shared.alarmQueue ≠ [] -> s.shared.alarmPending = true ∨ s.alarm.willDrain = true ∨
    exists source events, s.callback source = .notify events

theorem Inv.start : Inv .start where
  link t := by cases t <;> decide
  saf t := by cases t <;> decide
  shape := trivial
  ledger := rfl
  replayed := .of_not_held trivial
  woken h := absurd rfl h

variable {serial : DeviceSerial} {s s' : System}

theorem AlarmStep.woken {shared shared' : Shared} {pc pc' : AlarmPc}
    (h : AlarmStep serial shared pc shared' pc')
    (hwoken : shared.alarmQueue ≠ [] -> shared.alarmPending = true ∨ pc.willDrain = true)
    (hqueue : shared'.alarmQueue ≠ []) :
    shared'.alarmPending = true ∨ pc'.willDrain = true := by
  cases h with
  | drained hstep =>
      rw [hstep.returns.2.1] at hqueue
      exact absurd hstep.returns.2.2 hqueue
  | buffered hstep =>
      rw [hstep.returns.2.1] at hqueue
      exact absurd hstep.returns.2.2 hqueue
  | giveLink =>
      cases hwoken hqueue with
      | inl hpending => exact Or.inl hpending
      | inr hdrains => cases hdrains
  | _ => exact Or.inr rfl

theorem PublisherStep.queue_sub {shared shared' : Shared} {pc pc' : PublisherPc}
    (h : PublisherStep serial shared pc shared' pc') (hqueue : shared'.alarmQueue ≠ []) :
    shared.alarmQueue ≠ [] := by
  cases h with
  | gateStep hstep => rw [← hstep.queue.1]; exact hqueue
  | gateDone hstep => rw [← hstep.queue.1]; exact hqueue
  | drain hstep => exact hstep.queue_sub hqueue
  | drained hstep => exact hstep.queue_sub hqueue
  | replayStep hstep => rw [← hstep.same.queue]; exact hqueue
  | replayDone hstep => rw [← hstep.same.queue]; exact hqueue
  | _ => exact hqueue

theorem Inv.alarm {shared : Shared} {pc : AlarmPc} (hinv : Inv s)
    (hstep : AlarmStep serial s.shared s.alarm shared pc) :
    Inv { s with shared := shared, alarm := pc } where
  link := hinv.link.moves hstep.link fun other hother => by
    cases other with
    | alarm => exact absurd rfl hother
    | publisher => rfl
  saf := hinv.saf.moves hstep.saf fun other hother => by
    cases other with
    | alarm => exact absurd rfl hother
    | publisher => rfl
  shape := hstep.shape hinv.shape
  ledger := by
    have hledger := hstep.drainMove.ledger
    change (shared.accepted : Multiset AlarmEvent) =
      shared.handedEvents + pc.drain.carried + s.publisher.drain.carried + shared.alarmQueue
    rw [hledger.1, hinv.ledger, add_right_comm _ s.publisher.drain.carried, ← hledger.2,
      add_right_comm]
  replayed := by
    rcases hstep.safCalls with hsame | ⟨hholds, hnew⟩
    · change Replayed shared.safCalls s.publisher.holdsEntry
      rw [hsame]
      exact hinv.replayed
    · -- the alarm task holds `saf_lock`, so the publisher holds no entry
      have hout : s.publisher.holdsEntry = false := by
        cases hentry : s.publisher.holdsEntry with
        | false => rfl
        | true =>
            have hpublisher : s.holdsSaf .publisher = true := holdsSaf_of_holdsEntry hentry
            have halarm : s.holdsSaf .alarm = true := hholds
            cases hinv.saf.exclusive halarm hpublisher
      change Replayed shared.safCalls s.publisher.holdsEntry
      rw [hnew, hout]
      exact .of_not_held hinv.replayed.confirms
  woken hqueue := by
    by_cases hnotify : exists source events, s.callback source = .notify events
    · exact Or.inr (Or.inr hnotify)
    · have hwoken : s.shared.alarmQueue ≠ [] ->
          s.shared.alarmPending = true ∨ s.alarm.willDrain = true := by
        intro hbefore
        rcases hinv.woken hbefore with hpending | hdrains | hcallback
        · exact Or.inl hpending
        · exact Or.inr hdrains
        · exact absurd hcallback hnotify
      cases hstep.woken hwoken hqueue with
      | inl hpending => exact Or.inl hpending
      | inr hdrains => exact Or.inr (Or.inl hdrains)

theorem Inv.publisher {shared : Shared} {pc : PublisherPc} (hinv : Inv s)
    (hstep : PublisherStep serial s.shared s.publisher shared pc) :
    Inv { s with shared := shared, publisher := pc } where
  link := hinv.link.moves hstep.link fun other hother => by
    cases other with
    | alarm => rfl
    | publisher => exact absurd rfl hother
  saf := hinv.saf.moves hstep.saf fun other hother => by
    cases other with
    | alarm => rfl
    | publisher => exact absurd rfl hother
  shape := hinv.shape
  ledger := by
    have hledger := hstep.drainMove.ledger
    change (shared.accepted : Multiset AlarmEvent) =
      shared.handedEvents + s.alarm.drain.carried + pc.drain.carried + shared.alarmQueue
    rw [hledger.1, hinv.ledger, add_right_comm _ s.alarm.drain.carried,
      add_right_comm _ s.alarm.drain.carried, ← hledger.2, add_right_comm,
      add_right_comm _ _ s.alarm.drain.carried]
  replayed := hstep.replayed hinv.replayed
  woken hqueue := by
    change shared.alarmPending = true ∨ s.alarm.willDrain = true ∨ _
    rw [hstep.pending]
    exact hinv.woken (hstep.queue_sub hqueue)

theorem sendAlarm_frame (shared : Shared) (ev : AlarmEvent) :
    (shared.sendAlarm ev).linkLock = shared.linkLock ∧
      (shared.sendAlarm ev).safLock = shared.safLock ∧
      (shared.sendAlarm ev).safCalls = shared.safCalls ∧
      (shared.sendAlarm ev).handed = shared.handed ∧
      (shared.sendAlarm ev).alarmBuf = shared.alarmBuf := by
  unfold Shared.sendAlarm
  split
  · exact ⟨rfl, rfl, rfl, rfl, rfl⟩
  · exact ⟨rfl, rfl, rfl, rfl, rfl⟩

theorem sendAlarm_accepted {shared : Shared} {ev : AlarmEvent} {others : Multiset AlarmEvent}
    (h : (shared.accepted : Multiset AlarmEvent) = others + shared.alarmQueue) :
    ((shared.sendAlarm ev).accepted : Multiset AlarmEvent) =
      others + (shared.sendAlarm ev).alarmQueue := by
  unfold Shared.sendAlarm
  split
  · dsimp only
    rw [← Multiset.coe_add, ← Multiset.coe_add, h, add_assoc]
  · exact h

theorem Inv.callback {source : Source} {shared : Shared} {pc : CallbackPc} (hinv : Inv s)
    (hstep : CallbackStep s.shared (s.callback source) shared pc) :
    Inv { s with shared := shared, callback := Function.update s.callback source pc } := by
  generalize hbefore : s.callback source = before at hstep
  cases hstep with
  | send ev events =>
      have hframe := sendAlarm_frame s.shared ev
      constructor
      · change Agrees (s.shared.sendAlarm ev).linkLock s.holdsLink
        rw [hframe.1]
        exact hinv.link
      · change Agrees (s.shared.sendAlarm ev).safLock s.holdsSaf
        rw [hframe.2.1]
        exact hinv.saf
      · exact hinv.shape
      · have hledger := @sendAlarm_accepted s.shared ev _ hinv.ledger
        unfold Shared.handedEvents at hledger ⊢
        dsimp only
        rw [hframe.2.2.2.1]
        exact hledger
      · change Replayed (s.shared.sendAlarm ev).safCalls s.publisher.holdsEntry
        rw [hframe.2.2.1]
        exact hinv.replayed
      · intro _
        exact Or.inr (Or.inr ⟨source, events, Function.update_self _ _ _⟩)
  | notify events =>
      exact ⟨hinv.link, hinv.saf, hinv.shape, hinv.ledger, hinv.replayed,
        fun _ => Or.inl rfl⟩
  | done =>
      refine ⟨hinv.link, hinv.saf, hinv.shape, hinv.ledger, hinv.replayed, fun hqueue => ?_⟩
      rcases hinv.woken hqueue with hpending | hdrains | ⟨other, events, hnotify⟩
      · exact Or.inl hpending
      · exact Or.inr (Or.inl hdrains)
      · refine Or.inr (Or.inr ⟨other, events, ?_⟩)
        have hother : other ≠ source := by
          intro heq
          rw [heq, hbefore] at hnotify
          cases hnotify
        exact (Function.update_of_ne hother _ _).trans hnotify

theorem Inv.startCallback {source : Source} {events : List AlarmEvent}
    {lastRaised : SensorId -> AlarmTransition} (hinv : Inv s)
    (hidle : s.callback source = .idle) :
    Inv { s with callback := Function.update s.callback source (.sending events)
                 lastRaised := lastRaised } := by
  refine ⟨hinv.link, hinv.saf, hinv.shape, hinv.ledger, hinv.replayed, fun hqueue => ?_⟩
  rcases hinv.woken hqueue with hpending | hdrains | ⟨other, waiting, hnotify⟩
  · exact Or.inl hpending
  · exact Or.inr (Or.inl hdrains)
  · refine Or.inr (Or.inr ⟨other, waiting, ?_⟩)
    have hother : other ≠ source := by
      intro heq
      rw [heq, hidle] at hnotify
      cases hnotify
    exact (Function.update_of_ne hother _ _).trans hnotify

theorem Inv.step {actor : Actor} (hinv : Inv s) (hstep : Step serial s actor s') : Inv s' := by
  cases hstep with
  | alarm hstep => exact hinv.alarm hstep
  | publisher hstep => exact hinv.publisher hstep
  | callback hstep => exact hinv.callback hstep
  | sensorAlarm _ _ _ _ _ hidle _ => exact hinv.startCallback hidle
  | fdAlarm _ _ _ _ hidle => exact hinv.startCallback hidle
  | link =>
      exact ⟨hinv.link, hinv.saf, hinv.shape, hinv.ledger, hinv.replayed, hinv.woken⟩

theorem Reachable.inv (hrun : Reachable serial s) : Inv s := by
  induction hrun with
  | start => exact Inv.start
  | next _ hstep ih => exact ih.step hstep

/-!
## Undisturbed runs
-/

/-- The step does not write the alarm buffer while the other task still needs the text in it. -/
def Undisturbed (s : System) : Actor -> Prop
  | .alarm => s.alarm.drain.serialises = true -> s.publisher.drain.needsText = false
  | .publisher => s.publisher.drain.serialises = true -> s.alarm.drain.needsText = false
  | _ => True

inductive UndisturbedRun (serial : DeviceSerial) : System -> Prop where
  | start : UndisturbedRun serial .start
  | next {s actor s'} (hrun : UndisturbedRun serial s) (hstep : Step serial s actor s')
      (hquiet : Undisturbed s actor) : UndisturbedRun serial s'

theorem UndisturbedRun.reachable (hrun : UndisturbedRun serial s) : Reachable serial s := by
  induction hrun with
  | start => exact .start
  | next _ hstep _ ih => exact .next ih hstep

/-- The texts handed over and the texts in hand are those of their events. -/
structure Texts (serial : DeviceSerial) (s : System) : Prop where
  handed : HandedOk serial s.shared
  inHand : forall t, (s.drain t).TextOk serial s.shared.alarmBuf

theorem DrainMove.other {t : Task} {shared shared' : Shared} {pc pc' kept : DrainPc}
    (h : DrainMove serial t shared pc shared' pc')
    (hquiet : pc.serialises = true -> kept.needsText = false)
    (hkept : kept.TextOk serial shared.alarmBuf) : kept.TextOk serial shared'.alarmBuf := by
  cases hwrites : pc.serialises with
  | true => exact TextOk.of_not_needed hkept (hquiet hwrites)
  | false =>
      rw [h.buf hwrites]
      exact hkept

theorem Texts.step {actor : Actor} (htexts : Texts serial s) (hstep : Step serial s actor s')
    (hquiet : Undisturbed s actor) : Texts serial s' := by
  cases hstep with
  | alarm hstep =>
      have hmove := hstep.drainMove
      have hown := hmove.text (htexts.inHand .alarm) htexts.handed
      refine ⟨hown.1, fun t => ?_⟩
      cases t with
      | alarm => exact hown.2
      | publisher => exact hmove.other hquiet (htexts.inHand .publisher)
  | publisher hstep =>
      have hmove := hstep.drainMove
      have hown := hmove.text (htexts.inHand .publisher) htexts.handed
      refine ⟨hown.1, fun t => ?_⟩
      cases t with
      | alarm => exact hmove.other hquiet (htexts.inHand .alarm)
      | publisher => exact hown.2
  | @callback source _ _ hstep =>
      generalize s.callback source = before at hstep
      cases hstep with
      | send ev =>
          have hframe := sendAlarm_frame s.shared ev
          constructor
          · unfold HandedOk
            dsimp only
            rw [hframe.2.2.2.1]
            exact htexts.handed
          · intro t
            dsimp only
            rw [hframe.2.2.2.2]
            exact htexts.inHand t
      | notify => exact ⟨htexts.handed, htexts.inHand⟩
      | done => exact ⟨htexts.handed, htexts.inHand⟩
  | sensorAlarm => exact ⟨htexts.handed, htexts.inHand⟩
  | fdAlarm => exact ⟨htexts.handed, htexts.inHand⟩
  | link => exact ⟨htexts.handed, htexts.inHand⟩

theorem UndisturbedRun.texts (hrun : UndisturbedRun serial s) : Texts serial s := by
  induction hrun with
  | start =>
      refine ⟨fun h hmem => (by cases hmem), fun t => ?_⟩
      cases t with
      | alarm => trivial
      | publisher => trivial
  | next _ hstep hquiet ih => exact ih.step hstep hquiet

/-!
## The result
-/

/-- Nothing is on its way: the tasks wait, no wake-up is due and no callback runs. -/
structure AtRest (s : System) : Prop where
  alarm : s.alarm = .waiting
  publisher : s.publisher = .waiting
  pending : s.shared.alarmPending = false
  callbacks : forall source, s.callback source = .idle

/-- A task is inside the call that is to hand the event over. -/
def DrainPc.Hands (pc : DrainPc) (ev : AlarmEvent) (n : Nat) : Prop :=
  pc = .handing ev n .publishing ∨ pc = .handing ev n .enqueuing

/-- Every accepted event is handed over exactly once and unaltered, and the two tasks keep out of
each other's calls. -/
structure AlarmsHandedOver (serial : DeviceSerial) (s : System) : Prop where
  accounted : (s.shared.accepted : Multiset AlarmEvent) =
    s.shared.handedEvents + s.alarm.drain.carried + s.publisher.drain.carried +
      s.shared.alarmQueue
  complete : AtRest s -> (s.shared.accepted : Multiset AlarmEvent) = s.shared.handedEvents
  unaltered : forall h, h ∈ s.shared.handed -> h.2 = alarmText serial h.1
  stable : forall t ev n, (s.drain t).Hands ev n ->
    s.shared.alarmBuf.take n = alarmText serial ev
  mqttAlone : ¬(s.inMqtt .alarm = true ∧ s.inMqtt .publisher = true)
  safAlone : ¬(s.inSaf .alarm = true ∧ s.inSaf .publisher = true)
  confirms : ConfirmsFollow s.shared.safCalls
  replayUnbroken : s.publisher.holdsEntry = true ->
    s.shared.safCalls.head? = some (.dequeue true)

theorem DrainPc.holdsSaf_of_inSaf {pc : DrainPc} (h : pc.inSaf = true) :
    pc.holdsSaf = true := by
  cases pc with
  | receive => cases h
  | received => cases h
  | handing ev n g =>
      change g.holdsSaf = true
      rw [beq_iff_eq.mp h]
      rfl

theorem PublisherPc.holdsSaf_of_inSaf {pc : PublisherPc} (h : pc.inSaf = true) :
    pc.holdsSaf = true := by
  cases pc with
  | gate g =>
      change g.holdsSaf = true
      rw [beq_iff_eq.mp h]
      rfl
  | flushing pc => exact DrainPc.holdsSaf_of_inSaf h
  | replaying pc todo =>
      rcases pc with ⟨point, sent, bytes⟩
      cases point with
      | dequeuing => rfl
      | dropping => rfl
      | confirming => rfl
      | _ => cases h
  | _ => cases h

theorem PublisherPc.holdsLink_of_inMqtt {pc : PublisherPc} (h : pc.inMqtt = true) :
    pc.holdsLink = true := by
  cases pc with
  | gate => rfl
  | calling => rfl
  | flushing => rfl
  | replaying pc todo =>
      rcases pc with ⟨point, sent, bytes⟩
      cases point with
      | publishing => rfl
      | processing => rfl
      | _ => cases h
  | _ => cases h

theorem Inv.mqttAlone (hinv : Inv s) :
    ¬(s.inMqtt .alarm = true ∧ s.inMqtt .publisher = true) := by
  intro h
  have halarm : s.holdsLink .alarm = true := hinv.shape.inMqtt h.1
  have hpublisher : s.holdsLink .publisher = true := PublisherPc.holdsLink_of_inMqtt h.2
  cases hinv.link.exclusive halarm hpublisher

theorem Inv.safAlone (hinv : Inv s) :
    ¬(s.inSaf .alarm = true ∧ s.inSaf .publisher = true) := by
  intro h
  have halarm : s.holdsSaf .alarm = true := DrainPc.holdsSaf_of_inSaf h.1
  have hpublisher : s.holdsSaf .publisher = true := PublisherPc.holdsSaf_of_inSaf h.2
  cases hinv.saf.exclusive halarm hpublisher

theorem Inv.queue_of_rest (hinv : Inv s) (hrest : AtRest s) : s.shared.alarmQueue = [] := by
  by_cases hqueue : s.shared.alarmQueue = []
  · exact hqueue
  · rcases hinv.woken hqueue with hpending | hdrains | ⟨source, events, hnotify⟩
    · rw [hrest.pending] at hpending
      cases hpending
    · rw [hrest.alarm] at hdrains
      cases hdrains
    · rw [hrest.callbacks source] at hnotify
      cases hnotify

theorem Inv.complete (hinv : Inv s) (hrest : AtRest s) :
    (s.shared.accepted : Multiset AlarmEvent) = s.shared.handedEvents := by
  have hledger := hinv.ledger
  rw [hinv.queue_of_rest hrest, hrest.alarm, hrest.publisher] at hledger
  simpa [AlarmPc.drain, PublisherPc.drain, DrainPc.carried] using hledger

theorem Texts.stable (htexts : Texts serial s) {t : Task} {ev : AlarmEvent} {n : Nat}
    (hhands : (s.drain t).Hands ev n) : s.shared.alarmBuf.take n = alarmText serial ev := by
  have htext := htexts.inHand t
  cases hhands with
  | inl hpublishing =>
      rw [hpublishing] at htext
      exact htext.2 rfl
  | inr henqueuing =>
      rw [henqueuing] at htext
      exact htext.2 rfl

/-- In an undisturbed run every alarm event is handed over exactly once and unaltered. -/
theorem alarms_handed_over (hrun : UndisturbedRun serial s) : AlarmsHandedOver serial s where
  accounted := hrun.reachable.inv.ledger
  complete := hrun.reachable.inv.complete
  unaltered := hrun.texts.handed
  stable _ _ _ := hrun.texts.stable
  mqttAlone := hrun.reachable.inv.mqttAlone
  safAlone := hrun.reachable.inv.safAlone
  confirms := hrun.reachable.inv.replayed.confirms
  replayUnbroken := hrun.reachable.inv.replayed.last

/-!
## Runs on one alarm and on two
-/

def demoSerial : DeviceSerial := ⟨ascii "00112233445566778899AABB", by decide⟩

def demoTime : TimeProviderTs := ⟨1700000000, .synchronised⟩

/-- A high temperature at the gateway. -/
def sensorEvent : AlarmEvent where
  sensorName := nameField "temperature"
  alarmType := .high
  measuredValueRaw := 3100
  thresholdValueRaw := 3000
  source := .gateway
  timestamp := demoTime
  name_short := nameField_short _

/-- Bit 1 of `ALARM_FLAGS` at the Field Device. -/
def fdEvent : AlarmEvent := fdAlarmEvent 2 none demoTime 1

def demoLimit (_ : SensorId) (_ : AlarmTransition) : Option Int32 := some 3000

theorem sensorEvent_built :
    prvAlarmEventCb demoLimit System.start.lastRaised .temperature .raisedHigh 3100 demoTime =
      some sensorEvent := rfl

theorem fdEvent_built : prvFdAlarmCb 0 2 none demoTime = [fdEvent] := by
  have hbits : ((List.range cpFdAlarmBits).filter fun bit =>
      (0 : UInt16).toNat.testBit bit != (2 : UInt16).toNat.testBit bit) = [1] := by decide
  unfold prvFdAlarmCb
  rw [hbits]
  rfl

/-- With the link down an alarm is buffered, and the run is undisturbed. -/
theorem alarms_handed_over_buffered :
    exists s, s.shared.handed.map Prod.fst = [sensorEvent] ∧
      AlarmsHandedOver demoSerial s := by
  have h0 : UndisturbedRun demoSerial .start := .start
  have h1 := h0.next (.sensorAlarm demoLimit .temperature .raisedHigh 3100 demoTime rfl
    sensorEvent_built) trivial
  have h2 := h1.next (@Step.callback _ _ .sensorTask _ _ (.send _ sensorEvent [])) trivial
  have h3 := h2.next (@Step.callback _ _ .sensorTask _ _ (.notify _ [])) trivial
  have h4 := h3.next (.alarm (.wake rfl)) (fun _ => rfl)
  have h5 := h4.next (.alarm (.linkDown rfl)) (fun _ => rfl)
  have h6 := h5.next (.alarm (.drain (.receive rfl))) (fun _ => rfl)
  have h7 := h6.next (.alarm (.drain (.serialise (cpSerialiseAlarm_ne_zero _ _ _))))
    (fun _ => rfl)
  have h8 := h7.next (.alarm (.drain (.gate (.takeSaf rfl)))) (fun _ => rfl)
  have h9 := h8.next (.alarm (.drain (.gate (.enqueue _)))) (fun _ => rfl)
  have h10 := h9.next (.alarm (.drain (.gate (.enqueued _)))) (fun _ => rfl)
  exact ⟨_, rfl, alarms_handed_over h10⟩

/-- The publisher flushes one alarm with the link down while the alarm task serialises another:
what is buffered for the first is read from the text of the second. -/
theorem flush_race {ev ev' : AlarmEvent} {flags : UInt16}
    (hfd : prvFdAlarmCb 0 flags none demoTime = [ev])
    (hsensor : prvAlarmEventCb demoLimit System.start.lastRaised .temperature .raisedHigh 3100
      demoTime = some ev') :
    exists s, Reachable serial s ∧
      s.shared.handed =
        [(ev, (cpSerialiseAlarm serial ev'
          (cpSerialiseAlarm serial ev Shared.start.alarmBuf).1).1.take
            (cpSerialiseAlarm serial ev Shared.start.alarmBuf).2)] := by
  have h0 : Reachable serial .start := .start
  have h1 := h0.next (.fdAlarm 0 flags none demoTime rfl)
  rw [hfd] at h1
  -- the publisher preempts the callback between the queue and the notification
  have h2 := h1.next (@Step.callback _ _ .modbusPoller _ _ (.send _ ev []))
  have h3 := h2.next (.publisher (.wake _ ⟨false, false, true, false, false, false, false⟩))
  have h4 := h3.next (.publisher (.takeLink rfl))
  have h5 := h4.next (.publisher (.next _ .flush [.yield, .process]))
  have h6 := h5.next (.publisher (.flush _ _))
  have h7 := h6.next (.publisher (.drain (.receive rfl)))
  have h8 := h7.next (.publisher (.drain (.serialise (cpSerialiseAlarm_ne_zero _ _ _))))
  have h9 := h8.next (.publisher (.drain (.gate (.linkDown rfl))))
  have h10 := h9.next (.publisher (.drain (.gate (.takeSaf rfl))))
  have h11 := h10.next (.publisher (.drain (.gate (.enqueue _))))
  -- a second alarm, and the alarm task serialises it while the first is being stored
  have h12 := h11.next (.sensorAlarm demoLimit .temperature .raisedHigh 3100 demoTime rfl hsensor)
  have h13 := h12.next (@Step.callback _ _ .sensorTask _ _ (.send _ ev' []))
  have h14 := h13.next (@Step.callback _ _ .sensorTask _ _ (.notify _ []))
  have h15 := h14.next (.alarm (.wake rfl))
  have h16 := h15.next (.alarm (.linkDown rfl))
  have h17 := h16.next (.alarm (.drain (.receive rfl)))
  have h18 := h17.next (.alarm (.drain (.serialise (cpSerialiseAlarm_ne_zero _ _ _))))
  have h19 := h18.next (.publisher (.drain (.gate (.enqueued _))))
  exact ⟨_, h19, rfl⟩

/-- The text stored for an alarm at the Field Device is that of another one. -/
theorem flushed_alarm_overwritten :
    exists s, Reachable demoSerial s ∧
      exists h, h ∈ s.shared.handed ∧ h.2 ≠ alarmText demoSerial h.1 := by
  have hwrong :
      (cpSerialiseAlarm demoSerial sensorEvent
        (cpSerialiseAlarm demoSerial fdEvent Shared.start.alarmBuf).1).1.take
          (cpSerialiseAlarm demoSerial fdEvent Shared.start.alarmBuf).2 ≠
        alarmText demoSerial fdEvent := by
    decide +kernel
  rcases @flush_race demoSerial _ _ 2 fdEvent_built sensorEvent_built with ⟨s, hrun, hhanded⟩
  generalize List.take _ _ = payload at hwrong hhanded
  exists s
  refine ⟨hrun, (fdEvent, payload), ?_, hwrong⟩
  rw [hhanded]
  exact List.mem_singleton_self _

end EnvMonitor.Gateway.CloudPublisher
