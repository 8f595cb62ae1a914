import EnvMonitor.Gateway.CloudPublisher.Delivery

/-!
# Alarms in the order of their detection

The events of one sensor stay in order on the way through the alarm queue, StoreAndForward and
MqttClient as long as no live event is published while an older one is stored, and no task takes
an event from the queue while the other has an older one in hand.
-/

namespace EnvMonitor.Gateway.CloudPublisher

/-!
## The events of one sensor
-/

/-- The sensor an event is about: gateway and Field Device each have their own channels. -/
def AlarmEvent.sensor (ev : AlarmEvent) : CpAlarmSource × List UInt8 :=
  (ev.source, ev.sensorName)

def ofSensor (x : CpAlarmSource × List UInt8) (events : List AlarmEvent) : List AlarmEvent :=
  events.filter (fun ev => ev.sensor = x)

/-- The alarm events among the messages. -/
def alarmsIn (messages : List Message) : List AlarmEvent :=
  messages.filterMap Message.event

/-- What a task took from the queue and has neither published nor stored. -/
def Stage.carried : Stage -> List AlarmEvent
  | .received ev => [ev]
  | .gate (some ev) g => if g.needsText then [ev] else []
  | _ => []

def Stage.settled : Stage -> Bool
  | .replay p => p.settled
  | _ => false

/-- The entries whose PUBLISH is still due. -/
def Ledger.unsent (L : Ledger) (settled : Bool) : List Message :=
  if settled then L.saf.tail else L.saf

/-- The events of a sensor that still wait, in StoreAndForward, in a task's hands or in the
queue. -/
def waiting (x : CpAlarmSource × List UInt8) (s : System) (L : Ledger) : List AlarmEvent :=
  ofSensor x (alarmsIn (L.unsent (s.stage .publisher).settled)) ++
    (ofSensor x (s.stage .alarm).carried ++ (ofSensor x (s.stage .publisher).carried ++
      ofSensor x s.shared.alarmQueue))

/-- The events of a sensor in the order of their detection. -/
def detected (x : CpAlarmSource × List UInt8) (found : List Message) (s : System) :
    List AlarmEvent :=
  ofSensor x (alarmsIn found) ++ ofSensor x s.shared.accepted

/-- What was published and what waits is in order, and where nothing waits and nothing was
discarded, what was published is what was detected. -/
structure InOrder (found : List Message) (s : System) (L : Ledger) : Prop where
  order : forall x, (ofSensor x (alarmsIn L.published) ++ waiting x s L).Sublist
    (detected x found s)
  complete : forall x, waiting x s L = [] -> ofSensor x (alarmsIn L.discarded) = [] ->
    ofSensor x (alarmsIn L.published) = detected x found s

/-- A live event is published only while no event of its sensor is stored, and an event is taken
from the queue only while the other task has none of its sensor in hand. -/
structure InTurn (s : System) (L : Ledger) (s' : System) (L' : Ledger) : Prop where
  live : forall t ev, s.stage t = .gate (some ev) .publishing -> s'.stage t = .idle ->
    ofSensor ev.sensor (alarmsIn L.saf) = []
  alone : forall t ev, s.stage t = .idle -> s'.stage t = .received ev ->
    ofSensor ev.sensor (s.stage t.other).carried = []

section

variable {serial : DeviceSerial} {found : List Message} {s s' : System} {L L' : Ledger}
variable {connected : Bool} {t : Task} {q q' : List AlarmEvent} {before after : Stage}
variable {x : CpAlarmSource × List UInt8}

theorem ofSensor_append (x : CpAlarmSource × List UInt8) (l l' : List AlarmEvent) :
    ofSensor x (l ++ l') = ofSensor x l ++ ofSensor x l' :=
  List.filter_append ..

variable {ev : AlarmEvent} {m : Message} {g : GatePc} {item : Option AlarmEvent} {settled' : Bool}
variable {other : List AlarmEvent}

theorem ofSensor_other (h : ev.sensor ≠ x) : ofSensor x [ev] = [] := by
  unfold ofSensor
  simp [h]

theorem alarmsIn_append (l l' : List Message) : alarmsIn (l ++ l') = alarmsIn l ++ alarmsIn l' :=
  List.filterMap_append

theorem alarmsIn_some (h : m.event = some ev) : alarmsIn [m] = [ev] := by
  unfold alarmsIn
  rw [List.filterMap_cons_some h]
  rfl

theorem alarmsIn_none (h : m.event = none) : alarmsIn [m] = [] := by
  unfold alarmsIn
  rw [List.filterMap_cons_none h]
  rfl

theorem carried_gate (hg : g.needsText = true) : (Stage.gate item g).carried = item.toList := by
  cases item with
  | none => rfl
  | some ev => exact if_pos hg

theorem carried_enqueued (item : Option AlarmEvent) :
    (Stage.gate item .enqueued).carried = [] := by
  cases item with
  | none => rfl
  | some ev => rfl

theorem alarmsIn_single (m : Message) : alarmsIn [m] = m.event.toList := by
  cases hevent : m.event with
  | none => exact alarmsIn_none hevent
  | some ev => exact alarmsIn_some hevent

/-!
## One step of a task
-/

/-- The events of a sensor on their way, while the other task carries some of them. -/
def trail (x : CpAlarmSource × List UInt8) (L : Ledger) (settled : Bool)
    (carried other queue : List AlarmEvent) : List AlarmEvent :=
  ofSensor x (alarmsIn L.published) ++ (ofSensor x (alarmsIn (L.unsent settled)) ++
    (ofSensor x carried ++ (ofSensor x other ++ ofSensor x queue)))

/-- A step keeps the order, and what is missing after it was discarded. -/
structure KeepsOrder (x : CpAlarmSource × List UInt8) (L L' : Ledger)
    (way way' : List AlarmEvent) : Prop where
  sub : way'.Sublist way
  count : way'.length + (ofSensor x (alarmsIn L'.discarded)).length =
    way.length + (ofSensor x (alarmsIn L.discarded)).length

theorem KeepsOrder.same {way way' : List AlarmEvent} (hway : way' = way)
    (hdiscarded : L'.discarded = L.discarded) : KeepsOrder x L L' way way' := by
  constructor
  · rw [hway]
  · rw [hway, hdiscarded]

/-- How a step of one task meets the replay of the publisher. -/
structure Replaying (before after : Stage) (settled settled' : Bool) : Prop where
  flag : (settled = before.settled ∧ settled' = after.settled) ∨
    (settled' = settled ∧ (forall p, before ≠ .replay p) ∧ (forall p, after ≠ .replay p))
  stores : forall item, before = .gate item .enqueuing -> settled = false ∧ settled' = false

theorem Replaying.same {settled : Bool} (h : Replaying before after settled settled')
    (hflag : after.settled = before.settled) : settled' = settled := by
  rcases h.flag with ⟨hbefore, hafter⟩ | ⟨hsame, _⟩
  · rw [hbefore, hafter, hflag]
  · exact hsame

theorem Replaying.replay {settled : Bool} {p : ReplayPoint}
    (h : Replaying (.replay p) after settled settled') :
    settled = p.settled ∧ settled' = after.settled := by
  rcases h.flag with hflag | ⟨_, hno, _⟩
  · exact hflag
  · exact absurd rfl (hno p)

theorem unsent_none {settled : Bool} (h : ofSensor x (alarmsIn L.saf) = []) :
    ofSensor x (alarmsIn (L.unsent settled)) = [] := by
  unfold Ledger.unsent
  split
  · have hsub := ((List.tail_sublist L.saf).filterMap Message.event).filter
      (fun ev => decide (ev.sensor = x))
    change (ofSensor x (alarmsIn L.saf.tail)).Sublist (ofSensor x (alarmsIn L.saf)) at hsub
    rw [h] at hsub
    exact List.sublist_nil.mp hsub
  · exact h

theorem keepsOrder_receive {settled : Bool} (hother : ev.sensor = x -> ofSensor x other = []) :
    trail x L settled [ev] other q = trail x L settled [] other (ev :: q) := by
  unfold trail
  have hqueue : ofSensor x (ev :: q) = ofSensor x [ev] ++ ofSensor x q :=
    ofSensor_append x [ev] q
  rw [hqueue]
  by_cases hx : ev.sensor = x
  · rw [hother hx]
    rfl
  · rw [ofSensor_other hx]
    rfl

theorem keepsOrder_published {settled : Bool} (hm : m.event = some ev)
    (hsaf : ev.sensor = x -> ofSensor x (alarmsIn L.saf) = []) :
    trail x ((L.publish m).release t) settled [] other q = trail x L settled [ev] other q := by
  have hpublished : alarmsIn ((L.publish m).release t).published =
      alarmsIn L.published ++ [ev] := by
    change alarmsIn (L.published ++ [m]) = _
    rw [alarmsIn_append, alarmsIn_some hm]
  unfold trail
  rw [hpublished, ofSensor_append]
  change _ ++ (ofSensor x (alarmsIn (L.unsent settled)) ++ _) = _
  by_cases hx : ev.sensor = x
  · rw [unsent_none (hsaf hx), List.append_assoc]
    rfl
  · rw [ofSensor_other hx, List.append_nil]
    rfl

theorem keepsOrder_stored {carried : List AlarmEvent} (k : Nat)
    (hm : ofSensor x carried = ofSensor x (alarmsIn [m])) :
    KeepsOrder x L ((L.store m k).release t) (trail x L false carried other q)
      (trail x ((L.store m k).release t) false [] other q) := by
  have hstored : ofSensor x (alarmsIn (L.saf.drop k ++ [m])) =
      ofSensor x (alarmsIn (L.saf.drop k)) ++ ofSensor x carried := by
    rw [alarmsIn_append, ofSensor_append, hm]
  have hentries : ofSensor x (alarmsIn L.saf) =
      ofSensor x (alarmsIn (L.saf.take k)) ++ ofSensor x (alarmsIn (L.saf.drop k)) := by
    rw [← ofSensor_append, ← alarmsIn_append, List.take_append_drop]
  have hway : trail x ((L.store m k).release t) false [] other q =
      ofSensor x (alarmsIn L.published) ++ (ofSensor x (alarmsIn (L.saf.drop k)) ++
        (ofSensor x carried ++ (ofSensor x other ++ ofSensor x q))) := by
    change _ ++ (ofSensor x (alarmsIn (L.saf.drop k ++ [m])) ++ _) = _
    rw [hstored, List.append_assoc]
    rfl
  have hold : trail x L false carried other q =
      ofSensor x (alarmsIn L.published) ++ (ofSensor x (alarmsIn L.saf) ++
        (ofSensor x carried ++ (ofSensor x other ++ ofSensor x q))) := rfl
  constructor
  · rw [hway, hold, hentries]
    exact (List.Sublist.refl _).append ((List.sublist_append_right _ _).append (List.Sublist.refl _))
  · change _ + (ofSensor x (alarmsIn (L.discarded ++ L.saf.take k))).length = _
    rw [hway, hold, hentries, alarmsIn_append, ofSensor_append]
    simp only [List.length_append]
    omega

theorem keepsOrder_replayed {carried : List AlarmEvent} {rest : List Message}
    (hsaf : L.saf = m :: rest) :
    trail x (L.publish m) true carried other q = trail x L false carried other q := by
  have hnew : trail x (L.publish m) true carried other q =
      ofSensor x (alarmsIn (L.published ++ [m])) ++ (ofSensor x (alarmsIn L.saf.tail) ++
        (ofSensor x carried ++ (ofSensor x other ++ ofSensor x q))) := rfl
  have hold : trail x L false carried other q =
      ofSensor x (alarmsIn L.published) ++ (ofSensor x (alarmsIn L.saf) ++
        (ofSensor x carried ++ (ofSensor x other ++ ofSensor x q))) := rfl
  have hfront : ofSensor x (alarmsIn (m :: rest)) =
      ofSensor x (alarmsIn [m]) ++ ofSensor x (alarmsIn rest) := by
    rw [← ofSensor_append, ← alarmsIn_append]
    rfl
  rw [hnew, hold, hsaf, hfront, alarmsIn_append, ofSensor_append, List.append_assoc,
    List.append_assoc]
  rfl

theorem keepsOrder_poisoned {carried : List AlarmEvent} :
    KeepsOrder x L L.poison (trail x L false carried other q)
      (trail x L.poison false carried other q) := by
  have hentries : ofSensor x (alarmsIn L.saf) =
      ofSensor x (alarmsIn (L.saf.take 1)) ++ ofSensor x (alarmsIn L.saf.tail) := by
    rw [← ofSensor_append, ← alarmsIn_append, ← List.drop_one, List.take_append_drop]
  have hnew : trail x L.poison false carried other q =
      ofSensor x (alarmsIn L.published) ++ (ofSensor x (alarmsIn L.saf.tail) ++
        (ofSensor x carried ++ (ofSensor x other ++ ofSensor x q))) := rfl
  have hold : trail x L false carried other q =
      ofSensor x (alarmsIn L.published) ++ (ofSensor x (alarmsIn L.saf) ++
        (ofSensor x carried ++ (ofSensor x other ++ ofSensor x q))) := rfl
  constructor
  · rw [hnew, hold, hentries]
    exact (List.Sublist.refl _).append ((List.sublist_append_right _ _).append (List.Sublist.refl _))
  · change _ + (ofSensor x (alarmsIn (L.discarded ++ L.saf.take 1))).length = _
    rw [hnew, hold, hentries, alarmsIn_append, ofSensor_append]
    simp only [List.length_append]
    omega

theorem Effect.keepsOrder {settled : Bool} (heffect : Effect connected t q before L q' after L')
    (hhand : forall m, L.hand t = some m -> exists g, before = .gate m.event g)
    (hreplaying : Replaying before after settled settled')
    (hlive : forall ev, before = .gate (some ev) .publishing -> after = .idle -> ev.sensor = x ->
      ofSensor x (alarmsIn L.saf) = [])
    (hreceive : forall ev, before = .idle -> after = .received ev -> ev.sensor = x ->
      ofSensor x other = []) :
    KeepsOrder x L L' (trail x L settled before.carried other q)
      (trail x L' settled' after.carried other q') := by
  cases heffect with
  | idle =>
      rw [hreplaying.same rfl]
      exact .same rfl rfl
  | receive ev =>
      rw [hreplaying.same rfl]
      exact .same (keepsOrder_receive (hreceive ev rfl rfl)) rfl
  | serialised _ ev g _ hg =>
      rw [hreplaying.same rfl]
      have hneeds : g.needsText = true := by
        rcases hg with rfl | rfl
        · rfl
        · rfl
      rw [carried_gate hneeds]
      exact .same rfl rfl
  | begins =>
      rw [hreplaying.same rfl]
      exact .same rfl rfl
  | gate _ item g g' _ hg hg' =>
      rw [hreplaying.same rfl]
      rw [carried_gate hg, carried_gate hg']
      exact .same rfl rfl
  | published _ item _ m _ hm =>
      rw [hreplaying.same rfl]
      rcases hhand m hm with ⟨g, hgate⟩
      cases hgate
      rw [carried_gate rfl]
      cases hevent : m.event with
      | none =>
          have hway : trail x ((L.publish m).release t) settled [] other q =
              trail x L settled [] other q := by
            have hpublished : alarmsIn (L.published ++ [m]) = alarmsIn L.published := by
              rw [alarmsIn_append, alarmsIn_none hevent, List.append_nil]
            change ofSensor x (alarmsIn (L.published ++ [m])) ++ _ = _
            rw [hpublished]
            rfl
          exact .same hway rfl
      | some ev =>
          rw [hevent] at hlive
          exact .same (keepsOrder_published hevent (hlive ev rfl rfl)) rfl
  | stored _ item _ m k hm =>
      rcases hhand m hm with ⟨g, hgate⟩
      cases hgate
      rcases hreplaying.stores _ rfl with ⟨rfl, rfl⟩
      rw [carried_gate rfl, carried_enqueued]
      exact keepsOrder_stored k (by rw [alarmsIn_single])
  | returns _ item =>
      rw [hreplaying.same rfl, carried_enqueued]
      exact .same rfl rfl
  | replayStarts =>
      rw [hreplaying.same rfl]
      exact .same rfl rfl
  | replay _ p p' _ hp hp' =>
      rw [hreplaying.same (hp'.trans hp.symm)]
      exact .same rfl rfl
  | dequeued =>
      rw [hreplaying.same rfl]
      exact .same rfl rfl
  | replayed _ _ m rest _ hsaf =>
      rcases hreplaying.replay with ⟨rfl, rfl⟩
      exact .same (keepsOrder_replayed hsaf) rfl
  | confirms =>
      rcases hreplaying.replay with ⟨rfl, rfl⟩
      exact .same rfl rfl
  | confirmed =>
      rcases hreplaying.replay with ⟨rfl, rfl⟩
      exact .same rfl rfl
  | poisoned =>
      rcases hreplaying.replay with ⟨rfl, rfl⟩
      exact keepsOrder_poisoned
  | replayReturns _ p _ hp =>
      rw [hreplaying.same hp.symm]
      exact .same rfl rfl

theorem Effect.carried (heffect : Effect connected t q before L q' after L') :
    after.carried = before.carried ∨ after.carried = [] ∨
      exists ev, before = .idle ∧ after = .received ev := by
  cases heffect with
  | receive ev => exact .inr (.inr ⟨ev, rfl, rfl⟩)
  | serialised _ ev g _ hg =>
      left
      rcases hg with rfl | rfl
      · rfl
      · rfl
  | gate _ item g g' _ hg hg' =>
      left
      rw [carried_gate hg, carried_gate hg']
  | stored _ item => exact .inr (.inl (carried_enqueued item))
  | returns _ item => exact .inl (carried_enqueued item).symm
  | published => exact .inr (.inl rfl)
  | _ => exact .inl rfl

/-!
## Runs
-/

structure OrderInv (found : List Message) (s : System) (L : Ledger) : Prop where
  hands : HandsOk s L
  alone : forall x, ofSensor x (s.stage .alarm).carried = [] ∨
    ofSensor x (s.stage .publisher).carried = []
  order : forall x, (ofSensor x (alarmsIn L.published) ++ waiting x s L).Sublist
    (detected x found s)
  count : forall x, (ofSensor x (alarmsIn L.published) ++ waiting x s L).length +
    (ofSensor x (alarmsIn L.discarded)).length = (detected x found s).length

theorem OrderInv.start (found : List Message) : OrderInv found .start (.start found) where
  hands := .start found
  alone := fun _ => .inl rfl
  order := by
    intro x
    have hway : ofSensor x (alarmsIn (Ledger.start found).published) ++
        waiting x .start (.start found) = detected x found .start := rfl
    rw [hway]
  count := fun _ => rfl

/-- The way of a sensor's events, seen from the task that moves. -/
def System.way (s : System) (x : CpAlarmSource × List UInt8) (L : Ledger) (t : Task) :
    List AlarmEvent :=
  trail x L (s.stage .publisher).settled (s.stage t).carried (s.stage t.other).carried
    s.shared.alarmQueue

theorem way_eq (t : Task) (halone : ofSensor x (s.stage .alarm).carried = [] ∨
    ofSensor x (s.stage .publisher).carried = []) :
    s.way x L t = ofSensor x (alarmsIn L.published) ++ waiting x s L := by
  cases t with
  | alarm => rfl
  | publisher =>
      unfold System.way trail waiting
      change _ ++ (_ ++ (ofSensor x (s.stage .publisher).carried ++
        (ofSensor x (s.stage .alarm).carried ++ _))) = _
      rcases halone with hnone | hnone
      · rw [hnone]
        rfl
      · rw [hnone]
        rfl

theorem Effect.settled_gate (heffect : Effect connected t q (.gate item g) L q' after L') :
    after.settled = false := by
  cases heffect <;> rfl

theorem Inv.replaying (hinv : Inv s) (hstep : Step serial s t.actor s')
    (heffect : Effect s.shared.connected t s.shared.alarmQueue (s.stage t) L s'.shared.alarmQueue
      (s'.stage t) L') :
    Replaying (s.stage t) (s'.stage t) (s.stage .publisher).settled
      (s'.stage .publisher).settled := by
  have hother := hstep.stage_other
  cases t with
  | publisher =>
      refine ⟨.inl ⟨rfl, rfl⟩, fun item hstores => ?_⟩
      rw [hstores] at heffect
      rw [hstores]
      exact ⟨rfl, heffect.settled_gate⟩
  | alarm =>
      have hsame := congrArg Stage.settled hother
      refine ⟨.inr ⟨hsame, fun p => AlarmPc.stage_ne_replay _ p,
        fun p => AlarmPc.stage_ne_replay _ p⟩, fun item hstores => ?_⟩
      have hidle : (s.stage .publisher).settled = false := by
        cases hstage : s.stage .publisher with
        | replay p =>
            cases hp : p.settled with
            | true => exact (hinv.replay_alone hstores hstage hp).elim
            | false => exact hp
        | _ => rfl
      exact ⟨hidle, hsame.trans hidle⟩

theorem OrderInv.stays_alone (h : OrderInv found s L) (hstep : Step serial s t.actor s')
    (heffect : Effect s.shared.connected t s.shared.alarmQueue (s.stage t) L s'.shared.alarmQueue
      (s'.stage t) L') (hturn : InTurn s L s' L') :
    forall x, ofSensor x (s'.stage .alarm).carried = [] ∨
      ofSensor x (s'.stage .publisher).carried = [] := by
  intro x
  have hother := hstep.stage_other
  have hmoves : ofSensor x (s'.stage t).carried = [] ∨
      ofSensor x (s'.stage t.other).carried = [] := by
    rw [hother]
    rcases heffect.carried with hsame | hnone | ⟨ev, hbefore, hafter⟩
    · rw [hsame]
      cases t with
      | alarm => exact h.alone x
      | publisher => exact (h.alone x).symm
    · rw [hnone]
      exact .inl rfl
    · by_cases hx : ev.sensor = x
      · right
        rw [← hx]
        exact hturn.alone t ev hbefore hafter
      · left
        rw [hafter]
        exact ofSensor_other hx
  cases t with
  | alarm => exact hmoves
  | publisher => exact hmoves.symm

theorem OrderInv.task (h : OrderInv found s L) (hlocks : Inv s) (hstep : Step serial s t.actor s')
    (heffect : Effect s.shared.connected t s.shared.alarmQueue (s.stage t) L s'.shared.alarmQueue
      (s'.stage t) L') (hturn : InTurn s L s' L') : OrderInv found s' L' := by
  have hother := hstep.stage_other
  have halone := h.stays_alone hstep heffect hturn
  have hkeeps : forall x, KeepsOrder x L L' (s.way x L t) (s'.way x L' t) := by
    intro x
    unfold System.way
    rw [hother]
    apply heffect.keepsOrder _ (hlocks.replaying hstep heffect)
    · intro ev hbefore hafter hx
      rw [← hx]
      exact hturn.live t ev hbefore hafter
    · intro ev hbefore hafter hx
      rw [← hx]
      exact hturn.alone t ev hbefore hafter
    · intro m hm
      rcases h.hands t m hm with ⟨g, hgate, _⟩
      exact ⟨g, hgate⟩
  have hdetected : forall x, detected x found s' = detected x found s := by
    intro x
    unfold detected
    rw [hstep.leaves.2]
  refine ⟨h.hands.task hstep heffect, halone, fun x => ?_, fun x => ?_⟩
  · have hsub := (hkeeps x).sub
    rw [way_eq t (h.alone x), way_eq t (halone x)] at hsub
    rw [hdetected]
    exact hsub.trans (h.order x)
  · have hcount := (hkeeps x).count
    rw [way_eq t (h.alone x), way_eq t (halone x)] at hcount
    rw [hdetected, hcount]
    exact h.count x

theorem Step.callback_queue {source : Source} (h : Step serial s (.callback source) s') :
    exists events, s'.shared.alarmQueue = s.shared.alarmQueue ++ events ∧
      s'.shared.accepted = s.shared.accepted ++ events := by
  cases h with
  | callback hstep =>
      generalize s.callback source = before at hstep
      cases hstep with
      | send ev events =>
          change exists events, (s.shared.sendAlarm ev).alarmQueue = _ ∧
            (s.shared.sendAlarm ev).accepted = _
          unfold Shared.sendAlarm
          split
          · exact ⟨[ev], rfl, rfl⟩
          · exact ⟨[], (List.append_nil _).symm, (List.append_nil _).symm⟩
      | notify => exact ⟨[], (List.append_nil _).symm, (List.append_nil _).symm⟩
      | done => exact ⟨[], (List.append_nil _).symm, (List.append_nil _).symm⟩
  | sensorAlarm => exact ⟨[], (List.append_nil _).symm, (List.append_nil _).symm⟩
  | fdAlarm => exact ⟨[], (List.append_nil _).symm, (List.append_nil _).symm⟩

theorem OrderInv.grown (h : OrderInv found s L) (hstage : forall t, s'.stage t = s.stage t)
    (hhand : L'.hand = L.hand) (hsaf : L'.saf = L.saf) (hpublished : L'.published = L.published)
    (hdiscarded : L'.discarded = L.discarded) {events : List AlarmEvent}
    (hqueue : s'.shared.alarmQueue = s.shared.alarmQueue ++ events)
    (haccepted : s'.shared.accepted = s.shared.accepted ++ events) : OrderInv found s' L' := by
  have hway : forall x, ofSensor x (alarmsIn L'.published) ++ waiting x s' L' =
      (ofSensor x (alarmsIn L.published) ++ waiting x s L) ++ ofSensor x events := by
    intro x
    unfold waiting Ledger.unsent
    rw [hpublished, hsaf, hstage, hstage, hqueue, ofSensor_append]
    simp only [List.append_assoc]
  have hdetected : forall x, detected x found s' = detected x found s ++ ofSensor x events := by
    intro x
    unfold detected
    rw [haccepted, ofSensor_append, List.append_assoc]
  constructor
  · intro t m hm
    rw [hhand] at hm
    rw [hstage]
    exact h.hands t m hm
  · intro x
    rw [hstage, hstage]
    exact h.alone x
  · intro x
    rw [hway, hdetected]
    exact (h.order x).append (List.Sublist.refl _)
  · intro x
    have hcount := h.count x
    rw [hway, hdetected, hdiscarded]
    simp only [List.length_append] at hcount ⊢
    omega

theorem OrderInv.step (h : OrderInv found s L) (hlocks : Inv s)
    (hstep : DeliveryStep serial s L s' L') (hturn : InTurn s L s' L') : OrderInv found s' L' := by
  cases hstep with
  | task t hstep heffect => exact h.task hlocks hstep heffect hturn
  | callback hstep =>
      rcases hstep.callback_frame with ⟨halarm, hpublisher, _⟩
      rcases hstep.callback_queue with ⟨events, hqueue, haccepted⟩
      apply h.grown _ rfl rfl rfl rfl hqueue haccepted
      intro t
      cases t with
      | alarm => exact congrArg AlarmPc.stage halarm
      | publisher => exact congrArg PublisherPc.stage hpublisher
  | up =>
      exact h.grown (fun t => by cases t <;> rfl) rfl rfl rfl rfl (List.append_nil _).symm
        (List.append_nil _).symm
  | lost =>
      exact h.grown (fun t => by cases t <;> rfl) rfl rfl rfl rfl (List.append_nil _).symm
        (List.append_nil _).symm
  | acked =>
      exact h.grown (fun _ => rfl) rfl rfl rfl rfl (List.append_nil _).symm
        (List.append_nil _).symm

/-- In a run whose steps keep the turn, the events of each sensor reach MqttClient in the order
of their detection. -/
theorem alarms_in_order (hrun : Deliveries serial InTurn found s L) : InOrder found s L := by
  have hinv : OrderInv found s L := by
    induction hrun with
    | start => exact .start found
    | next hrun hstep hok ih => exact ih.step hrun.reachable.inv hstep hok
  constructor
  · exact hinv.order
  · intro x hwaiting hdiscarded
    have hsub := hinv.order x
    have hcount := hinv.count x
    rw [hwaiting, List.append_nil] at hsub hcount
    rw [hdiscarded] at hcount
    exact hsub.eq_of_length hcount

end

/-!
## Two events of one sensor
-/

/-- The temperature back in its range. -/
def clearedEvent : AlarmEvent where
  sensorName := nameField "temperature"
  alarmType := .clear
  measuredValueRaw := 2900
  thresholdValueRaw := 3000
  source := .gateway
  timestamp := demoTime
  name_short := nameField_short _

theorem clearedEvent_built :
    prvAlarmEventCb demoLimit (noteRaised System.start.lastRaised .temperature .raisedHigh)
      .temperature .cleared 2900 demoTime = some clearedEvent := rfl

/-- The task has no live event in hand. -/
def Stage.quiet : Stage -> Bool
  | .idle | .replay _ => true
  | _ => false

def Stage.live : Stage -> Bool
  | .gate (some _) .publishing => true
  | _ => false

theorem InTurn.quiet {s s' : System} {L L' : Ledger} (hbefore : (s.stage .publisher).quiet = true)
    (hafter : (s'.stage .publisher).quiet = true)
    (hlive : (s.stage .alarm).live = false ∨ L.saf = []) : InTurn s L s' L' := by
  constructor
  · intro t ev hat _
    cases t with
    | alarm =>
        rcases hlive with hnot | hempty
        · rw [hat] at hnot
          cases hnot
        · rw [hempty]
          rfl
    | publisher =>
        rw [hat] at hbefore
        cases hbefore
  · intro t ev _ htaken
    cases t with
    | alarm =>
        change ofSensor ev.sensor (s.stage .publisher).carried = []
        cases hstage : s.stage .publisher with
        | idle => rfl
        | replay p => rfl
        | _ =>
            rw [hstage] at hbefore
            cases hbefore
    | publisher =>
        rw [htaken] at hafter
        cases hafter

/-- An alarm raised while the link is down is replayed when it returns, and the end of the alarm
follows at the next yield of the replay. -/
theorem alarms_in_order_replayed :
    exists s L, alarmsIn L.published = [sensorEvent, clearedEvent] ∧ InOrder [] s L := by
  have h0 : Deliveries demoSerial InTurn [] .start (.start []) := .start
  have h1 := h0.next (.callback (.sensorAlarm demoLimit .temperature .raisedHigh 3100 demoTime rfl
    sensorEvent_built)) (.quiet rfl rfl (.inl rfl))
  have h2 := h1.next (.callback (@Step.callback _ _ .sensorTask _ _ (.send _ sensorEvent [])))
    (.quiet rfl rfl (.inl rfl))
  have h3 := h2.next (.callback (@Step.callback _ _ .sensorTask _ _ (.notify _ [])))
    (.quiet rfl rfl (.inl rfl))
  have h4 := h3.next (.callback (@Step.callback _ _ .sensorTask _ _ (.done _)))
    (.quiet rfl rfl (.inl rfl))
  have h5 := h4.next (.task .alarm (.alarm (.wake rfl)) (.idle _ _)) (.quiet rfl rfl (.inl rfl))
  have h6 := h5.next (.task .alarm (.alarm (.linkDown rfl)) (.idle _ _)) (.quiet rfl rfl (.inl rfl))
  have h7 := h6.next (.task .alarm (.alarm (.drain (.receive rfl))) (.receive _ _ _))
    (.quiet rfl rfl (.inl rfl))
  have h8 := h7.next (.task .alarm (.alarm (.drain (.serialise (cpSerialiseAlarm_ne_zero _ _ _))))
    (.serialised _ _ _ _ (.inr rfl))) (.quiet rfl rfl (.inl rfl))
  have h9 := h8.next (.task .alarm (.alarm (.drain (.gate (.takeSaf rfl)))) (.gate _ _ _ _ _ rfl rfl))
    (.quiet rfl rfl (.inl rfl))
  have h10 := h9.next (.task .alarm (.alarm (.drain (.gate (.enqueue _)))) (.gate _ _ _ _ _ rfl rfl))
    (.quiet rfl rfl (.inl rfl))
  have h11 := h10.next (.task .alarm (.alarm (.drain (.gate (.enqueued _))))
    (.stored _ _ _ ⟨0, some sensorEvent, true⟩ 0 rfl)) (.quiet rfl rfl (.inl rfl))
  have h12 := h11.next (.task .alarm (.alarm (.drain (.handed (.giveSaf _)))) (.returns _ _ _))
    (.quiet rfl rfl (.inl rfl))
  have h13 := h12.next (.task .alarm (.alarm (.buffered (.empty rfl))) (.idle _ _))
    (.quiet rfl rfl (.inl rfl))
  -- the link returns, and the next stats tick replays
  have h14 := h13.next (.up _ _) (.quiet rfl rfl (.inl rfl))
  have h15 := h14.next (.task .publisher
    (.publisher (.wake _ ⟨false, false, false, false, false, false, true⟩)) (.idle _ _))
    (.quiet rfl rfl (.inl rfl))
  have h16 := h15.next (.task .publisher (.publisher (.takeLink rfl)) (.idle _ _))
    (.quiet rfl rfl (.inl rfl))
  have h17 := h16.next (.task .publisher (.publisher (.next _ .yield [.stats, .yield, .process])) (.idle _ _))
    (.quiet rfl rfl (.inl rfl))
  have h18 := h17.next (.task .publisher (.publisher (.yieldGive _ _)) (.idle _ _))
    (.quiet rfl rfl (.inl rfl))
  have h19 := h18.next (.task .publisher (.publisher (.yieldTake rfl)) (.idle _ _))
    (.quiet rfl rfl (.inl rfl))
  have h20 := h19.next (.task .publisher (.publisher (.next _ _ _)) (.idle _ _))
    (.quiet rfl rfl (.inl rfl))
  have h21 := h20.next (.task .publisher (.publisher (.turn (.subscribe .allHeld))) (.idle _ _))
    (.quiet rfl rfl (.inl rfl))
  have h22 := h21.next (.task .publisher (.publisher (.mqttStart _ _ _ _ _)) (.idle _ _))
    (.quiet rfl rfl (.inl rfl))
  have h23 := h22.next (.task .publisher (.publisher (.mqttDone _ _ _ _)) (.idle _ _))
    (.quiet rfl rfl (.inl rfl))
  have h24 := h23.next (.task .publisher (.publisher (.replay _ _)) (.replayStarts _ _))
    (.quiet rfl rfl (.inl rfl))
  have h25 := h24.next (.task .publisher (.publisher (.replayStep (.linkUp rfl rfl)))
    (.replay _ _ _ _ rfl rfl (by decide))) (.quiet rfl rfl (.inl rfl))
  have h26 := h25.next (.task .publisher (.publisher (.replayStep (.takeSaf rfl (by decide) (by decide) rfl)))
    (.replay _ _ _ _ rfl rfl (by decide))) (.quiet rfl rfl (.inl rfl))
  have h27 := h26.next (.task .publisher (.publisher (.replayStep (.dequeue rfl true)))
    (.dequeued _ _ _ (iff_of_true rfl (fun h => nomatch h)))) (.quiet rfl rfl (.inl rfl))
  have h28 := h27.next (.task .publisher (.publisher (.replayStep (.dequeued rfl)))
    (.replay _ _ _ _ rfl rfl (by decide))) (.quiet rfl rfl (.inl rfl))
  have h29 := h28.next (.task .publisher (.publisher (.replayStep (.publish rfl)))
    (.replay _ _ _ _ rfl rfl (by decide))) (.quiet rfl rfl (.inl rfl))
  have h30 := h29.next (.task .publisher (.publisher (.replayStep (.published rfl 200)))
    (.replayed _ _ ⟨0, some sensorEvent, true⟩ [] rfl rfl)) (.quiet rfl rfl (.inl rfl))
  have h31 := h30.next (.task .publisher (.publisher (.replayStep (.confirm rfl))) (.confirms _ _))
    (.quiet rfl rfl (.inl rfl))
  have h32 := h31.next (.task .publisher (.publisher (.replayStep (.confirmed rfl))) (.confirmed _ _))
    (.quiet rfl rfl (.inl rfl))
  have h33 := h32.next (.task .publisher (.publisher (.replayStep (.giveNext rfl)))
    (.replay _ _ _ _ rfl rfl (by decide))) (.quiet rfl rfl (.inl rfl))
  have h34 := h33.next (.task .publisher (.publisher (.replayStep (.process rfl)))
    (.replay _ _ _ _ rfl rfl (by decide))) (.quiet rfl rfl (.inl rfl))
  have h35 := h34.next (.task .publisher (.publisher (.replayStep (.processed rfl)))
    (.replay _ _ _ _ rfl rfl (by decide))) (.quiet rfl rfl (.inl rfl))
  have h36 := h35.next (.task .publisher (.publisher (.replayStep (.yieldGive rfl)))
    (.replay _ _ _ _ rfl rfl (by decide))) (.quiet rfl rfl (.inl rfl))
  -- the replay waits for the lock, and the temperature falls
  have h37 := h36.next (.callback (.sensorAlarm demoLimit .temperature .cleared 2900 demoTime rfl
    clearedEvent_built)) (.quiet rfl rfl (.inl rfl))
  have h38 := h37.next (.callback (@Step.callback _ _ .sensorTask _ _ (.send _ clearedEvent [])))
    (.quiet rfl rfl (.inl rfl))
  have h39 := h38.next (.callback (@Step.callback _ _ .sensorTask _ _ (.notify _ [])))
    (.quiet rfl rfl (.inl rfl))
  have h40 := h39.next (.task .alarm (.alarm (.wake rfl)) (.idle _ _)) (.quiet rfl rfl (.inl rfl))
  have h41 := h40.next (.task .alarm (.alarm (.linkUp rfl)) (.idle _ _)) (.quiet rfl rfl (.inl rfl))
  have h42 := h41.next (.task .alarm (.alarm (.takeLink rfl)) (.idle _ _))
    (.quiet rfl rfl (.inl rfl))
  have h43 := h42.next (.task .alarm (.alarm (.drain (.receive rfl))) (.receive _ _ _))
    (.quiet rfl rfl (.inl rfl))
  have h44 := h43.next (.task .alarm (.alarm (.drain (.serialise (cpSerialiseAlarm_ne_zero _ _ _))))
    (.serialised _ _ _ _ (.inl rfl))) (.quiet rfl rfl (.inl rfl))
  have h45 := h44.next (.task .alarm (.alarm (.drain (.gate (.linkUp rfl)))) (.gate _ _ _ _ _ rfl rfl))
    (.quiet rfl rfl (.inl rfl))
  have h46 := h45.next (.task .alarm (.alarm (.drain (.gate (.publish _)))) (.gate _ _ _ _ _ rfl rfl))
    (.quiet rfl rfl (.inl rfl))
  have h47 := h46.next (.task .alarm (.alarm (.drain (.handed (.published _))))
    (.published _ _ _ ⟨1, some clearedEvent, true⟩ rfl rfl)) (.quiet rfl rfl (.inr rfl))
  exact ⟨_, _, rfl, alarms_in_order h47⟩

/-- A temperature alarm is raised while the link is down and buffered; the link returns, the
alarm clears and is published at once, and the raised one follows from StoreAndForward. -/
theorem cleared_overtakes_raised :
    exists s L, Deliveries demoSerial AnyDelivery [] s L ∧
      alarmsIn L.published = [clearedEvent, sensorEvent] ∧
      s.shared.accepted = [sensorEvent, clearedEvent] ∧ ¬InOrder [] s L := by
  have h0 : Deliveries demoSerial AnyDelivery [] .start (.start []) := .start
  have h1 := h0.next (.callback (.sensorAlarm demoLimit .temperature .raisedHigh 3100 demoTime rfl
    sensorEvent_built)) trivial
  have h2 := h1.next (.callback (@Step.callback _ _ .sensorTask _ _ (.send _ sensorEvent [])))
    trivial
  have h3 := h2.next (.callback (@Step.callback _ _ .sensorTask _ _ (.notify _ []))) trivial
  have h4 := h3.next (.callback (@Step.callback _ _ .sensorTask _ _ (.done _))) trivial
  have h5 := h4.next (.task .alarm (.alarm (.wake rfl)) (.idle _ _)) trivial
  have h6 := h5.next (.task .alarm (.alarm (.linkDown rfl)) (.idle _ _)) trivial
  have h7 := h6.next (.task .alarm (.alarm (.drain (.receive rfl))) (.receive _ _ _)) trivial
  have h8 := h7.next (.task .alarm (.alarm (.drain (.serialise (cpSerialiseAlarm_ne_zero _ _ _))))
    (.serialised _ _ _ _ (.inr rfl))) trivial
  have h9 := h8.next (.task .alarm (.alarm (.drain (.gate (.takeSaf rfl))))
    (.gate _ _ _ _ _ rfl rfl)) trivial
  have h10 := h9.next (.task .alarm (.alarm (.drain (.gate (.enqueue _))))
    (.gate _ _ _ _ _ rfl rfl)) trivial
  have h11 := h10.next (.task .alarm (.alarm (.drain (.gate (.enqueued _))))
    (.stored _ _ _ ⟨0, some sensorEvent, true⟩ 0 rfl)) trivial
  have h12 := h11.next (.task .alarm (.alarm (.drain (.handed (.giveSaf _)))) (.returns _ _ _))
    trivial
  have h13 := h12.next (.task .alarm (.alarm (.buffered (.empty rfl))) (.idle _ _)) trivial
  -- the link returns, and the temperature with it
  have h14 := h13.next (.up _ _) trivial
  have h15 := h14.next (.callback (.sensorAlarm demoLimit .temperature .cleared 2900 demoTime rfl
    clearedEvent_built)) trivial
  have h16 := h15.next (.callback (@Step.callback _ _ .sensorTask _ _ (.send _ clearedEvent [])))
    trivial
  have h17 := h16.next (.callback (@Step.callback _ _ .sensorTask _ _ (.notify _ []))) trivial
  have h18 := h17.next (.task .alarm (.alarm (.wake rfl)) (.idle _ _)) trivial
  have h19 := h18.next (.task .alarm (.alarm (.linkUp rfl)) (.idle _ _)) trivial
  have h20 := h19.next (.task .alarm (.alarm (.takeLink rfl)) (.idle _ _)) trivial
  have h21 := h20.next (.task .alarm (.alarm (.drain (.receive rfl))) (.receive _ _ _)) trivial
  have h22 := h21.next (.task .alarm
    (.alarm (.drain (.serialise (cpSerialiseAlarm_ne_zero _ _ _))))
    (.serialised _ _ _ _ (.inl rfl))) trivial
  have h23 := h22.next (.task .alarm (.alarm (.drain (.gate (.linkUp rfl))))
    (.gate _ _ _ _ _ rfl rfl)) trivial
  have h24 := h23.next (.task .alarm (.alarm (.drain (.gate (.publish _))))
    (.gate _ _ _ _ _ rfl rfl)) trivial
  have h25 := h24.next (.task .alarm (.alarm (.drain (.handed (.published _))))
    (.published _ _ _ ⟨1, some clearedEvent, true⟩ rfl rfl)) trivial
  have h26 := h25.next (.task .alarm (.alarm (.drained (.empty rfl))) (.idle _ _)) trivial
  have h27 := h26.next (.task .alarm (.alarm (.giveLink _)) (.idle _ _)) trivial
  -- the next stats tick replays
  have h28 := h27.next (.task .publisher
    (.publisher (.wake _ ⟨false, false, false, false, false, false, true⟩)) (.idle _ _)) trivial
  have h29 := h28.next (.task .publisher (.publisher (.takeLink rfl)) (.idle _ _)) trivial
  have h30 := h29.next (.task .publisher (.publisher (.next _ .yield [.stats, .yield, .process]))
    (.idle _ _)) trivial
  have h31 := h30.next (.task .publisher (.publisher (.yieldGive _ _)) (.idle _ _)) trivial
  have h32 := h31.next (.task .publisher (.publisher (.yieldTake rfl)) (.idle _ _)) trivial
  have h33 := h32.next (.task .publisher (.publisher (.next _ _ _)) (.idle _ _)) trivial
  have h34 := h33.next (.task .publisher (.publisher (.turn (.subscribe .allHeld))) (.idle _ _)) trivial
  have h35 := h34.next (.task .publisher (.publisher (.mqttStart _ _ _ _ _)) (.idle _ _)) trivial
  have h36 := h35.next (.task .publisher (.publisher (.mqttDone _ _ _ _)) (.idle _ _)) trivial
  have h37 := h36.next (.task .publisher (.publisher (.replay _ _)) (.replayStarts _ _)) trivial
  have h38 := h37.next (.task .publisher (.publisher (.replayStep (.linkUp rfl rfl)))
    (.replay _ _ _ _ rfl rfl (by decide))) trivial
  have h39 := h38.next (.task .publisher
    (.publisher (.replayStep (.takeSaf rfl (by decide) (by decide) rfl)))
    (.replay _ _ _ _ rfl rfl (by decide))) trivial
  have h40 := h39.next (.task .publisher (.publisher (.replayStep (.dequeue rfl true)))
    (.dequeued _ _ _ (iff_of_true rfl (fun h => nomatch h)))) trivial
  have h41 := h40.next (.task .publisher (.publisher (.replayStep (.dequeued rfl)))
    (.replay _ _ _ _ rfl rfl (by decide))) trivial
  have h42 := h41.next (.task .publisher (.publisher (.replayStep (.publish rfl)))
    (.replay _ _ _ _ rfl rfl (by decide))) trivial
  have h43 := h42.next (.task .publisher (.publisher (.replayStep (.published rfl 200)))
    (.replayed _ _ ⟨0, some sensorEvent, true⟩ [] rfl rfl)) trivial
  refine ⟨_, _, h43, rfl, rfl, ?_⟩
  intro horder
  have hsame : clearedEvent.sensor = sensorEvent.sensor := rfl
  have hall : forall l : List AlarmEvent, (forall ev, ev ∈ l -> ev.sensor = sensorEvent.sensor) ->
      ofSensor sensorEvent.sensor l = l := by
    intro l hl
    exact List.filter_eq_self.mpr (fun ev hev => decide_eq_true (hl ev hev))
  have heq := horder.complete sensorEvent.sensor rfl rfl
  change ofSensor _ [clearedEvent, sensorEvent] =
    ofSensor _ [] ++ ofSensor _ [sensorEvent, clearedEvent] at heq
  rw [hall [clearedEvent, sensorEvent] (by simp [hsame]),
    hall [sensorEvent, clearedEvent] (by simp [hsame])] at heq
  have htype := congrArg AlarmEvent.alarmType (List.cons.inj heq).1
  cases htype

end EnvMonitor.Gateway.CloudPublisher
