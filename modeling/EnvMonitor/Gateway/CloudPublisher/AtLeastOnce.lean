import EnvMonitor.Gateway.CloudPublisher.Delivery

/-!
# Delivery at least once

A QoS 1 message stays accounted for until its PUBACK, as long as no session ends while a PUBLISH
is unacknowledged.  MqttClient keeps no record of such a PUBLISH, and StoreAndForward has
already let go of it.
-/

namespace EnvMonitor.Gateway.CloudPublisher

/-- The message was acknowledged, or its PUBLISH is unacknowledged in the session that is up. -/
def Answered (connected : Bool) (L : Ledger) (m : Message) : Prop :=
  m ∈ L.acked ∨ (connected = true ∧ m ∈ L.unacked)

/-- The message is in a task's hands, answered, stored, or was removed by a rule that says so. -/
def Accounted (connected : Bool) (L : Ledger) (m : Message) : Prop :=
  (exists t, L.hand t = some m) ∨ Answered connected L m ∨ m ∈ L.saf ∨ m ∈ L.discarded

/-- No session ends while a PUBLISH is unacknowledged. -/
def AckedBeforeLoss (s : System) (L : Ledger) (s' : System) (_ : Ledger) : Prop :=
  s.shared.connected = true -> s'.shared.connected = false -> L.unacked = []

structure AccountInv (s : System) (L : Ledger) : Prop where
  hands : HandsOk s L
  accounted : forall m, m ∈ L.passed -> m.qos1 = true -> Accounted s.shared.connected L m
  /-- What is about to leave StoreAndForward was published. -/
  front : forall p, s.stage .publisher = .replay p -> p.settled = true ->
    forall m rest, L.saf = m :: rest -> m.qos1 = true -> Answered s.shared.connected L m

section

variable {serial : DeviceSerial} {found : List Message} {s s' : System} {L L' : Ledger}
variable {connected : Bool} {t : Task} {q q' : List AlarmEvent} {before after : Stage} {m : Message}

/-!
## What an effect keeps
-/

theorem publish_unacked (L : Ledger) {m : Message} (hqos : m.qos1 = true) :
    m ∈ (L.publish m).unacked := by
  unfold Ledger.publish
  rw [hqos]
  exact List.mem_append_right _ (List.mem_singleton_self m)

theorem publish_keeps (L : Ledger) (new : Message) (hm : m ∈ L.unacked) :
    m ∈ (L.publish new).unacked := by
  unfold Ledger.publish
  dsimp only
  split
  · exact List.mem_append_left _ hm
  · exact hm

theorem Answered.effect (h : Answered connected L m)
    (heffect : Effect connected t q before L q' after L') : Answered connected L' m := by
  cases heffect with
  | published _ _ _ new => exact h.imp_right (fun hm => ⟨hm.1, publish_keeps L new hm.2⟩)
  | replayed _ _ new => exact h.imp_right (fun hm => ⟨hm.1, publish_keeps L new hm.2⟩)
  | _ => exact h

theorem Answered.published (L : Ledger) (hup : connected = true) (hqos : m.qos1 = true) :
    Answered connected (L.publish m) m :=
  .inr ⟨hup, publish_unacked L hqos⟩

theorem Accounted.pass (h : Accounted connected L m) (hnone : L.hand t = none)
    (event : Option AlarmEvent) (qos1 : Bool) : Accounted connected (L.pass t event qos1) m := by
  rcases h with ⟨u, hu⟩ | hrest
  · left
    exists u
    have hne : u ≠ t := by
      intro heq
      rw [heq, hnone] at hu
      cases hu
    change Function.update L.hand t _ u = some m
    rw [Function.update_of_ne hne]
    exact hu
  · exact .inr hrest

theorem Accounted.release (h : Accounted connected L m)
    (hheld : L.hand t = some m -> Answered connected L m ∨ m ∈ L.saf) :
    Accounted connected (L.release t) m := by
  rcases h with ⟨u, hu⟩ | hrest
  · by_cases hut : u = t
    · rw [hut] at hu
      rcases hheld hu with hanswered | hsaf
      · exact .inr (.inl hanswered)
      · exact .inr (.inr (.inl hsaf))
    · left
      exists u
      change Function.update L.hand t none u = some m
      rw [Function.update_of_ne hut]
      exact hu
  · exact .inr hrest

theorem Accounted.publish (h : Accounted connected L m) (new : Message) :
    Accounted connected (L.publish new) m := by
  rcases h with hhand | hanswered | hrest
  · exact .inl hhand
  · exact .inr (.inl (hanswered.imp_right (fun hm => ⟨hm.1, publish_keeps L new hm.2⟩)))
  · exact .inr (.inr hrest)

theorem Accounted.store (h : Accounted connected L m) (new : Message) (k : Nat) :
    Accounted connected (L.store new k) m := by
  rcases h with hhand | hanswered | hsaf | hdiscarded
  · exact .inl hhand
  · exact .inr (.inl hanswered)
  · rw [← List.take_append_drop k L.saf] at hsaf
    rcases List.mem_append.mp hsaf with htaken | hkept
    · exact .inr (.inr (.inr (List.mem_append_right _ htaken)))
    · exact .inr (.inr (.inl (List.mem_append_left _ hkept)))
  · exact .inr (.inr (.inr (List.mem_append_left _ hdiscarded)))

theorem Accounted.confirm (h : Accounted connected L m)
    (hfront : forall rest, L.saf = m :: rest -> Answered connected L m) :
    Accounted connected L.confirm m := by
  rcases h with hhand | hanswered | hsaf | hdiscarded
  · exact .inl hhand
  · exact .inr (.inl hanswered)
  · cases hentries : L.saf with
    | nil =>
        rw [hentries] at hsaf
        cases hsaf
    | cons first rest =>
        rw [hentries] at hsaf
        rcases List.mem_cons.mp hsaf with rfl | hmem
        · exact .inr (.inl (hfront rest hentries))
        · right; right; left
          change m ∈ L.saf.tail
          rw [hentries]
          exact hmem
  · exact .inr (.inr (.inr hdiscarded))

theorem Accounted.poison (h : Accounted connected L m) : Accounted connected L.poison m := by
  rcases h with hhand | hanswered | hsaf | hdiscarded
  · exact .inl hhand
  · exact .inr (.inl hanswered)
  · rw [← List.take_append_drop 1 L.saf, List.drop_one] at hsaf
    rcases List.mem_append.mp hsaf with hfirst | hrest
    · exact .inr (.inr (.inr (List.mem_append_right _ hfirst)))
    · exact .inr (.inr (.inl hrest))
  · exact .inr (.inr (.inr (List.mem_append_left _ hdiscarded)))

theorem Effect.accounted (heffect : Effect connected t q before L q' after L')
    (hhands : forall m, L.hand t = some m -> exists g, before = .gate m.event g)
    (hall : forall m, m ∈ L.passed -> m.qos1 = true -> Accounted connected L m)
    (hfront : before = .replay .confirming -> forall m rest, L.saf = m :: rest ->
      m.qos1 = true -> Answered connected L m) :
    forall m, m ∈ L'.passed -> m.qos1 = true -> Accounted connected L' m := by
  have hfree : (forall item g, before ≠ .gate item g) -> L.hand t = none := by
    intro hno
    cases hhand : L.hand t with
    | none => rfl
    | some m =>
        rcases hhands m hhand with ⟨g, hgate⟩
        exact absurd hgate (hno _ g)
  have hpass : forall (event : Option AlarmEvent) (qos1 : Bool), L.hand t = none ->
      forall m, m ∈ (L.pass t event qos1).passed -> m.qos1 = true ->
        Accounted connected (L.pass t event qos1) m := by
    intro event qos1 hnone m hm hqos
    rcases List.mem_append.mp hm with hold | hnew
    · exact (hall m hold hqos).pass hnone event qos1
    · left
      exists t
      change Function.update L.hand t _ t = some m
      rw [Function.update_self, List.mem_singleton.mp hnew]
  cases heffect with
  | serialised _ ev => exact hpass _ _ (hfree (fun _ _ hgate => by cases hgate))
  | begins _ _ qos1 => exact hpass _ _ (hfree (fun _ _ hgate => by cases hgate))
  | published _ _ _ new hup hnew =>
      intro m hm hqos
      apply ((hall m hm hqos).publish new).release
      intro hheld
      have heq : some new = some m := hnew.symm.trans hheld
      cases heq
      exact .inl (.published L hup hqos)
  | stored _ _ _ new k hnew =>
      intro m hm hqos
      apply ((hall m hm hqos).store new k).release
      intro hheld
      have heq : some new = some m := hnew.symm.trans hheld
      cases heq
      exact .inr (List.mem_append_right _ (List.mem_singleton_self _))
  | replayed _ _ new => exact fun m hm hqos => (hall m hm hqos).publish new
  | confirmed =>
      exact fun m hm hqos => (hall m hm hqos).confirm (fun rest hrest => hfront rfl m rest hrest hqos)
  | poisoned => exact fun m hm hqos => (hall m hm hqos).poison
  | _ => exact hall

/-!
## The entry that is being replayed
-/

theorem Effect.saf_same (heffect : Effect connected t q before L q' after L')
    (hstores : forall item, before ≠ .gate item .enqueuing)
    (hreplays : forall p, before ≠ .replay p) : L'.saf = L.saf := by
  cases heffect with
  | stored _ item => exact absurd rfl (hstores item)
  | confirmed => exact absurd rfl (hreplays _)
  | poisoned => exact absurd rfl (hreplays _)
  | _ => rfl

theorem Effect.front (heffect : Effect connected t q before L q' after L')
    (hfront : forall p, before = .replay p -> p.settled = true ->
      forall m rest, L.saf = m :: rest -> m.qos1 = true -> Answered connected L m) :
    forall p, after = .replay p -> p.settled = true ->
      forall m rest, L'.saf = m :: rest -> m.qos1 = true -> Answered connected L' m := by
  cases heffect with
  | replayed _ _ new rest hup hsaf =>
      intro p _ _ m rest' hm hqos
      have heq : new :: rest = m :: rest' := hsaf.symm.trans hm
      rw [(List.cons.inj heq).1]
      exact .published L hup hqos
  | confirms => exact fun _ _ _ m rest hm hqos => hfront _ rfl rfl m rest hm hqos
  | replay _ p p' _ _ hp' =>
      intro p'' heq hsettled
      cases heq
      rw [hp'] at hsettled
      cases hsettled
  | _ => exact fun _ hafter hsettled => by cases hafter <;> cases hsettled

/-!
## Runs
-/

theorem AccountInv.start (found : List Message) : AccountInv .start (.start found) where
  hands := .start found
  accounted := fun m hm _ => .inr (.inr (.inl hm))
  front := fun _ hreplays => by cases hreplays

theorem AccountInv.task (hinv : AccountInv s L) (hlocks : Inv s) (hstep : Step serial s t.actor s')
    (heffect : Effect s.shared.connected t s.shared.alarmQueue (s.stage t) L s'.shared.alarmQueue
      (s'.stage t) L') : AccountInv s' L' := by
  have hother := hstep.stage_other
  constructor
  · exact hinv.hands.task hstep heffect
  · rw [hstep.leaves.1]
    apply heffect.accounted _ hinv.accounted
    · intro hbefore m rest hsaf hqos
      cases t with
      | alarm => exact absurd hbefore (AlarmPc.stage_ne_replay _ _)
      | publisher => exact hinv.front _ hbefore rfl m rest hsaf hqos
    · intro m hm
      rcases hinv.hands t m hm with ⟨g, hgate, _⟩
      exact ⟨g, hgate⟩
  · rw [hstep.leaves.1]
    cases t with
    | publisher => exact heffect.front hinv.front
    | alarm =>
        intro p hreplays hp m rest hsaf hqos
        have hsame : s.stage .publisher = .replay p := hother.symm.trans hreplays
        have hstored : L'.saf = L.saf := heffect.saf_same
          (fun item hstores => hlocks.replay_alone hstores hsame hp)
          (fun p => AlarmPc.stage_ne_replay _ p)
        rw [hstored] at hsaf
        exact (hinv.front p hsame hp m rest hsaf hqos).effect heffect

/-- What the callbacks, the link and the broker leave alone. -/
structure TasksRest (s s' : System) (L L' : Ledger) : Prop where
  stage : forall t, s'.stage t = s.stage t
  passed : L'.passed = L.passed
  hand : L'.hand = L.hand
  saf : L'.saf = L.saf
  discarded : L'.discarded = L.discarded

theorem AccountInv.rest (hinv : AccountInv s L) (hrest : TasksRest s s' L L')
    (hanswered : forall m, Answered s.shared.connected L m -> Answered s'.shared.connected L' m) :
    AccountInv s' L' := by
  constructor
  · intro t m hm
    rw [hrest.hand] at hm
    rw [hrest.stage]
    exact hinv.hands t m hm
  · intro m hm hqos
    rw [hrest.passed] at hm
    rcases hinv.accounted m hm hqos with ⟨t, ht⟩ | hold | hsaf | hdiscarded
    · exact .inl ⟨t, by rw [hrest.hand]; exact ht⟩
    · exact .inr (.inl (hanswered m hold))
    · exact .inr (.inr (.inl (by rw [hrest.saf]; exact hsaf)))
    · exact .inr (.inr (.inr (by rw [hrest.discarded]; exact hdiscarded)))
  · intro p hreplays hp m rest hsaf hqos
    rw [hrest.stage] at hreplays
    rw [hrest.saf] at hsaf
    exact hanswered m (hinv.front p hreplays hp m rest hsaf hqos)

theorem AccountInv.step (hinv : AccountInv s L) (hlocks : Inv s)
    (hstep : DeliveryStep serial s L s' L') (hok : AckedBeforeLoss s L s' L') :
    AccountInv s' L' := by
  cases hstep with
  | task t hstep heffect => exact hinv.task hlocks hstep heffect
  | callback hstep =>
      rcases hstep.callback_frame with ⟨halarm, hpublisher, hconnected⟩
      apply hinv.rest
      · refine ⟨fun t => ?_, rfl, rfl, rfl, rfl⟩
        cases t with
        | alarm => exact congrArg AlarmPc.stage halarm
        | publisher => exact congrArg PublisherPc.stage hpublisher
      · intro m hm
        rw [hconnected]
        exact hm
  | up =>
      apply hinv.rest
      · exact ⟨fun t => by cases t <;> rfl, rfl, rfl, rfl, rfl⟩
      · exact fun m hm => hm.imp_right (fun hunacked => ⟨rfl, hunacked.2⟩)
  | lost =>
      apply hinv.rest
      · exact ⟨fun t => by cases t <;> rfl, rfl, rfl, rfl, rfl⟩
      · intro m hm
        rcases hm with hacked | ⟨hup, hunacked⟩
        · exact .inl hacked
        · rw [hok hup rfl] at hunacked
          cases hunacked
  | @acked _ new before after hup hunacked =>
      apply hinv.rest
      · exact ⟨fun _ => rfl, rfl, rfl, rfl, rfl⟩
      · intro m hm
        rcases hm with hacked | ⟨_, hmem⟩
        · exact .inl (List.mem_append_left _ hacked)
        · rw [hunacked] at hmem
          rcases List.mem_append.mp hmem with hbefore | hrest
          · exact .inr ⟨hup, List.mem_append_left _ hbefore⟩
          · rcases List.mem_cons.mp hrest with rfl | hafter
            · exact .inl (List.mem_append_right _ (List.mem_singleton_self _))
            · exact .inr ⟨hup, List.mem_append_right _ hafter⟩

/-- In a run in which no session ends while a PUBLISH is unacknowledged, every QoS 1 message
stays accounted for. -/
theorem none_forgotten (hrun : Deliveries serial AckedBeforeLoss found s L) :
    forall m, m ∈ L.passed -> m.qos1 = true -> Accounted s.shared.connected L m := by
  have hinv : AccountInv s L := by
    induction hrun with
    | start => exact .start found
    | next hrun hstep hok ih => exact ih.step hrun.reachable.inv hstep hok
  exact hinv.accounted

end

/-!
## One alarm
-/

/-- The message of the alarm. -/
def alarmMessage : Message :=
  ⟨0, some sensorEvent, true⟩

/-- The link comes up, an alarm is queued, and the alarm task passes it to the gate and
publishes it. -/
theorem alarm_published {Ok : System -> Ledger -> System -> Ledger -> Prop}
    (hok : forall s L s' L', s'.shared.connected = true -> Ok s L s' L') :
    exists s L, Deliveries demoSerial Ok [] s L ∧ s.shared.connected = true ∧
      L.passed = [alarmMessage] ∧ (forall t, L.hand t = none) ∧ L.saf = [] ∧ L.acked = [] ∧
      L.discarded = [] := by
  have h0 : Deliveries demoSerial Ok [] .start (.start []) := .start
  have h1 := h0.next (.up _ _) (hok _ _ _ _ rfl)
  have h2 := h1.next (.callback (.sensorAlarm demoLimit .temperature .raisedHigh 3100 demoTime rfl
    sensorEvent_built)) (hok _ _ _ _ rfl)
  have h3 := h2.next (.callback (@Step.callback _ _ .sensorTask _ _ (.send _ sensorEvent [])))
    (hok _ _ _ _ rfl)
  have h4 := h3.next (.callback (@Step.callback _ _ .sensorTask _ _ (.notify _ [])))
    (hok _ _ _ _ rfl)
  have h5 := h4.next (.task .alarm (.alarm (.wake rfl)) (.idle _ _)) (hok _ _ _ _ rfl)
  have h6 := h5.next (.task .alarm (.alarm (.linkUp rfl)) (.idle _ _)) (hok _ _ _ _ rfl)
  have h7 := h6.next (.task .alarm (.alarm (.takeLink rfl)) (.idle _ _)) (hok _ _ _ _ rfl)
  have h8 := h7.next (.task .alarm (.alarm (.drain (.receive rfl))) (.receive _ _ _))
    (hok _ _ _ _ rfl)
  have h9 := h8.next (.task .alarm
    (.alarm (.drain (.serialise (cpSerialiseAlarm_ne_zero _ _ _))))
    (.serialised _ _ _ _ (.inl rfl))) (hok _ _ _ _ rfl)
  have h10 := h9.next (.task .alarm (.alarm (.drain (.gate (.linkUp rfl))))
    (.gate _ _ _ _ _ rfl rfl)) (hok _ _ _ _ rfl)
  have h11 := h10.next (.task .alarm (.alarm (.drain (.gate (.publish _))))
    (.gate _ _ _ _ _ rfl rfl)) (hok _ _ _ _ rfl)
  have h12 := h11.next (.task .alarm (.alarm (.drain (.handed (.published _))))
    (.published _ _ _ alarmMessage rfl rfl)) (hok _ _ _ _ rfl)
  refine ⟨_, _, h12, rfl, rfl, fun t => ?_, rfl, rfl, rfl⟩
  cases t with
  | alarm => rfl
  | publisher => rfl

/-- The published alarm is accounted for. -/
theorem none_forgotten_published :
    exists s L, Deliveries demoSerial AckedBeforeLoss [] s L ∧ L.passed = [alarmMessage] ∧
      Accounted s.shared.connected L alarmMessage := by
  have hok : forall s L s' L', s'.shared.connected = true -> AckedBeforeLoss s L s' L' := by
    intro s L s' L' hup _ hdown
    rw [hup] at hdown
    cases hdown
  rcases alarm_published hok with ⟨s, L, hrun, _, hpassed, _⟩
  refine ⟨s, L, hrun, hpassed, none_forgotten hrun alarmMessage ?_ rfl⟩
  rw [hpassed]
  exact List.mem_singleton_self _

/-- The session ends before the PUBACK, and nobody knows of the alarm. -/
theorem published_alarm_forgotten :
    exists s L, Deliveries demoSerial AnyDelivery [] s L ∧
      exists m, m ∈ L.passed ∧ m.qos1 = true ∧ ¬Accounted s.shared.connected L m := by
  rcases @alarm_published AnyDelivery (fun _ _ _ _ _ => trivial) with
    ⟨s, L, hrun, _, hpassed, hhand, hsaf, hacked, hdiscarded⟩
  have hlost := hrun.next (.lost s L) trivial
  refine ⟨_, _, hlost, alarmMessage, ?_, rfl, ?_⟩
  · change alarmMessage ∈ L.passed
    rw [hpassed]
    exact List.mem_singleton_self _
  · intro haccounted
    rcases haccounted with ⟨t, ht⟩ | (hm | ⟨hup, _⟩) | hm | hm
    · have hnone := hhand t
      change L.hand t = some alarmMessage at ht
      rw [hnone] at ht
      cases ht
    · change alarmMessage ∈ L.acked at hm
      rw [hacked] at hm
      cases hm
    · cases hup
    · change alarmMessage ∈ L.saf at hm
      rw [hsaf] at hm
      cases hm
    · change alarmMessage ∈ L.discarded at hm
      rw [hdiscarded] at hm
      cases hm

end EnvMonitor.Gateway.CloudPublisher
