import EnvMonitor.Gateway.CloudPublisher.Subscriptions

/-!
# Every command topic gets subscribed

A run without further failures, from any reachable state of a session, sets all the flags.
-/

namespace EnvMonitor.Gateway.CloudPublisher

/-- The states of a run. -/
def linkAt (w : Wiring) (s : Link) (steps : Nat -> LinkStep) : Nat -> Link
  | 0 => s
  | n + 1 => (linkAt w s steps n).after w (steps n)

/-- No step drops the session, no SUBSCRIBE fails to be sent, none in flight is refused. -/
def FailureFree (s : Link) : LinkStep -> Prop
  | .tick input => input.first.status = .success ∧ input.second.status = .success
  | .process received lost =>
      lost = false ∧ forall packet, packet ∈ received -> packet.packetId = s.mqtt.subPacketId ->
        packet.granted = true
  | .publish reaped status =>
      status ≠ .sendFailed ∧ forall packet, packet ∈ reaped ->
        packet.packetId = s.mqtt.subPacketId -> packet.granted = true

/-- A SUBSCRIBE is overdue, or would be as soon as it is sent. -/
def GivesUp (s : Link) : LinkStep -> Prop
  | .tick input => s.mqtt.overdue input.first.pollMs = true ∨
      mqttSubackTimeoutMs ≤ input.second.pollMs - input.first.startMs
  | _ => False

/-- The SUBACK that is waited for comes, or the wait is over. -/
def Settles (s : Link) : LinkStep -> Prop
  | .tick input => s.mqtt.overdue input.first.pollMs = true
  | .process packets _ | .publish packets _ =>
      exists packet, packet ∈ packets ∧ packet.packetId = s.mqtt.subPacketId

def IsTick (step : LinkStep) : Prop := exists input, step = .tick input

/-- Ticks keep coming, whatever is in flight is settled in the end, and from some time on by a
SUBACK; what was lost before the run may still be given up. -/
structure Recovers (w : Wiring) (s : Link) (steps : Nat -> LinkStep) : Prop where
  clean : forall n, FailureFree (linkAt w s steps n) (steps n)
  ticks : forall n, exists m, n ≤ m ∧ IsTick (steps m)
  settled : forall n, (linkAt w s steps n).mqtt.subState = .pending ->
    exists m, n ≤ m ∧ Settles (linkAt w s steps m) (steps m)
  patient : exists n, forall m, n ≤ m -> ¬GivesUp (linkAt w s steps m) (steps m)

structure AllSubscribed (w : Wiring) (s : Link) : Prop where
  connected : s.mqtt.connected = true
  done : forall topic, topic ∈ w.wanted -> s.publisher.done topic = true

/-!
## What is missing
-/

def missing (w : Wiring) (s : Link) : Nat :=
  w.wanted.countP (fun topic => !s.publisher.done topic)

/-- How far the present topic is. -/
def phase (s : Link) : Nat :=
  match s.publisher.subInflight, s.mqtt.subState with
  | none, _ => 2
  | some _, .ok => 0
  | some _, .pending => 1
  | some _, .idle => 2
  | some _, .failed => 3

def workLeft (w : Wiring) (s : Link) : Nat := 4 * missing w s + phase s

theorem countP_lt {alpha : Type} {l : List alpha} {p q : alpha -> Bool} {a : alpha} (hmem : a ∈ l)
    (hp : p a = false) (hq : q a = true) (h : forall b, p b = true -> q b = true) :
    l.countP p < l.countP q := by
  induction l with
  | nil => cases hmem
  | cons b l ih =>
      have hrest : l.countP p ≤ l.countP q := List.countP_mono_left fun c _ => h c
      rcases List.mem_cons.mp hmem with heq | hin
      · rw [← heq, List.countP_cons_of_neg (by rw [hp]; decide), List.countP_cons_of_pos hq]
        exact Nat.lt_succ_of_le hrest
      · have hless := ih hin
        cases hpb : p b with
        | true =>
            rw [List.countP_cons_of_pos hpb, List.countP_cons_of_pos (h b hpb)]
            exact Nat.succ_lt_succ hless
        | false =>
            rw [List.countP_cons_of_neg (by rw [hpb]; decide)]
            exact Nat.lt_of_lt_of_le hless (List.sublist_cons_self b l).countP_le

section Progress

variable {w : Wiring}

variable {s s' : Link} {topic : CommandTopic} {packets : List Suback} {c : MqttClient}
variable {step : LinkStep} {steps : Nat -> LinkStep}

theorem missing_congr (h : s'.publisher.done = s.publisher.done) : missing w s' = missing w s := by
  unfold missing
  rw [h]

theorem missing_setDone (hwanted : topic ∈ w.wanted) (hdone : s.publisher.done topic = false)
    (h : s'.publisher.done = Function.update s.publisher.done topic true) :
    missing w s' < missing w s := by
  unfold missing
  rw [h]
  apply countP_lt hwanted
  · rw [Function.update_self]
    rfl
  · rw [hdone]
    rfl
  · intro other hother
    by_cases hsame : other = topic
    · rw [hsame, hdone]
      rfl
    · rw [Function.update_of_ne hsame] at hother
      exact hother

theorem phase_none (h : s.publisher.subInflight = none) : phase s = 2 := by
  unfold phase
  rw [h]

theorem phase_pending (h : s.publisher.subInflight = some topic)
    (hpending : s.mqtt.subState = .pending) : phase s = 1 := by
  unfold phase
  rw [h, hpending]

theorem phase_ok (h : s.publisher.subInflight = some topic) (hok : s.mqtt.subState = .ok) :
    phase s = 0 := by
  unfold phase
  rw [h, hok]

theorem phase_congr (hinflight : s'.publisher.subInflight = s.publisher.subInflight)
    (hstate : s'.mqtt.subState = s.mqtt.subState) : phase s' = phase s := by
  unfold phase
  rw [hinflight, hstate]

theorem LinkInv.pending_taken (h : LinkInv w s) (hpending : s.mqtt.subState = .pending) :
    exists topic, s.publisher.subInflight = some topic := by
  cases hinflight : s.publisher.subInflight with
  | none =>
      have hidle := h.free hinflight
      rw [hpending] at hidle
      cases hidle
  | some topic => exact ⟨topic, rfl⟩

/-!
## Packets
-/

theorem hear_notPending (h : c.subState ≠ .pending) :
    packets.foldl (fun c packet => prvEventSuback packet c) c = c := by
  induction packets with
  | nil => rfl
  | cons packet packets ih =>
      rw [List.foldl_cons, prvEventSuback_ignores fun hmine => h hmine.1]
      exact ih

theorem hear_pending (hpending : c.subState = .pending)
    (hgranted : forall packet, packet ∈ packets -> packet.packetId = c.subPacketId ->
      packet.granted = true) :
    ((exists packet, packet ∈ packets ∧ packet.packetId = c.subPacketId) ∧
      packets.foldl (fun c packet => prvEventSuback packet c) c = { c with subState := .ok }) ∨
    (¬(exists packet, packet ∈ packets ∧ packet.packetId = c.subPacketId) ∧
      packets.foldl (fun c packet => prvEventSuback packet c) c = c) := by
  induction packets with
  | nil =>
      refine Or.inr ⟨fun hsome => ?_, rfl⟩
      rcases hsome with ⟨packet, hmem, _⟩
      cases hmem
  | cons packet packets ih =>
      by_cases hid : packet.packetId = c.subPacketId
      · refine Or.inl ⟨⟨packet, List.mem_cons_self, hid⟩, ?_⟩
        rw [List.foldl_cons, prvEventSuback_settles hpending hid,
          hgranted packet List.mem_cons_self hid]
        apply hear_notPending
        change MqttSubState.ok ≠ .pending
        decide
      · rw [List.foldl_cons, prvEventSuback_ignores fun hmine => hid hmine.2]
        rcases ih fun other hother => hgranted other (List.mem_cons_of_mem packet hother) with
          hmine | hnone
        · rcases hmine with ⟨⟨other, hother, hsame⟩, hheard⟩
          exact Or.inl ⟨⟨other, List.mem_cons_of_mem packet hother, hsame⟩, hheard⟩
        · refine Or.inr ⟨fun hsome => ?_, hnone.2⟩
          rcases hsome with ⟨other, hother, hsame⟩
          rcases List.mem_cons.mp hother with heq | hin
          · rw [heq] at hsame
            exact hid hsame
          · exact hnone.1 ⟨other, hin, hsame⟩

/-- A step made progress, or what would help is still to come. -/
def Advances (w : Wiring) (s s' : Link) (helps : Prop) : Prop :=
  workLeft w s' < workLeft w s ∨
    (workLeft w s' = workLeft w s ∧
      decide (s'.mqtt.subState = .pending) = decide (s.mqtt.subState = .pending) ∧ ¬helps)

theorem hear_advances (h : LinkInv w s)
    (hgranted : forall packet, packet ∈ packets -> packet.packetId = s.mqtt.subPacketId ->
      packet.granted = true)
    (hmqtt : s'.mqtt = packets.foldl (fun c packet => prvEventSuback packet c) s.mqtt)
    (hpublisher : s'.publisher = s.publisher) :
    Advances w s s' (s.mqtt.subState = .pending ∧
      exists packet, packet ∈ packets ∧ packet.packetId = s.mqtt.subPacketId) := by
  have hmissing : missing w s' = missing w s := missing_congr (by rw [hpublisher])
  have hsame : s'.mqtt = s.mqtt -> workLeft w s' = workLeft w s ∧
      decide (s'.mqtt.subState = .pending) = decide (s.mqtt.subState = .pending) := by
    intro heq
    have hphase : phase s' = phase s := phase_congr (by rw [hpublisher]) (by rw [heq])
    unfold workLeft
    rw [hmissing, hphase, heq]
    exact ⟨rfl, rfl⟩
  by_cases hpending : s.mqtt.subState = .pending
  · rcases hear_pending hpending hgranted with hmine | hnone
    · rcases h.pending_taken hpending with ⟨topic, htopic⟩
      have hok : s'.mqtt.subState = .ok := by rw [hmqtt, hmine.2]
      left
      unfold workLeft
      rw [hmissing, phase_ok (by rw [hpublisher]; exact htopic) hok, phase_pending htopic hpending]
      exact Nat.lt_succ_self _
    · have heq := hsame (hmqtt.trans hnone.2)
      exact Or.inr ⟨heq.1, heq.2, fun hhelps => hnone.1 hhelps.2⟩
  · have heq := hsame (hmqtt.trans (hear_notPending hpending))
    exact Or.inr ⟨heq.1, heq.2, fun hhelps => hpending hhelps.1⟩

/-!
## Ticks
-/

theorem LinkInv.noted_same (h : LinkInv w s) :
    s.noted.publisher.done = s.publisher.done ∧
      s.noted.publisher.subInflight = s.publisher.subInflight := by
  cases hwas : s.publisher.wasConnected with
  | true =>
      unfold Link.noted
      rw [prvNoteLink_same hwas]
      exact ⟨rfl, rfl⟩
  | false =>
      rcases h.fresh hwas with ⟨hdone, hnone⟩
      have hnot : ¬true = s.publisher.wasConnected := by
        rw [hwas]
        decide
      unfold Link.noted prvNoteLink
      rw [if_neg hnot]
      exact ⟨funext fun topic => (hdone topic).symm, hnone.symm⟩

theorem subscribeNext_clean (hnoted : Noted s) (hidle : s.mqtt.subState = .idle)
    {first second : SubscribeRound} (hsuccess : first.status = .success)
    (hpatient : ¬mqttSubackTimeoutMs ≤ second.pollMs - first.startMs) :
    ((forall topic, topic ∈ w.wanted -> s.publisher.done topic = true) ∧
      subscribeNext w first (subscribeLoop w [second]) s = some s) ∨
    (exists topic, topic ∈ w.wanted ∧ s.publisher.done topic = false ∧
      subscribeNext w first (subscribeLoop w [second]) s = some (s.started topic first)) := by
  rcases subscribeNext_cases hnoted hidle first (subscribeLoop w [second]) with hall | hmissing
  · exact Or.inl hall
  · rcases hmissing with ⟨topic, hwanted, hdone, hsent | hfailed⟩
    · refine Or.inr ⟨topic, hwanted, hdone, ?_⟩
      have hnotOverdue : (s.started topic first).mqtt.overdue second.pollMs = false := by
        unfold MqttClient.overdue
        exact decide_eq_false fun hboth => hpatient hboth.2
      have hpoll : mqttClientSubscribePoll second.pollMs (s.started topic first).mqtt =
          (.pending, (s.started topic first).mqtt) := by
        unfold mqttClientSubscribePoll
        rw [hnotOverdue]
        rfl
      have hpolled : (s.started topic first).polled second.pollMs = s.started topic first := by
        rw [polled_notOverdue hnotOverdue, hpoll]
      rw [hsent.2, subscribeLoop_pending rfl (by rw [hpoll]), hpolled]
    · exact absurd hsuccess hfailed.1

theorem workLeft_started (s : Link) (topic : CommandTopic) (round : SubscribeRound) :
    workLeft w (s.started topic round) = 4 * missing w s + 1 := rfl

theorem workLeft_none (h : s.publisher.subInflight = none) :
    workLeft w s = 4 * missing w s + 2 := by
  unfold workLeft
  rw [phase_none h]

theorem tick_loop (h : LinkInv w s) (hconn : s.mqtt.connected = true) (input : TickInput) :
    subscribeLoop w [input.first, input.second] s.noted =
      some (s.after w (.tick input)) := by
  rcases h.noted hconn with ⟨hinv, hnoted⟩
  rw [subscribeLoop_returns hinv hnoted]
  exact congrArg some (prvMaybeReconnect_up hconn input).symm

theorem LinkInv.workLeft_noted (h : LinkInv w s) : workLeft w s.noted = workLeft w s := by
  have hmissing : missing w s.noted = missing w s := missing_congr h.noted_same.1
  have hphase : phase s.noted = phase s := phase_congr h.noted_same.2 rfl
  unfold workLeft
  rw [hmissing, hphase]

theorem tick_advances (h : LinkInv w s) (hconn : s.mqtt.connected = true)
    (hgoal : ¬AllSubscribed w s) {input : TickInput} (hclean : FailureFree s (.tick input))
    (hpatient : ¬GivesUp s (.tick input)) :
    Advances w s (s.after w (.tick input)) (s.mqtt.subState ≠ .pending) := by
  rcases h.noted hconn with ⟨hinv, hnoted⟩
  have hwork := h.workLeft_noted
  have hloop := tick_loop h hconn input
  have htime : ¬mqttSubackTimeoutMs ≤ input.second.pollMs - input.first.startMs :=
    fun hlate => hpatient (Or.inr hlate)
  cases htopic : s.noted.publisher.subInflight with
  | none =>
      left
      rw [subscribeLoop_none htopic] at hloop
      rcases subscribeNext_clean hnoted (hinv.free htopic) hclean.1 htime with hall | hmissing
      · refine absurd ⟨hconn, fun topic hwanted => ?_⟩ hgoal
        rw [← h.noted_same.1]
        exact hall.1 topic hwanted
      · rcases hmissing with ⟨topic, _, _, hsent⟩
        rw [hsent] at hloop
        injection hloop with hstate
        rw [← hstate, workLeft_started, ← hwork, workLeft_none htopic]
        exact Nat.lt_succ_self _
  | some topic =>
      have htaken := hinv.taken topic htopic
      rcases mqttClientSubscribePoll_cases input.first.pollMs s.noted.mqtt with
        hidle | hpending | hoverdue | hok | hfailed
      · have hopen := htaken.2.2
        unfold InFlightOf at hopen
        rw [hidle.1] at hopen
        exact hopen.elim
      · right
        rw [subscribeLoop_pending htopic (by rw [hpending.2.2]), polled_notOverdue hpending.2.1,
          hpending.2.2] at hloop
        injection hloop with hstate
        rw [← hstate]
        exact ⟨hwork, rfl, fun hnot => hnot hpending.1⟩
      · exact absurd (Or.inl hoverdue.2.1) hpatient
      · left
        rw [subscribeLoop_ok htopic (by rw [hok.2.2])] at hloop
        have hless : missing w ((s.noted.polled input.first.pollMs).settled
            (s.noted.publisher.setDone topic)) < missing w s.noted :=
          missing_setDone htaken.1 htaken.2.1 rfl
        have hbefore : workLeft w s.noted = 4 * missing w s.noted := by
          unfold workLeft
          rw [phase_ok htopic hok.1, Nat.add_zero]
        have hidle : ((s.noted.polled input.first.pollMs).settled
            (s.noted.publisher.setDone topic)).mqtt.subState = .idle := by
          rw [polled_notOverdue hok.2.1, hok.2.2]
          rfl
        rw [← hwork, hbefore]
        rcases subscribeNext_clean
          (hnoted.settled (s.noted.publisher.setDone topic) hnoted.wasConnected input.first.pollMs)
          hidle hclean.1 htime with hall | hmissing
        · rw [hall.2] at hloop
          injection hloop with hstate
          rw [← hstate, workLeft_none rfl]
          omega
        · rcases hmissing with ⟨next, _, _, hsent⟩
          rw [hsent] at hloop
          injection hloop with hstate
          rw [← hstate, workLeft_started]
          omega
      · left
        rw [subscribeLoop_failed htopic (by rw [hfailed.2.2])] at hloop
        injection hloop with hstate
        have hsame : missing w ((s.noted.polled input.first.pollMs).settled s.noted.publisher) =
            missing w s.noted := missing_congr rfl
        have hbefore : workLeft w s.noted = 4 * missing w s.noted + 3 := by
          unfold workLeft phase
          rw [htopic, hfailed.1]
        rw [← hwork, ← hstate, workLeft_none rfl, hsame, hbefore]
        exact Nat.lt_succ_self _

/-!
## Runs
-/

/-- The step that helps: a tick, or the end of the wait for a SUBACK. -/
def Helps (pending : Bool) (s : Link) (step : LinkStep) : Prop :=
  if pending then Settles s step else IsTick step

theorem hear_connected (packets : List Suback) (c : MqttClient) :
    (packets.foldl (fun c packet => prvEventSuback packet c) c).connected = c.connected := by
  induction packets generalizing c with
  | nil => rfl
  | cons packet packets ih =>
      rw [List.foldl_cons, ih]
      unfold prvEventSuback
      split <;> rfl

theorem called_goes {result : MqttClient × Bool}
    (hresult : result = (packets.foldl (fun c packet => prvEventSuback packet c) s.mqtt, false)) :
    ((s.received packets).called result).mqtt =
        packets.foldl (fun c packet => prvEventSuback packet c) s.mqtt ∧
      ((s.received packets).called result).publisher = s.publisher := by
  rw [hresult]
  exact ⟨rfl, rfl⟩

theorem process_goes (hconn : s.mqtt.connected = true) {lost : Bool}
    (hclean : FailureFree s (.process packets lost)) :
    (s.after w (.process packets lost)).mqtt =
        packets.foldl (fun c packet => prvEventSuback packet c) s.mqtt ∧
      (s.after w (.process packets lost)).publisher = s.publisher := by
  have hafter : s.after w (.process packets lost) =
      (s.received packets).called (mqttClientProcess packets lost s.mqtt) := if_pos hconn
  rw [hafter]
  apply called_goes
  rw [mqttClientProcess_result hconn, hclean.1]
  rfl

theorem publish_goes (hconn : s.mqtt.connected = true) {status : SendStatus}
    (hclean : FailureFree s (.publish packets status)) :
    (s.after w (.publish packets status)).mqtt =
        packets.foldl (fun c packet => prvEventSuback packet c) s.mqtt ∧
      (s.after w (.publish packets status)).publisher = s.publisher := by
  have hafter : s.after w (.publish packets status) =
      (s.received packets).called (mqttClientPublish packets status s.mqtt).2 := if_pos hconn
  rw [hafter]
  apply called_goes
  rw [mqttClientPublish_result hconn]
  exact if_neg hclean.1

theorem Advances.mono {helps helps' : Prop} (h : Advances w s s' helps) (himp : helps' -> helps) :
    Advances w s s' helps' := by
  rcases h with hless | hsame
  · exact Or.inl hless
  · exact Or.inr ⟨hsame.1, hsame.2.1, fun hhelps => hsame.2.2 (himp hhelps)⟩

theorem helps_packets (hstep : ¬IsTick step) (hsettles : Settles s step ->
      exists packet, packet ∈ packets ∧ packet.packetId = s.mqtt.subPacketId)
    (h : Helps (decide (s.mqtt.subState = .pending)) s step) :
    s.mqtt.subState = .pending ∧
      exists packet, packet ∈ packets ∧ packet.packetId = s.mqtt.subPacketId := by
  unfold Helps at h
  by_cases hpending : s.mqtt.subState = .pending
  · rw [if_pos (decide_eq_true hpending)] at h
    exact ⟨hpending, hsettles h⟩
  · rw [if_neg (by rw [decide_eq_false hpending]; decide)] at h
    exact absurd h hstep

theorem step_advances (h : LinkInv w s) (hconn : s.mqtt.connected = true)
    (hgoal : ¬AllSubscribed w s) (hclean : FailureFree s step) (hpatient : ¬GivesUp s step) :
    Advances w s (s.after w step) (Helps (decide (s.mqtt.subState = .pending)) s step) := by
  cases step with
  | tick input =>
      apply (tick_advances h hconn hgoal hclean hpatient).mono
      intro hhelps hpending
      unfold Helps at hhelps
      rw [if_pos (decide_eq_true hpending)] at hhelps
      exact hpatient (Or.inl hhelps)
  | process received lost =>
      rcases @process_goes w s received hconn lost hclean with ⟨hmqtt, hpublisher⟩
      exact (hear_advances h hclean.2 hmqtt hpublisher).mono
        (helps_packets (fun htick => nomatch htick.choose_spec) fun hsettles => hsettles)
  | publish reaped status =>
      rcases @publish_goes w s reaped hconn status hclean with ⟨hmqtt, hpublisher⟩
      exact (hear_advances h hclean.2 hmqtt hpublisher).mono
        (helps_packets (fun htick => nomatch htick.choose_spec) fun hsettles => hsettles)

theorem Noted.subscribeLoop {rounds : List SubscribeRound} (hnoted : Noted s) (h : LinkInv w s)
    (hsuccess : forall round, round ∈ rounds -> round.status = .success)
    (hloop : CloudPublisher.subscribeLoop w rounds s = some s') : Noted s' := by
  induction rounds generalizing s with
  | nil => cases hloop
  | cons round rounds ih =>
      have hrest := fun other hother => hsuccess other (List.mem_cons_of_mem round hother)
      have hnext : forall s, LinkInv w s -> Noted s -> s.publisher.subInflight = none ->
          subscribeNext w round (CloudPublisher.subscribeLoop w rounds) s = some s' -> Noted s' := by
        intro s h hnoted hnone hnext
        rcases subscribeNext_cases hnoted (h.free hnone) round
          (CloudPublisher.subscribeLoop w rounds) with hall | hmissing
        · rw [hall.2] at hnext
          cases hnext
          exact hnoted
        · rcases hmissing with ⟨topic, hwanted, hdone, hsent | hfailed⟩
          · rw [hsent.2] at hnext
            have hstarted : Noted (s.started topic round) := ⟨hnoted.1, hnoted.2⟩
            exact ih hstarted (h.started hnoted hnone hwanted hdone round) hrest hnext
          · exact absurd (hsuccess round List.mem_cons_self) hfailed.1
      cases htopic : s.publisher.subInflight with
      | none =>
          rw [subscribeLoop_none htopic] at hloop
          exact hnext s h hnoted htopic hloop
      | some topic =>
          rcases h.polled hnoted htopic round.pollMs with hpending | hok | hfailed
          · rw [subscribeLoop_pending htopic hpending.1, hpending.2] at hloop
            cases hloop
            exact hnoted
          · rw [subscribeLoop_ok htopic hok.1] at hloop
            exact hnext _ hok.2.2
              (hnoted.settled (s.publisher.setDone topic) hnoted.wasConnected round.pollMs) rfl hloop
          · rw [subscribeLoop_failed htopic hfailed.1] at hloop
            cases hloop
            exact hnoted.settled s.publisher hnoted.wasConnected round.pollMs

theorem failureFree_connected (h : LinkInv w s) (hconn : s.mqtt.connected = true)
    (hclean : FailureFree s step) : (s.after w step).mqtt.connected = true := by
  cases step with
  | tick input =>
      rcases h.noted hconn with ⟨hinv, hnoted⟩
      have hsuccess : forall round, round ∈ [input.first, input.second] ->
          round.status = .success := by
        intro round hround
        rcases List.mem_cons.mp hround with heq | hsecond
        · rw [heq]
          exact hclean.1
        · rw [List.mem_singleton.mp hsecond]
          exact hclean.2
      exact (hnoted.subscribeLoop hinv hsuccess (tick_loop h hconn input)).connected
  | process received lost =>
      rw [(@process_goes w s received hconn lost hclean).1, hear_connected]
      exact hconn
  | publish reaped status =>
      rw [(@publish_goes w s reaped hconn status hclean).1, hear_connected]
      exact hconn

theorem allSubscribed_stable (h : LinkInv w s) (hgoal : AllSubscribed w s)
    (hclean : FailureFree s step) : AllSubscribed w (s.after w step) := by
  refine ⟨failureFree_connected h hgoal.connected hclean, ?_⟩
  cases step with
  | tick input =>
      rcases h.noted hgoal.connected with ⟨hinv, hnoted⟩
      have hdone : forall topic, topic ∈ w.wanted -> s.noted.publisher.done topic = true := by
        intro topic hwanted
        rw [h.noted_same.1]
        exact hgoal.done topic hwanted
      have hnone : s.noted.publisher.subInflight = none := by
        cases htopic : s.noted.publisher.subInflight with
        | none => rfl
        | some topic =>
            rcases hinv.taken topic htopic with ⟨hwanted, hmissing, _⟩
            rw [hdone topic hwanted] at hmissing
            cases hmissing
      have hloop := tick_loop h hgoal.connected input
      rw [subscribeLoop_none hnone] at hloop
      rcases subscribeNext_cases hnoted (hinv.free hnone) input.first
        (CloudPublisher.subscribeLoop w [input.second]) with hall | hmissing
      · rw [hall.2] at hloop
        injection hloop with hstate
        rw [← hstate]
        exact hdone
      · rcases hmissing with ⟨topic, hwanted, hmissing, _⟩
        rw [hdone topic hwanted] at hmissing
        cases hmissing
  | process received lost =>
      rw [(@process_goes w s received hgoal.connected lost hclean).2]
      exact hgoal.done
  | publish reaped status =>
      rw [(@publish_goes w s reaped hgoal.connected status hclean).2]
      exact hgoal.done

theorem linkAt_up (h : LinkInv w s) (hconn : s.mqtt.connected = true)
    (hclean : forall n, FailureFree (linkAt w s steps n) (steps n)) (n : Nat) :
    LinkInv w (linkAt w s steps n) ∧ (linkAt w s steps n).mqtt.connected = true := by
  induction n with
  | zero => exact ⟨h, hconn⟩
  | succ n ih => exact ⟨ih.1.after (steps n), failureFree_connected ih.1 ih.2 (hclean n)⟩

theorem recovers_all (h : LinkInv w s) (hconn : s.mqtt.connected = true) (hrec : Recovers w s steps)
    : exists n, forall m, n ≤ m -> AllSubscribed w (linkAt w s steps m) := by
  rcases hrec.patient with ⟨start, hpatient⟩
  have hup := fun n => linkAt_up h hconn hrec.clean n
  have hreached : exists n, start ≤ n ∧ AllSubscribed w (linkAt w s steps n) := by
    apply @Concurrency.eventually_of_helpful Link (linkAt w s steps) (AllSubscribed w) (workLeft w)
      Bool (fun s => decide (s.mqtt.subState = .pending))
      (fun pending n => Helps pending (linkAt w s steps n) (steps n)) start
    · intro n hstart hgoal
      exact step_advances (hup n).1 (hup n).2 hgoal (hrec.clean n) (hpatient n hstart)
    · intro n _
      by_cases hpending : (linkAt w s steps n).mqtt.subState = .pending
      · rcases hrec.settled n hpending with ⟨m, hle, hsettles⟩
        refine ⟨m, hle, ?_⟩
        unfold Helps
        rw [if_pos (decide_eq_true hpending)]
        exact hsettles
      · rcases hrec.ticks n with ⟨m, hle, htick⟩
        refine ⟨m, hle, ?_⟩
        unfold Helps
        rw [if_neg (by rw [decide_eq_false hpending]; decide)]
        exact htick
  rcases hreached with ⟨n, _, hgoal⟩
  exact ⟨n, fun m hle => @Concurrency.always_from Link (linkAt w s steps) (AllSubscribed w) m n 0
    (fun k _ hk => allSubscribed_stable (hup k).1 hk (hrec.clean k)) (Nat.zero_le n) hgoal hle⟩

/-!
## Such a run exists
-/

def quickRound : SubscribeRound := ⟨0, 0, 1, .success⟩

def quickTick : LinkStep := .tick ⟨true, ⟨true, .done, true⟩, quickRound, quickRound⟩

/-- A broker that grants at once. -/
def promptStep (s : Link) : LinkStep :=
  if s.mqtt.subState = .pending then .process [⟨s.mqtt.subPacketId, some [0]⟩] false else quickTick

def promptAt (w : Wiring) (s : Link) : Nat -> Link
  | 0 => s
  | n + 1 => (promptAt w s n).after w (promptStep (promptAt w s n))

theorem linkAt_prompt (s : Link) (n : Nat) :
    linkAt w s (fun n => promptStep (promptAt w s n)) n = promptAt w s n := by
  induction n with
  | zero => rfl
  | succ n ih =>
      change (linkAt w s (fun n => promptStep (promptAt w s n)) n).after w
        (promptStep (promptAt w s n)) = (promptAt w s n).after w (promptStep (promptAt w s n))
      rw [ih]

theorem promptStep_pending (h : s.mqtt.subState = .pending) :
    promptStep s = .process [⟨s.mqtt.subPacketId, some [0]⟩] false := if_pos h

theorem promptStep_tick (h : s.mqtt.subState ≠ .pending) : promptStep s = quickTick :=
  if_neg h

theorem promptStep_clean (s : Link) : FailureFree s (promptStep s) := by
  by_cases hpending : s.mqtt.subState = .pending
  · rw [promptStep_pending hpending]
    refine ⟨rfl, fun packet hpacket _ => ?_⟩
    rw [List.mem_singleton.mp hpacket]
    rfl
  · rw [promptStep_tick hpending]
    exact ⟨rfl, rfl⟩

theorem promptStep_settles (h : s.mqtt.subState = .pending) : Settles s (promptStep s) := by
  rw [promptStep_pending h]
  exact ⟨_, List.mem_cons_self, rfl⟩

theorem promptStep_patient (s : Link) : ¬GivesUp s (promptStep s) := by
  by_cases hpending : s.mqtt.subState = .pending
  · rw [promptStep_pending hpending]
    exact id
  · rw [promptStep_tick hpending]
    intro hgives
    rcases hgives with hoverdue | hlate
    · exact hpending (of_decide_eq_true hoverdue).1
    · exact absurd hlate (by decide)

theorem promptStep_next (hconn : s.mqtt.connected = true) (hpending : s.mqtt.subState = .pending) :
    IsTick (promptStep (s.after w (promptStep s))) := by
  have hclean := promptStep_clean s
  rw [promptStep_pending hpending] at hclean ⊢
  have hmqtt := (@process_goes w s _ hconn _ hclean).1
  have hheard : (s.after w (.process [⟨s.mqtt.subPacketId, some [0]⟩] false)).mqtt.subState =
      .ok := by
    rw [hmqtt, List.foldl_cons, prvEventSuback_settles hpending rfl]
    rfl
  rw [promptStep_tick (by rw [hheard]; decide)]
  exact ⟨_, rfl⟩

theorem recovers_exists (h : LinkInv w s) (hconn : s.mqtt.connected = true) :
    exists steps, Recovers w s steps := by
  refine ⟨fun n => promptStep (promptAt w s n), ?_⟩
  have hclean : forall n, FailureFree (linkAt w s (fun n => promptStep (promptAt w s n)) n)
      (promptStep (promptAt w s n)) := by
    intro n
    rw [linkAt_prompt]
    exact promptStep_clean _
  have hup := fun n => linkAt_up h hconn hclean n
  constructor
  · exact hclean
  · intro n
    have hn := hup n
    rw [linkAt_prompt] at hn
    by_cases hpending : (promptAt w s n).mqtt.subState = .pending
    · exact ⟨n + 1, Nat.le_succ n, promptStep_next hn.2 hpending⟩
    · exact ⟨n, Nat.le_refl n, _, promptStep_tick hpending⟩
  · intro n hpending
    rw [linkAt_prompt] at hpending
    refine ⟨n, Nat.le_refl n, ?_⟩
    rw [linkAt_prompt]
    exact promptStep_settles hpending
  · refine ⟨0, fun n _ => ?_⟩
    rw [linkAt_prompt]
    exact promptStep_patient _

/-!
## Subscriptions and sessions
-/

/-- The flags stand for grants of the present session, one SUBSCRIBE is in flight at most, and
nothing keeps a missing topic from being subscribed in the end. -/
theorem subscriptions_belong_to_session {s : Link} (hrun : LinkRun w s) :
    (s.mqtt.connected = true ->
      forall topic, s.publisher.done topic = true -> Subscribed s.session topic) ∧
    (inFlight s.session).length ≤ 1 ∧
    (s.mqtt.connected = true -> (exists steps, Recovers w s steps) ∧
      forall steps, Recovers w s steps ->
        exists n, forall m, n ≤ m -> AllSubscribed w (linkAt w s steps m)) := by
  have h := hrun.inv
  exact ⟨fun _ => h.held, h.single, fun hconn => ⟨recovers_exists h hconn, fun steps hrec =>
    recovers_all h hconn hrec⟩⟩

end Progress

theorem subscriptions_belong_to_session_connected :
    exists steps n, forall m, n ≤ m -> AllSubscribed ⟨true, true⟩
      (linkAt ⟨true, true⟩ (linkAt ⟨true, true⟩ createdLink (fun _ => quickTick) 3) steps m) := by
  have hrun : LinkRun ⟨true, true⟩
      (linkAt ⟨true, true⟩ createdLink (fun _ => quickTick) 3) :=
    ((LinkRun.start.step quickTick).step quickTick).step quickTick
  rcases (subscriptions_belong_to_session hrun).2.2 (by decide) with ⟨⟨steps, hrec⟩, hall⟩
  rcases hall steps hrec with ⟨n, hn⟩
  exact ⟨steps, n, hn⟩

end EnvMonitor.Gateway.CloudPublisher
