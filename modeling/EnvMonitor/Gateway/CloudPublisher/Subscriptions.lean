import EnvMonitor.Concurrency.Progress
import EnvMonitor.Gateway.MqttClient

/-!
# Command subscriptions

CloudPublisher's flags for its command topics and MqttClient's one SUBSCRIBE, over the sessions
that begin and end around them.  Every step runs under the link lock.
-/

namespace EnvMonitor.Gateway.CloudPublisher

inductive CommandTopic where
  | config
  | control
  | otaCmd
  | otaData
  deriving DecidableEq, Repr

/-- Which of the optional handlers are wired. -/
structure Wiring where
  controlHandler : Bool
  updateOps : Bool

/-- `wanted[]` -/
def Wiring.wanted (w : Wiring) : List CommandTopic :=
  [.config] ++ (if w.controlHandler then [.control] else []) ++
    (if w.updateOps then [.otaCmd, .otaData] else [])

abbrev cpReconnectBackoffMinS : Nat := 2
abbrev cpReconnectBackoffMaxS : Nat := 60

/-- The fields of the instance that are about the link. -/
structure LinkState where
  wasConnected : Bool
  done : CommandTopic -> Bool
  subInflight : Option CommandTopic
  reconnectCountdownS : Nat
  reconnectBackoffS : Nat
  connectInProgress : Bool

/-- What went over the present session, the first thing first. -/
inductive SessionEvent where
  | subscribe (topic : CommandTopic) (packetId : UInt16)
  | suback (packetId : UInt16) (granted : Bool)
  /-- MqttClient stops waiting for the SUBACK. -/
  | gaveUp (packetId : UInt16)
  deriving DecidableEq, Repr

structure Link where
  mqtt : MqttClient
  publisher : LinkState
  session : List SessionEvent

def createdLink : Link where
  mqtt := mqttClientCreate
  publisher := ⟨false, fun _ => false, none, 0, cpReconnectBackoffMinS, false⟩
  session := []

/-- `prv_note_link` -/
def prvNoteLink (connected : Bool) (p : LinkState) : LinkState :=
  if connected = p.wasConnected then p
  else { p with wasConnected := connected, done := fun _ => false, subInflight := none }

/-- After a call of MqttClient: `cloud_publisher_on_disconnect` was called if the flag is set. -/
def Link.called (s : Link) (result : MqttClient × Bool) : Link :=
  if result.2 then
    { mqtt := result.1, publisher := prvNoteLink false s.publisher, session := [] }
  else { s with mqtt := result.1 }

/-!
## Subscribing
-/

/-- What one round of `prv_subscribe_commands` meets: the clock, the packet id and how the
SUBSCRIBE is sent. -/
structure SubscribeRound where
  pollMs : UInt32
  startMs : UInt32
  packetId : UInt16
  status : SendStatus

def LinkState.setDone (p : LinkState) (topic : CommandTopic) : LinkState :=
  { p with done := Function.update p.done topic true }

/-- The poll of the SUBSCRIBE in flight. -/
def Link.polled (s : Link) (now : UInt32) : Link :=
  { s with
    mqtt := (mqttClientSubscribePoll now s.mqtt).2
    session := if s.mqtt.overdue now then s.session ++ [.gaveUp s.mqtt.subPacketId] else s.session }

/-- The start of the next topic that is missing, and the rest of the loop after it. -/
def subscribeNext (w : Wiring) (round : SubscribeRound) (loop : Link -> Option Link) (s : Link) :
    Option Link :=
  match w.wanted.find? (fun topic => !s.publisher.done topic) with
  | none => some s
  | some topic =>
      match mqttClientSubscribeStart round.packetId round.startMs round.status s.mqtt with
      | (.ok, mqtt, _) =>
          loop
            { mqtt := mqtt
              publisher := { s.publisher with subInflight := some topic }
              session := s.session ++ [.subscribe topic round.packetId] }
      | (_, result) => some (s.called result)

def Link.settled (s : Link) (p : LinkState) : Link :=
  { s with publisher := { p with subInflight := none } }

/-- The loop of `prv_subscribe_commands`, one round after another; `none` where they run out. -/
def subscribeLoop (w : Wiring) : List SubscribeRound -> Link -> Option Link
  | [], _ => none
  | round :: rounds, s =>
      match s.publisher.subInflight with
      | none => subscribeNext w round (subscribeLoop w rounds) s
      | some topic =>
          let polled := s.polled round.pollMs
          match (mqttClientSubscribePoll round.pollMs s.mqtt).1 with
          | .pending => some polled
          | .ok =>
              subscribeNext w round (subscribeLoop w rounds)
                (polled.settled (s.publisher.setDone topic))
          | .failed | .idle => some (polled.settled s.publisher)

/-- `prv_subscribe_commands`: it returns in the second round at the latest. -/
def prvSubscribeCommands (w : Wiring) (first second : SubscribeRound) (s : Link) : Link :=
  (subscribeLoop w [first, second] s).getD s

/-!
## Steps
-/

/-- What a tick meets. -/
structure TickInput where
  /-- `connect_prepare` found an endpoint. -/
  prepared : Bool
  connect : ConnectOutcome
  first : SubscribeRound
  second : SubscribeRound

/-- `prv_note_connect_failure` -/
def prvNoteConnectFailure (p : LinkState) : LinkState :=
  { p with
    reconnectCountdownS := p.reconnectBackoffS
    reconnectBackoffS :=
      if cpReconnectBackoffMaxS < p.reconnectBackoffS * 2 then cpReconnectBackoffMaxS
      else p.reconnectBackoffS * 2 }

/-- A step of the connection attempt; a session that comes up has seen nothing yet. -/
def connectAttempt (input : TickInput) (s : Link) : Link :=
  if !s.publisher.connectInProgress && !input.prepared then
    { s with publisher := prvNoteConnectFailure s.publisher }
  else
    match mqttClientConnectStep input.connect s.mqtt with
    | (.inProgress, mqtt) =>
        { s with mqtt := mqtt, publisher := { s.publisher with connectInProgress := true } }
    | (.ok, mqtt) =>
        { s with
          mqtt := mqtt, publisher := { s.publisher with connectInProgress := false }, session := [] }
    | (_, mqtt) =>
        { s with
          mqtt := mqtt
          publisher := prvNoteConnectFailure { s.publisher with connectInProgress := false } }

/-- `prv_maybe_reconnect` -/
def prvMaybeReconnect (w : Wiring) (input : TickInput) (s : Link) : Link :=
  if s.mqtt.connected then
    prvSubscribeCommands w input.first input.second
      { s with
        publisher := { prvNoteLink true s.publisher with
          reconnectCountdownS := 0, reconnectBackoffS := cpReconnectBackoffMinS } }
  else
    let s := { s with publisher := prvNoteLink false s.publisher }
    if 0 < s.publisher.reconnectCountdownS then
      { s with
        publisher := { s.publisher with
          reconnectCountdownS := s.publisher.reconnectCountdownS - 1 } }
    else connectAttempt input s

inductive LinkStep where
  /-- The part of a stats tick, or of a receive-ready wake-up, that is about the link. -/
  | tick (input : TickInput)
  | process (received : List Suback) (lost : Bool)
  | publish (reaped : List Suback) (status : SendStatus)

def Link.received (s : Link) (packets : List Suback) : Link :=
  { s with
    session := s.session ++ packets.map (fun packet => .suback packet.packetId packet.granted) }

def Link.after (w : Wiring) (s : Link) : LinkStep -> Link
  | .tick input => prvMaybeReconnect w input s
  | .process received lost =>
      if s.mqtt.connected then (s.received received).called (mqttClientProcess received lost s.mqtt)
      else s
  | .publish reaped status =>
      if s.mqtt.connected then (s.received reaped).called (mqttClientPublish reaped status s.mqtt).2
      else s

inductive LinkRun (w : Wiring) : Link -> Prop
  | start : LinkRun w createdLink
  | step {s : Link} (run : LinkRun w s) (step : LinkStep) : LinkRun w (s.after w step)

/-!
## What a session has seen
-/

/-- A SUBSCRIBE of the topic was sent in the session, and a SUBACK granted it. -/
def Subscribed (session : List SessionEvent) (topic : CommandTopic) : Prop :=
  exists before between after packetId,
    session = before ++ .subscribe topic packetId :: (between ++ .suback packetId true :: after)

/-- The packet ids that are waited for. -/
def waitingAfter (waiting : List UInt16) : SessionEvent -> List UInt16
  | .subscribe _ packetId => waiting ++ [packetId]
  | .suback packetId _ | .gaveUp packetId => waiting.erase packetId

def inFlight (session : List SessionEvent) : List UInt16 := session.foldl waitingAfter []

theorem inFlight_append (session : List SessionEvent) (event : SessionEvent) :
    inFlight (session ++ [event]) = waitingAfter (inFlight session) event := by
  unfold inFlight
  rw [List.foldl_append]
  rfl

variable {topic : CommandTopic} {session : List SessionEvent}

theorem Subscribed.append (h : Subscribed session topic) (event : SessionEvent) :
    Subscribed (session ++ [event]) topic := by
  rcases h with ⟨before, between, after, packetId, heq⟩
  refine ⟨before, between, after ++ [event], packetId, ?_⟩
  rw [heq]
  simp only [List.append_assoc, List.cons_append]

theorem subscribed_of_granted {packetId : UInt16}
    (h : SessionEvent.subscribe topic packetId ∈ session) :
    Subscribed (session ++ [.suback packetId true]) topic := by
  rcases List.append_of_mem h with ⟨before, between, heq⟩
  refine ⟨before, between, [], packetId, ?_⟩
  rw [heq, List.append_assoc, List.cons_append]

/-- How the topic in flight stands with MqttClient. -/
def InFlightOf (c : MqttClient) (session : List SessionEvent) (topic : CommandTopic) : Prop :=
  match c.subState with
  | .pending => SessionEvent.subscribe topic c.subPacketId ∈ session
  | .ok => Subscribed session topic
  | .failed => True
  | .idle => False

/-- The two modules in step. -/
structure LinkInv (w : Wiring) (s : Link) : Prop where
  down : s.mqtt.connected = false -> s.mqtt.subState = .idle ∧ s.publisher.wasConnected = false
  fresh : s.publisher.wasConnected = false ->
    (forall topic, s.publisher.done topic = false) ∧ s.publisher.subInflight = none
  free : s.publisher.subInflight = none -> s.mqtt.subState = .idle
  taken : forall topic, s.publisher.subInflight = some topic ->
    topic ∈ w.wanted ∧ s.publisher.done topic = false ∧ InFlightOf s.mqtt s.session topic
  held : forall topic, s.publisher.done topic = true -> Subscribed s.session topic
  flight : inFlight s.session = if s.mqtt.subState = .pending then [s.mqtt.subPacketId] else []

section Invariant

variable {w : Wiring}

theorem createdLink_inv : LinkInv w createdLink where
  down := fun _ => ⟨rfl, rfl⟩
  fresh := fun _ => ⟨fun _ => rfl, rfl⟩
  free := fun _ => rfl
  taken := fun _ h => nomatch h
  held := fun _ h => nomatch h
  flight := rfl

/-!
## Inbound packets
-/

def Link.heard (s : Link) (packet : Suback) : Link :=
  { s with
    mqtt := prvEventSuback packet s.mqtt
    session := s.session ++ [.suback packet.packetId packet.granted] }

variable {c : MqttClient} {packet : Suback} {s s' : Link} {p : LinkState} {packets : List Suback}
variable {status : SendStatus} {now : UInt32} {session : List SessionEvent} {packetId : UInt16}
variable {topic : CommandTopic} {round : SubscribeRound} {rounds : List SubscribeRound}

theorem prvEventSuback_settles (hpending : c.subState = .pending)
    (hid : packet.packetId = c.subPacketId) :
    prvEventSuback packet c =
      { c with subState := if packet.granted then .ok else .failed } := by
  unfold prvEventSuback Suback.granted
  rw [if_pos ⟨hpending, hid⟩]
  by_cases hfailure : packet.status = mqttSubAckFailure
  · rw [if_pos hfailure, if_neg (by simp [hfailure])]
  · rw [if_neg hfailure, if_pos (by simp [hfailure])]

theorem prvEventSuback_ignores (h : ¬(c.subState = .pending ∧ packet.packetId = c.subPacketId)) :
    prvEventSuback packet c = c := if_neg h

theorem LinkInv.heard (h : LinkInv w s) (hconn : s.mqtt.connected = true) (packet : Suback) :
    LinkInv w (s.heard packet) ∧ (s.heard packet).mqtt.connected = true := by
  by_cases hmine : s.mqtt.subState = .pending ∧ packet.packetId = s.mqtt.subPacketId
  · have hsettles := prvEventSuback_settles hmine.1 hmine.2
    have hflight := h.flight
    rw [if_pos hmine.1] at hflight
    have hnow : (s.heard packet).mqtt =
        { s.mqtt with subState := if packet.granted then .ok else .failed } := hsettles
    refine ⟨?_, by rw [hnow]; exact hconn⟩
    constructor
    · intro hdown
      rw [hnow] at hdown
      rw [hconn] at hdown
      cases hdown
    · exact h.fresh
    · intro hnone
      have hidle := h.free hnone
      rw [hmine.1] at hidle
      cases hidle
    · intro topic htopic
      rcases h.taken topic htopic with ⟨hwanted, hdone, hopen⟩
      refine ⟨hwanted, hdone, ?_⟩
      unfold InFlightOf at hopen ⊢
      rw [hmine.1] at hopen
      dsimp only at hopen
      rw [hnow]
      cases hgranted : packet.granted with
      | true =>
          change Subscribed (s.session ++ [.suback packet.packetId packet.granted]) topic
          rw [hgranted, hmine.2]
          exact subscribed_of_granted hopen
      | false => trivial
    · intro topic hdone
      exact (h.held topic hdone).append _
    · change inFlight (s.session ++ [.suback packet.packetId packet.granted]) = _
      rw [inFlight_append, hflight, hnow, hmine.2]
      cases packet.granted with
      | true => simp [waitingAfter]
      | false => simp [waitingAfter]
  · have hsame : (s.heard packet).mqtt = s.mqtt := prvEventSuback_ignores hmine
    refine ⟨?_, by rw [hsame]; exact hconn⟩
    constructor
    · rw [hsame]
      exact h.down
    · exact h.fresh
    · rw [hsame]
      exact h.free
    · intro topic htopic
      rcases h.taken topic htopic with ⟨hwanted, hdone, hopen⟩
      refine ⟨hwanted, hdone, ?_⟩
      unfold InFlightOf at hopen ⊢
      rw [hsame]
      cases hstate : s.mqtt.subState with
      | pending =>
          rw [hstate] at hopen
          exact List.mem_append_left _ hopen
      | ok =>
          rw [hstate] at hopen
          exact hopen.append _
      | failed => trivial
      | idle =>
          rw [hstate] at hopen
          exact hopen
    · intro topic hdone
      exact (h.held topic hdone).append _
    · change inFlight (s.session ++ [.suback packet.packetId packet.granted]) = _
      rw [inFlight_append, h.flight, hsame]
      by_cases hpending : s.mqtt.subState = .pending
      · have hother : s.mqtt.subPacketId ≠ packet.packetId :=
          fun hid => hmine ⟨hpending, hid.symm⟩
        rw [if_pos hpending]
        simp [waitingAfter, hother]
      · rw [if_neg hpending]
        rfl

theorem heard_all (packets : List Suback) (s : Link) :
    packets.foldl Link.heard s =
      { s.received packets with
        mqtt := packets.foldl (fun c packet => prvEventSuback packet c) s.mqtt } := by
  induction packets generalizing s with
  | nil =>
      unfold Link.received
      rw [List.map_nil, List.append_nil]
      rfl
  | cons packet packets ih =>
      rw [List.foldl_cons, ih]
      unfold Link.received Link.heard
      simp only [List.map_cons, List.foldl_cons, List.append_assoc, List.cons_append, List.nil_append]

theorem LinkInv.heardAll (h : LinkInv w s) (hconn : s.mqtt.connected = true) (packets : List Suback)
    :
    LinkInv w (packets.foldl Link.heard s) ∧
      (packets.foldl Link.heard s).mqtt.connected = true := by
  induction packets generalizing s with
  | nil => exact ⟨h, hconn⟩
  | cons packet packets ih =>
      rcases h.heard hconn packet with ⟨hone, hstill⟩
      exact ih hone hstill

/-!
## The end of a session
-/

theorem prvNoteLink_down (h : p.wasConnected = false ->
      (forall topic, p.done topic = false) ∧ p.subInflight = none) :
    (prvNoteLink false p).wasConnected = false ∧
      (forall topic, (prvNoteLink false p).done topic = false) ∧
      (prvNoteLink false p).subInflight = none := by
  unfold prvNoteLink
  split
  · rename_i hsame
    exact ⟨hsame.symm, h hsame.symm⟩
  · exact ⟨rfl, fun _ => rfl, rfl⟩

theorem LinkInv.dropped (h : LinkInv w s) (hc : c.connected = false ∧ c.subState = .idle) :
    LinkInv w (s.called (c, true)) := by
  rcases prvNoteLink_down h.fresh with ⟨hwas, hdone, hnone⟩
  exact
    { down := fun _ => ⟨hc.2, hwas⟩
      fresh := fun _ => ⟨hdone, hnone⟩
      free := fun _ => hc.2
      taken := fun topic htopic => by
        change (prvNoteLink false s.publisher).subInflight = some topic at htopic
        rw [hnone] at htopic
        cases htopic
      held := fun topic htopic => by
        change (prvNoteLink false s.publisher).done topic = true at htopic
        rw [hdone] at htopic
        cases htopic
      flight := by
        change [] = _
        rw [if_neg (by rw [show (s.called (c, true)).mqtt = c from rfl, hc.2]; decide)] }

theorem prvDropAfterSendFailure_cases (status : SendStatus) (c : MqttClient) :
    (status ≠ .sendFailed ∧ prvDropAfterSendFailure status c = (c, false)) ∨
      (status = .sendFailed ∧
        prvDropAfterSendFailure status c = (prvTeardownConnection c, true)) := by
  unfold prvDropAfterSendFailure
  by_cases hfailed : status = .sendFailed
  · exact Or.inr ⟨hfailed, if_pos hfailed⟩
  · exact Or.inl ⟨hfailed, if_neg hfailed⟩

theorem LinkInv.called (h : LinkInv w s) (hconn : s.mqtt.connected = true) (packets : List Suback)
    {result : MqttClient × Bool} (hresult : result =
        (packets.foldl (fun c packet => prvEventSuback packet c) s.mqtt, false) ∨
      result = (prvTeardownConnection
        (packets.foldl (fun c packet => prvEventSuback packet c) s.mqtt), true)) :
    LinkInv w ((s.received packets).called result) := by
  have hheard := (h.heardAll hconn packets).1
  rw [heard_all] at hheard
  rcases hresult with hgoes | hends
  · rw [hgoes]
    exact hheard
  · rw [hends]
    exact hheard.dropped ⟨rfl, rfl⟩

theorem mqttClientProcess_result {lost : Bool} (hconn : c.connected = true) :
    mqttClientProcess packets lost c =
      if lost then
        (prvTeardownConnection (packets.foldl (fun c packet => prvEventSuback packet c) c), true)
      else (packets.foldl (fun c packet => prvEventSuback packet c) c, false) := by
  unfold mqttClientProcess
  rw [hconn]
  rfl

theorem mqttClientPublish_result (hconn : c.connected = true) :
    (mqttClientPublish packets status c).2 =
      prvDropAfterSendFailure status
        (packets.foldl (fun c packet => prvEventSuback packet c) c) := by
  unfold mqttClientPublish
  rw [hconn, if_neg (by decide)]
  dsimp only
  by_cases hsuccess : status = .success
  · rw [if_neg (fun h => h hsuccess), hsuccess]
    rfl
  · rw [if_pos hsuccess]

theorem LinkInv.process (h : LinkInv w s) (received : List Suback) (lost : Bool) :
    LinkInv w (s.after w (.process received lost)) := by
  change LinkInv w (if s.mqtt.connected = true then _ else s)
  split
  · rename_i hconn
    apply h.called hconn
    rw [mqttClientProcess_result hconn]
    cases lost with
    | true => exact Or.inr rfl
    | false => exact Or.inl rfl
  · exact h

theorem LinkInv.publish (h : LinkInv w s) (reaped : List Suback) (status : SendStatus) :
    LinkInv w (s.after w (.publish reaped status)) := by
  change LinkInv w (if s.mqtt.connected = true then _ else s)
  split
  · rename_i hconn
    apply h.called hconn
    rw [mqttClientPublish_result hconn]
    rcases prvDropAfterSendFailure_cases status
      (reaped.foldl (fun c packet => prvEventSuback packet c) s.mqtt) with hgoes | hends
    · exact Or.inl hgoes.2
    · exact Or.inr hends.2
  · exact h

/-!
## Ticks
-/

theorem mqttClientSubscribePoll_connected (now : UInt32) (c : MqttClient) :
    (mqttClientSubscribePoll now c).2.connected = c.connected := by
  unfold mqttClientSubscribePoll
  dsimp only
  split
  · split <;> rfl
  · split <;> rfl

theorem mqttClientSubscribePoll_cases (now : UInt32) (c : MqttClient) :
    (c.subState = .idle ∧ c.overdue now = false ∧ mqttClientSubscribePoll now c = (.idle, c)) ∨
    (c.subState = .pending ∧ c.overdue now = false ∧
      mqttClientSubscribePoll now c = (.pending, c)) ∨
    (c.subState = .pending ∧ c.overdue now = true ∧
      mqttClientSubscribePoll now c = (.failed, { c with subState := .idle })) ∨
    (c.subState = .ok ∧ c.overdue now = false ∧
      mqttClientSubscribePoll now c = (.ok, { c with subState := .idle })) ∨
    (c.subState = .failed ∧ c.overdue now = false ∧
      mqttClientSubscribePoll now c = (.failed, { c with subState := .idle })) := by
  unfold mqttClientSubscribePoll
  cases hoverdue : c.overdue now with
  | true =>
      have hpending : c.subState = .pending := by
        unfold MqttClient.overdue at hoverdue
        exact (of_decide_eq_true hoverdue).1
      exact Or.inr (Or.inr (Or.inl ⟨hpending, rfl, rfl⟩))
  | false =>
      cases hstate : c.subState with
      | idle => simp [hstate]
      | pending => simp [hstate]
      | ok => simp [hstate]
      | failed => simp [hstate]

theorem polled_notOverdue (h : s.mqtt.overdue now = false) :
    s.polled now = { s with mqtt := (mqttClientSubscribePoll now s.mqtt).2 } := by
  unfold Link.polled
  rw [h]
  rfl

theorem polled_overdue (h : s.mqtt.overdue now = true) :
    s.polled now =
      { s with
        mqtt := (mqttClientSubscribePoll now s.mqtt).2
        session := s.session ++ [.gaveUp s.mqtt.subPacketId] } := by
  unfold Link.polled
  rw [h]
  rfl

/-- The session is up and CloudPublisher knows it. -/
structure Noted (s : Link) : Prop where
  connected : s.mqtt.connected = true
  wasConnected : s.publisher.wasConnected = true

theorem settled_inv {q : LinkState} (hconn : c.connected = true) (hidle : c.subState = .idle)
    (hwas : p.wasConnected = true)
    (hheld : forall topic, p.done topic = true -> Subscribed session topic)
    (hflight : inFlight session = []) : LinkInv w (Link.settled ⟨c, q, session⟩ p) where
  down := fun hdown => by
    change c.connected = false at hdown
    rw [hconn] at hdown
    cases hdown
  fresh := fun hfresh => by
    change p.wasConnected = false at hfresh
    rw [hwas] at hfresh
    cases hfresh
  free := fun _ => hidle
  taken := fun _ htopic => nomatch htopic
  held := hheld
  flight := by
    change inFlight session = if c.subState = .pending then _ else _
    rw [hflight, hidle]
    rfl

theorem mqttClientSubscribeStart_sent (hconn : c.connected = true) (hidle : c.subState = .idle) :
    mqttClientSubscribeStart packetId now .success c =
      (.ok, { c with subPacketId := packetId, subStartMs := now, subState := .pending }, false) := by
  unfold mqttClientSubscribeStart
  rw [hconn, hidle]
  rfl

theorem mqttClientSubscribeStart_failed (hconn : c.connected = true) (hidle : c.subState = .idle)
    (hstatus : status ≠ .success) :
    mqttClientSubscribeStart packetId now status c =
      (.subscribeFail, prvDropAfterSendFailure status
        { c with subPacketId := packetId, subStartMs := now, subState := .idle }) := by
  unfold mqttClientSubscribeStart
  rw [hconn, hidle]
  exact if_pos hstatus

/-- After the start of a missing topic. -/
def Link.started (s : Link) (topic : CommandTopic) (round : SubscribeRound) : Link where
  mqtt :=
    { s.mqtt with
      subPacketId := round.packetId, subStartMs := round.startMs, subState := .pending }
  publisher := { s.publisher with subInflight := some topic }
  session := s.session ++ [.subscribe topic round.packetId]

theorem LinkInv.started (h : LinkInv w s) (hnoted : Noted s)
    (hnone : s.publisher.subInflight = none) (hwanted : topic ∈ w.wanted)
    (hdone : s.publisher.done topic = false) (round : SubscribeRound) :
    LinkInv w (s.started topic round) where
  down := fun hdown => by
    change s.mqtt.connected = false at hdown
    rw [hnoted.connected] at hdown
    cases hdown
  fresh := fun hfresh => by
    change s.publisher.wasConnected = false at hfresh
    rw [hnoted.wasConnected] at hfresh
    cases hfresh
  free := fun hfree => nomatch hfree
  taken := fun other hother => by
    cases hother
    exact ⟨hwanted, hdone, List.mem_append_right _ List.mem_cons_self⟩
  held := fun other hother => (h.held other hother).append _
  flight := by
    have hflight := h.flight
    rw [if_neg (by rw [h.free hnone]; decide)] at hflight
    change inFlight (s.session ++ [.subscribe topic round.packetId]) = [round.packetId]
    rw [inFlight_append, hflight]
    rfl

theorem subscribeNext_cases (hnoted : Noted s) (hidle : s.mqtt.subState = .idle)
    (round : SubscribeRound) (loop : Link -> Option Link) :
    ((forall topic, topic ∈ w.wanted -> s.publisher.done topic = true) ∧
      subscribeNext w round loop s = some s) ∨
    (exists topic, topic ∈ w.wanted ∧ s.publisher.done topic = false ∧
      ((round.status = .success ∧ subscribeNext w round loop s = loop (s.started topic round)) ∨
      (round.status ≠ .success ∧ subscribeNext w round loop s =
        some (s.called (prvDropAfterSendFailure round.status
          { s.mqtt with
            subPacketId := round.packetId, subStartMs := round.startMs, subState := .idle }))))) := by
  unfold subscribeNext
  cases hfind : w.wanted.find? (fun topic => !s.publisher.done topic) with
  | none =>
      refine Or.inl ⟨fun topic htopic => ?_, rfl⟩
      have hall := List.find?_eq_none.mp hfind topic htopic
      simpa using hall
  | some topic =>
      have hmissing : s.publisher.done topic = false := by
        simpa using List.find?_some hfind
      refine Or.inr ⟨topic, List.mem_of_find?_eq_some hfind, hmissing, ?_⟩
      by_cases hstatus : round.status = .success
      · refine Or.inl ⟨hstatus, ?_⟩
        dsimp only
        rw [hstatus, mqttClientSubscribeStart_sent hnoted.connected hidle]
        rfl
      · refine Or.inr ⟨hstatus, ?_⟩
        dsimp only
        rw [mqttClientSubscribeStart_failed hnoted.connected hidle hstatus]

theorem LinkInv.subscribeNext (h : LinkInv w s) (hnoted : Noted s)
    (hnone : s.publisher.subInflight = none) {loop : Link -> Option Link}
    (hloop : forall s, LinkInv w s -> Noted s -> loop s = some s' -> LinkInv w s')
    (hnext : CloudPublisher.subscribeNext w round loop s = some s') : LinkInv w s' := by
  have hidle := h.free hnone
  rcases subscribeNext_cases hnoted hidle round loop with hall | hmissing
  · rw [hall.2] at hnext
    cases hnext
    exact h
  · rcases hmissing with ⟨topic, hwanted, hdone, hsent | hfailed⟩
    · rw [hsent.2] at hnext
      exact hloop _ (h.started hnoted hnone hwanted hdone round) ⟨hnoted.1, hnoted.2⟩ hnext
    · rw [hfailed.2] at hnext
      cases hnext
      rcases prvDropAfterSendFailure_cases round.status { s.mqtt with
        subPacketId := round.packetId, subStartMs := round.startMs, subState := .idle } with
        hgoes | hends
      · rw [hgoes.2]
        refine ⟨fun hdown => ?_, h.fresh, fun _ => rfl, fun other hother => ?_, h.held, ?_⟩
        · change s.mqtt.connected = false at hdown
          rw [hnoted.connected] at hdown
          cases hdown
        · change s.publisher.subInflight = some other at hother
          rw [hnone] at hother
          cases hother
        · have hflight := h.flight
          rw [if_neg (by rw [hidle]; decide)] at hflight
          exact hflight
      · rw [hends.2]
        exact h.dropped ⟨rfl, rfl⟩

theorem subscribeLoop_none (h : s.publisher.subInflight = none) :
    subscribeLoop w (round :: rounds) s = subscribeNext w round (subscribeLoop w rounds) s := by
  rw [subscribeLoop, h]

theorem subscribeLoop_pending (h : s.publisher.subInflight = some topic)
    (hpoll : (mqttClientSubscribePoll round.pollMs s.mqtt).1 = .pending) :
    subscribeLoop w (round :: rounds) s = some (s.polled round.pollMs) := by
  rw [subscribeLoop, h]
  dsimp only
  rw [hpoll]

theorem subscribeLoop_ok (h : s.publisher.subInflight = some topic)
    (hpoll : (mqttClientSubscribePoll round.pollMs s.mqtt).1 = .ok) :
    subscribeLoop w (round :: rounds) s =
      subscribeNext w round (subscribeLoop w rounds)
        ((s.polled round.pollMs).settled (s.publisher.setDone topic)) := by
  rw [subscribeLoop, h]
  dsimp only
  rw [hpoll]

theorem subscribeLoop_failed (h : s.publisher.subInflight = some topic)
    (hpoll : (mqttClientSubscribePoll round.pollMs s.mqtt).1 = .failed) :
    subscribeLoop w (round :: rounds) s =
      some ((s.polled round.pollMs).settled s.publisher) := by
  rw [subscribeLoop, h]
  dsimp only
  rw [hpoll]

theorem LinkInv.polled (h : LinkInv w s) (hnoted : Noted s)
    (htopic : s.publisher.subInflight = some topic) (now : UInt32) :
    ((mqttClientSubscribePoll now s.mqtt).1 = .pending ∧ s.polled now = s) ∨
    ((mqttClientSubscribePoll now s.mqtt).1 = .ok ∧ s.mqtt.subState = .ok ∧
      LinkInv w ((s.polled now).settled (s.publisher.setDone topic))) ∨
    ((mqttClientSubscribePoll now s.mqtt).1 = .failed ∧
      LinkInv w ((s.polled now).settled s.publisher)) := by
  have hopen := (h.taken topic htopic).2.2
  unfold InFlightOf at hopen
  have hflight := h.flight
  rcases mqttClientSubscribePoll_cases now s.mqtt with hidle | hpending | hoverdue | hok | hfailed
  · rw [hidle.1] at hopen
    exact hopen.elim
  · rw [polled_notOverdue hpending.2.1, hpending.2.2]
    exact Or.inl ⟨rfl, rfl⟩
  · rw [polled_overdue hoverdue.2.1, hoverdue.2.2]
    refine Or.inr (Or.inr ⟨rfl, settled_inv hnoted.connected rfl hnoted.wasConnected ?_ ?_⟩)
    · intro other hother
      exact (h.held other hother).append _
    · rw [inFlight_append, hflight, if_pos hoverdue.1]
      simp [waitingAfter]
  · rw [polled_notOverdue hok.2.1, hok.2.2]
    refine Or.inr (Or.inl ⟨rfl, hok.1, settled_inv hnoted.connected rfl hnoted.wasConnected ?_ ?_⟩)
    · rw [hok.1] at hopen
      intro other hother
      by_cases hsame : other = topic
      · rw [hsame]
        exact hopen
      · apply h.held other
        have hupdate : (s.publisher.setDone topic).done other = s.publisher.done other :=
          Function.update_of_ne hsame _ _
        rw [← hupdate]
        exact hother
    · rw [hflight, if_neg (by rw [hok.1]; decide)]
  · rw [polled_notOverdue hfailed.2.1, hfailed.2.2]
    refine Or.inr (Or.inr ⟨rfl, settled_inv hnoted.connected rfl hnoted.wasConnected h.held ?_⟩)
    rw [hflight, if_neg (by rw [hfailed.1]; decide)]

theorem Noted.settled (h : Noted s) (p : LinkState) (hp : p.wasConnected = true) (now : UInt32) :
    Noted ((s.polled now).settled p) :=
  ⟨(mqttClientSubscribePoll_connected now s.mqtt).trans h.connected, hp⟩

theorem LinkInv.subscribeLoop (h : LinkInv w s) (hnoted : Noted s)
    (hloop : CloudPublisher.subscribeLoop w rounds s = some s') : LinkInv w s' := by
  induction rounds generalizing s with
  | nil => cases hloop
  | cons round rounds ih =>
      cases htopic : s.publisher.subInflight with
      | none =>
          rw [subscribeLoop_none htopic] at hloop
          exact h.subscribeNext hnoted htopic (fun _ h hnoted hloop => ih h hnoted hloop) hloop
      | some topic =>
          rcases h.polled hnoted htopic round.pollMs with hpending | hok | hfailed
          · rw [subscribeLoop_pending htopic hpending.1, hpending.2] at hloop
            cases hloop
            exact h
          · rw [subscribeLoop_ok htopic hok.1] at hloop
            exact hok.2.2.subscribeNext
              (hnoted.settled (s.publisher.setDone topic) hnoted.wasConnected round.pollMs) rfl
              (fun _ h hnoted hloop => ih h hnoted hloop) hloop
          · rw [subscribeLoop_failed htopic hfailed.1] at hloop
            cases hloop
            exact hfailed.2

theorem subscribeLoop_started (round : SubscribeRound) (rounds : List SubscribeRound)
    {sent : SubscribeRound} :
    exists s', CloudPublisher.subscribeLoop w (round :: rounds) (s.started topic sent) = some s' := by
  have htopic : (s.started topic sent).publisher.subInflight = some topic := rfl
  rcases mqttClientSubscribePoll_cases round.pollMs (s.started topic sent).mqtt with
    hidle | hpending | hoverdue | hok | hfailed
  · cases hidle.1
  · exact ⟨_, subscribeLoop_pending htopic (by rw [hpending.2.2])⟩
  · exact ⟨_, subscribeLoop_failed htopic (by rw [hoverdue.2.2])⟩
  · cases hok.1
  · cases hfailed.1

theorem subscribeNext_returns (hnoted : Noted s) (hidle : s.mqtt.subState = .idle)
    (round second : SubscribeRound) :
    exists s', CloudPublisher.subscribeNext w round (CloudPublisher.subscribeLoop w [second]) s =
      some s' := by
  rcases subscribeNext_cases hnoted hidle round (CloudPublisher.subscribeLoop w [second]) with
    hall | hmissing
  · exact ⟨s, hall.2⟩
  · rcases hmissing with ⟨topic, _, _, hsent | hfailed⟩
    · rw [hsent.2]
      exact subscribeLoop_started second []
    · exact ⟨_, hfailed.2⟩

theorem subscribeLoop_returns (h : LinkInv w s) (hnoted : Noted s) (first second : SubscribeRound) :
    CloudPublisher.subscribeLoop w [first, second] s =
      some (prvSubscribeCommands w first second s) := by
  have hreturns : exists s', CloudPublisher.subscribeLoop w [first, second] s = some s' := by
    cases htopic : s.publisher.subInflight with
    | none =>
        rw [subscribeLoop_none htopic]
        exact subscribeNext_returns hnoted (h.free htopic) first second
    | some topic =>
        rcases h.polled hnoted htopic first.pollMs with hpending | hok | hfailed
        · exact ⟨_, subscribeLoop_pending htopic hpending.1⟩
        · rw [subscribeLoop_ok htopic hok.1]
          exact subscribeNext_returns
            (hnoted.settled (s.publisher.setDone topic) hnoted.wasConnected first.pollMs)
            (hok.2.2.free rfl) first second
        · exact ⟨_, subscribeLoop_failed htopic hfailed.1⟩
  rcases hreturns with ⟨s', hs'⟩
  unfold prvSubscribeCommands
  rw [hs']
  rfl

theorem LinkInv.subscribeCommands (h : LinkInv w s) (hnoted : Noted s)
    (first second : SubscribeRound) : LinkInv w (prvSubscribeCommands w first second s) :=
  h.subscribeLoop hnoted (subscribeLoop_returns h hnoted first second)

/-- A tick that finds the session up first takes note of it. -/
def Link.noted (s : Link) : Link :=
  { s with
    publisher := { prvNoteLink true s.publisher with
      reconnectCountdownS := 0, reconnectBackoffS := cpReconnectBackoffMinS } }

theorem prvNoteLink_same {connected : Bool} (h : p.wasConnected = connected) :
    prvNoteLink connected p = p := if_pos h.symm

theorem LinkInv.noted (h : LinkInv w s) (hconn : s.mqtt.connected = true) :
    LinkInv w s.noted ∧ Noted s.noted := by
  cases hwas : s.publisher.wasConnected with
  | true =>
      have hsame : s.noted = { s with publisher := { s.publisher with
          reconnectCountdownS := 0, reconnectBackoffS := cpReconnectBackoffMinS } } := by
        unfold Link.noted
        rw [prvNoteLink_same hwas]
      rw [hsame]
      exact ⟨⟨h.down, h.fresh, h.free, h.taken, h.held, h.flight⟩, hconn, hwas⟩
  | false =>
      have hnone := h.fresh hwas
      have hnew : s.noted = { s with publisher := ⟨true, fun _ => false, none, 0,
          cpReconnectBackoffMinS, s.publisher.connectInProgress⟩ } := by
        unfold Link.noted prvNoteLink
        rw [if_neg (by rw [hwas]; decide)]
      rw [hnew]
      refine ⟨⟨?_, ?_, ?_, ?_, ?_, h.flight⟩, hconn, rfl⟩
      · intro hdown
        change s.mqtt.connected = false at hdown
        rw [hconn] at hdown
        cases hdown
      · intro hfresh
        cases hfresh
      · intro _
        exact h.free hnone.2
      · intro topic htopic
        cases htopic
      · intro topic htopic
        cases htopic

/-- Between two sessions. -/
structure Detached (c : MqttClient) (p : LinkState) (session : List SessionEvent) : Prop where
  idle : c.subState = .idle
  wasConnected : p.wasConnected = false
  done : forall topic, p.done topic = false
  subInflight : p.subInflight = none
  flight : inFlight session = []

theorem Detached.inv (h : Detached c p session) : LinkInv w ⟨c, p, session⟩ where
  down := fun _ => ⟨h.idle, h.wasConnected⟩
  fresh := fun _ => ⟨h.done, h.subInflight⟩
  free := fun _ => h.idle
  taken := fun topic htopic => by
    change p.subInflight = some topic at htopic
    rw [h.subInflight] at htopic
    cases htopic
  held := fun topic htopic => by
    change p.done topic = true at htopic
    rw [h.done] at htopic
    cases htopic
  flight := by
    change inFlight session = if c.subState = .pending then _ else _
    rw [h.flight, h.idle]
    rfl

theorem LinkInv.detached (h : LinkInv w s) (hdown : s.mqtt.connected = false) :
    Detached s.mqtt s.publisher s.session := by
  rcases h.down hdown with ⟨hidle, hwas⟩
  rcases h.fresh hwas with ⟨hdone, hnone⟩
  have hflight := h.flight
  rw [if_neg (by rw [hidle]; decide)] at hflight
  exact ⟨hidle, hwas, hdone, hnone, hflight⟩

theorem mqttClientConnectStep_subState (outcome : ConnectOutcome) (c : MqttClient) :
    (mqttClientConnectStep outcome c).2.subState = c.subState := by
  unfold mqttClientConnectStep
  split
  · split <;> rfl
  · split <;> rfl
  · split <;> rfl

theorem connectAttempt_inv (h : Detached s.mqtt s.publisher s.session) (input : TickInput) :
    LinkInv w (connectAttempt input s) := by
  unfold connectAttempt
  split
  · exact Detached.inv ⟨h.idle, h.wasConnected, h.done, h.subInflight, h.flight⟩
  · have hidle := (mqttClientConnectStep_subState input.connect s.mqtt).trans h.idle
    split
    · rename_i mqtt heq
      rw [heq] at hidle
      exact Detached.inv ⟨hidle, h.wasConnected, h.done, h.subInflight, h.flight⟩
    · rename_i mqtt heq
      rw [heq] at hidle
      exact Detached.inv ⟨hidle, h.wasConnected, h.done, h.subInflight, rfl⟩
    · rename_i mqtt _ _ heq
      rw [heq] at hidle
      exact Detached.inv ⟨hidle, h.wasConnected, h.done, h.subInflight, h.flight⟩

theorem prvMaybeReconnect_up (hconn : s.mqtt.connected = true) (input : TickInput) :
    prvMaybeReconnect w input s = prvSubscribeCommands w input.first input.second s.noted := by
  unfold prvMaybeReconnect
  rw [if_pos hconn]
  rfl

theorem LinkInv.tick (h : LinkInv w s) (input : TickInput) :
    LinkInv w (prvMaybeReconnect w input s) := by
  cases hconn : s.mqtt.connected with
  | true =>
      rw [prvMaybeReconnect_up hconn]
      rcases h.noted hconn with ⟨hinv, hnoted⟩
      exact hinv.subscribeCommands hnoted input.first input.second
  | false =>
      have hdetached := h.detached hconn
      unfold prvMaybeReconnect
      rw [hconn, if_neg (by decide), prvNoteLink_same hdetached.wasConnected]
      dsimp only
      split
      · exact Detached.inv ⟨hdetached.idle, hdetached.wasConnected, hdetached.done,
          hdetached.subInflight, hdetached.flight⟩
      · exact connectAttempt_inv hdetached input

theorem LinkInv.after (h : LinkInv w s) (step : LinkStep) : LinkInv w (s.after w step) := by
  cases step with
  | tick input => exact h.tick input
  | process received lost => exact h.process received lost
  | publish reaped status => exact h.publish reaped status

theorem LinkRun.inv (h : LinkRun w s) : LinkInv w s := by
  induction h with
  | start => exact createdLink_inv
  | step run step ih => exact ih.after step

theorem LinkInv.single (h : LinkInv w s) : (inFlight s.session).length ≤ 1 := by
  rw [h.flight]
  split
  · exact Nat.le_refl 1
  · exact Nat.zero_le 1

end Invariant

end EnvMonitor.Gateway.CloudPublisher
