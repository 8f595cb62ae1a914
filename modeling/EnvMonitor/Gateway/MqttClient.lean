import Mathlib.Data.List.Basic

/-!
# MqttClient

The session of MqttClient and its one non-blocking SUBSCRIBE.  What coreMQTT, TLS and the module
answer is given with each call.
-/

namespace EnvMonitor.Gateway

/-- `mqtt_conn_state_t` -/
inductive MqttConnState where
  | idle
  | tlsHandshake
  | mqttConnect
  deriving DecidableEq, Repr

/-- `mqtt_sub_state_t` -/
inductive MqttSubState where
  | idle
  | pending
  | ok
  | failed
  deriving DecidableEq, Repr

inductive MqttClientErr where
  | ok
  | noResource
  | connectFail
  | publishFail
  | notConnected
  | tlsFail
  | subscribeFail
  | inProgress
  deriving DecidableEq, Repr

structure MqttClient where
  connected : Bool
  connectState : MqttConnState
  subState : MqttSubState
  subPacketId : UInt16
  subStartMs : UInt32

abbrev mqttSubackTimeoutMs : UInt32 := 15000
abbrev mqttSubAckFailure : UInt8 := 0x80

/-- `mqtt_client_create` -/
def mqttClientCreate : MqttClient := ⟨false, .idle, .idle, 0, 0⟩

/-- How coreMQTT ends the transmission of a packet. -/
inductive SendStatus where
  | success
  | sendFailed
  /-- Nothing was sent: bad state, no memory. -/
  | otherError
  deriving DecidableEq, Repr

/-- A SUBACK with its status codes, if they can be read. -/
structure Suback where
  packetId : UInt16
  codes : Option (List UInt8)
  deriving DecidableEq, Repr

def Suback.status (s : Suback) : UInt8 :=
  match s.codes with
  | some (code :: _) => code
  | _ => mqttSubAckFailure

def Suback.granted (s : Suback) : Bool := s.status ≠ mqttSubAckFailure

/-- The SUBACK branch of `prv_event_callback`. -/
def prvEventSuback (s : Suback) (c : MqttClient) : MqttClient :=
  if c.subState = .pending ∧ s.packetId = c.subPacketId then
    { c with subState := if s.status = mqttSubAckFailure then .failed else .ok }
  else c

/-- `prv_teardown_connection` -/
def prvTeardownConnection (c : MqttClient) : MqttClient :=
  { c with connected := false, subState := .idle }

/-- `prv_drop_after_send_failure`; the flag says that `disconnect_cb` was called. -/
def prvDropAfterSendFailure (status : SendStatus) (c : MqttClient) : MqttClient × Bool :=
  if status = .sendFailed then (prvTeardownConnection c, true) else (c, false)

/-!
## Connecting
-/

inductive HandshakeStatus where
  | done
  | wantMore
  | failed
  deriving DecidableEq, Repr

/-- How the coming phase of a connection attempt ends, whichever it is. -/
structure ConnectOutcome where
  opened : Bool
  handshake : HandshakeStatus
  connack : Bool

/-- `mqtt_client_connect_step` -/
def mqttClientConnectStep (outcome : ConnectOutcome) (c : MqttClient) :
    MqttClientErr × MqttClient :=
  match c.connectState with
  | .tlsHandshake =>
      match outcome.handshake with
      | .done => (.inProgress, { c with connectState := .mqttConnect })
      | .wantMore => (.inProgress, c)
      | .failed => (.tlsFail, { c with connectState := .idle })
  | .mqttConnect =>
      if outcome.connack then (.ok, { c with connected := true, connectState := .idle })
      else (.connectFail, { c with connectState := .idle })
  | .idle =>
      if outcome.opened then (.inProgress, { c with connectState := .tlsHandshake })
      else (.connectFail, c)

/-!
## Publishing, subscribing and the process loop
-/

/-- `mqtt_client_publish`: acknowledgements are reaped first where all records are in use. -/
def mqttClientPublish (reaped : List Suback) (status : SendStatus) (c : MqttClient) :
    MqttClientErr × MqttClient × Bool :=
  if !c.connected then (.notConnected, c, false)
  else
    let c := reaped.foldl (fun c s => prvEventSuback s c) c
    if status ≠ .success then (.publishFail, prvDropAfterSendFailure status c)
    else (.ok, c, false)

/-- `mqtt_client_subscribe_start` -/
def mqttClientSubscribeStart (packetId : UInt16) (now : UInt32) (status : SendStatus)
    (c : MqttClient) : MqttClientErr × MqttClient × Bool :=
  if !c.connected then (.notConnected, c, false)
  else if c.subState ≠ .idle then (.noResource, c, false)
  else
    let c := { c with subPacketId := packetId, subStartMs := now, subState := .pending }
    if status ≠ .success then
      (.subscribeFail, prvDropAfterSendFailure status { c with subState := .idle })
    else (.ok, c, false)

/-- The SUBACK is overdue. -/
def MqttClient.overdue (c : MqttClient) (now : UInt32) : Bool :=
  c.subState = .pending ∧ mqttSubackTimeoutMs ≤ now - c.subStartMs

/-- `mqtt_client_subscribe_poll` -/
def mqttClientSubscribePoll (now : UInt32) (c : MqttClient) : MqttSubState × MqttClient :=
  let c := if c.overdue now then { c with subState := .failed } else c
  (c.subState,
    if c.subState = .ok ∨ c.subState = .failed then { c with subState := .idle } else c)

/-- `mqtt_client_process`: the packets it handles, and whether the connection is lost after them. -/
def mqttClientProcess (received : List Suback) (lost : Bool) (c : MqttClient) : MqttClient × Bool :=
  if !c.connected then (c, false)
  else
    let c := received.foldl (fun c s => prvEventSuback s c) c
    if lost then (prvTeardownConnection c, true) else (c, false)

end EnvMonitor.Gateway
