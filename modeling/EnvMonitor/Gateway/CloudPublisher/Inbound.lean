import EnvMonitor.Device.Bytes
import EnvMonitor.Gateway.CloudPublisher.ConfigApply

/-!
# Inbound messages

The MQTT callback copies topic and payload into a slot of fixed size; CloudPublisherTask parses
what the slot holds and executes it.
-/

namespace EnvMonitor.Gateway.CloudPublisher

open ConfigService

abbrev cpTopicMaxLen : Nat := 64
abbrev cpCmdPayloadMaxLen : Nat := 128
abbrev cpOtaChunkHeaderLen : Nat := 8

/-- A C string without its end. -/
def cText (bytes : List UInt8) : List UInt8 := bytes.takeWhile (· ≠ 0)

/-- The text after the first occurrence of `needle`, as `strstr` finds it. -/
def afterFirst (needle : List UInt8) : List UInt8 -> Option (List UInt8)
  | [] => if needle = [] then some [] else none
  | c :: rest =>
      if needle.isPrefixOf (c :: rest) then some ((c :: rest).drop needle.length)
      else afterFirst needle rest

def skipBlanks (text : List UInt8) : List UInt8 := text.dropWhile (· == 0x20)

/-!
## /control
-/

abbrev cpCtrlTextMax : Nat := 96

inductive CpControlCmd where
  | badFormat
  | unknown
  | read
  | restart
  | restartConfirm
  | resetMetrics
  deriving DecidableEq, Repr

/-- `prv_find_member` -/
def prvFindMember (text : List UInt8) (key : String) : Option (List UInt8) :=
  match afterFirst (ascii "\"" ++ ascii key ++ ascii "\"") text with
  | none => none
  | some rest =>
      match skipBlanks rest with
      | 0x3A :: rest => some (skipBlanks rest)
      | _ => none

/-- The names of `cp_parse_control_command`. -/
def controlNames : List (String × CpControlCmd) :=
  [("read", .read), ("restart", .restart), ("restart_confirm", .restartConfirm),
   ("reset_metrics", .resetMetrics)]

/-- `cp_parse_control_command`; the request id goes only into the answer. -/
def cpParseControlCommand (payload : List UInt8) : CpControlCmd :=
  if payload.length = 0 ∨ cpCtrlTextMax < payload.length then .badFormat
  else
    let text := cText payload
    if !text.contains 0x7B || !text.contains 0x7D then .badFormat
    else
      match prvFindMember text "command" with
      | some (0x22 :: v) =>
          if !v.contains 0x22 then .badFormat
          else
            let name := v.takeWhile (· ≠ 0x22)
            match controlNames.find? fun known => ascii known.1 == name with
            | some known => known.2
            | none => .unknown
      | _ => .badFormat

/-- What `lifecycle_handle_remote` asks of LifecycleController. -/
inductive LifecycleRequest where
  | restartConfirmed
  | softRestart
  | resetMetrics
  deriving DecidableEq, Repr

abbrev remotePayloadMax : Nat := 63

/-- `payload_has_command` -/
def payloadHasCommand (text : List UInt8) (name : String) : Bool :=
  (afterFirst (ascii "\"command\":\"" ++ ascii name ++ ascii "\"") text).isSome

/-- `lifecycle_handle_remote` -/
def lifecycleHandleRemote (payload : List UInt8) : Option LifecycleRequest :=
  if payload.length = 0 then none
  else
    let text := cText (payload.take remotePayloadMax)
    if payloadHasCommand text "restart_confirm" then some .restartConfirmed
    else if payloadHasCommand text "restart" then some .softRestart
    else if payloadHasCommand text "reset_metrics" then some .resetMetrics
    else none

/-!
## /ota
-/

abbrev cpOtaCmdTextMax : Nat := 129

/-- `us_ota_command_t` -/
structure UsOtaCommand where
  job : Nat
  sizeA : Nat
  sizeB : Nat
  deriving DecidableEq, Repr

/-- The digits of `prv_find_u32`, after those of value `v`. -/
def scanU32 (v : Nat) : List UInt8 -> Option (Nat × List UInt8)
  | [] => some (v, [])
  | c :: rest =>
      if isDigit c then
        if 0xFFFFFFFF < v * 10 + (c.toNat - 0x30) then none
        else scanU32 (v * 10 + (c.toNat - 0x30)) rest
      else some (v, c :: rest)

/-- `prv_find_u32` -/
def prvFindU32 (text : List UInt8) (key : String) : Option Nat :=
  match afterFirst (ascii "\"" ++ ascii key ++ ascii "\":") text with
  | none => none
  | some rest =>
      let digits := skipBlanks rest
      if !(digits.head?.any isDigit) then none
      else
        match scanU32 0 digits with
        | none => none
        | some (v, rest) =>
            match (skipBlanks rest).head? with
            | some c => if c = 0x2C ∨ c = 0x7D then some v else none
            | none => none

/-- `cp_parse_ota_command` -/
def cpParseOtaCommand (payload : List UInt8) : Option UsOtaCommand :=
  if payload.length = 0 ∨ cpOtaCmdTextMax ≤ payload.length then none
  else
    let text := cText payload
    match prvFindU32 text "job", prvFindU32 text "size_a", prvFindU32 text "size_b" with
    | some job, some sizeA, some sizeB => some ⟨job, sizeA, sizeB⟩
    | _, _, _ => none

/-!
## Callback and dispatch
-/

/-- `cp_command_entry_t` -/
structure CommandEntry where
  topic : List UInt8
  payload : List UInt8
  deriving DecidableEq, Repr

/-- `prv_topic_ends_with` -/
def prvTopicEndsWith (topic : List UInt8) (suffix : String) : Bool :=
  (ascii suffix).isSuffixOf topic

/-- What the publisher is attached to, and whether the Gateway is Operational. -/
structure InboundContext where
  operational : Bool
  updateAttached : Bool
  controlAttached : Bool

/-- What a message makes the other services do. -/
inductive InboundCall where
  | applyConfig (cmd : CpCfgCmd)
  | otaCommand (cmd : UsOtaCommand)
  | otaChunk (job offset : Nat) (data : List UInt8)
  | lifecycle (request : LifecycleRequest)
  | readNow

/-- `prv_handle_ota_chunk` -/
def prvHandleOtaChunk (ctx : InboundContext) (payload : List UInt8) : Option InboundCall :=
  if !ctx.updateAttached then none
  else if payload.length ≤ cpOtaChunkHeaderLen then none
  else
    some (.otaChunk (Device.getLe (payload.take 4)) (Device.getLe ((payload.drop 4).take 4))
      (payload.drop cpOtaChunkHeaderLen))

/-- The copies that `prv_msg_cb` makes. -/
def storeEntry (topic payload : List UInt8) : CommandEntry :=
  ⟨topic.take (cpTopicMaxLen - 1), payload.take cpCmdPayloadMaxLen⟩

/-- `prv_handle_control` -/
def prvHandleControl (ctx : InboundContext) (payload : List UInt8) : Option InboundCall :=
  match cpParseControlCommand payload with
  | .badFormat | .unknown => none
  | .read => some .readNow
  | _ =>
      if ctx.controlAttached then (lifecycleHandleRemote payload).map .lifecycle else none

/-- `prv_route_command`: the call that is made, and the configuration after it. -/
def prvRouteCommand (ctx : InboundContext) (entry : CommandEntry) (s : Service) :
    Option InboundCall × Service :=
  let topic := cText entry.topic
  if prvTopicEndsWith topic "/config" then
    let parsed := cpParseConfigCommand entry.payload
    (if ctx.operational ∧ parsed.1 = .ok then some (.applyConfig parsed.2) else none,
      (prvApplyConfig ctx.operational entry.payload s).2)
  else if prvTopicEndsWith topic "/ota" then
    (if ctx.updateAttached then (cpParseOtaCommand entry.payload).map .otaCommand else none, s)
  else if prvTopicEndsWith topic "/control" then (prvHandleControl ctx entry.payload, s)
  else (none, s)

/-- `prv_msg_cb`, with the dispatch of the entry it stores; the chunks of an update do not go
through the slot. -/
def handleMessage (ctx : InboundContext) (topic payload : List UInt8) (s : Service) :
    Option InboundCall × Service :=
  if prvTopicEndsWith topic "/ota/data" then (prvHandleOtaChunk ctx payload, s)
  else prvRouteCommand ctx (storeEntry topic payload) s

/-!
## Truncated messages
-/

/-- The message goes through the slot, which keeps less of it than was delivered. -/
def Truncated (topic payload : List UInt8) : Prop :=
  prvTopicEndsWith topic "/ota/data" = false ∧
    (cpTopicMaxLen - 1 < topic.length ∨ cpCmdPayloadMaxLen < payload.length)

/-- The call changes configuration, restart, time or update state. -/
def InboundCall.ActsOn : InboundCall -> Prop
  | .applyConfig _ => True
  | .otaCommand _ => True
  | .otaChunk _ _ _ => True
  | .lifecycle request => request ≠ .resetMetrics
  | .readNow => False

def ActedUpon (ctx : InboundContext) (topic payload : List UInt8) (s : Service) : Prop :=
  exists call, (handleMessage ctx topic payload s).1 = some call ∧ call.ActsOn

/-- The topic the dispatch sees. -/
def keptTopic (topic : List UInt8) : List UInt8 := cText (topic.take (cpTopicMaxLen - 1))

def keptPayload (payload : List UInt8) : List UInt8 := payload.take cpCmdPayloadMaxLen

/-- The bytes `lifecycle_handle_remote` looks at. -/
def remoteText (payload : List UInt8) : List UInt8 := cText (payload.take remotePayloadMax)

/-- The bytes `"command":"` name `"` stand in what it looks at. -/
def Requests (name : String) (payload : List UInt8) : Prop :=
  (ascii "\"command\":\"" ++ ascii name ++ ascii "\"") <:+: remoteText payload

/-- What is kept of a message is by itself a command that is executed.  A /control command is
short, so there only the topic was cut. -/
def KeptIsCommand (ctx : InboundContext) (topic payload : List UInt8) : Prop :=
  (prvTopicEndsWith (keptTopic topic) "/config" = true ∧ ctx.operational = true ∧
    (cpParseConfigCommand (keptPayload payload)).1 = .ok) ∨
  (prvTopicEndsWith (keptTopic topic) "/ota" = true ∧ ctx.updateAttached = true ∧
    (cpParseOtaCommand (keptPayload payload)).isSome = true) ∨
  (prvTopicEndsWith (keptTopic topic) "/control" = true ∧ ctx.controlAttached = true ∧
    payload.length ≤ cpCtrlTextMax ∧
    cpParseControlCommand payload ∈ [.restart, .restartConfirm, .resetMetrics] ∧
    (Requests "restart_confirm" payload ∨ Requests "restart" payload))

variable {c : UInt8} {suffix : String} {payload topic : List UInt8}

theorem endsWith_last (hlast : (ascii suffix).getLast? = some c)
    (h : prvTopicEndsWith topic suffix = true) : topic.getLast? = some c := by
  rcases List.isSuffixOf_iff_suffix.mp h with ⟨before, hbefore⟩
  rw [← hbefore, List.getLast?_append, hlast]
  rfl

theorem config_last : (ascii "/config").getLast? = some 0x67 := rfl

theorem ota_last : (ascii "/ota").getLast? = some 0x61 := rfl

theorem control_last : (ascii "/control").getLast? = some 0x6C := rfl

theorem not_endsWith {other : String} {d : UInt8} (hlast : (ascii suffix).getLast? = some c)
    (hother : (ascii other).getLast? = some d) (hne : c ≠ d)
    (h : prvTopicEndsWith topic suffix = true) : prvTopicEndsWith topic other = false := by
  cases hboth : prvTopicEndsWith topic other with
  | false => rfl
  | true =>
      have hc := endsWith_last hlast h
      have hd := endsWith_last hother hboth
      rw [hc] at hd
      cases hd
      exact absurd rfl hne

theorem cpParseControlCommand_long (h : cpCtrlTextMax < payload.length) :
    cpParseControlCommand payload = .badFormat := by
  unfold cpParseControlCommand
  rw [if_pos (Or.inr h)]

theorem cpParseControlCommand_kept (payload : List UInt8) :
    cpParseControlCommand (keptPayload payload) =
      if payload.length ≤ cpCtrlTextMax then cpParseControlCommand payload else .badFormat := by
  have hkept : (keptPayload payload).length = min 128 payload.length := List.length_take
  split
  · rename_i hshort
    change payload.length ≤ 96 at hshort
    have hall : keptPayload payload = payload := by
      apply List.take_of_length_le
      change payload.length ≤ 128
      omega
    rw [hall]
  · rename_i hlong
    change ¬payload.length ≤ 96 at hlong
    apply cpParseControlCommand_long
    change 96 < _
    omega

theorem afterFirst_isSome_iff {needle text : List UInt8} :
    (afterFirst needle text).isSome = true ↔ needle <:+: text := by
  induction text with
  | nil =>
      unfold afterFirst
      rw [List.infix_nil]
      split <;> simp_all
  | cons c rest ih =>
      unfold afterFirst
      rw [List.infix_cons_iff, ← ih]
      split
      · rename_i hprefix
        simp [List.isPrefixOf_iff_prefix.mp hprefix]
      · rename_i hprefix
        have hnot : ¬needle <+: c :: rest :=
          fun h => hprefix (List.isPrefixOf_iff_prefix.mpr h)
        simp [hnot]

theorem lifecycle_restarts_iff (payload : List UInt8) :
    lifecycleHandleRemote payload ∈ [some .restartConfirmed, some .softRestart] ↔
      Requests "restart_confirm" payload ∨ Requests "restart" payload := by
  have hrequests : forall name, payloadHasCommand (remoteText payload) name = true ↔
      Requests name payload := fun _ => afterFirst_isSome_iff
  rw [← hrequests, ← hrequests]
  unfold lifecycleHandleRemote
  change (if payload.length = 0 then none
    else if payloadHasCommand (remoteText payload) "restart_confirm" then
      some LifecycleRequest.restartConfirmed
    else if payloadHasCommand (remoteText payload) "restart" then some .softRestart
    else if payloadHasCommand (remoteText payload) "reset_metrics" then some .resetMetrics
    else none) ∈ _ ↔ _
  split
  · rename_i hzero
    rw [List.eq_nil_of_length_eq_zero hzero]
    decide +kernel
  · cases payloadHasCommand (remoteText payload) "restart_confirm" with
    | true => simp
    | false =>
        cases payloadHasCommand (remoteText payload) "restart" with
        | true => simp
        | false => cases payloadHasCommand (remoteText payload) "reset_metrics" <;> simp

theorem lifecycle_actsOn_iff (request : Option LifecycleRequest) :
    (exists call, request.map InboundCall.lifecycle = some call ∧ call.ActsOn) ↔
      request ∈ [some .restartConfirmed, some .softRestart] := by
  cases request with
  | none =>
      constructor
      · rintro ⟨call, hcall, -⟩
        cases hcall
      · intro hmem
        cases hmem with
        | tail _ hmem =>
            cases hmem with
            | tail _ hmem => cases hmem
  | some request =>
      constructor
      · rintro ⟨call, hcall, hacts⟩
        cases hcall
        cases request with
        | restartConfirmed => exact List.mem_cons_self
        | softRestart => exact List.mem_cons_of_mem _ List.mem_cons_self
        | resetMetrics => exact absurd rfl hacts
      · intro hmem
        refine ⟨_, rfl, ?_⟩
        intro hreset
        rw [hreset] at hmem
        exact absurd hmem (by decide)

theorem actsOn_control_iff (ctx : InboundContext) (payload : List UInt8) :
    (exists call, prvHandleControl ctx payload = some call ∧ call.ActsOn) ↔
      ctx.controlAttached = true ∧
        cpParseControlCommand payload ∈ [.restart, .restartConfirm, .resetMetrics] ∧
        lifecycleHandleRemote payload ∈ [some .restartConfirmed, some .softRestart] := by
  have hhandler :
      (exists call, (if ctx.controlAttached then
          (lifecycleHandleRemote payload).map InboundCall.lifecycle else none) = some call ∧
          call.ActsOn) ↔
        ctx.controlAttached = true ∧
          lifecycleHandleRemote payload ∈ [some .restartConfirmed, some .softRestart] := by
    cases ctx.controlAttached with
    | true =>
        rw [if_pos rfl, lifecycle_actsOn_iff]
        exact ⟨fun h => ⟨rfl, h⟩, fun h => h.2⟩
    | false =>
        constructor
        · rintro ⟨call, hcall, -⟩
          cases hcall
        · rintro ⟨hattached, -⟩
          cases hattached
  unfold prvHandleControl
  cases hcmd : cpParseControlCommand payload with
  | badFormat => simp
  | unknown => simp
  | read => simp [InboundCall.ActsOn]
  | restart =>
      rw [hhandler]
      simp
  | restartConfirm =>
      rw [hhandler]
      simp
  | resetMetrics =>
      rw [hhandler]
      simp

theorem actedUpon_iff (h : Truncated topic payload) (ctx : InboundContext) (s : Service) :
    ActedUpon ctx topic payload s ↔ KeptIsCommand ctx topic payload := by
  have hroute : ActedUpon ctx topic payload s ↔
      exists call, (prvRouteCommand ctx (storeEntry topic payload) s).1 = some call ∧
        call.ActsOn := by
    unfold ActedUpon handleMessage
    rw [h.1]
    rfl
  have htopic : cText (storeEntry topic payload).topic = keptTopic topic := rfl
  have hpayload : (storeEntry topic payload).payload = keptPayload payload := rfl
  rw [hroute]
  unfold prvRouteCommand KeptIsCommand
  dsimp only
  rw [htopic, hpayload]
  by_cases hconfig : prvTopicEndsWith (keptTopic topic) "/config" = true
  · rw [if_pos hconfig, hconfig, not_endsWith config_last ota_last (by decide) hconfig,
      not_endsWith config_last control_last (by decide) hconfig]
    by_cases hok : ctx.operational = true ∧ (cpParseConfigCommand (keptPayload payload)).1 = .ok
    · rw [if_pos hok]
      exact ⟨fun _ => Or.inl ⟨rfl, hok⟩, fun _ => ⟨_, rfl, trivial⟩⟩
    · rw [if_neg hok]
      simp [hok]
  · have hconfig' : prvTopicEndsWith (keptTopic topic) "/config" = false := by
      simpa using hconfig
    rw [if_neg hconfig, hconfig']
    by_cases hota : prvTopicEndsWith (keptTopic topic) "/ota" = true
    · rw [if_pos hota, hota, not_endsWith ota_last control_last (by decide) hota]
      cases ctx.updateAttached with
      | false => simp
      | true =>
          cases cpParseOtaCommand (keptPayload payload) with
          | none => simp
          | some cmd => simp [InboundCall.ActsOn]
    · have hota' : prvTopicEndsWith (keptTopic topic) "/ota" = false := by simpa using hota
      rw [if_neg hota, hota']
      by_cases hcontrol : prvTopicEndsWith (keptTopic topic) "/control" = true
      · rw [if_pos hcontrol, hcontrol, actsOn_control_iff, cpParseControlCommand_kept,
          lifecycle_restarts_iff]
        by_cases hshort : payload.length ≤ cpCtrlTextMax
        · have hall : keptPayload payload = payload :=
            List.take_of_length_le (Nat.le_trans hshort (by decide))
          rw [if_pos hshort, hall]
          simp [hshort]
        · rw [if_neg hshort]
          simp [hshort]
      · rw [if_neg hcontrol]
        simp [hcontrol]

/-- A truncated message is left alone exactly if what the slot keeps of it is not a command. -/
theorem truncated_not_acted_upon_iff (ctx : InboundContext) (topic payload : List UInt8)
    (s : Service) :
    (Truncated topic payload -> ¬ActedUpon ctx topic payload s) ↔
      (Truncated topic payload -> ¬KeptIsCommand ctx topic payload) := by
  constructor
  · intro hleft h hkept
    exact hleft h ((actedUpon_iff h ctx s).mpr hkept)
  · intro hnot h hacted
    exact hnot h ((actedUpon_iff h ctx s).mp hacted)

/-- A command, blanks up to the end of the slot, and trailing data. -/
def paddedPayload : List UInt8 :=
  ascii "\x7b\"temp_alarm_high\":4500\x7d" ++ List.replicate 104 0x20 ++ ascii "x"

/-- The whole payload is not a command, and what is kept of it is executed. -/
theorem truncated_config_acted_upon :
    exists ctx topic payload s, Truncated topic payload ∧
      (cpParseConfigCommand payload).1 ≠ .ok ∧ ActedUpon ctx topic payload s := by
  have htrunc : Truncated (ascii "cmd/iotmonitor/gateway/config") paddedPayload :=
    ⟨by decide +kernel, Or.inr (by decide +kernel)⟩
  have hconfig : prvTopicEndsWith
      (keptTopic (ascii "cmd/iotmonitor/gateway/config")) "/config" = true := by
    decide +kernel
  have hok : (cpParseConfigCommand (keptPayload paddedPayload)).1 = .ok := by decide +kernel
  have hwhole : (cpParseConfigCommand paddedPayload).1 ≠ .ok := by decide +kernel
  have hacted : ActedUpon ⟨true, true, true⟩ (ascii "cmd/iotmonitor/gateway/config")
      paddedPayload configServiceInit :=
    (actedUpon_iff htrunc _ _).mpr (Or.inl ⟨hconfig, rfl, hok⟩)
  exact ⟨_, _, _, _, htrunc, hwhole, hacted⟩

end EnvMonitor.Gateway.CloudPublisher
