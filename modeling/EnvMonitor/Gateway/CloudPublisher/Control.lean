import EnvMonitor.Gateway.CloudPublisher.Inbound

/-!
# The answer to a /control command

CloudPublisher reads the payload for the answer, LifecycleController's wiring reads the same bytes
again for the action, and nothing of the action comes back.
-/

namespace EnvMonitor.Gateway.CloudPublisher

/-- What the handling of a command finds around it: the handler, LifecycleController and its event
queue, and for a read the snapshot, SensorTask and whether the cycle comes within the wait. -/
structure ControlEnv where
  attached : Bool
  initialised : Bool
  queueFull : Bool
  snapshotOk : Bool
  readRequested : Bool
  cycleSeen : Bool

/-- The `reason` of a rejected command. -/
inductive ControlReason where
  | badFormat
  | unknownCommand
  | failed
  deriving DecidableEq, Repr

/-- The message on /control/result. -/
inductive ControlAnswer where
  | accepted (cmd : CpControlCmd)
  | rejected (reason : ControlReason)
  deriving DecidableEq, Repr

/-- What was done: a request to LifecycleController, with whether it took it, or a request to
SensorTask for one more cycle. -/
inductive ControlEffect where
  | lifecycle (request : LifecycleRequest) (taken : Bool)
  | read
  deriving DecidableEq, Repr

/-- `post_event` and `handle_remote_command`: the restarts go through the event queue. -/
def ControlEnv.takes (env : ControlEnv) : LifecycleRequest -> Bool
  | .restartConfirmed => env.initialised && !env.queueFull
  | .softRestart => env.initialised && !env.queueFull
  | .resetMetrics => env.initialised

/-- `prv_read_now` -/
def prvReadNow (env : ControlEnv) : Bool × Option ControlEffect :=
  if !env.snapshotOk then (false, none)
  else if !env.readRequested then (false, none)
  else (env.cycleSeen, some .read)

/-- `prv_handle_control` with the result it publishes. -/
def prvHandleControlResult (env : ControlEnv) (payload : List UInt8) :
    ControlAnswer × Option ControlEffect :=
  match cpParseControlCommand payload with
  | .badFormat => (.rejected .badFormat, none)
  | .unknown => (.rejected .unknownCommand, none)
  | .read =>
      let done := prvReadNow env
      (if done.1 then .accepted .read else .rejected .failed, done.2)
  | cmd =>
      if env.attached then
        (.accepted cmd,
          (lifecycleHandleRemote payload).map fun request =>
            .lifecycle request (env.takes request))
      else (.rejected .failed, none)

/-- The request that a command names. -/
def commandRequest : CpControlCmd -> Option LifecycleRequest
  | .restart => some .softRestart
  | .restartConfirm => some .restartConfirmed
  | .resetMetrics => some .resetMetrics
  | _ => none

/-!
## Answer and action
-/

/-- A command is answered as accepted exactly if it is the one LifecycleController was asked for
and took, and a rejected one does nothing. -/
structure AnswerMatches (env : ControlEnv) (payload : List UInt8) : Prop where
  accepted : forall cmd request, commandRequest cmd = some request ->
    ((prvHandleControlResult env payload).1 = .accepted cmd ↔
      (prvHandleControlResult env payload).2 = some (.lifecycle request true))
  rejected : forall reason, (prvHandleControlResult env payload).1 = .rejected reason ->
    (prvHandleControlResult env payload).2 = none

/-- The command stands literally, without a blank, in what the wiring looks at, and none does
that it looks for before. -/
def StandsLiterally (payload : List UInt8) : CpControlCmd -> Prop
  | .restartConfirm => payloadHasCommand (remoteText payload) "restart_confirm" = true
  | .restart =>
      payloadHasCommand (remoteText payload) "restart_confirm" = false ∧
        payloadHasCommand (remoteText payload) "restart" = true
  | .resetMetrics =>
      payloadHasCommand (remoteText payload) "restart_confirm" = false ∧
        payloadHasCommand (remoteText payload) "restart" = false ∧
        payloadHasCommand (remoteText payload) "reset_metrics" = true
  | _ => False

/-- What the parsed command needs: a lifecycle command stands literally in the payload and
LifecycleController can take it; the cycle of a read that was asked for comes in time. -/
def AnswerSound (env : ControlEnv) (payload : List UInt8) : Prop :=
  match cpParseControlCommand payload with
  | .badFormat => True
  | .unknown => True
  | .read => env.snapshotOk = true -> env.readRequested = true -> env.cycleSeen = true
  | .resetMetrics =>
      env.attached = true -> StandsLiterally payload .resetMetrics ∧ env.initialised = true
  | cmd =>
      env.attached = true ->
        StandsLiterally payload cmd ∧ env.initialised = true ∧ env.queueFull = false

variable {payload : List UInt8} {request : LifecycleRequest} {cmd : CpControlCmd}

theorem length_ne_zero_of_parsed (h : cpParseControlCommand payload ≠ .badFormat) :
    payload.length ≠ 0 := by
  intro hzero
  apply h
  unfold cpParseControlCommand
  rw [if_pos (Or.inl hzero)]

theorem lifecycleHandleRemote_iff (hne : payload.length ≠ 0)
    (hrequest : commandRequest cmd = some request) :
    lifecycleHandleRemote payload = some request ↔ StandsLiterally payload cmd := by
  unfold lifecycleHandleRemote
  rw [if_neg hne]
  change (if payloadHasCommand (remoteText payload) "restart_confirm" then
      some LifecycleRequest.restartConfirmed
    else if payloadHasCommand (remoteText payload) "restart" then some .softRestart
    else if payloadHasCommand (remoteText payload) "reset_metrics" then some .resetMetrics
    else none) = some request ↔ _
  cases cmd with
  | badFormat => cases hrequest
  | unknown => cases hrequest
  | read => cases hrequest
  | restart =>
      cases hrequest
      unfold StandsLiterally
      cases payloadHasCommand (remoteText payload) "restart_confirm" <;>
        cases payloadHasCommand (remoteText payload) "restart" <;>
          cases payloadHasCommand (remoteText payload) "reset_metrics" <;> simp
  | restartConfirm =>
      cases hrequest
      unfold StandsLiterally
      cases payloadHasCommand (remoteText payload) "restart_confirm" <;>
        cases payloadHasCommand (remoteText payload) "restart" <;>
          cases payloadHasCommand (remoteText payload) "reset_metrics" <;> simp
  | resetMetrics =>
      cases hrequest
      unfold StandsLiterally
      cases payloadHasCommand (remoteText payload) "restart_confirm" <;>
        cases payloadHasCommand (remoteText payload) "restart" <;>
          cases payloadHasCommand (remoteText payload) "reset_metrics" <;> simp

theorem commandRequest_injective {cmd' : CpControlCmd} (h : commandRequest cmd = some request)
    (h' : commandRequest cmd' = some request) : cmd = cmd' := by
  cases cmd <;> cases cmd' <;> cases h <;> first | rfl | cases h'

theorem prvHandleControlResult_handler (env : ControlEnv)
    (hparse : cpParseControlCommand payload = cmd) (hrequest : commandRequest cmd = some request) :
    prvHandleControlResult env payload =
      if env.attached then
        (.accepted cmd,
          (lifecycleHandleRemote payload).map fun asked => .lifecycle asked (env.takes asked))
      else (.rejected .failed, none) := by
  unfold prvHandleControlResult
  rw [hparse]
  cases cmd with
  | badFormat => cases hrequest
  | unknown => cases hrequest
  | read => cases hrequest
  | _ => rfl

theorem answerMatches_handler_iff (env : ControlEnv) (hparse : cpParseControlCommand payload = cmd)
    (hrequest : commandRequest cmd = some request) :
    AnswerMatches env payload ↔
      (env.attached = true -> StandsLiterally payload cmd ∧ env.takes request = true) := by
  have hne : payload.length ≠ 0 := by
    apply length_ne_zero_of_parsed
    rw [hparse]
    intro hbad
    rw [hbad] at hrequest
    cases hrequest
  have hresult := prvHandleControlResult_handler env hparse hrequest
  constructor
  · intro hmatches hattached
    rw [hattached, if_pos rfl] at hresult
    have heffect := (hmatches.accepted cmd request hrequest).mp (by rw [hresult])
    rw [hresult] at heffect
    rcases Option.map_eq_some_iff.mp heffect with ⟨asked, hasked, hsame⟩
    injection hsame with hsame htaken
    rw [hsame] at hasked htaken
    exact ⟨(lifecycleHandleRemote_iff hne hrequest).mp hasked, htaken⟩
  · intro hsound
    cases hattached : env.attached with
    | false =>
        rw [hattached, if_neg (by decide)] at hresult
        constructor
        · intro cmd' request' _
          rw [hresult]
          constructor
          · intro h
            cases h
          · intro h
            cases h
        · intro reason _
          rw [hresult]
    | true =>
        rw [hattached, if_pos rfl] at hresult
        rcases hsound hattached with ⟨hliteral, htaken⟩
        have hasked := (lifecycleHandleRemote_iff hne hrequest).mpr hliteral
        rw [hasked] at hresult
        have heffect : prvHandleControlResult env payload =
            (.accepted cmd, some (.lifecycle request true)) := by
          rw [hresult, ← htaken]
          rfl
        constructor
        · intro cmd' request' hrequest'
          rw [heffect]
          constructor
          · intro haccepted
            injection haccepted with hcmd
            rw [← hcmd, hrequest] at hrequest'
            injection hrequest' with hrequest'
            rw [hrequest']
          · intro hdone
            injection hdone with hdone
            injection hdone with hdone
            rw [← hdone] at hrequest'
            rw [commandRequest_injective hrequest hrequest']
        · intro reason hrejected
          rw [heffect] at hrejected
          cases hrejected

theorem answerMatches_of_no_request {env : ControlEnv}
    (hanswer : forall cmd, (prvHandleControlResult env payload).1 = .accepted cmd ->
      commandRequest cmd = none) (heffect : forall request taken,
      (prvHandleControlResult env payload).2 ≠ some (.lifecycle request taken))
    (hrejected : forall reason, (prvHandleControlResult env payload).1 = .rejected reason ->
      (prvHandleControlResult env payload).2 = none) : AnswerMatches env payload where
  accepted cmd request hrequest := by
    constructor
    · intro haccepted
      rw [hanswer cmd haccepted] at hrequest
      cases hrequest
    · intro hdone
      exact absurd hdone (heffect request true)
  rejected := hrejected

/-- The answer tells what was done exactly if the command stands literally in the bytes the wiring
looks at and LifecycleController could take it, and a read that was asked for came in time. -/
theorem answerMatches_iff (env : ControlEnv) (payload : List UInt8) :
    AnswerMatches env payload ↔ AnswerSound env payload := by
  unfold AnswerSound
  cases hparse : cpParseControlCommand payload with
  | badFormat =>
      have hresult : prvHandleControlResult env payload = (.rejected .badFormat, none) := by
        unfold prvHandleControlResult
        rw [hparse]
      refine ⟨fun _ => trivial, fun _ => answerMatches_of_no_request ?_ ?_ ?_⟩ <;> simp [hresult]
  | unknown =>
      have hresult : prvHandleControlResult env payload = (.rejected .unknownCommand, none) := by
        unfold prvHandleControlResult
        rw [hparse]
      refine ⟨fun _ => trivial, fun _ => answerMatches_of_no_request ?_ ?_ ?_⟩ <;> simp [hresult]
  | read =>
      have hresult : prvHandleControlResult env payload =
          (if (prvReadNow env).1 then .accepted .read else .rejected .failed,
            (prvReadNow env).2) := by
        unfold prvHandleControlResult
        rw [hparse]
      dsimp only
      constructor
      · intro hmatches hsnapshot hrequested
        cases hcycle : env.cycleSeen with
        | true => rfl
        | false =>
            have hread : prvReadNow env = (false, some .read) := by
              unfold prvReadNow
              rw [hsnapshot, hrequested, hcycle]
              rfl
            rw [hread] at hresult
            have hnone := hmatches.rejected .failed (by rw [hresult]; rfl)
            rw [hresult] at hnone
            cases hnone
      · intro hcycle
        have hread : prvReadNow env = (true, some .read) ∨ prvReadNow env = (false, none) := by
          unfold prvReadNow
          cases hsnapshot : env.snapshotOk with
          | false => exact Or.inr rfl
          | true =>
              cases hrequested : env.readRequested with
              | false => exact Or.inr rfl
              | true =>
                  rw [hcycle hsnapshot hrequested]
                  exact Or.inl rfl
        apply answerMatches_of_no_request
        · intro cmd haccepted
          rcases hread with hread | hread
          · rw [hresult, hread] at haccepted
            cases haccepted
            rfl
          · rw [hresult, hread] at haccepted
            cases haccepted
        · intro request taken hdone
          rcases hread with hread | hread
          · rw [hresult, hread] at hdone
            cases hdone
          · rw [hresult, hread] at hdone
            cases hdone
        · intro reason hrejected
          rcases hread with hread | hread
          · rw [hresult, hread] at hrejected
            cases hrejected
          · rw [hresult, hread]
  | restart =>
      rw [answerMatches_handler_iff env hparse rfl]
      simp [ControlEnv.takes]
  | restartConfirm =>
      rw [answerMatches_handler_iff env hparse rfl]
      simp [ControlEnv.takes]
  | resetMetrics =>
      rw [answerMatches_handler_iff env hparse rfl]
      simp [ControlEnv.takes]

/-- Everything is ready. -/
def readyEnv : ControlEnv := ⟨true, true, false, true, true, true⟩

/-- A blank behind the colon: the command is accepted and nothing is done. -/
theorem blank_accepted_not_performed :
    (prvHandleControlResult readyEnv (ascii "\x7b\"command\": \"restart\"\x7d")).1 =
        .accepted .restart ∧
      ¬AnswerMatches readyEnv (ascii "\x7b\"command\": \"restart\"\x7d") := by
  have hresult : prvHandleControlResult readyEnv (ascii "\x7b\"command\": \"restart\"\x7d") =
      (.accepted .restart, none) := by decide +kernel
  constructor
  · rw [hresult]
  · intro hmatches
    have hdone := (hmatches.accepted .restart .softRestart rfl).mp (by rw [hresult])
    rw [hresult] at hdone
    cases hdone

end EnvMonitor.Gateway.CloudPublisher
