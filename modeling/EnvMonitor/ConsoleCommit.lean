import EnvMonitor.FieldDevice.Console
import EnvMonitor.Gateway.Console

/-!
# Commits at the consoles of both boards

A commit makes its changes one by one, each checked beside what the ones before it made.  So it
is all or nothing just when every change goes through in turn, or none has an effect.
-/

namespace EnvMonitor

open FieldDevice.ConfigService (Configured ConfigParamId)

/-!
## A commit that applies a part
-/

/-- The default thresholds with a wide hysteresis. -/
def wideHysteresis : FieldDevice.ConfigService.ConfigParams :=
  FieldDevice.ConfigService.applyParamToStruct FieldDevice.ConfigService.applyDefaults
    (.channel .temperature .hysteresis) (1000 : Int16)

def wideHysteresisDevice : Configured Unit where
  config := ⟨wideHysteresis, none, some (.full 1 wideHysteresis)⟩
  saves := []
  others := ()

/-- Three changes that are accepted one by one, and that are valid together. -/
def narrowed : FieldDevice.Console.CfgPending :=
  (FieldDevice.Console.cmdConfigSet "temp-hysteresis" (some 100) wideHysteresis
    (FieldDevice.Console.cmdConfigSet "temp-alarm-low" (some 1200) wideHysteresis
      (FieldDevice.Console.cmdConfigSet "temp-alarm-high" (some 2000) wideHysteresis
        .cleared).2).2).2

def rangesSwapped : Gateway.Console.CfgPending :=
  (Gateway.Console.cmdConfigSet "temp-range-max" (fun _ => some (-3000))
    Gateway.ConfigService.prvApplyDefaults
    (Gateway.Console.cmdConfigSet "temp-range-min" (fun _ => some 8000)
      Gateway.ConfigService.prvApplyDefaults .cleared).2).2

/-- The field device answers `apply failed` to changes that are valid together, and has applied
two of the three; the gateway answers the same to a new range, and has applied its lower limit. -/
theorem commits_apply_a_part :
    (narrowed.calls.length = 3 ∧
      FieldDevice.Console.ValidConfig
        (FieldDevice.Console.mergedWith wideHysteresis narrowed.calls) ∧
      ¬ Config.AllOrNothing FieldDevice.Console.ValidConfig
        (FieldDevice.Console.mergedWith wideHysteresis narrowed.calls)
        (FieldDevice.Console.liveAndStored wideHysteresisDevice.config)
        (FieldDevice.Console.liveAndStored (FieldDevice.Console.cmdConfigCommit
          (fun _ _ others => others) true narrowed wideHysteresisDevice).2.2.config)
        ((FieldDevice.Console.cmdConfigCommit (fun _ _ others => others) true narrowed
          wideHysteresisDevice).1 ≠ .ok)) ∧
    (rangesSwapped.calls.length = 2 ∧
      ¬ Config.AllOrNothing Gateway.Console.ValidConfig
        (Gateway.Console.mergedWith Gateway.ConfigService.prvApplyDefaults rangesSwapped.calls)
        (Gateway.Console.liveAndStored (Gateway.ConfigService.configServiceInit, none))
        (Gateway.Console.liveAndStored (Gateway.Console.commitCycle
          (Gateway.Console.cmdConfigCommit rangesSwapped Gateway.ConfigService.configServiceInit)
          .saved none))
        ((Gateway.Console.cmdConfigCommit rangesSwapped
          Gateway.ConfigService.configServiceInit).err ≠ .ok)) := by
  refine ⟨⟨by decide +kernel, ?_, ?_⟩, by decide +kernel, ?_⟩
  · intro id
    cases id with
    | channel sensor field => cases sensor <;> cases field <;> decide +kernel
    | _ => decide +kernel
  · intro h
    have hsame := h.nothing (by decide +kernel)
    have hhigh := congrArg (fun after => after.1.num (.channel .temperature .alarmHigh)) hsame
    revert hhigh
    decide +kernel
  · intro h
    have hsame := h.nothing (by decide +kernel)
    have hmin := congrArg (fun after => after.1.num (.channel .temp .rangeMin)) hsame
    revert hmin
    decide +kernel

/-!
## When a commit is all or nothing
-/

/-- On each board a confirmed commit keeps the promise just when its changes go through in turn,
or have no effect and are not valid together; the gateway's `prov commit` always keeps it. -/
theorem console_commits_iff {rho : Type}
    (callback : ConfigParamId -> FieldDevice.ConfigService.ConfigParams -> rho -> rho)
    (c : Configured rho) (s : Gateway.ConfigService.Service)
    (outcome : Gateway.Console.SaveOutcome) (stored : Option Gateway.ConfigService.ConfigBlob) :
    (forall pending : FieldDevice.Console.CfgPending,
      Config.AllOrNothing FieldDevice.Console.ValidConfig
        (FieldDevice.Console.mergedWith c.config.params pending.calls)
        (FieldDevice.Console.liveAndStored c.config)
        (FieldDevice.Console.liveAndStored
          (FieldDevice.Console.cmdConfigCommit callback true pending c).2.2.config)
        ((FieldDevice.Console.cmdConfigCommit callback true pending c).1 ≠ .ok) ↔
      FieldDevice.Console.CommitOk c.config c.saves pending.calls) ∧
    (forall pending : FieldDevice.Console.ProvPending,
      Config.AllOrNothing FieldDevice.Console.ValidConfig
        (FieldDevice.Console.mergedWith c.config.params pending.calls)
        (FieldDevice.Console.liveAndStored c.config)
        (FieldDevice.Console.liveAndStored
          (FieldDevice.Console.cmdProvCommit callback true pending c).2.2.config)
        ((FieldDevice.Console.cmdProvCommit callback true pending c).1 ≠ .ok) ↔
      FieldDevice.Console.CommitOk c.config c.saves pending.calls) ∧
    (forall pending : Gateway.Console.CfgPending,
      Config.AllOrNothing Gateway.Console.ValidConfig
        (Gateway.Console.mergedWith s.params pending.calls)
        (Gateway.Console.liveAndStored (s, stored))
        (Gateway.Console.liveAndStored
          (Gateway.Console.commitCycle (Gateway.Console.cmdConfigCommit pending s) outcome stored))
        ((Gateway.Console.cmdConfigCommit pending s).err ≠ .ok) ↔
      Gateway.Console.CommitOk s.params pending.calls) ∧
    (forall pending : Gateway.Console.ProvPending,
      Config.AllOrNothing Gateway.Console.ValidConfig
        (Gateway.Console.mergedWith s.params pending.calls)
        (Gateway.Console.liveAndStored (s, stored))
        (Gateway.Console.liveAndStored
          (Gateway.Console.commitCycle (Gateway.Console.cmdProvCommit pending s) outcome stored))
        ((Gateway.Console.cmdProvCommit pending s).err ≠ .ok)) := by
  refine ⟨?_, ?_, ?_, ?_⟩
  · exact fun pending => FieldDevice.Console.cmdConfigCommit_iff callback pending c
  · exact fun pending => FieldDevice.Console.cmdProvCommit_iff callback pending c
  · exact fun pending => Gateway.Console.cmdConfigCommit_iff pending s outcome stored
  · exact fun pending => Gateway.Console.cmdProvCommit_allOrNothing pending s outcome stored

end EnvMonitor
