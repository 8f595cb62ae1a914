import EnvMonitor.FieldDevice.AlarmEvents
import EnvMonitor.Gateway.AlarmService

/-!
# Alarm events on both boards

A subscriber that replays the events, and knows of the acknowledgements, knows every alarm state.
-/

namespace EnvMonitor

open Hysteresis (EventLaw)

/-- On both boards and after any calls, the events of every sensor obey the law of the alarm with
hysteresis, and all of them are about valid readings. -/
theorem alarm_events_lawful :
    (forall s log, Gateway.AlarmService.AlarmReached s log ->
      (forall id, EventLaw (Gateway.AlarmService.historyOf id log) (s.alarmState id).level) ∧
        forall n, .notice n ∈ log -> n.reading.valid = true) ∧
      forall s log, FieldDevice.AlarmEvents.AlarmReached s log ->
        (forall id, EventLaw (FieldDevice.AlarmEvents.historyOf id log)
          (FieldDevice.AlarmEvents.levelOf (s.alarmState id))) ∧
          forall n, .notice n ∈ log -> n.reading.valid = true := by
  constructor
  · intro s log hreached
    exact ⟨fun id => (hreached.follows id).law, fun _ => hreached.valid⟩
  · intro s log hreached
    exact ⟨fun id => (hreached.follows id).law, fun _ => hreached.valid⟩

section

open FieldDevice FieldDevice.AlarmEvents

/-- All sensors read `value`. -/
def allRead (value : Int32) (_ : SensorId) : SensorReading := ⟨value, true⟩

def allReadings (value : Int) (_ : Gateway.CloudPublisher.SensorId) :
    Gateway.SensorService.Reading := ⟨value, true, ⟨0, .unsynchronised⟩⟩

/-- Too hot, well inside the band, too cold, and an acknowledgement. -/
def temperatureHistory (band : Hysteresis.Band) : List Hysteresis.Happening :=
  [.signal band 9700 (.raised .high), .signal band 2500 .cleared,
    .signal band (-100) (.raised .low), .acknowledged]

theorem alarm_events_lawful_history :
    (exists s log, Gateway.AlarmService.AlarmReached s log ∧
      Gateway.AlarmService.historyOf .temperature log = temperatureHistory ⟨4000, 0, 100⟩ ∧
      EventLaw (Gateway.AlarmService.historyOf .temperature log) (s.alarmState .temperature).level) ∧
    exists s log, AlarmEvents.AlarmReached s log ∧
      AlarmEvents.historyOf .temperature log = temperatureHistory ⟨3500, 0, 200⟩ ∧
      EventLaw (AlarmEvents.historyOf .temperature log) (levelOf (s.alarmState .temperature)) := by
  constructor
  · have hreached := (((Gateway.AlarmService.AlarmReached.start.evaluate
      (allReadings 9700)).evaluate (allReadings 2500)).evaluate (allReadings (-100))).ackAll
    exact ⟨_, _, hreached, by decide, (alarm_events_lawful.1 _ _ hreached).1 .temperature⟩
  · have hreached := (((AlarmEvents.AlarmReached.start.evaluate
      (allRead 9700)).evaluate (allRead 2500)).evaluate (allRead (-100))).ackAll
    exact ⟨_, _, hreached, by decide, (alarm_events_lawful.2 _ _ hreached).1 .temperature⟩

/-- The temperature rises, the alarm is acknowledged, and it rises once more. -/
def acknowledgedAlarm : AlarmService :=
  alarmServiceAckAll (alarmServiceEvaluate (allRead 9700) alarmServiceInit)

/-- The log of those calls. -/
def acknowledgedLog : List AlarmEvents.Entry :=
  (noticesOf (allRead 9700) alarmServiceInit).map .notice ++ [.acknowledged]

theorem acknowledged_reached : AlarmEvents.AlarmReached acknowledgedAlarm acknowledgedLog :=
  (AlarmEvents.AlarmReached.start.evaluate (allRead 9700)).ackAll

/-- The events do not alternate across an acknowledgement and no longer tell the state, and an
alarm that is too high is cleared by a value that is too low. -/
theorem acknowledged_alarm_raised_again :
    ¬ (forall s log, AlarmEvents.AlarmReached s log -> forall id,
        levelOf (s.alarmState id) =
          Hysteresis.replay ((AlarmEvents.historyOf id log).filter Hysteresis.Happening.isSignal)) ∧
      ¬ (forall s log, AlarmEvents.AlarmReached s log -> forall id pre post band value side band'
        value' side',
        (AlarmEvents.historyOf id log).filter Hysteresis.Happening.isSignal ≠
          pre ++ .signal band value (.raised side) ::
            .signal band' value' (.raised side') :: post) ∧
      ¬ forall s log, AlarmEvents.AlarmReached s log -> forall n, .notice n ∈ log ->
        n.event = .cleared -> n.threshold.low < n.reading.value.toInt := by
  refine ⟨fun h => ?_, fun h => ?_, fun h => ?_⟩
  · exact absurd (h _ _ acknowledged_reached .temperature) (by decide)
  · exact h _ _ (acknowledged_reached.evaluate (allRead 9700)) .temperature [] []
      ⟨3500, 0, 200⟩ 9700 .high ⟨3500, 0, 200⟩ 9700 .high (by decide)
  · have hcold := h _ _ ((AlarmEvents.AlarmReached.start.evaluate (allRead 9700)).evaluate
      (allRead (-100))) ⟨.temperature, .cleared, ⟨-100, true⟩, ⟨3500, 0, 200⟩⟩
      (List.mem_append_right _ (List.mem_map_of_mem List.mem_cons_self)) rfl
    exact absurd hcold (by decide)

end

end EnvMonitor
