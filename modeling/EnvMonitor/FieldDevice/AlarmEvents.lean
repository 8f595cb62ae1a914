import EnvMonitor.Alarm.Hysteresis
import EnvMonitor.FieldDevice.Board

/-!
# The alarm events of the field device

`alarm_service_evaluate` of the field device once more, with the calls of its subscribers.
-/

namespace EnvMonitor.FieldDevice.AlarmEvents

open Hysteresis (Happening Follows Side Band)

/-- `alarm_event_t` -/
inductive AlarmTransition where
  | raisedHigh
  | raisedLow
  | cleared
  deriving DecidableEq, Repr

/-- One sensor of `alarm_service_evaluate`: what `set_alarm` is called with. -/
def evaluateReading (t : AlarmThreshold) (r : SensorReading) :
    AlarmState -> Option (AlarmState × AlarmTransition)
  | .clear =>
      if !r.valid then none
      else if t.high < r.value.toInt then some (.activeHigh, .raisedHigh)
      else if r.value.toInt < t.low then some (.activeLow, .raisedLow)
      else none
  | .activeHigh =>
      if !r.valid then none
      else if r.value.toInt < t.high - t.hysteresis then some (.clear, .cleared)
      else none
  | .activeLow =>
      if !r.valid then none
      else if t.low + t.hysteresis < r.value.toInt then some (.clear, .cleared)
      else none

/-- What a subscriber is called with, and the thresholds at the time. -/
structure Notice where
  sensor : SensorId
  event : AlarmTransition
  reading : SensorReading
  threshold : AlarmThreshold

def allSensors : List SensorId := [.temperature, .humidity, .pressure]

/-- The calls of the subscribers during `alarm_service_evaluate`. -/
def noticesOf (readings : SensorId -> SensorReading) (s : AlarmService) : List Notice :=
  allSensors.filterMap fun id =>
    (evaluateReading (s.thresholds id) (readings id) (s.alarmState id)).map fun alarm =>
      ⟨id, alarm.2, readings id, s.thresholds id⟩

/-!
## Histories
-/

inductive Entry where
  | notice (n : Notice)
  | acknowledged

inductive AlarmReached : AlarmService -> List Entry -> Prop where
  | start : AlarmReached alarmServiceInit []
  | evaluate {s log} (h : AlarmReached s log) (readings : SensorId -> SensorReading) :
      AlarmReached (alarmServiceEvaluate readings s) (log ++ (noticesOf readings s).map .notice)
  | setThresholds {s log} (h : AlarmReached s log) (sensor : SensorId)
      (threshold : AlarmThreshold) :
      AlarmReached (alarmServiceSetThresholds sensor threshold s) log
  | ackAll {s log} (h : AlarmReached s log) :
      AlarmReached (alarmServiceAckAll s) (log ++ [.acknowledged])

/-!
## The alarm of one sensor
-/

def levelOf : AlarmState -> Option Side
  | .clear => none
  | .activeHigh => some .high
  | .activeLow => some .low

def bandOf (t : AlarmThreshold) : Band := ⟨t.high, t.low, t.hysteresis⟩

def signalOf : AlarmTransition -> Hysteresis.Signal
  | .raisedHigh => .raised .high
  | .raisedLow => .raised .low
  | .cleared => .cleared

def Notice.happening (n : Notice) : Happening :=
  .signal (bandOf n.threshold) n.reading.value.toInt (signalOf n.event)

/-- What an entry means for one sensor. -/
def Entry.happening (id : SensorId) : Entry -> Option Happening
  | .notice n => if n.sensor = id then some n.happening else none
  | .acknowledged => some .acknowledged

/-- The history of one sensor in a log. -/
def historyOf (id : SensorId) (log : List Entry) : List Happening :=
  log.filterMap (Entry.happening id)

section

variable {id : SensorId} {s : AlarmService} {log : List Entry}

theorem evaluateSensor_eq (t : AlarmThreshold) (r : SensorReading) (state : AlarmState) :
    evaluateSensor t r state =
      match evaluateReading t r state with
      | none => state
      | some (state', _) => state' := by
  cases hvalid : r.valid
  case false =>
    cases state <;> simp [evaluateSensor, evaluateReading, hvalid]
  case true =>
    cases state <;> simp only [evaluateSensor, evaluateReading, hvalid, Bool.not_true,
      Bool.false_eq_true, if_false]
    case clear =>
      by_cases hhigh : t.high < r.value.toInt
      · rw [if_pos hhigh, if_pos hhigh]
      · rw [if_neg hhigh, if_neg hhigh]
        by_cases hlow : r.value.toInt < t.low
        · rw [if_pos hlow, if_pos hlow]
        · rw [if_neg hlow, if_neg hlow]
    case activeHigh =>
      by_cases hback : r.value.toInt < t.high - t.hysteresis
      · rw [if_pos hback, if_pos hback]
      · rw [if_neg hback, if_neg hback]
    case activeLow =>
      by_cases hback : t.low + t.hysteresis < r.value.toInt
      · rw [if_pos hback, if_pos hback]
      · rw [if_neg hback, if_neg hback]

theorem evaluateReading_skipped {t : AlarmThreshold} {r : SensorReading} (h : r.valid = false)
    (state : AlarmState) : evaluateReading t r state = none := by
  cases state <;> simp only [evaluateReading, h, Bool.not_false, if_true]

theorem evaluateReading_observed {t : AlarmThreshold} {r : SensorReading}
    (hvalid : r.valid = true) (state : AlarmState) :
    Hysteresis.observe (bandOf t) r.value.toInt (levelOf state) =
      match evaluateReading t r state with
      | none => (levelOf state, [])
      | some (state', event) =>
          (levelOf state', [.signal (bandOf t) r.value.toInt (signalOf event)]) := by
  cases state <;> simp only [evaluateReading, hvalid, Bool.not_true, Bool.false_eq_true, if_false,
    levelOf, Hysteresis.observe, Hysteresis.react]
  case clear =>
    by_cases hhigh : t.high < r.value.toInt
    · have hband : (bandOf t).high < r.value.toInt := hhigh
      rw [if_pos hhigh, if_pos hband]
      rfl
    · have hband : ¬ (bandOf t).high < r.value.toInt := hhigh
      rw [if_neg hhigh, if_neg hband]
      by_cases hlow : r.value.toInt < t.low
      · have hband : r.value.toInt < (bandOf t).low := hlow
        rw [if_pos hlow, if_pos hband]
        rfl
      · have hband : ¬ r.value.toInt < (bandOf t).low := hlow
        rw [if_neg hlow, if_neg hband]
  case activeHigh =>
    by_cases hback : r.value.toInt < t.high - t.hysteresis
    · have hband : r.value.toInt < (bandOf t).high - (bandOf t).hysteresis := hback
      rw [if_pos hback, if_pos hband]
      rfl
    · have hband : ¬ r.value.toInt < (bandOf t).high - (bandOf t).hysteresis := hback
      rw [if_neg hback, if_neg hband]
  case activeLow =>
    by_cases hback : t.low + t.hysteresis < r.value.toInt
    · have hband : (bandOf t).low + (bandOf t).hysteresis < r.value.toInt := hback
      rw [if_pos hback, if_pos hband]
      rfl
    · have hband : ¬ (bandOf t).low + (bandOf t).hysteresis < r.value.toInt := hback
      rw [if_neg hback, if_neg hband]

theorem historyOf_append (id : SensorId) (log log' : List Entry) :
    historyOf id (log ++ log') = historyOf id log ++ historyOf id log' :=
  List.filterMap_append

theorem allSensors_mem (id : SensorId) : id ∈ allSensors := by
  cases id <;> decide

theorem allSensors_nodup : allSensors.Nodup := by decide

theorem historyOf_notices (id : SensorId) (readings : SensorId -> SensorReading)
    (s : AlarmService) :
    historyOf id ((noticesOf readings s).map .notice) =
      ((evaluateReading (s.thresholds id) (readings id) (s.alarmState id)).map fun alarm =>
        Notice.happening ⟨id, alarm.2, readings id, s.thresholds id⟩).toList := by
  unfold historyOf noticesOf
  rw [List.filterMap_map]
  refine Hysteresis.filterMap_select ?_ allSensors_nodup (allSensors_mem id)
  intro other alarm
  change (if other = id then some _ else none) = _
  by_cases hsame : other = id
  · rw [if_pos hsame, if_pos hsame, hsame]
  · rw [if_neg hsame, if_neg hsame]

theorem AlarmReached.initialised (h : AlarmReached s log) : s.initialised = true := by
  induction h with
  | start => rfl
  | evaluate _ readings ih => exact ih
  | setThresholds _ sensor threshold ih =>
      unfold alarmServiceSetThresholds
      rw [if_pos ih]
      exact ih
  | ackAll _ ih =>
      unfold alarmServiceAckAll
      rw [if_pos ih]
      exact ih

theorem AlarmReached.follows (h : AlarmReached s log) (id : SensorId) :
    Follows (historyOf id log) (levelOf (s.alarmState id)) := by
  induction h with
  | start => exact Follows.start
  | @evaluate s log _ readings ih =>
      rw [historyOf_append, historyOf_notices]
      change Follows _ (levelOf (evaluateSensor (s.thresholds id) (readings id) (s.alarmState id)))
      rw [evaluateSensor_eq]
      cases hvalid : (readings id).valid
      case false =>
        rw [evaluateReading_skipped hvalid]
        exact (List.append_nil (historyOf id log)).symm ▸ ih
      case true =>
        have hobserved := ih.observe (bandOf (s.thresholds id)) (readings id).value.toInt
        rw [evaluateReading_observed hvalid] at hobserved
        cases hchange : evaluateReading (s.thresholds id) (readings id) (s.alarmState id) with
        | none =>
            rw [hchange] at hobserved
            exact hobserved
        | some alarm =>
            rw [hchange] at hobserved
            exact hobserved
  | setThresholds hreached sensor threshold ih =>
      unfold alarmServiceSetThresholds
      rw [if_pos hreached.initialised]
      exact ih
  | ackAll hreached ih =>
      unfold alarmServiceAckAll
      rw [if_pos hreached.initialised, historyOf_append]
      exact ih.acknowledge

theorem AlarmReached.valid (h : AlarmReached s log) {n : Notice} (hmem : .notice n ∈ log) :
    n.reading.valid = true := by
  induction h with
  | start => cases hmem
  | @evaluate s log _ readings ih =>
      rcases List.mem_append.mp hmem with hold | hnew
      · exact ih hold
      · rcases List.mem_map.mp hnew with ⟨m, hm, heq⟩
        rcases List.mem_filterMap.mp hm with ⟨id, _, hid⟩
        rcases Option.map_eq_some_iff.mp hid with ⟨alarm, halarm, hnotice⟩
        cases heq
        rw [← hnotice]
        change (readings id).valid = true
        by_contra hinvalid
        rw [evaluateReading_skipped (by simpa using hinvalid)] at halarm
        cases halarm
  | setThresholds _ sensor threshold ih => exact ih hmem
  | ackAll _ ih =>
      rcases List.mem_append.mp hmem with hold | hnew
      · exact ih hold
      · cases List.mem_singleton.mp hnew

end

end EnvMonitor.FieldDevice.AlarmEvents
