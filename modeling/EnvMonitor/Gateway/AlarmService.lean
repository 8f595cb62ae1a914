import EnvMonitor.Alarm.Hysteresis
import EnvMonitor.Gateway.SensorService.Filter

/-!
# AlarmService of the gateway

`alarm_service.c`: every snapshot is compared with the thresholds in force, and each change of an
alarm is told to the subscribers.
-/

namespace EnvMonitor.Gateway.AlarmService

open CloudPublisher (SensorId AlarmTransition)
open ConfigService (ConfigParams)
open SensorService (Reading)
open Hysteresis (Happening Follows Side Band)

/-- `alarm_state_t` -/
inductive AlarmState where
  | clear
  | activeHigh
  | activeLow
  deriving DecidableEq, Repr

/-- `alarm_threshold_t` -/
structure AlarmThreshold where
  enabled : Bool
  high : Int
  low : Int
  hysteresis : Int
  deriving DecidableEq, Repr

structure Service where
  alarmState : SensorId -> AlarmState
  thresholds : SensorId -> AlarmThreshold

/-- `alarm_service_init` -/
def alarmServiceInit : Service where
  alarmState := fun _ => .clear
  thresholds := fun
    | .temperature => ⟨true, 4000, 0, 100⟩
    | .humidity => ⟨true, 8000, 2000, 200⟩
    | .pressure => ⟨true, 10500, 9500, 50⟩
    | _ => ⟨false, 0, 0, 0⟩

/-- The thresholds of a channel in a configuration. -/
def thresholdOf (p : ConfigParams) (ch : ConfigService.Channel) : AlarmThreshold where
  enabled := true
  high := p.num (.channel ch .alarmHigh)
  low := p.num (.channel ch .alarmLow)
  hysteresis := p.num (.channel ch .hysteresis)

/-- `alarm_service_reconfigure`; the alarms that are on stay on. -/
def alarmServiceReconfigure (p : ConfigParams) (s : Service) : Service :=
  { s with
    thresholds := fun
      | .temperature => thresholdOf p .temp
      | .humidity => thresholdOf p .humidity
      | .pressure => thresholdOf p .pressure
      | id => s.thresholds id }

/-- `alarm_service_ack_all` -/
def alarmServiceAckAll (s : Service) : Service :=
  { s with alarmState := fun _ => .clear }

/-- One sensor of `alarm_service_evaluate`: what `prv_set_alarm` is called with. -/
def evaluateReading (t : AlarmThreshold) (r : Reading) :
    AlarmState -> Option (AlarmState × AlarmTransition)
  | .clear =>
      if !t.enabled || !r.valid then none
      else if t.high < r.value then some (.activeHigh, .raisedHigh)
      else if r.value < t.low then some (.activeLow, .raisedLow)
      else none
  | .activeHigh =>
      if !t.enabled || !r.valid then none
      else if r.value < t.high - t.hysteresis then some (.clear, .cleared)
      else none
  | .activeLow =>
      if !t.enabled || !r.valid then none
      else if t.low + t.hysteresis < r.value then some (.clear, .cleared)
      else none

/-- What a subscriber is called with, and the thresholds at the time. -/
structure Notice where
  sensor : SensorId
  event : AlarmTransition
  reading : Reading
  threshold : AlarmThreshold

def allSensors : List SensorId :=
  [.temperature, .humidity, .pressure, .accelX, .accelY, .accelZ, .gyroX, .gyroY, .gyroZ, .magX,
    .magY, .magZ]

/-- The sensors are taken in their order, and none looks at the state of another. -/
def noticesOf (readings : SensorId -> Reading) (s : Service) : List Notice :=
  allSensors.filterMap fun id =>
    (evaluateReading (s.thresholds id) (readings id) (s.alarmState id)).map fun alarm =>
      ⟨id, alarm.2, readings id, s.thresholds id⟩

/-- `alarm_service_evaluate` -/
def alarmServiceEvaluate (readings : SensorId -> Reading) (s : Service) : Service :=
  { s with
    alarmState := fun id =>
      match evaluateReading (s.thresholds id) (readings id) (s.alarmState id) with
      | none => s.alarmState id
      | some (state, _) => state }

/-!
## Histories
-/

/-- What a log of the service shows: a call of the subscribers, or `alarm_service_ack_all`. -/
inductive Entry where
  | notice (n : Notice)
  | acknowledged

inductive AlarmReached : Service -> List Entry -> Prop where
  | start : AlarmReached alarmServiceInit []
  | evaluate {s log} (h : AlarmReached s log) (readings : SensorId -> Reading) :
      AlarmReached (alarmServiceEvaluate readings s) (log ++ (noticesOf readings s).map .notice)
  | reconfigure {s log} (h : AlarmReached s log) (p : ConfigParams) :
      AlarmReached (alarmServiceReconfigure p s) log
  | ackAll {s log} (h : AlarmReached s log) :
      AlarmReached (alarmServiceAckAll s) (log ++ [.acknowledged])

/-!
## The alarm of one sensor
-/

def AlarmState.level : AlarmState -> Option Side
  | .clear => none
  | .activeHigh => some .high
  | .activeLow => some .low

def AlarmThreshold.band (t : AlarmThreshold) : Band := ⟨t.high, t.low, t.hysteresis⟩

def signalOf : AlarmTransition -> Hysteresis.Signal
  | .raisedHigh => .raised .high
  | .raisedLow => .raised .low
  | .cleared => .cleared

def Notice.happening (n : Notice) : Happening :=
  .signal n.threshold.band n.reading.value (signalOf n.event)

/-- What an entry means for one sensor. -/
def Entry.happening (id : SensorId) : Entry -> Option Happening
  | .notice n => if n.sensor = id then some n.happening else none
  | .acknowledged => some .acknowledged

/-- The history of one sensor in a log. -/
def historyOf (id : SensorId) (log : List Entry) : List Happening :=
  log.filterMap (Entry.happening id)

section

variable {id : SensorId} {s : Service} {log : List Entry}

theorem historyOf_append (id : SensorId) (log log' : List Entry) :
    historyOf id (log ++ log') = historyOf id log ++ historyOf id log' :=
  List.filterMap_append

variable {r : Reading} {t : AlarmThreshold}

theorem evaluateReading_eq (hwatched : t.enabled = true) (hvalid : r.valid = true)
    (state : AlarmState) :
    (evaluateReading t r state).map (fun alarm => signalOf alarm.2) =
      Hysteresis.react t.band r.value state.level := by
  cases state <;>
    simp only [evaluateReading, hwatched, hvalid, Bool.not_true, Bool.or_false,
      Bool.false_eq_true, if_false, AlarmState.level, Hysteresis.react]
  case clear =>
    by_cases hhigh : t.high < r.value
    · have hband : t.band.high < r.value := hhigh
      rw [if_pos hhigh, if_pos hband]
      rfl
    · have hband : ¬ t.band.high < r.value := hhigh
      rw [if_neg hhigh, if_neg hband]
      by_cases hlow : r.value < t.low
      · have hband : r.value < t.band.low := hlow
        rw [if_pos hlow, if_pos hband]
        rfl
      · have hband : ¬ r.value < t.band.low := hlow
        rw [if_neg hlow, if_neg hband]
        rfl
  case activeHigh =>
    by_cases hback : r.value < t.high - t.hysteresis
    · have hband : r.value < t.band.high - t.band.hysteresis := hback
      rw [if_pos hback, if_pos hband]
      rfl
    · have hband : ¬ r.value < t.band.high - t.band.hysteresis := hback
      rw [if_neg hback, if_neg hband]
      rfl
  case activeLow =>
    by_cases hback : t.low + t.hysteresis < r.value
    · have hband : t.band.low + t.band.hysteresis < r.value := hback
      rw [if_pos hback, if_pos hband]
      rfl
    · have hband : ¬ t.band.low + t.band.hysteresis < r.value := hback
      rw [if_neg hback, if_neg hband]
      rfl

theorem evaluateReading_skipped (h : (!t.enabled || !r.valid) = true) (state : AlarmState) :
    evaluateReading t r state = none := by
  cases state <;> simp only [evaluateReading, h, if_true]

theorem evaluateReading_level {state state' : AlarmState} {event : AlarmTransition}
    (h : evaluateReading t r state = some (state', event)) :
    state'.level = (signalOf event).level := by
  cases state <;> simp only [evaluateReading] at h
  case clear =>
    split at h
    · cases h
    · split at h
      · cases h
        rfl
      · split at h
        · cases h
          rfl
        · cases h
  case activeHigh =>
    split at h
    · cases h
    · split at h
      · cases h
        rfl
      · cases h
  case activeLow =>
    split at h
    · cases h
    · split at h
      · cases h
        rfl
      · cases h

theorem allSensors_mem (id : SensorId) : id ∈ allSensors := by
  cases id <;> decide

theorem allSensors_nodup : allSensors.Nodup := by decide

theorem historyOf_notices (id : SensorId) (readings : SensorId -> Reading) (s : Service) :
    historyOf id ((noticesOf readings s).map .notice) =
      ((evaluateReading (s.thresholds id) (readings id) (s.alarmState id)).map fun alarm =>
        Notice.happening ⟨id, alarm.2, readings id, s.thresholds id⟩).toList := by
  unfold historyOf noticesOf
  rw [List.filterMap_map]
  refine Hysteresis.filterMap_select ?_ allSensors_nodup (allSensors_mem id)
  intro other alarm
  change (if other = id then some _ else none) = _
  by_cases hsame : other = id
  · rw [if_pos hsame, if_pos hsame, hsame]
  · rw [if_neg hsame, if_neg hsame]

theorem AlarmReached.follows (h : AlarmReached s log) (id : SensorId) :
    Follows (historyOf id log) (s.alarmState id).level := by
  induction h with
  | start => exact Follows.start
  | @evaluate s log _ readings ih =>
      rw [historyOf_append, historyOf_notices]
      change Follows _ (AlarmState.level (match evaluateReading (s.thresholds id) (readings id)
        (s.alarmState id) with
        | none => s.alarmState id
        | some (state, _) => state))
      cases hskip : (!(s.thresholds id).enabled || !(readings id).valid)
      case true =>
        rw [evaluateReading_skipped hskip]
        exact (List.append_nil (historyOf id log)).symm ▸ ih
      case false =>
        have hwatched : (s.thresholds id).enabled = true := by
          simpa using (Bool.or_eq_false_iff.mp hskip).1
        have hvalid : (readings id).valid = true := by
          simpa using (Bool.or_eq_false_iff.mp hskip).2
        have hobserved := ih.observe (s.thresholds id).band (readings id).value
        unfold Hysteresis.observe at hobserved
        rw [← evaluateReading_eq hwatched hvalid] at hobserved
        cases hchange : evaluateReading (s.thresholds id) (readings id) (s.alarmState id) with
        | none =>
            rw [hchange] at hobserved
            exact hobserved
        | some alarm =>
            rw [hchange] at hobserved
            change Follows _ alarm.1.level
            rw [evaluateReading_level hchange]
            exact hobserved
  | reconfigure _ p ih => exact ih
  | ackAll _ ih =>
      rw [historyOf_append]
      exact ih.acknowledge

theorem AlarmReached.valid (h : AlarmReached s log) {n : Notice} (hmem : .notice n ∈ log) :
    n.reading.valid = true := by
  induction h with
  | start => cases hmem
  | @evaluate s log _ readings ih =>
      rcases List.mem_append.mp hmem with hold | hnew
      · exact ih hold
      · rcases List.mem_map.mp hnew with ⟨m, hm, heq⟩
        rcases List.mem_filterMap.mp hm with ⟨id, _, hid⟩
        rcases Option.map_eq_some_iff.mp hid with ⟨alarm, halarm, hnotice⟩
        cases heq
        rw [← hnotice]
        change (readings id).valid = true
        by_contra hinvalid
        rw [evaluateReading_skipped (by simp [hinvalid])] at halarm
        cases halarm
  | reconfigure _ p ih => exact ih hmem
  | ackAll _ ih =>
      rcases List.mem_append.mp hmem with hold | hnew
      · exact ih hold
      · cases List.mem_singleton.mp hnew

end

end EnvMonitor.Gateway.AlarmService
