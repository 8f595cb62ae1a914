import EnvMonitor.FieldDevice.RegisterMap
import EnvMonitor.Numerics.Orbit

/-!
# The filter of SensorService

`process_sensor_reading` of `sensor_service.c`: one sample of a channel is stamped, checked against
the range of the channel, clamped and filtered.
-/

namespace EnvMonitor.FieldDevice.SensorService

/-- `sensor_reading_t` -/
structure Reading (Ts : Type) where
  value : Int
  valid : Bool
  timestamp : Ts

/-- What `SensorServiceState` keeps of the filter of one channel. -/
structure FilterState where
  prevFiltered : Int
  filterSeeded : Bool
  deriving DecidableEq, Repr

/-- A channel of the service: its entry of the snapshot and its filter. -/
structure Channel (Ts : Type) where
  reading : Reading Ts
  filter : FilterState

/-- The coefficients `sensor_service_init` sets; nothing changes them afterwards. -/
abbrev sensorAlphaNumDefault : Int := 1
abbrev sensorAlphaDenDefault : Int := 10

def sRangeMin : SensorId -> Int
  | .temperature => -4000
  | .humidity => 0
  | .pressure => 3000

def sRangeMax : SensorId -> Int
  | .temperature => 8500
  | .humidity => 10000
  | .pressure => 11000

/-- Step 3. -/
def inRange (id : SensorId) (rawValue : Int) : Bool :=
  !(rawValue < sRangeMin id || sRangeMax id < rawValue)

/-- Step 4. -/
def clamp (id : SensorId) (rawValue : Int) : Int :=
  let clamped := if rawValue < sRangeMin id then sRangeMin id else rawValue
  if sRangeMax id < clamped then sRangeMax id else clamped

/-- The formula of step 5; division truncates towards zero. -/
def iirFilter (clamped prev : Int) : Int :=
  (sensorAlphaNumDefault * clamped + (sensorAlphaDenDefault - sensorAlphaNumDefault) * prev +
    sensorAlphaDenDefault.tdiv 2).tdiv sensorAlphaDenDefault

/-- Step 5. -/
def filterStep (valid : Bool) (clamped : Int) (st : FilterState) : FilterState :=
  if !st.filterSeeded && valid then ⟨clamped, true⟩
  else { st with prevFiltered := iirFilter clamped st.prevFiltered }

/-- `process_sensor_reading`; there is no sample where the driver failed. -/
def processSensorReading {Ts : Type} (id : SensorId) (sample : Option Int) (now : Ts)
    (c : Channel Ts) : Channel Ts :=
  match sample with
  | none => { c with reading := { c.reading with valid := false } }
  | some rawValue =>
      let filter := filterStep (inRange id rawValue) (clamp id rawValue) c.filter
      { reading := ⟨filter.prevFiltered, inRange id rawValue, now⟩, filter }

section

variable {id : SensorId} {x p : Int} {valid : Bool} {st : FilterState}

theorem inRange_iff : inRange id x = true <-> sRangeMin id ≤ x ∧ x ≤ sRangeMax id := by
  unfold inRange
  simp only [Bool.not_eq_true', Bool.or_eq_false_iff, decide_eq_false_iff_not, Int.not_lt]

theorem clamp_of_inRange (h : inRange id x = true) : clamp id x = x := by
  rcases inRange_iff.mp h with ⟨hmin, hmax⟩
  simp only [clamp]
  rw [if_neg (by omega), if_neg (by omega)]

theorem iirFilter_cases (x p : Int) :
    (0 ≤ x + 9 * p + 5 ∧ iirFilter x p = (x + 9 * p + 5) / 10) ∨
      (x + 9 * p + 5 < 0 ∧ iirFilter x p = -((-(x + 9 * p + 5)) / 10)) := by
  have hsum : iirFilter x p = (x + 9 * p + 5).tdiv 10 := by
    change (1 * x + (10 - 1) * p + 5).tdiv 10 = _
    congr 1
    omega
  rw [hsum]
  by_cases hsign : 0 ≤ x + 9 * p + 5
  · exact .inl ⟨hsign, Int.tdiv_eq_ediv_of_nonneg hsign⟩
  · apply Or.inr
    constructor
    · omega
    · rw [← Int.tdiv_eq_ediv_of_nonneg (by omega), Int.neg_tdiv, Int.neg_neg]

end

end EnvMonitor.FieldDevice.SensorService
