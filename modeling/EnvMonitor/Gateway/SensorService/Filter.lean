import EnvMonitor.Gateway.CloudPublisher.AlarmPayload
import EnvMonitor.Numerics.RoundAway

/-!
# The filter of SensorService

`prv_accept` of `sensor_service.c` stamps, checks, clamps and filters one sample of a channel;
`sensor_service_reconfigure` changes the coefficient and the limits it works with.
-/

namespace EnvMonitor.Gateway.SensorService

open ConfigService (ConfigParams)
open CloudPublisher (SensorId)
open Numerics

abbrev sensorAlphaNumDefault : Int := 1
abbrev sensorAlphaDenDefault : Int := 10
abbrev configAlphaDen : Int := 1000
abbrev configAlphaMin : Int := 1
abbrev configAlphaMax : Int := 999
abbrev sensorTaskPeriodMs : Int := 100
abbrev groupAPeriodCyclesDefault : Int := 10

/-- The filter state carries four fraction bits. -/
abbrev filterScale : Int := 16

def kRangeMinDefault : SensorId -> Int
  | .temperature => -4000
  | .humidity => 0
  | .pressure => 2600
  | .accelX | .accelY | .accelZ => -2000
  | .gyroX | .gyroY | .gyroZ => -250000
  | .magX | .magY | .magZ => -4000

def kRangeMaxDefault : SensorId -> Int
  | .temperature => 12000
  | .humidity => 10000
  | .pressure => 12600
  | .accelX | .accelY | .accelZ => 2000
  | .gyroX | .gyroY | .gyroZ => 250000
  | .magX | .magY | .magZ => 4000

theorem kRange_default (id : SensorId) :
    kRangeMinDefault id < kRangeMaxDefault id ∧
      -250000 ≤ kRangeMinDefault id ∧ kRangeMaxDefault id ≤ 250000 := by
  cases id <;> decide

/-- `sensor_reading_t` -/
structure Reading where
  value : Int
  valid : Bool
  timestamp : TimeProviderTs

/-- What one channel owns: its limits, its filter and its entry of the snapshot. -/
structure Channel where
  rangeMin : Int
  rangeMax : Int
  /-- `FILTER_SCALE` times the value. -/
  prevFiltered : Int
  filterSeeded : Bool
  reading : Reading

structure Service where
  alphaNum : Int
  alphaDen : Int
  groupAPeriod : Int
  channel : SensorId -> Channel

/-- `sensor_service_init`, with the snapshot still zero. -/
def sensorServiceInit (epoch : TimeProviderTs) : Service where
  alphaNum := sensorAlphaNumDefault
  alphaDen := sensorAlphaDenDefault
  groupAPeriod := groupAPeriodCyclesDefault
  channel := fun id => ⟨kRangeMinDefault id, kRangeMaxDefault id, 0, false, ⟨0, false, epoch⟩⟩

/-!
## One sample
-/

def prvDivRound (numerator divisor : Int) : Int := roundAway numerator divisor
def prvDivRound64 (numerator divisor : Int) : Int := roundAway numerator divisor

def Channel.clamp (c : Channel) (value : Int) : Int :=
  let clamped := if value < c.rangeMin then c.rangeMin else value
  if c.rangeMax < clamped then c.rangeMax else clamped

/-- The state the mean starts from: the first sample seeds it. -/
def Channel.seed (c : Channel) (scaled : Int) : Int :=
  if c.filterSeeded then c.prevFiltered else scaled

def filterSum (num den scaled prev : Int) : Int := num * scaled + (den - num) * prev

def Channel.accept (num den : Int) (now : TimeProviderTs) (value : Int) (c : Channel) : Channel :=
  let scaled := c.clamp value * filterScale
  let filtered := prvDivRound64 (filterSum num den scaled (c.seed scaled)) den
  { c with
    prevFiltered := filtered
    filterSeeded := true
    reading :=
      { value := prvDivRound filtered filterScale
        valid := c.rangeMin ≤ value && value ≤ c.rangeMax
        timestamp := now } }

/-- `prv_accept` -/
def prvAccept (id : SensorId) (now : TimeProviderTs) (value : Int) (s : Service) : Service :=
  { s with
    channel := Function.update s.channel id
      ((s.channel id).accept s.alphaNum s.alphaDen now value) }

/-- `prv_fail` -/
def prvFail (id : SensorId) (s : Service) : Service :=
  { s with
    channel := Function.update s.channel id
      { s.channel id with reading := { (s.channel id).reading with valid := false } } }

/-!
## Reconfiguration
-/

def Channel.limits (c : Channel) (rangeMin rangeMax : Int) : Channel :=
  { c with rangeMin, rangeMax }

/-- The limits a configuration sets: those of the three scalar channels. -/
def configured (p : ConfigParams) (channel : SensorId -> Channel) : SensorId -> Channel
  | .temperature => (channel .temperature).limits (p.num (.channel .temp .rangeMin))
      (p.num (.channel .temp .rangeMax))
  | .humidity => (channel .humidity).limits (p.num (.channel .humidity .rangeMin))
      (p.num (.channel .humidity .rangeMax))
  | .pressure => (channel .pressure).limits (p.num (.channel .pressure .rangeMin))
      (p.num (.channel .pressure .rangeMax))
  | id => channel id

/-- `sensor_service_reconfigure`; `none` is `SENSOR_SERVICE_ERR_INVALID_ARG`. -/
def sensorServiceReconfigure (p : ConfigParams) (s : Service) : Option Service :=
  if p.num .filterAlpha < configAlphaMin ∨ configAlphaMax < p.num .filterAlpha ∨
      p.num .pollInterval < sensorTaskPeriodMs ∨
      p.num (.channel .temp .rangeMin) ≥ p.num (.channel .temp .rangeMax) ∨
      p.num (.channel .humidity .rangeMin) ≥ p.num (.channel .humidity .rangeMax) ∨
      p.num (.channel .pressure .rangeMin) ≥ p.num (.channel .pressure .rangeMax) then
    none
  else
    some
      { alphaNum := p.num .filterAlpha
        alphaDen := configAlphaDen
        groupAPeriod := p.num .pollInterval / sensorTaskPeriodMs
        channel := configured p s.channel }

/-!
## Histories
-/

/-- A state of the service, with the clamped samples of every channel since its filter was
seeded. -/
inductive FilterReached : Service -> (SensorId -> List Int) -> Prop where
  | start (epoch : TimeProviderTs) : FilterReached (sensorServiceInit epoch) fun _ => []
  | accept {s seen} (h : FilterReached s seen) (id : SensorId) (now : TimeProviderTs)
      (value : Int) :
      FilterReached (prvAccept id now value s)
        (Function.update seen id (seen id ++ [(s.channel id).clamp value]))
  | fail {s seen} (h : FilterReached s seen) (id : SensorId) : FilterReached (prvFail id s) seen
  | reconfigure {s s' seen} (h : FilterReached s seen) (p : ConfigParams)
      (hset : sensorServiceReconfigure p s = some s') : FilterReached s' seen

/-- A coefficient the service can work with, and half its denominator. -/
structure Coefficient (num den : Int) : Prop where
  alpha : (num = 1 ∧ den = 10) ∨ (1 ≤ num ∧ num ≤ 999 ∧ den = 1000)

theorem Coefficient.half {num den : Int} (h : Coefficient num den) :
    den = 2 * (den / 2) ∧ 0 < den / 2 ∧ 0 ≤ num ∧ num ≤ den := by
  rcases h.alpha with ⟨_, _⟩ | ⟨_, _, _⟩ <;> omega

/-- A value lies between two of the samples. -/
def AmongSamples (samples : List Int) (scale value : Int) : Prop :=
  (exists a, a ∈ samples ∧ a * scale ≤ value) ∧ exists b, b ∈ samples ∧ value ≤ b * scale

/-- What holds of a channel after any history. -/
structure ChannelOk (c : Channel) (samples : List Int) : Prop where
  ordered : c.rangeMin < c.rangeMax
  narrow : -250000 ≤ c.rangeMin ∧ c.rangeMax ≤ 250000
  samples_narrow : forall a, a ∈ samples -> -250000 ≤ a ∧ a ≤ 250000
  seeded : c.filterSeeded = true -> AmongSamples samples filterScale c.prevFiltered
  reported : c.filterSeeded = true -> c.reading.value = prvDivRound c.prevFiltered filterScale

section

variable {num den : Int} {c : Channel} {samples : List Int}

theorem Channel.clamp_bounds (h : c.rangeMin < c.rangeMax) (value : Int) :
    c.rangeMin ≤ c.clamp value ∧ c.clamp value ≤ c.rangeMax := by
  simp only [Channel.clamp]
  split <;> split <;> omega

theorem Channel.clamp_of_inRange {value : Int} (h : c.rangeMin ≤ value ∧ value ≤ c.rangeMax) :
    c.clamp value = value := by
  simp only [Channel.clamp]
  rw [if_neg (by omega), if_neg (by omega)]

theorem Channel.accept_prevFiltered (num den : Int) (now : TimeProviderTs) (value : Int)
    (c : Channel) :
    (c.accept num den now value).prevFiltered =
      smooth num den (c.clamp value * filterScale) (c.seed (c.clamp value * filterScale)) := rfl

theorem smooth_between (hcoef : Coefficient num den) (t p : Int) :
    (t ≤ p ∧ t ≤ smooth num den t p ∧ smooth num den t p ≤ p) ∨
      (p ≤ t ∧ p ≤ smooth num den t p ∧ smooth num den t p ≤ t) := by
  rcases hcoef.half with ⟨hden, hh, hnum⟩
  rcases Int.le_total t p with hle | hle
  · exact .inl ⟨hle, smooth_from_above hden hh hnum hle⟩
  · exact .inr ⟨hle, smooth_from_below hden hh hnum hle⟩

theorem AmongSamples.snoc {scale p q b : Int} (h : AmongSamples samples scale p)
    (hbetween : (b * scale ≤ p ∧ b * scale ≤ q ∧ q ≤ p) ∨ (p ≤ b * scale ∧ p ≤ q ∧ q ≤ b * scale)) :
    AmongSamples (samples ++ [b]) scale q := by
  rcases h with ⟨⟨low, hlow, hlowLe⟩, high, hhigh, hhighLe⟩
  have hlast : b ∈ samples ++ [b] := List.mem_append_right _ (List.mem_singleton.mpr rfl)
  rcases hbetween with ⟨_, habove, hbelow⟩ | ⟨_, habove, hbelow⟩
  · exact ⟨⟨b, hlast, habove⟩, high, List.mem_append_left _ hhigh, by omega⟩
  · exact ⟨⟨low, List.mem_append_left _ hlow, by omega⟩, b, hlast, hbelow⟩

theorem ChannelOk.accept (h : ChannelOk c samples) (hcoef : Coefficient num den)
    (now : TimeProviderTs) (value : Int) :
    ChannelOk (c.accept num den now value) (samples ++ [c.clamp value]) := by
  have hclamp := Channel.clamp_bounds h.ordered value
  constructor
  case ordered => exact h.ordered
  case narrow => exact h.narrow
  case samples_narrow =>
    intro a ha
    rcases List.mem_append.mp ha with hold | hnew
    · exact h.samples_narrow a hold
    · have hnarrow := h.narrow
      rw [List.mem_singleton.mp hnew]
      omega
  case seeded =>
    intro _
    rw [Channel.accept_prevFiltered]
    have hbetween := smooth_between hcoef (c.clamp value * filterScale)
    cases hseeded : c.filterSeeded
    case true =>
      have hseed : c.seed (c.clamp value * filterScale) = c.prevFiltered := by
        simp only [Channel.seed, hseeded, if_true]
      rw [hseed]
      exact (h.seeded hseeded).snoc (hbetween c.prevFiltered)
    case false =>
      have hseed : c.seed (c.clamp value * filterScale) = c.clamp value * filterScale := by
        simp only [Channel.seed, hseeded, Bool.false_eq_true, if_false]
      have hlast : c.clamp value ∈ samples ++ [c.clamp value] :=
        List.mem_append_right _ (List.mem_singleton.mpr rfl)
      rw [hseed, smooth_input hcoef.half.1 hcoef.half.2.1]
      exact ⟨⟨_, hlast, Int.le_refl _⟩, _, hlast, Int.le_refl _⟩
  case reported =>
    intro _
    rfl

end

/-- What holds of the service after any history. -/
structure ServiceOk (s : Service) (seen : SensorId -> List Int) : Prop where
  coefficient : Coefficient s.alphaNum s.alphaDen
  channel : forall id, ChannelOk (s.channel id) (seen id)

theorem ServiceOk.start (epoch : TimeProviderTs) :
    ServiceOk (sensorServiceInit epoch) fun _ => [] where
  coefficient := ⟨.inl ⟨rfl, rfl⟩⟩
  channel := by
    intro id
    constructor
    case ordered => exact (kRange_default id).1
    case narrow => exact (kRange_default id).2
    case samples_narrow =>
      intro a ha
      cases ha
    case seeded =>
      intro h
      cases h
    case reported =>
      intro h
      cases h

variable {seen : SensorId -> List Int} {s : Service}

theorem ServiceOk.accept (h : ServiceOk s seen) (id : SensorId) (now : TimeProviderTs) (value : Int)
    :
    ServiceOk (prvAccept id now value s)
      (Function.update seen id (seen id ++ [(s.channel id).clamp value])) where
  coefficient := h.coefficient
  channel := by
    intro other
    change ChannelOk (Function.update s.channel id _ other) _
    by_cases hsame : other = id
    · rw [hsame, Function.update_self, Function.update_self]
      exact (h.channel id).accept h.coefficient now value
    · rw [Function.update_of_ne hsame, Function.update_of_ne hsame]
      exact h.channel other

theorem ServiceOk.fail (h : ServiceOk s seen) (id : SensorId) : ServiceOk (prvFail id s) seen where
  coefficient := h.coefficient
  channel := by
    intro other
    change ChannelOk (Function.update s.channel id _ other) _
    by_cases hsame : other = id
    · rw [hsame, Function.update_self]
      have hok := h.channel id
      exact ⟨hok.ordered, hok.narrow, hok.samples_narrow, hok.seeded, hok.reported⟩
    · rw [Function.update_of_ne hsame]
      exact h.channel other

theorem ChannelOk.limits {c : Channel} {samples : List Int} (h : ChannelOk c samples)
    {rangeMin rangeMax : Int} (hordered : rangeMin < rangeMax)
    (hnarrow : -250000 ≤ rangeMin ∧ rangeMax ≤ 250000) :
    ChannelOk (c.limits rangeMin rangeMax) samples :=
  ⟨hordered, hnarrow, h.samples_narrow, h.seeded, h.reported⟩

theorem range_narrow (p : ConfigParams) (ch : ConfigService.Channel)
    (field : ConfigService.ChannelField) :
    -250000 ≤ p.num (.channel ch field) ∧ p.num (.channel ch field) ≤ 250000 := by
  have hvalue := (p.numeric (.channel ch field)).property
  unfold ConfigParams.num
  cases ch <;> cases field <;>
    simp only [ConfigService.NumericParam.kind, ConfigService.FieldKind.lo,
      ConfigService.FieldKind.hi] at hvalue ⊢ <;> omega

theorem ServiceOk.reconfigure {s' : Service} (h : ServiceOk s seen) {p : ConfigParams}
    (hset : sensorServiceReconfigure p s = some s') : ServiceOk s' seen := by
  unfold sensorServiceReconfigure at hset
  split at hset
  · cases hset
  · rename_i haccepted
    cases Option.some.inj hset
    have halpha : 1 ≤ p.num .filterAlpha ∧ p.num .filterAlpha ≤ 999 := by
      simp only [configAlphaMin, configAlphaMax] at haccepted
      omega
    constructor
    case coefficient => exact ⟨.inr ⟨halpha.1, halpha.2, rfl⟩⟩
    case channel =>
      intro id
      have hok := h.channel id
      have hnarrow := fun ch => And.intro (range_narrow p ch .rangeMin).1
        (range_narrow p ch .rangeMax).2
      cases id
      case temperature => exact hok.limits (by omega) (hnarrow .temp)
      case humidity => exact hok.limits (by omega) (hnarrow .humidity)
      case pressure => exact hok.limits (by omega) (hnarrow .pressure)
      all_goals exact hok

theorem FilterReached.ok (h : FilterReached s seen) : ServiceOk s seen := by
  induction h with
  | start epoch => exact ServiceOk.start epoch
  | accept _ id now value ih => exact ih.accept id now value
  | fail _ id ih => exact ih.fail id
  | reconfigure _ p hset ih => exact ih.reconfigure hset

end EnvMonitor.Gateway.SensorService
