import EnvMonitor.FieldDevice.SensorService.Filter

/-!
# What the filter makes of a constant input

The half-denominator term rounds to nearest only where the sum is not negative.  The filter comes
to rest before it has reached its input, and treats the two signs differently.
-/

namespace EnvMonitor.FieldDevice.SensorService

open Numerics

section

variable {x p q : Int}

theorem iirFilter_mono (x : Int) : Monotone (iirFilter x) := by
  intro p q hle
  rcases iirFilter_cases x p with ⟨_, hp⟩ | ⟨_, hp⟩ <;>
    rcases iirFilter_cases x q with ⟨_, hq⟩ | ⟨_, hq⟩ <;> omega

theorem iirFilter_fixed_iff :
    iirFilter x p = p <->
      (0 ≤ p ∧ x - 4 ≤ p ∧ p ≤ x + 5) ∨ (p ≤ 0 ∧ x + 5 ≤ p ∧ p ≤ x + 14) := by
  rcases iirFilter_cases x p with ⟨_, hp⟩ | ⟨_, hp⟩ <;> omega

/-- The lowest and the highest value at which the input `x` holds the filter. -/
def lowestRest (x : Int) : Int := if x ≤ -5 then x + 5 else max 0 (x - 4)
def highestRest (x : Int) : Int := if x ≤ -14 then x + 14 else max 0 (x + 5)

theorem iirFilter_settles (x p : Int) :
    Settles (iirFilter x) p (max (lowestRest x) (min p (highestRest x))) := by
  have hlow : iirFilter x (lowestRest x) = lowestRest x := by
    rw [iirFilter_fixed_iff]
    unfold lowestRest
    split <;> omega
  have hhigh : iirFilter x (highestRest x) = highestRest x := by
    rw [iirFilter_fixed_iff]
    unfold highestRest
    split <;> omega
  have hfixed : forall r, iirFilter x r = r <-> lowestRest x ≤ r ∧ r ≤ highestRest x := by
    intro r
    rw [iirFilter_fixed_iff]
    unfold lowestRest highestRest
    split <;> split <;> omega
  have horder : lowestRest x ≤ highestRest x := ((hfixed _).mp hlow).2
  by_cases hbelow : p < lowestRest x
  · have hup : p ≤ iirFilter x p := by
      unfold lowestRest at hbelow
      rcases iirFilter_cases x p with ⟨_, hp⟩ | ⟨_, hp⟩ <;> split at hbelow <;> omega
    rcases exists_settles_upwards (iirFilter_mono x) hlow hup (by omega) with ⟨q, _, hle, hq⟩
    have heq : max (lowestRest x) (min p (highestRest x)) = q := by
      have hrest := (hfixed q).mp hq.fixed
      omega
    rw [heq]
    exact hq
  · by_cases habove : highestRest x < p
    · have hdown : iirFilter x p ≤ p := by
        unfold highestRest at habove
        rcases iirFilter_cases x p with ⟨_, hp⟩ | ⟨_, hp⟩ <;> split at habove <;> omega
      rcases exists_settles_downwards (iirFilter_mono x) hhigh hdown (by omega) with
        ⟨q, hle, _, hq⟩
      have heq : max (lowestRest x) (min p (highestRest x)) = q := by
        have hrest := (hfixed q).mp hq.fixed
        omega
      rw [heq]
      exact hq
    · have heq : max (lowestRest x) (min p (highestRest x)) = p := by omega
      rw [heq]
      exact Settles.of_fixed ((hfixed p).mpr (by omega))

/-- Two values of a channel within one unit of each other. -/
def WithinOne (v x : Int) : Prop := v - 1 ≤ x ∧ x ≤ v + 1

/-- The states from which a constant input `x` is reached. -/
def Attracted (x : Int) (st : FilterState) : Prop :=
  -1 ≤ x ∧ (st.filterSeeded = true ->
    st.prevFiltered ≤ x + 1 ∧ (1 < x -> x - 1 ≤ st.prevFiltered))

/-- Where the filter of a channel comes to rest under the input `x`. -/
def restOf (x : Int) (st : FilterState) : Int :=
  max (lowestRest x) (min (if st.filterSeeded then st.prevFiltered else x) (highestRest x))

theorem rest_withinOne_iff (x : Int) (st : FilterState) :
    WithinOne (restOf x st) x <-> Attracted x st := by
  rcases st with ⟨p, seeded⟩
  simp only [WithinOne, Attracted, restOf, lowestRest, highestRest]
  cases seeded
  case false =>
    simp only [Bool.false_eq_true, if_false, false_implies, and_true]
    split <;> split <;> omega
  case true =>
    simp only [if_true, true_implies]
    split <;> split <;> omega

theorem filterStep_settles (x : Int) (st : FilterState) :
    Settles (iirFilter x) (filterStep true x st).prevFiltered (restOf x st) := by
  rcases st with ⟨p, seeded⟩
  cases seeded
  case false => exact iirFilter_settles x x
  case true => exact (iirFilter_settles x p).next

/-- The driver delivers `x` at every cycle; `now` are the times of the cycles. -/
def steady {Ts : Type} (id : SensorId) (x : Int) (now : Nat -> Ts) (c : Channel Ts) :
    Nat -> Channel Ts
  | 0 => c
  | n + 1 => processSensorReading id (some x) (now n) (steady id x now c n)

/-- After finitely many samples the value reported is within one unit of the input, and stays
there. -/
def Reaches {Ts : Type} (id : SensorId) (x : Int) (now : Nat -> Ts) (c : Channel Ts) : Prop :=
  exists N, forall n, N ≤ n -> WithinOne (steady id x now c n).reading.value x

end

section

variable {Ts : Type} {id : SensorId} {x : Int} {c : Channel Ts}

theorem steady_value (now : Nat -> Ts) (c : Channel Ts) (n : Nat) :
    (steady id x now c (n + 1)).reading.value = (steady id x now c (n + 1)).filter.prevFiltered :=
  rfl

theorem steady_filter (hx : inRange id x = true) (now : Nat -> Ts) (c : Channel Ts) (n : Nat) :
    (steady id x now c (n + 1)).filter = filterStep true x (steady id x now c n).filter := by
  change filterStep (inRange id x) (clamp id x) _ = _
  rw [hx, clamp_of_inRange hx]

theorem filterStep_true_seeded (x : Int) (st : FilterState) :
    (filterStep true x st).filterSeeded = true := by
  rcases st with ⟨p, seeded⟩
  cases seeded <;> rfl

theorem steady_iterate (hx : inRange id x = true) (now : Nat -> Ts) (c : Channel Ts) (n : Nat) :
    (steady id x now c (n + 1)).filter =
      ⟨(iirFilter x)^[n] (filterStep true x c.filter).prevFiltered, true⟩ := by
  induction n with
  | zero =>
      rw [steady_filter hx]
      exact congrArg (FilterState.mk (filterStep true x c.filter).prevFiltered)
        (filterStep_true_seeded x c.filter)
  | succ n ih =>
      rw [steady_filter hx, ih, Function.iterate_succ_apply']
      rfl

theorem reaches_iff (hx : inRange id x = true) (now : Nat -> Ts) (c : Channel Ts) :
    Reaches id x now c <-> Attracted x c.filter := by
  have hvalue : forall n, (steady id x now c (n + 1)).reading.value =
      (iirFilter x)^[n] (filterStep true x c.filter).prevFiltered := by
    intro n
    rw [steady_value, steady_iterate hx]
  unfold Reaches
  rw [← rest_withinOne_iff, eventually_succ]
  simp only [hvalue]
  exact (filterStep_settles x c.filter).eventually_iff fun v => WithinOne v x

end

/-!
## The two signs
-/

/-- The values the filter reports for a list of samples, each with its validity. -/
def filterOutputs : List (Bool × Int) -> FilterState -> List Int
  | [], _ => []
  | (valid, clamped) :: samples, st =>
      (filterStep valid clamped st).prevFiltered ::
        filterOutputs samples (filterStep valid clamped st)

def FilterState.negated (st : FilterState) : FilterState :=
  { st with prevFiltered := -st.prevFiltered }

def negatedSamples (samples : List (Bool × Int)) : List (Bool × Int) :=
  samples.map fun sample => (sample.1, -sample.2)

/-- Every sample either seeds the filter, or the weighted sum is less than half a unit from
zero. -/
def Balanced : List (Bool × Int) -> FilterState -> Prop
  | [], _ => True
  | (valid, clamped) :: samples, st =>
      ((st.filterSeeded = false ∧ valid = true) ∨
        (-5 < clamped + 9 * st.prevFiltered ∧ clamped + 9 * st.prevFiltered < 5)) ∧
        Balanced samples (filterStep valid clamped st)

theorem iirFilter_odd_iff (x p : Int) :
    iirFilter (-x) (-p) = -iirFilter x p <-> -5 < x + 9 * p ∧ x + 9 * p < 5 := by
  rcases iirFilter_cases x p with ⟨_, hp⟩ | ⟨_, hp⟩ <;>
    rcases iirFilter_cases (-x) (-p) with ⟨_, hq⟩ | ⟨_, hq⟩ <;> omega

theorem filterStep_negated (valid : Bool) (clamped : Int) (st : FilterState) :
    (filterStep valid (-clamped) st.negated).prevFiltered =
        -(filterStep valid clamped st).prevFiltered <->
      filterStep valid (-clamped) st.negated = (filterStep valid clamped st).negated := by
  have hseeded : (filterStep valid (-clamped) st.negated).filterSeeded =
      (filterStep valid clamped st).negated.filterSeeded := by
    rcases st with ⟨p, seeded⟩
    cases seeded <;> cases valid <;> rfl
  constructor
  · intro hvalue
    rw [FilterState.mk.injEq]
    exact ⟨hvalue, hseeded⟩
  · intro heq
    rw [heq]
    rfl

theorem filterOutputs_odd_iff (samples : List (Bool × Int)) (st : FilterState) :
    filterOutputs (negatedSamples samples) st.negated =
        (filterOutputs samples st).map (fun value => -value) <->
      Balanced samples st := by
  induction samples generalizing st with
  | nil => exact iff_of_true rfl trivial
  | cons sample samples ih =>
      rcases sample with ⟨valid, clamped⟩
      have hstep : (filterStep valid (-clamped) st.negated).prevFiltered =
          -(filterStep valid clamped st).prevFiltered <->
          (st.filterSeeded = false ∧ valid = true) ∨
            (-5 < clamped + 9 * st.prevFiltered ∧ clamped + 9 * st.prevFiltered < 5) := by
        rcases st with ⟨p, seeded⟩
        cases seeded <;> cases valid
        case false.true => exact iff_of_true rfl (.inl ⟨rfl, rfl⟩)
        all_goals
          simp only [reduceCtorEq, false_and, and_false, false_or]
          exact iirFilter_odd_iff clamped p
      change _ :: _ = _ :: _ <-> _ ∧ Balanced samples (filterStep valid clamped st)
      rw [List.cons.injEq, hstep]
      apply and_congr_right
      intro hbalanced
      rw [← ih]
      have hnext := (filterStep_negated valid clamped st).mp (hstep.mpr hbalanced)
      change filterOutputs (negatedSamples samples) (filterStep valid (-clamped) st.negated) = _ <->
        _
      rw [hnext]

/-- A constant input is reached, and both signs are treated alike, exactly under these
conditions. -/
theorem filter_reaches_and_odd_iff {Ts : Type} {id : SensorId} {x : Int}
    (hx : inRange id x = true) (now : Nat -> Ts) (c : Channel Ts) (samples : List (Bool × Int)) :
    (Reaches id x now c <-> Attracted x c.filter) ∧
      (filterOutputs (negatedSamples samples) c.filter.negated =
          (filterOutputs samples c.filter).map (fun value => -value) <->
        Balanced samples c.filter) :=
  ⟨reaches_iff hx now c, filterOutputs_odd_iff samples c.filter⟩

theorem filter_reaches_and_odd_iff_zero :
    (Reaches .temperature 0 (fun _ => ()) ⟨⟨0, true, ()⟩, ⟨0, true⟩⟩ <->
        Attracted 0 ⟨0, true⟩) ∧
      (filterOutputs (negatedSamples [(true, 5)]) (FilterState.mk 0 true).negated =
          (filterOutputs [(true, 5)] ⟨0, true⟩).map (fun value => -value) <->
        Balanced [(true, 5)] ⟨0, true⟩) :=
  filter_reaches_and_odd_iff (by decide) (fun _ => ()) ⟨⟨0, true, ()⟩, ⟨0, true⟩⟩ [(true, 5)]

/-- A temperature that falls from 1.05 to 1.00 degrees is reported as 1.05 for ever, and half a
hundredth is rounded up on one side only. -/
theorem filter_stalls_above :
    ¬ (forall (id : SensorId) (x : Int) (c : Channel Unit), inRange id x = true ->
        Reaches id x (fun _ => ()) c) ∧
      ¬ forall (samples : List (Bool × Int)) (st : FilterState),
        filterOutputs (negatedSamples samples) st.negated =
          (filterOutputs samples st).map (fun value => -value) := by
  constructor
  · intro h
    have hstays : forall n,
        (steady .temperature 100 (fun _ => ()) ⟨⟨105, true, ()⟩, ⟨105, true⟩⟩ n).filter =
          ⟨105, true⟩ ∧
        (steady .temperature 100 (fun _ => ()) ⟨⟨105, true, ()⟩, ⟨105, true⟩⟩ n).reading.value =
          105 := by
      intro n
      induction n with
      | zero => exact ⟨rfl, rfl⟩
      | succ n ih =>
          have hnext : (steady .temperature 100 (fun _ => ()) ⟨⟨105, true, ()⟩, ⟨105, true⟩⟩
              (n + 1)).filter = ⟨105, true⟩ := by
            change filterStep (inRange .temperature 100) (clamp .temperature 100) _ = _
            rw [ih.1]
            decide
          exact ⟨hnext, congrArg FilterState.prevFiltered hnext⟩
    rcases h .temperature 100 ⟨⟨105, true, ()⟩, ⟨105, true⟩⟩ (by decide) with ⟨N, hN⟩
    have hnear := hN N (Nat.le_refl N)
    rw [(hstays N).2] at hnear
    unfold WithinOne at hnear
    omega
  · intro h
    exact absurd (h [(true, 5)] ⟨0, true⟩) (by decide)

end EnvMonitor.FieldDevice.SensorService
