import EnvMonitor.Gateway.SensorService.Filter

/-!
# What the filter makes of a constant input

The fraction bits of the state keep small steps alive only as long as the coefficient is not too
small: below 21 per mille the filter comes to rest more than one unit away from its input.
-/

namespace EnvMonitor.Gateway.SensorService

open CloudPublisher (SensorId)
open Numerics

/-!
## Where the filter comes to rest
-/

/-- Two values of a channel within one unit of each other. -/
def WithinOne (v x : Int) : Prop := v - 1 ≤ x ∧ x ≤ v + 1

/-- A filter state whose reported value is within one unit of the input. -/
def Near (x p : Int) : Prop := WithinOne (prvDivRound p filterScale) x

section

variable {num den x p q : Int}

theorem prvDivRound_cases (p : Int) :
    (0 ≤ p ∧ 16 * prvDivRound p filterScale ≤ p + 8 ∧
        p + 8 < 16 * prvDivRound p filterScale + 16) ∨
      (p < 0 ∧ 16 * prvDivRound p filterScale - 16 < p - 8 ∧
        p - 8 ≤ 16 * prvDivRound p filterScale) :=
  (roundAway_eq_iff (h := 8) rfl (by decide)).mp rfl

theorem near_iff :
    Near x p <->
      (-24 < p - x * 16 ∧ p - x * 16 < 24) ∨
        (p - x * 16 = 24 ∧ p < 0) ∨ (p - x * 16 = -24 ∧ 0 < p) := by
  unfold Near WithinOne
  rcases prvDivRound_cases p with ⟨_, _, _⟩ | ⟨_, _, _⟩ <;> omega

theorem near_neg : Near (-x) (-p) <-> Near x p := by
  rw [near_iff, near_iff]
  omega

theorem Near.closer (h : Near x p) (hq : x * 16 ≤ q ∧ q ≤ p) : Near x q := by
  rw [near_iff] at h ⊢
  omega

/-- A coefficient of at least 21 per mille. -/
def Brisk (num den : Int) : Prop := 21 * den ≤ 1000 * num

/-- At exactly 20 per mille the filter still arrives from the side away from zero, if the input
is at least two units from zero. -/
def Borderline (num den x p : Int) : Prop :=
  1000 * num = 20 * den ∧ ((2 ≤ x ∧ p < x * 16) ∨ (x ≤ -2 ∧ x * 16 < p))

theorem fixed_near (hcoef : Coefficient num den) (hle : x * 16 ≤ q)
    (hfixed : smooth num den (x * 16) q = q)
    (hgood : Brisk num den ∨ (Borderline num den x p ∧ q ≤ p)) : Near x q := by
  rcases hcoef.half with ⟨hden, hh, hnum⟩
  have hrest := (smooth_fixed_iff hden hh).mp hfixed
  rw [near_iff]
  rcases hgood with hbrisk | ⟨hborder, hqp⟩
  · unfold Brisk at hbrisk
    have hclose : q - x * 16 ≤ 23 := by
      by_contra hfar
      have hprod : num * (x * 16 - q) ≤ num * (-24) :=
        Int.mul_le_mul_of_nonneg_left (by omega) hnum.1
      omega
    omega
  · unfold Borderline at hborder
    have hnum20 : num = 20 ∧ den = 1000 := by
      rcases hcoef.alpha with ⟨_, _⟩ | ⟨_, _, _⟩ <;> omega
    rw [hnum20.1, hnum20.2] at hrest
    omega

/-- A filter that is too slow has a resting state at or above every start, and below it, that is
not near the input. -/
theorem fixed_far (hcoef : Coefficient num den) (hle : x * 16 ≤ p) (hfar : ¬ Near x p)
    (hslow : ¬ Brisk num den) (hborder : ¬ Borderline num den x p) :
    exists r, x * 16 ≤ r ∧ r ≤ p ∧ smooth num den (x * 16) r = r ∧
      ¬ Near x r := by
  rcases hcoef.half with ⟨hden, hh, hnum⟩
  rw [near_iff] at hfar
  unfold Brisk at hslow
  unfold Borderline at hborder
  have halpha : 1 ≤ num ∧ num ≤ 20 ∧ den = 1000 := by
    rcases hcoef.alpha with ⟨_, _⟩ | ⟨_, _, _⟩ <;> omega
  exists min p (x * 16 + 25)
  have hlow : -(20 * 25) ≤ num * (x * 16 - min p (x * 16 + 25)) := by
    have hdist : num * (min p (x * 16 + 25) - x * 16) ≤ 20 * 25 :=
      Int.mul_le_mul halpha.2.1 (by omega) (by omega) (by decide)
    rw [← Int.neg_sub, Int.mul_neg]
    omega
  have hhigh : num * (x * 16 - min p (x * 16 + 25)) ≤ 0 :=
    Int.mul_nonpos_of_nonneg_of_nonpos hnum.1 (by omega)
  refine ⟨by omega, by omega, ?_, ?_⟩
  · rw [smooth_fixed_iff hden hh, halpha.2.2]
    -- only a coefficient of 20 and a distance of 25 make exactly a half
    by_cases hhalf : num * (x * 16 - min p (x * 16 + 25)) = -500
    · have hnum20 : num = 20 := by
        by_contra hne
        have hdist : num * (min p (x * 16 + 25) - x * 16) ≤ 19 * 25 :=
          Int.mul_le_mul (by omega) (by omega) (by omega) (by decide)
        rw [← Int.neg_sub, Int.mul_neg] at hdist
        omega
      rw [hnum20] at hhalf ⊢
      omega
    · omega
  · rw [near_iff]
    omega

end

/-!
## The orbit of the filter under a constant input
-/

/-- From this state the constant input is reached. -/
def Responsive (num den x p : Int) : Prop :=
  Near x p ∨ Brisk num den ∨ Borderline num den x p

section

variable {num den x p : Int}

theorem responsive_neg : Responsive num den (-x) (-p) <-> Responsive num den x p := by
  have hborder : Borderline num den (-x) (-p) <-> Borderline num den x p := by
    unfold Borderline
    omega
  unfold Responsive
  rw [near_neg, hborder]

theorem reaches_iff_above (hcoef : Coefficient num den) (hle : x * 16 ≤ p) :
    (exists N, forall n, N ≤ n -> Near x ((smooth num den (x * 16))^[n] p)) <->
      Responsive num den x p := by
  rcases hcoef.half with ⟨hden, hh, hnum⟩
  rcases smooth_settles hden hh hnum hle with ⟨q, hlow, hhigh, hsettles⟩
  rw [hsettles.eventually_iff (Near x)]
  constructor
  · intro hnear
    by_contra hnot
    unfold Responsive at hnot
    rcases fixed_far hcoef hle (fun h => hnot (.inl h)) (fun h => hnot (.inr (.inl h)))
      (fun h => hnot (.inr (.inr h))) with ⟨r, hlowR, hr, hfixed, hfar⟩
    -- the orbit never falls below the resting state `r`
    rcases hsettles.reached with ⟨n, hn⟩
    have hmono := (smooth_mono hden hh hnum.2 (x * 16)).iterate n hr
    rw [iterate_of_fixed hfixed, hn] at hmono
    exact hfar (hnear.closer ⟨hlowR, hmono⟩)
  · intro hresponsive
    rcases hresponsive with hnear | hbrisk | hborder
    · exact hnear.closer ⟨hlow, hhigh⟩
    · exact fixed_near (p := p) hcoef hlow hsettles.fixed (.inl hbrisk)
    · exact fixed_near hcoef hlow hsettles.fixed (.inr ⟨hborder, hhigh⟩)

theorem orbit_near_iff (hcoef : Coefficient num den) (x p : Int) :
    (exists N, forall n, N ≤ n -> Near x ((smooth num den (x * 16))^[n] p)) <->
      Responsive num den x p := by
  rcases Int.le_total (x * 16) p with hle | hle
  · exact reaches_iff_above hcoef hle
  · -- the mirror image starts above its input
    have hmirror := reaches_iff_above (x := -x) (p := -p) hcoef (by omega)
    rw [responsive_neg, Int.neg_mul] at hmirror
    rw [← hmirror]
    simp only [smooth_iterate_odd hcoef.half.1 hcoef.half.2.1, near_neg]

end

/-!
## The law of the filter
-/

/-- The driver of a channel delivers `x` at every cycle; `now` are the times of the cycles. -/
def steady (id : SensorId) (x : Int) (now : Nat -> TimeProviderTs) (s : Service) : Nat -> Service
  | 0 => s
  | n + 1 => prvAccept id (now n) x (steady id x now s n)

/-- After finitely many samples the value reported is within one unit of the input, and stays
there. -/
def Reaches (id : SensorId) (x : Int) (now : Nat -> TimeProviderTs) (s : Service) : Prop :=
  exists N, forall n, N ≤ n -> WithinOne ((steady id x now s n).channel id).reading.value x

/-- A step from `p` to `p'` towards the target that does not pass it. -/
def Towards (target p p' : Int) : Prop :=
  (target ≤ p' ∧ p' ≤ p) ∨ (p ≤ p' ∧ p' ≤ target)

def Approaches (id : SensorId) (x : Int) (now : Nat -> TimeProviderTs) (s : Service) : Prop :=
  forall n, ((steady id x now s n).channel id).filterSeeded = true ->
    Towards (x * filterScale) ((steady id x now s n).channel id).prevFiltered
      ((steady id x now s (n + 1)).channel id).prevFiltered

def Fits32 (v : Int) : Prop := -2147483648 ≤ v ∧ v < 2147483648
def Fits64 (v : Int) : Prop := -9223372036854775808 ≤ v ∧ v < 9223372036854775808

/-- The intermediate results of `prv_accept` fit the types the code gives them. -/
structure AcceptFits (num den value : Int) (c : Channel) : Prop where
  scaled : Fits32 (c.clamp value * filterScale)
  input : Fits64 (num * (c.clamp value * filterScale))
  state : Fits64 ((den - num) * c.seed (c.clamp value * filterScale))
  sum : Fits64 (filterSum num den (c.clamp value * filterScale)
    (c.seed (c.clamp value * filterScale)))
  biased : forall half, -(den.tdiv 2) ≤ half -> half ≤ den.tdiv 2 ->
    Fits64 (filterSum num den (c.clamp value * filterScale)
      (c.seed (c.clamp value * filterScale)) + half)
  filtered : Fits32 (prvDivRound64 (filterSum num den (c.clamp value * filterScale)
    (c.seed (c.clamp value * filterScale))) den)
  reported : forall half, -8 ≤ half -> half ≤ 8 ->
    Fits32 (prvDivRound64 (filterSum num den (c.clamp value * filterScale)
      (c.seed (c.clamp value * filterScale))) den + half)

structure FilterLaw (s : Service) (seen : SensorId -> List Int) (id : SensorId) (x : Int)
    (now : Nat -> TimeProviderTs) : Prop where
  approaches : Approaches id x now s
  reaches : Reaches id x now s
  among : (s.channel id).filterSeeded = true ->
    AmongSamples (seen id) 1 (s.channel id).reading.value
  fits : forall value, AcceptFits s.alphaNum s.alphaDen value (s.channel id)

section

variable {s : Service} {seen : SensorId -> List Int} {id : SensorId} {x num den : Int} {c : Channel}
  {samples : List Int} {now : Nat -> TimeProviderTs}

theorem prvAccept_channel (id : SensorId) (t : TimeProviderTs) (value : Int) (s : Service) :
    (prvAccept id t value s).channel id =
      (s.channel id).accept s.alphaNum s.alphaDen t value := by
  change Function.update s.channel id _ id = _
  rw [Function.update_self]

theorem steady_kept (id : SensorId) (x : Int) (now : Nat -> TimeProviderTs) (s : Service) (n : Nat) :
    (steady id x now s n).alphaNum = s.alphaNum ∧ (steady id x now s n).alphaDen = s.alphaDen ∧
      ((steady id x now s n).channel id).rangeMin = (s.channel id).rangeMin ∧
      ((steady id x now s n).channel id).rangeMax = (s.channel id).rangeMax := by
  induction n with
  | zero => exact ⟨rfl, rfl, rfl, rfl⟩
  | succ n ih =>
      rcases ih with ⟨hnum, hden, hmin, hmax⟩
      refine ⟨hnum, hden, ?_, ?_⟩
      · change ((prvAccept id (now n) x _).channel id).rangeMin = _
        rw [prvAccept_channel, ← hmin]
        rfl
      · change ((prvAccept id (now n) x _).channel id).rangeMax = _
        rw [prvAccept_channel, ← hmax]
        rfl

theorem steady_prevFiltered (hx : (s.channel id).rangeMin ≤ x ∧ x ≤ (s.channel id).rangeMax)
    (now : Nat -> TimeProviderTs) (n : Nat) :
    ((steady id x now s (n + 1)).channel id).prevFiltered =
      smooth s.alphaNum s.alphaDen (x * 16) (((steady id x now s n).channel id).seed (x * 16)) := by
  rcases steady_kept id x now s n with ⟨hnum, hden, hmin, hmax⟩
  change ((prvAccept id (now n) x _).channel id).prevFiltered = _
  rw [prvAccept_channel, Channel.accept_prevFiltered, Channel.clamp_of_inRange (by omega), hnum,
    hden]

theorem steady_seeded (id : SensorId) (x : Int) (now : Nat -> TimeProviderTs) (s : Service)
    (n : Nat) : ((steady id x now s (n + 1)).channel id).filterSeeded = true := by
  change ((prvAccept id (now n) x _).channel id).filterSeeded = true
  rw [prvAccept_channel]
  rfl

theorem steady_value (id : SensorId) (x : Int) (now : Nat -> TimeProviderTs) (s : Service)
    (n : Nat) : ((steady id x now s (n + 1)).channel id).reading.value =
      prvDivRound ((steady id x now s (n + 1)).channel id).prevFiltered filterScale := by
  change ((prvAccept id (now n) x _).channel id).reading.value =
    prvDivRound ((prvAccept id (now n) x _).channel id).prevFiltered filterScale
  rw [prvAccept_channel]
  rfl

theorem Channel.seed_seeded (h : c.filterSeeded = true) (t : Int) : c.seed t = c.prevFiltered := by
  simp only [Channel.seed, h, if_true]

theorem steady_iterate (hx : (s.channel id).rangeMin ≤ x ∧ x ≤ (s.channel id).rangeMax)
    (now : Nat -> TimeProviderTs) (n : Nat) :
    ((steady id x now s (n + 1)).channel id).prevFiltered =
      (smooth s.alphaNum s.alphaDen (x * 16))^[n + 1] ((s.channel id).seed (x * 16)) := by
  induction n with
  | zero => exact steady_prevFiltered hx now 0
  | succ n ih =>
      rw [steady_prevFiltered hx, Channel.seed_seeded (steady_seeded id x now s n), ih,
        Function.iterate_succ_apply' _ (n + 1)]

theorem reaches_iff (hcoef : Coefficient s.alphaNum s.alphaDen)
    (hx : (s.channel id).rangeMin ≤ x ∧ x ≤ (s.channel id).rangeMax)
    (now : Nat -> TimeProviderTs) :
    Reaches id x now s <->
      Responsive s.alphaNum s.alphaDen x ((s.channel id).seed (x * 16)) := by
  rw [← orbit_near_iff hcoef]
  unfold Reaches
  rw [eventually_succ, eventually_succ (P := fun n => Near x _)]
  simp only [steady_value, steady_iterate hx]
  rfl

theorem approaches (hcoef : Coefficient s.alphaNum s.alphaDen)
    (hx : (s.channel id).rangeMin ≤ x ∧ x ≤ (s.channel id).rangeMax)
    (now : Nat -> TimeProviderTs) : Approaches id x now s := by
  intro n hseeded
  rw [steady_prevFiltered hx, Channel.seed_seeded hseeded]
  rcases smooth_between hcoef (x * 16) ((steady id x now s n).channel id).prevFiltered with
    ⟨_, habove⟩ | ⟨_, hbelow⟩
  · exact .inl habove
  · exact .inr hbelow

theorem AmongSamples.rounded {p : Int} (h : AmongSamples samples filterScale p) :
    AmongSamples samples 1 (prvDivRound p filterScale) := by
  rcases h with ⟨⟨low, hlow, hlowLe⟩, high, hhigh, hhighLe⟩
  change low * 16 ≤ p at hlowLe
  change p ≤ high * 16 at hhighLe
  have hround := prvDivRound_cases p
  constructor
  · exact ⟨low, hlow, by omega⟩
  · exact ⟨high, hhigh, by omega⟩

theorem weighted_bounds {a v : Int} (ha : 0 ≤ a ∧ a ≤ 1000) (hv : -4000000 ≤ v ∧ v ≤ 4000000) :
    -4000000000 ≤ a * v ∧ a * v ≤ 4000000000 := by
  have hhigh : a * v ≤ a * 4000000 := Int.mul_le_mul_of_nonneg_left hv.2 ha.1
  have hlow : a * (-4000000) ≤ a * v := Int.mul_le_mul_of_nonneg_left hv.1 ha.1
  omega

theorem ChannelOk.seed_bounds (h : ChannelOk c samples) (value : Int) :
    -4000000 ≤ c.seed (c.clamp value * 16) ∧ c.seed (c.clamp value * 16) ≤ 4000000 := by
  have hclamp := Channel.clamp_bounds h.ordered value
  have hnarrow := h.narrow
  cases hseeded : c.filterSeeded
  case false =>
    have hseed : c.seed (c.clamp value * 16) = c.clamp value * 16 := by
      simp only [Channel.seed, hseeded, Bool.false_eq_true, if_false]
    omega
  case true =>
    rw [Channel.seed_seeded hseeded]
    rcases h.seeded hseeded with ⟨⟨low, hlow, hlowLe⟩, high, hhigh, hhighLe⟩
    change low * 16 ≤ c.prevFiltered at hlowLe
    change c.prevFiltered ≤ high * 16 at hhighLe
    have hlowBounds := h.samples_narrow low hlow
    have hhighBounds := h.samples_narrow high hhigh
    omega

theorem ChannelOk.fits (h : ChannelOk c samples) (hcoef : Coefficient num den) (value : Int) :
    AcceptFits num den value c := by
  have hclamp := Channel.clamp_bounds h.ordered value
  have hnarrow := h.narrow
  have hseed := h.seed_bounds value
  have hnum : 0 ≤ num ∧ num ≤ 1000 := by
    rcases hcoef.alpha with ⟨_, _⟩ | ⟨_, _, _⟩ <;> omega
  have hrest : 0 ≤ den - num ∧ den - num ≤ 1000 := by
    rcases hcoef.alpha with ⟨_, _⟩ | ⟨_, _, _⟩ <;> omega
  have hhalf : 0 ≤ den.tdiv 2 ∧ den.tdiv 2 ≤ 500 := by
    rcases hcoef.alpha with ⟨_, hden⟩ | ⟨_, _, hden⟩ <;> rw [hden] <;> decide
  have hinput := weighted_bounds hnum (v := c.clamp value * 16) (by omega)
  have hstate := weighted_bounds hrest hseed
  have hfiltered : -4000000 ≤ smooth num den (c.clamp value * 16) (c.seed (c.clamp value * 16)) ∧
      smooth num den (c.clamp value * 16) (c.seed (c.clamp value * 16)) ≤ 4000000 := by
    rcases smooth_between hcoef (c.clamp value * 16) (c.seed (c.clamp value * 16)) with
      ⟨_, _⟩ | ⟨_, _⟩ <;> omega
  constructor
  case scaled =>
    change Fits32 (c.clamp value * 16)
    exact ⟨by omega, by omega⟩
  case input =>
    change Fits64 (num * (c.clamp value * 16))
    exact ⟨by omega, by omega⟩
  case state =>
    change Fits64 ((den - num) * c.seed (c.clamp value * 16))
    exact ⟨by omega, by omega⟩
  case sum =>
    change Fits64 (num * (c.clamp value * 16) + (den - num) * c.seed (c.clamp value * 16))
    exact ⟨by omega, by omega⟩
  case biased =>
    intro half hlow hhigh
    change Fits64 (num * (c.clamp value * 16) + (den - num) * c.seed (c.clamp value * 16) + half)
    exact ⟨by omega, by omega⟩
  case filtered =>
    change Fits32 (smooth num den (c.clamp value * 16) (c.seed (c.clamp value * 16)))
    exact ⟨by omega, by omega⟩
  case reported =>
    intro half hlow hhigh
    change Fits32 (smooth num den (c.clamp value * 16) (c.seed (c.clamp value * 16)) + half)
    exact ⟨by omega, by omega⟩

theorem near_self (x : Int) : Near x (x * 16) := by
  rw [near_iff]
  omega

end

/-- After any history the filter of a channel follows a constant input exactly if it is not
seeded yet, or is near the input, or its coefficient is large enough. -/
theorem filter_law_iff {s : Service} {seen : SensorId -> List Int} (h : FilterReached s seen)
    {id : SensorId} {x : Int}
    (hx : (s.channel id).rangeMin ≤ x ∧ x ≤ (s.channel id).rangeMax)
    (now : Nat -> TimeProviderTs) :
    FilterLaw s seen id x now <->
      (s.channel id).filterSeeded = false ∨
        Responsive s.alphaNum s.alphaDen x (s.channel id).prevFiltered := by
  have hok := h.ok
  have hreaches := reaches_iff hok.coefficient hx now
  have hcondition : Responsive s.alphaNum s.alphaDen x ((s.channel id).seed (x * 16)) <->
      (s.channel id).filterSeeded = false ∨
        Responsive s.alphaNum s.alphaDen x (s.channel id).prevFiltered := by
    cases hseeded : (s.channel id).filterSeeded
    case false =>
      have hseed : (s.channel id).seed (x * 16) = x * 16 := by
        simp only [Channel.seed, hseeded, Bool.false_eq_true, if_false]
      rw [hseed]
      exact iff_of_true (.inl (near_self x)) (.inl rfl)
    case true =>
      rw [Channel.seed_seeded hseeded]
      simp only [Bool.true_eq_false, false_or]
  rw [← hcondition, ← hreaches]
  constructor
  · exact FilterLaw.reaches
  · intro hreached
    constructor
    case approaches => exact approaches hok.coefficient hx now
    case reaches => exact hreached
    case among =>
      intro hseeded
      rw [(hok.channel id).reported hseeded]
      exact ((hok.channel id).seeded hseeded).rounded
    case fits => exact (hok.channel id).fits hok.coefficient

/-- The service at its start, at the beginning of the time. -/
def unseeded : Service := sensorServiceInit ⟨0, .unsynchronised⟩

/-- Two readings later. -/
def seeded : Service :=
  prvAccept .temperature ⟨1, .unsynchronised⟩ 2531
    (prvAccept .temperature ⟨0, .unsynchronised⟩ 2000 unseeded)

theorem filter_law_iff_seeded :
    ((seeded.channel .temperature).filterSeeded = true ∧
      (seeded.channel .temperature).reading.value = 2053) ∧
    exists seen, FilterReached seeded seen ∧ seen .temperature = [2000, 2531] ∧
      FilterLaw seeded seen .temperature 2500 (fun _ => ⟨2, .unsynchronised⟩) := by
  have hreached := ((FilterReached.start ⟨0, .unsynchronised⟩).accept .temperature
    ⟨0, .unsynchronised⟩ 2000).accept .temperature ⟨1, .unsynchronised⟩ 2531
  have hresponsive : Responsive seeded.alphaNum seeded.alphaDen 2500
      (seeded.channel .temperature).prevFiltered := by
    unfold Responsive Near WithinOne Brisk Borderline
    decide
  exact ⟨by decide, _, hreached, by decide,
    (filter_law_iff hreached (by decide) fun _ => ⟨2, .unsynchronised⟩).mpr (.inr hresponsive)⟩

/-- A configuration with the coefficient at one per mille, the least that is accepted. -/
def slowest : ConfigService.ConfigParams :=
  ConfigService.prvWriteField ConfigService.prvApplyDefaults (.numeric .filterAlpha)
    ⟨1, by decide⟩

/-- With it, a temperature that falls from 25.31 to 25.00 degrees is reported as 25.31 for ever. -/
theorem slow_filter_stalls :
    ConfigService.prvValidate (.numeric .filterAlpha) ⟨1, by decide⟩
        ConfigService.prvApplyDefaults = true ∧
      ¬ forall (s : Service) (seen : SensorId -> List Int) (id : SensorId) (x : Int)
        (now : Nat -> TimeProviderTs), FilterReached s seen ->
        (s.channel id).rangeMin ≤ x ∧ x ≤ (s.channel id).rangeMax ->
        FilterLaw s seen id x now := by
  refine ⟨by decide, fun h => ?_⟩
  have hset : exists s, sensorServiceReconfigure slowest unseeded = some s ∧
      s.alphaNum = 1 ∧ s.alphaDen = 1000 ∧
      s.channel .temperature = ⟨-4000, 8500, 0, false, ⟨0, false, ⟨0, .unsynchronised⟩⟩⟩ := by
    unfold sensorServiceReconfigure
    rw [if_neg (by decide)]
    exact ⟨_, rfl, rfl, rfl, rfl⟩
  rcases hset with ⟨s, hset, hnum, hden, hchannel⟩
  have hreached := ((FilterReached.start ⟨0, .unsynchronised⟩).reconfigure slowest hset).accept
    .temperature ⟨0, .unsynchronised⟩ 2531
  have hafter : ((prvAccept .temperature ⟨0, .unsynchronised⟩ 2531 s).channel .temperature) =
      ⟨-4000, 8500, 40496, true, ⟨2531, true, ⟨0, .unsynchronised⟩⟩⟩ := by
    rw [prvAccept_channel, hchannel, hnum, hden]
    rfl
  have hrange : ((prvAccept .temperature ⟨0, .unsynchronised⟩ 2531 s).channel .temperature).rangeMin
      ≤ 2500 ∧ 2500 ≤
      ((prvAccept .temperature ⟨0, .unsynchronised⟩ 2531 s).channel .temperature).rangeMax := by
    rw [hafter]
    decide
  have hlaw := h _ _ .temperature 2500 (fun _ => ⟨0, .unsynchronised⟩) hreached hrange
  have hresponsive := (reaches_iff hreached.ok.coefficient hrange _).mp hlaw.reaches
  rw [hafter] at hresponsive
  change Responsive s.alphaNum s.alphaDen 2500 40496 at hresponsive
  rw [hnum, hden] at hresponsive
  unfold Responsive Near WithinOne Brisk Borderline at hresponsive
  exact absurd hresponsive (by decide)

end EnvMonitor.Gateway.SensorService
