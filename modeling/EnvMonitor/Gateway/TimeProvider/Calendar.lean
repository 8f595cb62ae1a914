import Mathlib
import EnvMonitor.Calendar.Periods

/-!
# Epoch and calendar

The conversions of `time_provider.c` between Unix epoch seconds and the calendar of the RTC.
-/

namespace EnvMonitor.Gateway

/-- `rtc_datetime_t` -/
@[ext]
structure RtcDatetime where
  year : Nat
  month : Nat
  day : Nat
  hour : Nat
  minute : Nat
  second : Nat
  deriving DecidableEq, Repr

abbrev secondsPerMinute : Nat := 60
abbrev secondsPerHour : Nat := 3600
abbrev secondsPerDay : Nat := 86400
abbrev epochYear : Nat := 1970
abbrev epochYearLimit : Nat := 2106
abbrev monthsPerYear : Nat := 12

def isLeapYear (year : Nat) : Bool :=
  (year % 4 == 0 && year % 100 != 0) || year % 400 == 0

def daysInMonth (month year : Nat) : Nat :=
  if month = 2 ∧ isLeapYear year then 29
  else [31, 28, 31, 30, 31, 30, 31, 31, 30, 31, 30, 31].getD (month - 1) 0

def daysInYear (year : Nat) : Nat :=
  if isLeapYear year then 366 else 365

/-- Days of the whole years since 1970, of the whole months, and of the days before this one. -/
def daysBeforeYear (year : Nat) : Nat :=
  Periods.total daysInYear epochYear (year - epochYear)

def daysBeforeMonth (month year : Nat) : Nat :=
  Periods.total (daysInMonth · year) 1 (month - 1)

/-- `datetime_to_epoch`, in 32-bit arithmetic. -/
def datetimeToEpoch (dt : RtcDatetime) : Nat :=
  ((daysBeforeYear dt.year + daysBeforeMonth dt.month dt.year + (dt.day + (2 ^ 32 - 1))) *
      secondsPerDay + dt.hour * secondsPerHour + dt.minute * secondsPerMinute + dt.second) % 2 ^ 32

/-- `epoch_to_datetime` -/
def epochToDatetime (epoch : Nat) : RtcDatetime :=
  let days := epoch / 60 / 60 / 24
  let inYear := Periods.locate daysInYear (epochYearLimit - epochYear) epochYear days
  let inMonth := Periods.locate (daysInMonth · inYear.1) monthsPerYear 1 inYear.2
  { year := inYear.1
    month := inMonth.1
    day := inMonth.2 + 1
    hour := epoch / 60 / 60 % 24
    minute := epoch / 60 % 60
    second := epoch % 60 }

/-!
## Dates the RTC can hold
-/

/-- A calendar date of the years the RTC can hold. -/
structure RtcDatetime.Valid (dt : RtcDatetime) : Prop where
  year_ge : 2000 ≤ dt.year
  year_le : dt.year ≤ 2099
  month_pos : 1 ≤ dt.month
  month_le : dt.month ≤ 12
  day_pos : 1 ≤ dt.day
  day_le : dt.day ≤ daysInMonth dt.month dt.year
  hour_lt : dt.hour < 24
  minute_lt : dt.minute < 60
  second_lt : dt.second < 60

/-- Day number since 1970-01-01. -/
def RtcDatetime.dayNumber (dt : RtcDatetime) : Nat :=
  daysBeforeYear dt.year + daysBeforeMonth dt.month dt.year + (dt.day - 1)

variable {epoch m month n year : Nat} {dt : RtcDatetime}

theorem daysBeforeYear_succ (h : epochYear ≤ year) :
    daysBeforeYear (year + 1) = daysBeforeYear year + daysInYear year := by
  have hcount : year + 1 - epochYear = year - epochYear + 1 := Nat.succ_sub h
  have hyear : epochYear + (year - epochYear) = year := Nat.add_sub_of_le h
  unfold daysBeforeYear
  rw [hcount, Periods.total, hyear]

theorem daysBeforeMonth_succ (year : Nat) (h : 1 ≤ month) :
    daysBeforeMonth (month + 1) year = daysBeforeMonth month year + daysInMonth month year := by
  have hcount : month + 1 - 1 = month - 1 + 1 := by omega
  have hmonth : 1 + (month - 1) = month := by omega
  unfold daysBeforeMonth
  rw [hcount, Periods.total, hmonth]

theorem daysBeforeMonth_mono (year : Nat) (h : m ≤ n) :
    daysBeforeMonth m year ≤ daysBeforeMonth n year :=
  Periods.total_mono 1 (Nat.sub_le_sub_right h 1)

theorem daysBeforeYear_mono (h : m ≤ n) : daysBeforeYear m ≤ daysBeforeYear n :=
  Periods.total_mono epochYear (Nat.sub_le_sub_right h epochYear)

theorem daysBeforeMonth_year (year : Nat) : daysBeforeMonth 13 year = daysInYear year := by
  unfold daysBeforeMonth daysInYear
  cases hleap : isLeapYear year <;> simp [Periods.total, daysInMonth, hleap]

theorem daysBeforeYear_2000 : daysBeforeYear 2000 = 10957 := by decide +kernel

theorem daysBeforeYear_2100 : daysBeforeYear 2100 = 47482 := by decide +kernel

theorem RtcDatetime.Valid.dayNumber_lt (h : dt.Valid) :
    dt.dayNumber < daysBeforeYear (dt.year + 1) := by
  have hday : dt.day - 1 < daysInMonth dt.month dt.year := by
    have hpos := h.day_pos
    have hle := h.day_le
    omega
  have hmonth := daysBeforeMonth_mono dt.year (Nat.succ_le_succ h.month_le)
  rw [Nat.succ_eq_add_one, daysBeforeMonth_succ dt.year h.month_pos,
    daysBeforeMonth_year] at hmonth
  have hyear : epochYear ≤ dt.year := Nat.le_trans (by decide) h.year_ge
  rw [daysBeforeYear_succ hyear]
  unfold RtcDatetime.dayNumber
  omega

theorem RtcDatetime.Valid.epoch_eq (h : dt.Valid) :
    datetimeToEpoch dt =
      dt.dayNumber * secondsPerDay + dt.hour * secondsPerHour + dt.minute * secondsPerMinute +
        dt.second := by
  have hbefore := h.dayNumber_lt
  have hlast := daysBeforeYear_mono (Nat.succ_le_succ h.year_le)
  rw [Nat.succ_eq_add_one, Nat.succ_eq_add_one, daysBeforeYear_2100] at hlast
  have hday := h.day_pos
  have hhour := h.hour_lt
  have hminute := h.minute_lt
  have hsecond := h.second_lt
  have hnumber : dt.dayNumber =
      daysBeforeYear dt.year + daysBeforeMonth dt.month dt.year + (dt.day - 1) := rfl
  unfold datetimeToEpoch
  change (_ * 86400 + dt.hour * 3600 + dt.minute * 60 + dt.second) % 4294967296 =
    dt.dayNumber * 86400 + dt.hour * 3600 + dt.minute * 60 + dt.second
  omega

/-!
## From the epoch to the calendar and back
-/

abbrev timeProviderEpochMin : Nat := 946684800
abbrev timeProviderEpochMax : Nat := 4102444799

theorem locate_year (hmin : timeProviderEpochMin ≤ epoch) (hmax : epoch ≤ timeProviderEpochMax) :
    let inYear := Periods.locate daysInYear (epochYearLimit - epochYear) epochYear
      (epoch / 60 / 60 / 24)
    2000 ≤ inYear.1 ∧ inYear.1 < 2100 ∧ inYear.2 < daysInYear inYear.1 ∧
      daysBeforeYear inYear.1 + inYear.2 = epoch / 60 / 60 / 24 := by
  have hdays_ge : daysBeforeYear 2000 ≤ epoch / 60 / 60 / 24 := by
    rw [daysBeforeYear_2000]
    change 946684800 ≤ epoch at hmin
    omega
  have hdays_lt : epoch / 60 / 60 / 24 < daysBeforeYear 2100 := by
    rw [daysBeforeYear_2100]
    change epoch ≤ 4102444799 at hmax
    omega
  rcases @Periods.locate_spec daysInYear (epochYearLimit - epochYear) epochYear
    (epoch / 60 / 60 / 24) with ⟨n, hyear, -, hsum, hin⟩
  have hyear_lt : (Periods.locate daysInYear (epochYearLimit - epochYear) epochYear
      (epoch / 60 / 60 / 24)).1 < 2100 := Periods.locate_lt (m := 130) hdays_lt
  have hn : n < epochYearLimit - epochYear := by
    rw [hyear] at hyear_lt
    change 1970 + n < 2100 at hyear_lt
    change n < 136
    omega
  dsimp only
  refine ⟨Periods.le_locate (m := 30) (by decide) hdays_ge, hyear_lt, ?_, ?_⟩
  · rw [hyear]
    exact hin hn
  · have hcount : epochYear + n - epochYear = n := Nat.add_sub_cancel_left epochYear n
    rw [hyear]
    unfold daysBeforeYear
    rw [hcount]
    exact hsum

theorem locate_month {offset : Nat} (h : offset < daysInYear year) :
    let inMonth := Periods.locate (daysInMonth · year) monthsPerYear 1 offset
    1 ≤ inMonth.1 ∧ inMonth.1 ≤ 12 ∧ inMonth.2 < daysInMonth inMonth.1 year ∧
      daysBeforeMonth inMonth.1 year + inMonth.2 = offset := by
  rw [← daysBeforeMonth_year] at h
  rcases @Periods.locate_spec (daysInMonth · year) monthsPerYear 1 offset with
    ⟨n, hmonth, -, hsum, hin⟩
  have hmonth_lt : (Periods.locate (daysInMonth · year) monthsPerYear 1 offset).1 < 13 :=
    Periods.locate_lt (m := 12) h
  have hn : n < monthsPerYear := by
    rw [hmonth] at hmonth_lt
    change n < 12
    omega
  dsimp only
  refine ⟨?_, Nat.le_of_lt_succ hmonth_lt, ?_, ?_⟩
  · rw [hmonth]
    exact Nat.le_add_right 1 n
  · rw [hmonth]
    exact hin hn
  · have hcount : 1 + n - 1 = n := Nat.add_sub_cancel_left 1 n
    rw [hmonth]
    unfold daysBeforeMonth
    rw [hcount]
    exact hsum

theorem epochToDatetime_valid (hmin : timeProviderEpochMin ≤ epoch)
    (hmax : epoch ≤ timeProviderEpochMax) : (epochToDatetime epoch).Valid := by
  rcases locate_year hmin hmax with ⟨hyear_ge, hyear_lt, hoffset, -⟩
  rcases locate_month hoffset with ⟨hmonth_pos, hmonth_le, hday, -⟩
  exact
    { year_ge := hyear_ge
      year_le := Nat.le_of_lt_succ hyear_lt
      month_pos := hmonth_pos
      month_le := hmonth_le
      day_pos := Nat.succ_pos _
      day_le := hday
      hour_lt := Nat.mod_lt _ (by decide)
      minute_lt := Nat.mod_lt _ (by decide)
      second_lt := Nat.mod_lt _ (by decide) }

theorem datetimeToEpoch_epochToDatetime (hmin : timeProviderEpochMin ≤ epoch)
    (hmax : epoch ≤ timeProviderEpochMax) : datetimeToEpoch (epochToDatetime epoch) = epoch := by
  have hnumber : (epochToDatetime epoch).dayNumber = epoch / 60 / 60 / 24 := by
    rcases locate_year hmin hmax with ⟨-, -, hoffset, hdays⟩
    rcases locate_month hoffset with ⟨-, -, -, hmonths⟩
    unfold RtcDatetime.dayNumber epochToDatetime
    dsimp only
    rw [Nat.add_sub_cancel, Nat.add_assoc, hmonths]
    exact hdays
  rw [(epochToDatetime_valid hmin hmax).epoch_eq, hnumber]
  change epoch / 60 / 60 / 24 * 86400 + epoch / 60 / 60 % 24 * 3600 + epoch / 60 % 60 * 60 +
    epoch % 60 = epoch
  omega

/-!
## The calendar counts
-/

/-- The day after: the last of its year begins the next one, that of 2099 begins 2000. -/
def RtcDatetime.nextDay (dt : RtcDatetime) : RtcDatetime :=
  if dt.day < daysInMonth dt.month dt.year then { dt with day := dt.day + 1 }
  else if dt.month < 12 then { dt with month := dt.month + 1, day := 1 }
  else if dt.year < 2099 then { dt with year := dt.year + 1, month := 1, day := 1 }
  else { dt with year := 2000, month := 1, day := 1 }

/-- One second later, as the RTC counts. -/
def RtcDatetime.nextSecond (dt : RtcDatetime) : RtcDatetime :=
  if dt.second < 59 then { dt with second := dt.second + 1 }
  else if dt.minute < 59 then { dt with minute := dt.minute + 1, second := 0 }
  else if dt.hour < 23 then { dt with hour := dt.hour + 1, minute := 0, second := 0 }
  else { dt with hour := 0, minute := 0, second := 0 }.nextDay

theorem daysInMonth_pos (year : Nat) (hpos : 1 ≤ month) (hle : month ≤ 12) :
    1 ≤ daysInMonth month year := by
  unfold daysInMonth
  split
  · decide
  · have hbase : forall m, m ≤ 12 -> 1 ≤ m ->
        1 ≤ [31, 28, 31, 30, 31, 30, 31, 31, 30, 31, 30, 31].getD (m - 1) 0 := by decide
    exact hbase month hle hpos

theorem RtcDatetime.Valid.nextDay (h : dt.Valid) : dt.nextDay.Valid := by
  unfold RtcDatetime.nextDay
  split
  · rename_i hday
    exact { h with day_pos := Nat.succ_pos _, day_le := hday }
  · split
    · rename_i hmonth
      exact
        { h with
          month_pos := Nat.succ_pos _
          month_le := hmonth
          day_pos := Nat.le_refl 1
          day_le := daysInMonth_pos _ (Nat.succ_pos _) hmonth }
    · split
      · rename_i hyear
        exact
          { h with
            year_ge := Nat.le_succ_of_le h.year_ge
            year_le := hyear
            month_pos := Nat.le_refl 1
            month_le := Nat.le_of_ble_eq_true rfl
            day_pos := Nat.le_refl 1
            day_le := daysInMonth_pos _ (Nat.le_refl 1) (Nat.le_of_ble_eq_true rfl) }
      · exact
          { h with
            year_ge := Nat.le_refl 2000
            year_le := Nat.le_of_ble_eq_true rfl
            month_pos := Nat.le_refl 1
            month_le := Nat.le_of_ble_eq_true rfl
            day_pos := Nat.le_refl 1
            day_le := daysInMonth_pos _ (Nat.le_refl 1) (Nat.le_of_ble_eq_true rfl) }

theorem RtcDatetime.Valid.nextDay_dayNumber (h : dt.Valid) :
    dt.nextDay.dayNumber = dt.dayNumber + 1 ∨
      (dt.dayNumber = 47481 ∧ dt.nextDay.dayNumber = 10957) := by
  have hpos := h.day_pos
  unfold RtcDatetime.nextDay
  split
  · left
    unfold RtcDatetime.dayNumber
    dsimp only
    omega
  · rename_i hday
    have hlastDay : dt.day = daysInMonth dt.month dt.year :=
      Nat.le_antisymm h.day_le (Nat.le_of_not_lt hday)
    have hnextMonth := daysBeforeMonth_succ dt.year h.month_pos
    split
    · left
      unfold RtcDatetime.dayNumber
      dsimp only
      rw [hnextMonth]
      omega
    · rename_i hmonth
      have hlastMonth : dt.month = 12 := Nat.le_antisymm h.month_le (Nat.le_of_not_lt hmonth)
      rw [hlastMonth, daysBeforeMonth_year, ← hlastMonth] at hnextMonth
      have hyear : epochYear ≤ dt.year := Nat.le_trans (by decide) h.year_ge
      have hnextYear := daysBeforeYear_succ hyear
      have hfirst : forall year, daysBeforeMonth 1 year = 0 := fun _ => rfl
      split
      · left
        unfold RtcDatetime.dayNumber
        dsimp only
        rw [hnextYear, hfirst]
        omega
      · rename_i hlast
        have hlastYear : dt.year = 2099 := Nat.le_antisymm h.year_le (Nat.le_of_not_lt hlast)
        rw [hlastYear] at hnextYear
        rw [daysBeforeYear_2100] at hnextYear
        right
        constructor
        · unfold RtcDatetime.dayNumber
          rw [hlastYear] at hnextMonth hlastDay ⊢
          omega
        · change daysBeforeYear 2000 + 0 + 0 = 10957
          rw [daysBeforeYear_2000]

theorem RtcDatetime.Valid.midnight (h : dt.Valid) :
    RtcDatetime.Valid { dt with hour := 0, minute := 0, second := 0 } :=
  { h with
    hour_lt := Nat.lt_of_sub_eq_succ rfl
    minute_lt := Nat.lt_of_sub_eq_succ rfl
    second_lt := Nat.lt_of_sub_eq_succ rfl }

theorem RtcDatetime.Valid.nextSecond (h : dt.Valid) : dt.nextSecond.Valid := by
  unfold RtcDatetime.nextSecond
  split
  · rename_i hsecond
    exact { h with second_lt := Nat.succ_lt_succ hsecond }
  · split
    · rename_i hminute
      exact
        { h with
          minute_lt := Nat.succ_lt_succ hminute
          second_lt := Nat.lt_of_sub_eq_succ rfl }
    · split
      · rename_i hhour
        exact
          { h with
            hour_lt := Nat.succ_lt_succ hhour
            minute_lt := Nat.lt_of_sub_eq_succ rfl
            second_lt := Nat.lt_of_sub_eq_succ rfl }
      · exact h.midnight.nextDay

theorem RtcDatetime.nextDay_clock (dt : RtcDatetime) :
    dt.nextDay.hour = dt.hour ∧ dt.nextDay.minute = dt.minute ∧ dt.nextDay.second = dt.second := by
  unfold RtcDatetime.nextDay
  split
  · exact ⟨rfl, rfl, rfl⟩
  · split
    · exact ⟨rfl, rfl, rfl⟩
    · split
      · exact ⟨rfl, rfl, rfl⟩
      · exact ⟨rfl, rfl, rfl⟩

theorem RtcDatetime.Valid.nextSecond_epoch (h : dt.Valid) :
    datetimeToEpoch dt.nextSecond = datetimeToEpoch dt + 1 ∨
      (datetimeToEpoch dt = timeProviderEpochMax ∧
        datetimeToEpoch dt.nextSecond = timeProviderEpochMin) := by
  have hhour := h.hour_lt
  have hminute := h.minute_lt
  have hsecond := h.second_lt
  rw [h.nextSecond.epoch_eq, h.epoch_eq]
  unfold RtcDatetime.nextSecond
  split
  · left
    change dt.dayNumber * 86400 + dt.hour * 3600 + dt.minute * 60 + (dt.second + 1) = _
    rw [← Nat.add_assoc]
  · split
    · left
      change dt.dayNumber * 86400 + dt.hour * 3600 + (dt.minute + 1) * 60 + 0 =
        dt.dayNumber * 86400 + dt.hour * 3600 + dt.minute * 60 + dt.second + 1
      omega
    · split
      · left
        change dt.dayNumber * 86400 + (dt.hour + 1) * 3600 + 0 * 60 + 0 =
          dt.dayNumber * 86400 + dt.hour * 3600 + dt.minute * 60 + dt.second + 1
        omega
      · have hnumber : RtcDatetime.dayNumber { dt with hour := 0, minute := 0, second := 0 } =
            dt.dayNumber := rfl
        rcases RtcDatetime.nextDay_clock { dt with hour := 0, minute := 0, second := 0 } with
          ⟨hclock, hmin, hsec⟩
        rw [hclock, hmin, hsec]
        change (_ * 86400 + 0 * 3600 + 0 * 60 + 0 = dt.dayNumber * 86400 + dt.hour * 3600 +
            dt.minute * 60 + dt.second + 1) ∨
          (dt.dayNumber * 86400 + dt.hour * 3600 + dt.minute * 60 + dt.second = 4102444799 ∧
            _ * 86400 + 0 * 3600 + 0 * 60 + 0 = 946684800)
        rcases h.midnight.nextDay_dayNumber with hnext | ⟨hlast, hwrap⟩
        · rw [hnumber] at hnext
          left
          rw [hnext]
          omega
        · rw [hnumber] at hlast
          right
          rw [hlast, hwrap]
          omega

end EnvMonitor.Gateway
