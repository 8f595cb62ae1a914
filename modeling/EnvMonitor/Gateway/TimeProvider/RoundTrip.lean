import EnvMonitor.Calendar.Loop
import EnvMonitor.Gateway.TimeProvider.Provider

/-!
# Setting the clock and reading it back

An epoch of the years the RTC can hold goes through the calendar and the BCD fields of the
registers and comes back as it was.
-/

namespace EnvMonitor.Gateway

/-!
## The order of the dates
-/

/-- Earlier in the calendar and on the clock. -/
def RtcDatetime.Before (a b : RtcDatetime) : Prop :=
  a.year < b.year ∨ (a.year = b.year ∧
    (a.month < b.month ∨ (a.month = b.month ∧
      (a.day < b.day ∨ (a.day = b.day ∧
        (a.hour < b.hour ∨ (a.hour = b.hour ∧
          (a.minute < b.minute ∨ (a.minute = b.minute ∧ a.second < b.second)))))))))

section Order

variable {a b : RtcDatetime}

theorem RtcDatetime.before_total (a b : RtcDatetime) : a.Before b ∨ a = b ∨ b.Before a := by
  by_cases hyear : a.year = b.year
  · by_cases hmonth : a.month = b.month
    · by_cases hday : a.day = b.day
      · by_cases hhour : a.hour = b.hour
        · by_cases hminute : a.minute = b.minute
          · by_cases hsecond : a.second = b.second
            · exact .inr (.inl (RtcDatetime.ext hyear hmonth hday hhour hminute hsecond))
            · unfold Before
              omega
          · unfold Before
            omega
        · unfold Before
          omega
      · unfold Before
        omega
    · unfold Before
      omega
  · unfold Before
    omega

theorem RtcDatetime.Valid.dayNumber_mono (ha : a.Valid)
    (h : a.year < b.year ∨ (a.year = b.year ∧
      (a.month < b.month ∨ (a.month = b.month ∧ a.day < b.day)))) :
    a.dayNumber < b.dayNumber := by
  rcases h with hyear | ⟨hyear, hmonth | ⟨hmonth, hday⟩⟩
  · have hbefore := ha.dayNumber_lt
    have hmono : daysBeforeYear (a.year + 1) ≤ daysBeforeYear b.year :=
      daysBeforeYear_mono (Nat.succ_le_of_lt hyear)
    unfold dayNumber at hbefore ⊢
    omega
  · have hmono := daysBeforeMonth_mono a.year (Nat.succ_le_of_lt hmonth)
    rw [Nat.succ_eq_add_one, daysBeforeMonth_succ a.year ha.month_pos] at hmono
    have hpos := ha.day_pos
    have hle := ha.day_le
    unfold dayNumber
    rw [← hyear]
    omega
  · have hpos := ha.day_pos
    unfold dayNumber
    rw [hyear, hmonth]
    omega

theorem RtcDatetime.Valid.epoch_lt (ha : a.Valid) (hb : b.Valid) (h : a.Before b) :
    datetimeToEpoch a < datetimeToEpoch b := by
  rw [ha.epoch_eq, hb.epoch_eq]
  change a.dayNumber * 86400 + a.hour * 3600 + a.minute * 60 + a.second <
    b.dayNumber * 86400 + b.hour * 3600 + b.minute * 60 + b.second
  have hhour := ha.hour_lt
  have hminute := ha.minute_lt
  have hsecond := ha.second_lt
  by_cases hday : a.year = b.year ∧ a.month = b.month ∧ a.day = b.day
  · rcases hday with ⟨hyear, hmonth, hday⟩
    have hnumber : a.dayNumber = b.dayNumber := by
      unfold dayNumber
      rw [hyear, hmonth, hday]
    unfold Before at h
    omega
  · have hnumber : a.dayNumber < b.dayNumber := by
      apply ha.dayNumber_mono
      unfold Before at h
      omega
    omega

end Order

theorem epochToDatetime_mono {e e' : Nat} (hmin : timeProviderEpochMin <= e) (hlt : e < e')
    (hmax : e' <= timeProviderEpochMax) : (epochToDatetime e).Before (epochToDatetime e') := by
  have hmax' : e <= timeProviderEpochMax := Nat.le_trans (Nat.le_of_lt hlt) hmax
  have hmin' : timeProviderEpochMin <= e' := Nat.le_trans hmin (Nat.le_of_lt hlt)
  have hfirst := datetimeToEpoch_epochToDatetime hmin hmax'
  have hsecond := datetimeToEpoch_epochToDatetime hmin' hmax
  rcases RtcDatetime.before_total (epochToDatetime e) (epochToDatetime e') with
    hbefore | hsame | hafter
  · exact hbefore
  · rw [hsame, hsecond] at hfirst
    omega
  · have hback := (epochToDatetime_valid hmin' hmax).epoch_lt (epochToDatetime_valid hmin hmax')
      hafter
    omega

/-!
## The registers
-/

/-- Two decimal digits. -/
def IsBcd (value : Nat) : Prop :=
  value / 16 <= 9 ∧ value % 16 <= 9

/-- Every field of the two registers is a pair of decimal digits, and together they are a date
of the calendar. -/
def Rtc.FieldsValid (rtc : Rtc) : Prop :=
  IsBcd (rtc.tr &&& 0x7F) ∧ IsBcd ((rtc.tr >>> 8) &&& 0x7F) ∧ IsBcd ((rtc.tr >>> 16) &&& 0x3F) ∧
    IsBcd (rtc.dr &&& 0x3F) ∧ IsBcd ((rtc.dr >>> 8) &&& 0x1F) ∧
    IsBcd ((rtc.dr >>> 16) &&& 0xFF) ∧ rtc.datetime.Valid

theorem isBcd_rtcBinToBcd {bin : Nat} (h : bin < 100) : IsBcd (rtcBinToBcd bin) := by
  have hall : forall n, n < 100 ->
      rtcBinToBcd n / 16 <= 9 ∧ rtcBinToBcd n % 16 <= 9 := by decide +kernel
  exact hall bin h

theorem Rtc.write_fieldsValid (rtc : Rtc) {dt : RtcDatetime} (h : dt.Valid) :
    (rtc.write dt).FieldsValid := by
  rcases rtc.write_clock h with ⟨hhour, hminute, hsecond⟩
  rcases rtc.write_date h with ⟨hyear, hmonth, hday⟩
  have hyear_ge := h.year_ge
  have hyear_le := h.year_le
  have hmonth_le := h.month_le
  have hday_le : dt.day ≤ 31 := Nat.le_trans h.day_le (daysInMonth_le _ _)
  have hhour_lt := h.hour_lt
  have hminute_lt := h.minute_lt
  have hsecond_lt := h.second_lt
  refine ⟨?_, ?_, ?_, ?_, ?_, ?_, ?_⟩
  · change IsBcd ((rtc.write dt).tr &&& (2 ^ 7 - 1))
    rw [hsecond]
    exact isBcd_rtcBinToBcd (by omega)
  · change IsBcd ((rtc.write dt).tr >>> 8 &&& (2 ^ 7 - 1))
    rw [hminute]
    exact isBcd_rtcBinToBcd (by omega)
  · change IsBcd ((rtc.write dt).tr >>> 16 &&& (2 ^ 6 - 1))
    rw [hhour]
    exact isBcd_rtcBinToBcd (by omega)
  · change IsBcd ((rtc.write dt).dr &&& (2 ^ 6 - 1))
    rw [hday]
    exact isBcd_rtcBinToBcd (by omega)
  · change IsBcd ((rtc.write dt).dr >>> 8 &&& (2 ^ 5 - 1))
    rw [hmonth]
    exact isBcd_rtcBinToBcd (by omega)
  · change IsBcd ((rtc.write dt).dr >>> 16 &&& (2 ^ 8 - 1))
    rw [hyear]
    exact isBcd_rtcBinToBcd (by omega)
  · rw [rtc.datetime_write h]
    exact h

/-!
## Setting and reading
-/

/-- The RTC answers every poll in time. -/
abbrev rtcReady : RtcFlags := ⟨true, true⟩

/-- The check `time_provider_set_time` makes before it writes a synchronised clock. -/
def Clock.Near (clock : Clock) (epoch : Nat) : Prop :=
  clock.provider.syncState = .synchronised ->
    epochDelta epoch (datetimeToEpoch clock.rtc.datetime) <= timeProviderSanityDeltaS

section Setting

variable {clock after : Clock} {epoch : Nat} {flags : RtcFlags} {rsf : Bool}

theorem timeProviderWrite_ok
    (h : timeProviderWrite flags epoch clock = (.ok (), after)) :
    after.rtc.tr = (clock.rtc.write (epochToDatetime epoch)).tr ∧
      after.rtc.dr = (clock.rtc.write (epochToDatetime epoch)).dr ∧
      after.provider = { clock.provider with syncState := .synchronised } := by
  unfold timeProviderWrite rtcSetTime at h
  split at h
  · cases h
  · rename_i written rtc hset
    have hrtc : rtc = clock.rtc.write (epochToDatetime epoch) := by
      split at hset
      · cases hset
      · split at hset
        · cases hset
        · cases hset
          rfl
    cases h
    rw [hrtc]
    exact ⟨rfl, rfl, rfl⟩

theorem timeProviderSetTime_ok
    (h : timeProviderSetTime rsf flags epoch clock = (.ok (), after)) :
    clock.provider.initialised = true ∧ timeProviderWrite flags epoch clock = (.ok (), after) := by
  unfold timeProviderSetTime at h
  split at h
  · cases h
  · rename_i hinit
    have hinitialised : clock.provider.initialised = true := by
      simpa using hinit
    refine ⟨hinitialised, ?_⟩
    split at h
    · cases h
    · split at h
      · split at h
        · cases h
        · split at h
          · cases h
          · exact h
      · exact h

theorem timeProviderSetTime_near (hinit : clock.provider.initialised = true)
    (hmin : timeProviderEpochMin <= epoch) (hmax : epoch <= timeProviderEpochMax)
    (hnear : clock.Near epoch) : (timeProviderSetTime true rtcReady epoch clock).1 = .ok () := by
  have hrange : ¬ (epoch < timeProviderEpochMin ∨ timeProviderEpochMax < epoch) := by
    omega
  have hwrite : (timeProviderWrite rtcReady epoch clock).1 = .ok () := rfl
  unfold timeProviderSetTime
  rw [if_neg (by rw [hinit]; decide), if_neg hrange]
  by_cases hsync : clock.provider.syncState = .synchronised
  · rw [if_pos hsync]
    change (if timeProviderSanityDeltaS < epochDelta epoch (datetimeToEpoch clock.rtc.datetime)
      then _ else _ : Except TimeProviderErr Unit × Clock).1 = _
    rw [if_neg (Nat.not_lt.mpr (hnear hsync))]
    exact hwrite
  · rw [if_neg hsync]
    exact hwrite

theorem timeProviderGet_set (hmin : timeProviderEpochMin <= epoch)
    (hmax : epoch <= timeProviderEpochMax)
    (h : timeProviderSetTime rsf flags epoch clock = (.ok (), after)) (uptime : Nat) :
    timeProviderGet true uptime after = .ok ⟨epoch, .synchronised⟩ ∧ after.rtc.FieldsValid := by
  rcases timeProviderSetTime_ok h with ⟨hinit, hwrite⟩
  rcases timeProviderWrite_ok hwrite with ⟨htr, hdr, hprovider⟩
  have hvalid := epochToDatetime_valid hmin hmax
  have hdatetime : after.rtc.datetime = epochToDatetime epoch := by
    have hsame : after.rtc.datetime =
        (clock.rtc.write (epochToDatetime epoch)).datetime := by
      unfold Rtc.datetime
      rw [htr, hdr]
    exact hsame.trans (clock.rtc.datetime_write hvalid)
  constructor
  · unfold timeProviderGet rtcGetTime
    rw [hprovider, if_neg (by rw [hinit]; decide), if_pos rfl, if_pos rfl]
    change Except.ok (⟨datetimeToEpoch after.rtc.datetime, .synchronised⟩ : TimeProviderTs) = _
    rw [hdatetime, datetimeToEpoch_epochToDatetime hmin hmax]
  · have hfields := clock.rtc.write_fieldsValid hvalid
    unfold Rtc.FieldsValid at hfields ⊢
    rw [htr, hdr, hdatetime]
    rw [clock.rtc.datetime_write hvalid] at hfields
    exact hfields

end Setting

/-!
## The loops end
-/

/-- The loops of both conversions end where the model says, for every 32-bit epoch; what they
leave fits the fields of `rtc_datetime_t`. -/
structure ConversionsEnd (epoch : Nat) : Prop where
  years : Loop.Ends (Loop.walkStep daysInYear epochYearLimit)
    (epochYear, epoch / 60 / 60 / 24)
    (Periods.locate daysInYear (epochYearLimit - epochYear) epochYear (epoch / 60 / 60 / 24))
  months : forall year days,
    Loop.Ends (Loop.walkStep (daysInMonth · year) (monthsPerYear + 1)) (1, days)
      (Periods.locate (daysInMonth · year) monthsPerYear 1 days)
  fits : (epochToDatetime epoch).year < 2 ^ 16 ∧ (epochToDatetime epoch).month < 2 ^ 8 ∧
    (epochToDatetime epoch).day < 2 ^ 8
  yearsBack : Loop.Ends (Loop.sumStep daysInYear (epochToDatetime epoch).year) (epochYear, 0)
    ((epochToDatetime epoch).year, daysBeforeYear (epochToDatetime epoch).year)
  monthsBack : forall days, Loop.Ends
    (Loop.sumStep (daysInMonth · (epochToDatetime epoch).year) (epochToDatetime epoch).month)
    (1, days) ((epochToDatetime epoch).month,
      days + daysBeforeMonth (epochToDatetime epoch).month (epochToDatetime epoch).year)

theorem daysBeforeYear_limit : daysBeforeYear epochYearLimit = 49673 := by decide +kernel

theorem locate_year_all {epoch : Nat} (h : epoch < 2 ^ 32) :
    let inYear := Periods.locate daysInYear (epochYearLimit - epochYear) epochYear
      (epoch / 60 / 60 / 24)
    epochYear <= inYear.1 ∧ inYear.1 <= epochYearLimit ∧ inYear.2 < daysInYear inYear.1 := by
  rcases @Periods.locate_spec daysInYear (epochYearLimit - epochYear) epochYear
    (epoch / 60 / 60 / 24) with ⟨n, hyear, hn, hsum, hin⟩
  dsimp only
  rw [hyear]
  change n <= 136 at hn
  refine ⟨Nat.le_add_right _ _, ?_, ?_⟩
  · change 1970 + n <= 2106
    omega
  · by_cases hlast : n = 136
    · subst hlast
      have htotal : Periods.total daysInYear epochYear 136 = 49673 := daysBeforeYear_limit
      have hdays : daysInYear (epochYear + 136) = 365 := by decide
      rw [htotal] at hsum
      rw [hdays]
      omega
    · exact hin (by change n < 136; omega)

theorem conversionsEnd {epoch : Nat} (h : epoch < 2 ^ 32) : ConversionsEnd epoch := by
  rcases locate_year_all h with ⟨hyear_ge, hyear_le, hoffset⟩
  rcases locate_month hoffset with ⟨hmonth_pos, hmonth_le, hday, -⟩
  have hlast := daysInMonth_le (Periods.locate (daysInMonth · (Periods.locate daysInYear
    (epochYearLimit - epochYear) epochYear (epoch / 60 / 60 / 24)).1) monthsPerYear 1
    (Periods.locate daysInYear (epochYearLimit - epochYear) epochYear
      (epoch / 60 / 60 / 24)).2).1 (Periods.locate daysInYear (epochYearLimit - epochYear)
        epochYear (epoch / 60 / 60 / 24)).1
  refine ⟨Loop.walk_ends daysInYear epochYearLimit _ _, ?_, ⟨?_, ?_, ?_⟩, ?_, ?_⟩
  · intro year days
    exact Loop.walk_ends (daysInMonth · year) (monthsPerYear + 1) 1 days
  · exact Nat.lt_of_le_of_lt hyear_le (by decide)
  · exact Nat.lt_of_le_of_lt hmonth_le (by decide)
  · exact Nat.lt_of_le_of_lt (Nat.le_trans (Nat.succ_le_of_lt hday) hlast) (by decide)
  · have hsum := Loop.sum_ends daysInYear (epochToDatetime epoch).year epochYear 0 hyear_ge
    rw [Nat.zero_add] at hsum
    exact hsum
  · intro days
    exact Loop.sum_ends (daysInMonth · (epochToDatetime epoch).year)
      (epochToDatetime epoch).month 1 days hmonth_pos

/-!
## The round trip
-/

/-- What setting the clock to an epoch comes to: it is taken unless a synchronised clock is too
far away, and whenever it is taken it is read back as it was. -/
structure SetsAndReadsBack (epoch : Nat) : Prop where
  taken : forall clock : Clock, clock.provider.initialised = true -> clock.Near epoch ->
    (timeProviderSetTime true rtcReady epoch clock).1 = .ok ()
  readBack : forall (clock after : Clock) rsf flags uptime,
    timeProviderSetTime rsf flags epoch clock = (.ok (), after) ->
    timeProviderGet true uptime after = .ok ⟨epoch, .synchronised⟩ ∧ after.rtc.FieldsValid
  decoded : forall rtc : Rtc, (rtc.write (epochToDatetime epoch)).FieldsValid ∧
    datetimeToEpoch (rtc.write (epochToDatetime epoch)).datetime = epoch

/-- The clock keeps every epoch the RTC can hold, later epochs are later dates, and the
conversions end for every 32-bit epoch. -/
theorem clock_round_trip :
    (forall epoch, timeProviderEpochMin <= epoch -> epoch <= timeProviderEpochMax ->
      SetsAndReadsBack epoch) ∧
    (forall epoch later, timeProviderEpochMin <= epoch -> epoch < later ->
      later <= timeProviderEpochMax ->
      (epochToDatetime epoch).Before (epochToDatetime later)) ∧
    (forall epoch, epoch < 2 ^ 32 -> ConversionsEnd epoch) := by
  refine ⟨?_, ?_, ?_⟩
  · intro epoch hmin hmax
    have hvalid := epochToDatetime_valid hmin hmax
    refine ⟨?_, ?_, ?_⟩
    · intro clock hinit hnear
      exact timeProviderSetTime_near hinit hmin hmax hnear
    · intro clock after rsf flags uptime h
      exact timeProviderGet_set hmin hmax h uptime
    · intro rtc
      rw [rtc.datetime_write hvalid]
      exact ⟨rtc.write_fieldsValid hvalid, datetimeToEpoch_epochToDatetime hmin hmax⟩
  · intro epoch later hmin hlt hmax
    exact epochToDatetime_mono hmin hlt hmax
  · intro epoch h
    exact conversionsEnd h

/-- An RTC behind a loss of its backup supply, and a provider that is not synchronised. -/
def freshClock : Clock :=
  ⟨⟨rtcDefaultTr, rtcDefaultDr, fun _ => 0⟩, ⟨true, .unsynchronised⟩⟩

/-- A leap day of the RTC's years, set on a fresh clock and read back. -/
theorem clock_round_trip_leapDay :
    timeProviderGet true 0 (timeProviderSetTime true rtcReady 1709208000 freshClock).2 =
      .ok ⟨1709208000, .synchronised⟩ :=
  ((clock_round_trip.1 1709208000 (by decide) (by decide)).readBack freshClock _ true rtcReady 0
    (Prod.ext ((clock_round_trip.1 1709208000 (by decide) (by decide)).taken freshClock rfl
      (fun h => nomatch h)) rfl)).1

end EnvMonitor.Gateway
