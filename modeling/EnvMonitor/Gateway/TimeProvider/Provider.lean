import EnvMonitor.Gateway.TimeProvider.Calendar

/-!
# RTC driver and TimeProvider

The calendar and backup registers of the RTC, and the provider that reads and sets the clock.
-/

namespace EnvMonitor.Gateway

/-- The registers of the RTC that the firmware uses; they outlive a reset. -/
structure Rtc where
  tr : Nat
  dr : Nat
  bkp : Nat -> Nat

inductive RtcErr where
  | initTimeout
  | syncTimeout
  | backupBounds
  deriving DecidableEq, Repr

abbrev rtcBackupMaxIdx : Nat := 31
abbrev rtcDefaultTr : Nat := 0x00000000
abbrev rtcDefaultDr : Nat := 0x00002101

def rtcBcdToBin (bcd : Nat) : Nat := ((bcd >>> 4) * 10 + (bcd &&& 0x0F)) % 256

def rtcBinToBcd (bin : Nat) : Nat := (((bin / 10) <<< 4) ||| (bin % 10)) % 256

/-- The calendar, as `rtc_get_time` unpacks it. -/
def Rtc.datetime (rtc : Rtc) : RtcDatetime where
  second := rtcBcdToBin (rtc.tr &&& 0x7F)
  minute := rtcBcdToBin ((rtc.tr >>> 8) &&& 0x7F)
  hour := rtcBcdToBin ((rtc.tr >>> 16) &&& 0x3F)
  day := rtcBcdToBin (rtc.dr &&& 0x3F)
  month := rtcBcdToBin ((rtc.dr >>> 8) &&& 0x1F)
  year := 2000 + rtcBcdToBin ((rtc.dr >>> 16) &&& 0xFF)

/-- The two registers, as `rtc_set_time` packs and writes them. -/
def Rtc.write (rtc : Rtc) (dt : RtcDatetime) : Rtc :=
  { rtc with
    tr := (rtcBinToBcd dt.hour <<< 16) ||| ((rtcBinToBcd dt.minute <<< 8) |||
      rtcBinToBcd dt.second)
    dr := (rtcBinToBcd ((dt.year - 2000) % 256) <<< 16) ||| ((1 <<< 13) |||
      ((rtcBinToBcd dt.month <<< 8) ||| rtcBinToBcd dt.day)) }

/-- One second passes.  The weekday, which is not read, stays Monday. -/
def Rtc.tick (rtc : Rtc) : Rtc := rtc.write rtc.datetime.nextSecond

/-- The bits of `RTC->ISR` that a call polls for, raised in time or not. -/
structure RtcFlags where
  initf : Bool
  rsf : Bool

/-- `rtc_init` after a reset: the hardware reports the calendar as set up (`INITS`) when its year
is not 0. -/
def rtcInit (rtc : Rtc) : Rtc :=
  if (rtc.dr >>> 16) &&& 0xFF ≠ 0 then rtc
  else { rtc with tr := rtcDefaultTr, dr := rtcDefaultDr }

def rtcGetTime (rsf : Bool) (rtc : Rtc) : Except RtcErr RtcDatetime :=
  if rsf then .ok rtc.datetime else .error .syncTimeout

/-- A time-out of the second poll comes after the registers are written. -/
def rtcSetTime (flags : RtcFlags) (dt : RtcDatetime) (rtc : Rtc) : Except RtcErr Unit × Rtc :=
  if !flags.initf then (.error .initTimeout, rtc)
  else if !flags.rsf then (.error .syncTimeout, rtc.write dt)
  else (.ok (), rtc.write dt)

def rtcReadBackup (idx : Nat) (rtc : Rtc) : Except RtcErr Nat :=
  if rtcBackupMaxIdx < idx then .error .backupBounds else .ok (rtc.bkp idx)

def rtcWriteBackup (idx value : Nat) (rtc : Rtc) : Except RtcErr Unit × Rtc :=
  if rtcBackupMaxIdx < idx then (.error .backupBounds, rtc)
  else (.ok (), { rtc with bkp := Function.update rtc.bkp idx value })

/-!
## TimeProvider
-/

inductive TimeSyncState where
  | unsynchronised
  | synchronised
  deriving DecidableEq, Repr

inductive TimeProviderErr where
  | notInit
  | rtcFail
  deriving DecidableEq, Repr

abbrev timeProviderBkupReg : Nat := 0
abbrev timeProviderSyncMagic : Nat := 0xA5A55A5A
abbrev timeProviderSyncCleared : Nat := 0x00000000
abbrev timeProviderSanityDeltaS : Nat := 86400

structure TimeProvider where
  initialised : Bool
  syncState : TimeSyncState
  deriving DecidableEq, Repr

/-- `time_provider_ts_t` -/
structure TimeProviderTs where
  epoch : Nat
  syncState : TimeSyncState
  deriving DecidableEq, Repr

/-- The clock as the provider sees it. -/
structure Clock where
  rtc : Rtc
  provider : TimeProvider

/-- `epoch_delta` -/
def epochDelta (a b : Nat) : Nat := if b < a then a - b else b - a

def timeProviderInit (rtc : Rtc) : Except TimeProviderErr Unit × TimeProvider :=
  match rtcReadBackup timeProviderBkupReg rtc with
  | .error _ => (.error .rtcFail, ⟨false, .unsynchronised⟩)
  | .ok value =>
      (.ok (), ⟨true, if value = timeProviderSyncMagic then .synchronised else .unsynchronised⟩)

/-- `uptime` is the tick count in seconds. -/
def timeProviderGet (rsf : Bool) (uptime : Nat) (clock : Clock) :
    Except TimeProviderErr TimeProviderTs :=
  if !clock.provider.initialised then .error .notInit
  else if clock.provider.syncState = .synchronised then
    match rtcGetTime rsf clock.rtc with
    | .error _ => .error .rtcFail
    | .ok dt => .ok ⟨datetimeToEpoch dt, clock.provider.syncState⟩
  else .ok ⟨uptime, clock.provider.syncState⟩

/-- The part of `time_provider_set_time` that writes the RTC and the backup flag. -/
def timeProviderWrite (flags : RtcFlags) (newEpoch : Nat) (clock : Clock) :
    Except TimeProviderErr Unit × Clock :=
  match rtcSetTime flags (epochToDatetime newEpoch) clock.rtc with
  | (.error _, rtc) => (.error .rtcFail, { clock with rtc := rtc })
  | (.ok _, rtc) =>
      -- a flag that is not persisted is only logged
      (.ok (), { rtc := (rtcWriteBackup timeProviderBkupReg timeProviderSyncMagic rtc).2,
                 provider := { clock.provider with syncState := .synchronised } })

def timeProviderSetTime (rsf : Bool) (flags : RtcFlags) (newEpoch : Nat) (clock : Clock) :
    Except TimeProviderErr Unit × Clock :=
  if !clock.provider.initialised then (.error .notInit, clock)
  else if newEpoch < timeProviderEpochMin ∨ timeProviderEpochMax < newEpoch then
    (.error .rtcFail, clock)
  else if clock.provider.syncState = .synchronised then
    match rtcGetTime rsf clock.rtc with
    | .error _ => (.error .rtcFail, clock)
    | .ok currentDt =>
        if timeProviderSanityDeltaS < epochDelta newEpoch (datetimeToEpoch currentDt) then
          (.error .rtcFail, clock)
        else timeProviderWrite flags newEpoch clock
  else timeProviderWrite flags newEpoch clock

def timeProviderMarkUnsynchronised (clock : Clock) : Except TimeProviderErr Unit × Clock :=
  if !clock.provider.initialised then (.error .notInit, clock)
  else
    (.ok (), { rtc := (rtcWriteBackup timeProviderBkupReg timeProviderSyncCleared clock.rtc).2,
               provider := { clock.provider with syncState := .unsynchronised } })

/-!
## The registers hold what was written
-/

variable {bin lo low shift width : Nat} {dt : RtcDatetime}

theorem rtcBcdToBin_rtcBinToBcd (h : bin < 100) : rtcBcdToBin (rtcBinToBcd bin) = bin := by
  have hall : forall n, n < 100 -> rtcBcdToBin (rtcBinToBcd n) = n := by decide +kernel
  exact hall bin h

theorem rtcBinToBcd_lt (tens : Nat) (h : bin < 10 * tens) (htens : tens ≤ 10) :
    rtcBinToBcd bin < 16 * tens := by
  have hall : forall t, t ≤ 10 -> forall n, n < 10 * t -> rtcBinToBcd n < 16 * t := by
    decide +kernel
  exact hall tens htens bin h

theorem or_shift_mask (high : Nat) (hlow : low < 2 ^ width) (hwidth : width ≤ shift) :
    ((high <<< shift) ||| low) &&& (2 ^ width - 1) = low := by
  have hshift : low < 2 ^ shift :=
    Nat.lt_of_lt_of_le hlow (Nat.pow_le_pow_right (by decide) hwidth)
  rw [← Nat.shiftLeft_add_eq_or_of_lt hshift, Nat.and_two_pow_sub_one_eq_mod, Nat.shiftLeft_eq,
    Nat.add_mod, Nat.mod_eq_zero_of_dvd (Nat.dvd_mul_left_of_dvd (Nat.pow_dvd_pow 2 hwidth) high),
    Nat.zero_add, Nat.mod_mod, Nat.mod_eq_of_lt hlow]

theorem or_shift_right (high : Nat) (hlow : low < 2 ^ shift) :
    ((high <<< shift) ||| low) >>> shift = high := by
  rw [← Nat.shiftLeft_add_eq_or_of_lt hlow, Nat.shiftRight_eq_div_pow, Nat.shiftLeft_eq,
    Nat.mul_comm, Nat.mul_add_div (Nat.two_pow_pos shift), Nat.div_eq_of_lt hlow, Nat.add_zero]

theorem fields_join (hi mid lo : Nat) :
    (hi <<< 16) ||| ((mid <<< 8) ||| lo) = (((hi <<< 8) ||| mid) <<< 8) ||| lo := by
  rw [Nat.shiftLeft_or_distrib, ← Nat.shiftLeft_add, Nat.or_assoc]

theorem fields_low (hi mid : Nat) (hlo : lo < 2 ^ width) (hwidth : width ≤ 8) :
    ((hi <<< 16) ||| ((mid <<< 8) ||| lo)) &&& (2 ^ width - 1) = lo := by
  rw [fields_join]
  exact or_shift_mask _ hlo hwidth

theorem fields_middle (hi mid : Nat) (hlo : lo < 2 ^ 8) :
    ((hi <<< 16) ||| ((mid <<< 8) ||| lo)) >>> 8 = (hi <<< 8) ||| mid := by
  rw [fields_join]
  exact or_shift_right _ hlo

theorem fields_high (hi : Nat) {mid : Nat} (hmid : mid < 2 ^ 8) (hlo : lo < 2 ^ 8) :
    ((hi <<< 16) ||| ((mid <<< 8) ||| lo)) >>> 16 = hi := by
  have hsplit : ((hi <<< 16) ||| ((mid <<< 8) ||| lo)) >>> (8 + 8) = hi := by
    rw [Nat.shiftRight_add, fields_middle hi mid hlo]
    exact or_shift_right hi hmid
  exact hsplit

theorem or_shift_mask_or (hi mid : Nat) (hlo : lo < 2 ^ width) (hwidth : width ≤ shift) :
    ((hi <<< shift) ||| ((mid <<< width) ||| lo)) &&& (2 ^ width - 1) = lo := by
  have hjoin : (hi <<< shift) ||| ((mid <<< width) ||| lo) =
      (((hi <<< (shift - width)) ||| mid) <<< width) ||| lo := by
    rw [Nat.shiftLeft_or_distrib, ← Nat.shiftLeft_add, Nat.sub_add_cancel hwidth, Nat.or_assoc]
  rw [hjoin]
  exact or_shift_mask _ hlo (Nat.le_refl width)

theorem and_mask_eq {n : Nat} (h : n < 2 ^ width) : n &&& (2 ^ width - 1) = n := by
  rw [Nat.and_two_pow_sub_one_eq_mod, Nat.mod_eq_of_lt h]

theorem daysInMonth_le (month year : Nat) : daysInMonth month year ≤ 31 := by
  unfold daysInMonth
  split
  · decide
  · have hall : forall m, m < 12 ->
        [31, 28, 31, 30, 31, 30, 31, 31, 30, 31, 30, 31].getD m 0 ≤ 31 := by decide
    by_cases hm : month - 1 < 12
    · exact hall (month - 1) hm
    · rw [List.getD_eq_getElem?_getD, List.getElem?_eq_none (Nat.le_of_not_lt hm)]
      exact Nat.zero_le 31

theorem Rtc.datetime_hour (rtc : Rtc) :
    rtc.datetime.hour = rtcBcdToBin ((rtc.tr >>> 16) &&& (2 ^ 6 - 1)) := rfl

theorem Rtc.datetime_minute (rtc : Rtc) :
    rtc.datetime.minute = rtcBcdToBin ((rtc.tr >>> 8) &&& (2 ^ 7 - 1)) := rfl

theorem Rtc.datetime_second (rtc : Rtc) :
    rtc.datetime.second = rtcBcdToBin (rtc.tr &&& (2 ^ 7 - 1)) := rfl

theorem Rtc.datetime_year (rtc : Rtc) :
    rtc.datetime.year = 2000 + rtcBcdToBin ((rtc.dr >>> 16) &&& (2 ^ 8 - 1)) := rfl

theorem Rtc.datetime_month (rtc : Rtc) :
    rtc.datetime.month = rtcBcdToBin ((rtc.dr >>> 8) &&& (2 ^ 5 - 1)) := rfl

theorem Rtc.datetime_day (rtc : Rtc) :
    rtc.datetime.day = rtcBcdToBin (rtc.dr &&& (2 ^ 6 - 1)) := rfl

theorem Rtc.write_tr (rtc : Rtc) (dt : RtcDatetime) :
    (rtc.write dt).tr = (rtcBinToBcd dt.hour <<< 16) |||
      ((rtcBinToBcd dt.minute <<< 8) ||| rtcBinToBcd dt.second) := rfl

theorem Rtc.write_dr (rtc : Rtc) (h : dt.year - 2000 < 256) :
    (rtc.write dt).dr = (rtcBinToBcd (dt.year - 2000) <<< 16) |||
      ((((1 <<< 5) ||| rtcBinToBcd dt.month) <<< 8) ||| rtcBinToBcd dt.day) := by
  unfold Rtc.write
  dsimp only
  rw [Nat.mod_eq_of_lt h, Nat.shiftLeft_or_distrib, ← Nat.shiftLeft_add, Nat.or_assoc]

theorem Rtc.write_clock (rtc : Rtc) (h : dt.Valid) :
    ((rtc.write dt).tr >>> 16) &&& (2 ^ 6 - 1) = rtcBinToBcd dt.hour ∧
      ((rtc.write dt).tr >>> 8) &&& (2 ^ 7 - 1) = rtcBinToBcd dt.minute ∧
      (rtc.write dt).tr &&& (2 ^ 7 - 1) = rtcBinToBcd dt.second := by
  have hhour := h.hour_lt
  have hminute := h.minute_lt
  have hsecond := h.second_lt
  have hhour6 : rtcBinToBcd dt.hour < 2 ^ 6 :=
    Nat.lt_of_lt_of_le (rtcBinToBcd_lt 3 (by omega) (by decide)) (by decide)
  have hminute7 : rtcBinToBcd dt.minute < 2 ^ 7 :=
    Nat.lt_of_lt_of_le (rtcBinToBcd_lt 6 hminute (by decide)) (by decide)
  have hsecond7 : rtcBinToBcd dt.second < 2 ^ 7 :=
    Nat.lt_of_lt_of_le (rtcBinToBcd_lt 6 hsecond (by decide)) (by decide)
  have hminute8 : rtcBinToBcd dt.minute < 2 ^ 8 := Nat.lt_trans hminute7 (by decide)
  have hsecond8 : rtcBinToBcd dt.second < 2 ^ 8 := Nat.lt_trans hsecond7 (by decide)
  have hlow := fields_low (rtcBinToBcd dt.hour) (rtcBinToBcd dt.minute) hsecond7 (by decide)
  have hmiddle := fields_middle (rtcBinToBcd dt.hour) (rtcBinToBcd dt.minute) hsecond8
  have hhigh := fields_high (rtcBinToBcd dt.hour) hminute8 hsecond8
  refine ⟨?_, ?_, ?_⟩
  · rw [Rtc.write_tr, hhigh, and_mask_eq hhour6]
  · rw [Rtc.write_tr, hmiddle, or_shift_mask _ hminute7 (by decide)]
  · rw [Rtc.write_tr, hlow]

theorem Rtc.write_date (rtc : Rtc) (h : dt.Valid) :
    ((rtc.write dt).dr >>> 16) &&& (2 ^ 8 - 1) = rtcBinToBcd (dt.year - 2000) ∧
      ((rtc.write dt).dr >>> 8) &&& (2 ^ 5 - 1) = rtcBinToBcd dt.month ∧
      (rtc.write dt).dr &&& (2 ^ 6 - 1) = rtcBinToBcd dt.day := by
  have hyear_ge := h.year_ge
  have hyear_le := h.year_le
  have hmonth := h.month_le
  have hday : dt.day ≤ 31 := Nat.le_trans h.day_le (daysInMonth_le _ _)
  have hoffset : dt.year - 2000 < 100 := by omega
  have hday6 : rtcBinToBcd dt.day < 2 ^ 6 := rtcBinToBcd_lt 4 (by omega) (by decide)
  have hday8 : rtcBinToBcd dt.day < 2 ^ 8 := Nat.lt_trans hday6 (by decide)
  have hmonth5 : rtcBinToBcd dt.month < 2 ^ 5 := rtcBinToBcd_lt 2 (by omega) (by decide)
  have hyear8 : rtcBinToBcd (dt.year - 2000) < 2 ^ 8 :=
    Nat.lt_of_lt_of_le (rtcBinToBcd_lt 10 hoffset (by decide)) (by decide)
  have hweekday : (1 <<< 5) ||| rtcBinToBcd dt.month < 2 ^ 8 := by
    rw [← Nat.shiftLeft_add_eq_or_of_lt hmonth5]
    change 1 * 32 + rtcBinToBcd dt.month < 256
    change rtcBinToBcd dt.month < 32 at hmonth5
    omega
  have hdr := rtc.write_dr (Nat.lt_trans hoffset (by decide))
  refine ⟨?_, ?_, ?_⟩
  · rw [hdr, fields_high _ hweekday hday8, and_mask_eq hyear8]
  · rw [hdr, fields_middle _ _ hday8, or_shift_mask_or _ _ hmonth5 (by decide)]
  · rw [hdr, fields_low _ _ hday6 (by decide)]

theorem Rtc.datetime_write (rtc : Rtc) (h : dt.Valid) : (rtc.write dt).datetime = dt := by
  rcases rtc.write_clock h with ⟨hhour, hminute, hsecond⟩
  rcases rtc.write_date h with ⟨hyear, hmonth, hday⟩
  have hyear_ge := h.year_ge
  have hyear_le := h.year_le
  have hmonth_le := h.month_le
  have hday_le : dt.day ≤ 31 := Nat.le_trans h.day_le (daysInMonth_le _ _)
  have hhour_lt := h.hour_lt
  have hminute_lt := h.minute_lt
  have hsecond_lt := h.second_lt
  apply RtcDatetime.ext
  · rw [Rtc.datetime_year, hyear, rtcBcdToBin_rtcBinToBcd (by omega)]
    omega
  · rw [Rtc.datetime_month, hmonth]
    exact rtcBcdToBin_rtcBinToBcd (by omega)
  · rw [Rtc.datetime_day, hday]
    exact rtcBcdToBin_rtcBinToBcd (by omega)
  · rw [Rtc.datetime_hour, hhour]
    exact rtcBcdToBin_rtcBinToBcd (by omega)
  · rw [Rtc.datetime_minute, hminute]
    exact rtcBcdToBin_rtcBinToBcd (by omega)
  · rw [Rtc.datetime_second, hsecond]
    exact rtcBcdToBin_rtcBinToBcd (by omega)

end EnvMonitor.Gateway
