import EnvMonitor.Gateway.TimeProvider.Provider

/-!
# NTP synchronisation

`prv_do_ntp_sync` checks a reply against the RTC, TimeProvider checks it a second time.  The
states are those of the two modules and the RTC across syncs, resets and changes of the RTC.
-/

namespace EnvMonitor.Gateway

inductive TimeServiceSync where
  | never
  | ok
  | stale
  deriving DecidableEq, Repr

inductive TimeServiceErr where
  | ok
  | ntpFailed
  | deltaRejected
  | rtcWrite
  deriving DecidableEq, Repr

abbrev timeServiceNtpMaxDeltaS : Nat := 3600

/-- How the RTC answers the calls of one sync. -/
structure RtcAnswers where
  reference : Bool
  sanity : Bool
  set : RtcFlags

/-- The RTC works. -/
def RtcAnswers.good : RtcAnswers := ⟨true, true, ⟨true, true⟩⟩

/-- TimeService on top of the clock; `uptime` counts seconds since the reset. -/
structure TimeService where
  syncState : TimeServiceSync
  uptime : Nat
  clock : Clock

/-- `prv_rtc_is_reference` -/
def rtcIsReference (rsf : Bool) (s : TimeService) : Option Nat :=
  if s.syncState = .never then none
  else
    match timeProviderGet rsf s.uptime s.clock with
    | .error _ => none
    | .ok now => if now.syncState ≠ .synchronised then none else some now.epoch

/-- The end of `prv_do_ntp_sync`, for a reply that was not rejected. -/
def TimeService.apply (answers : RtcAnswers) (newUtc : Nat) (s : TimeService) :
    TimeServiceErr × TimeService :=
  match timeProviderSetTime answers.sanity answers.set newUtc s.clock with
  | (.error _, clock) => (.rtcWrite, { s with syncState := .ok, clock := clock })
  | (.ok _, clock) => (.ok, { s with syncState := .ok, clock := clock })

/-- `prv_do_ntp_sync`, with what `ntp_client_query` returned. -/
def doNtpSync (reply : Option Nat) (answers : RtcAnswers) (s : TimeService) :
    TimeServiceErr × TimeService :=
  match reply with
  | none =>
      (.ntpFailed, if s.syncState ≠ .never then { s with syncState := .stale } else s)
  | some newUtc =>
      match rtcIsReference answers.reference s with
      | some currentUtc =>
          if timeServiceNtpMaxDeltaS < epochDelta newUtc currentUtc then
            (.deltaRejected, { s with syncState := .stale })
          else s.apply answers newUtc
      | none => s.apply answers newUtc

/-- What a reader of the clock gets while the RTC works. -/
def TimeService.time (s : TimeService) : Except TimeProviderErr TimeProviderTs :=
  timeProviderGet true s.uptime s.clock

/-- `rtc_init`, `time_provider_init` and `time_service_init` after a reset. -/
def bootTime (rtc : Rtc) : TimeService where
  syncState := .never
  uptime := 0
  clock := ⟨rtcInit rtc, (timeProviderInit (rtcInit rtc)).2⟩

/-- The RTC after its supply was lost. -/
def Rtc.reset : Rtc where
  tr := 0
  dr := 0x2101
  bkp := fun _ => 0

inductive TimeEvent where
  | tick
  | sync (reply : Option Nat) (answers : RtcAnswers)
  | markUnsynchronised
  | rtcChanges (dt : RtcDatetime)
  | warmReset
  | coldStart

def TimeService.after (s : TimeService) : TimeEvent -> TimeService
  | .tick =>
      { s with uptime := s.uptime + 1, clock := { s.clock with rtc := s.clock.rtc.tick } }
  | .sync reply answers => (doNtpSync reply answers s).2
  | .markUnsynchronised =>
      { s with clock := (timeProviderMarkUnsynchronised s.clock).2 }
  | .rtcChanges dt => { s with clock := { s.clock with rtc := s.clock.rtc.write dt } }
  | .warmReset => bootTime s.clock.rtc
  | .coldStart => bootTime Rtc.reset

/-- An RTC that is set or has drifted still holds a date. -/
def TimeEvent.Possible : TimeEvent -> Prop
  | .rtcChanges dt => dt.Valid
  | _ => True

/-- States with the true time, which goes on with every tick and stands in for the time a reset
takes. -/
inductive TimeReachable : Nat -> TimeService -> Prop
  | coldStart (now : Nat) : TimeReachable now (bootTime Rtc.reset)
  | passes {now : Nat} {s : TimeService} (reached : TimeReachable now s) :
      TimeReachable (now + 1) (s.after .tick)
  | event {now : Nat} {s : TimeService} {event : TimeEvent} (reached : TimeReachable now s)
      (possible : event.Possible) (clock : event ≠ .tick) : TimeReachable now (s.after event)

/-!
## What the calls do to the clock
-/

/-- The time the RTC shows. -/
def Clock.epoch (clock : Clock) : Nat := datetimeToEpoch clock.rtc.datetime

/-- The clock after `epoch` was written. -/
def Clock.setTo (clock : Clock) (epoch : Nat) : Clock :=
  { clock with rtc := clock.rtc.write (epochToDatetime epoch) }

/-- The same with the provider synchronised and its flag saved. -/
def Clock.synchronisedTo (clock : Clock) (epoch : Nat) : Clock where
  rtc := { (clock.setTo epoch).rtc with
    bkp := Function.update clock.rtc.bkp timeProviderBkupReg timeProviderSyncMagic }
  provider := { clock.provider with syncState := .synchronised }

/-- The reply passes the checks of TimeProvider. -/
def Clock.Accepts (clock : Clock) (epoch : Nat) : Prop :=
  clock.provider.initialised = true ∧ timeProviderEpochMin ≤ epoch ∧
    epoch ≤ timeProviderEpochMax ∧
    (clock.provider.syncState = .synchronised ->
      epochDelta epoch clock.epoch ≤ timeProviderSanityDeltaS)

theorem timeProviderWrite_cases (flags : RtcFlags) (epoch : Nat) (clock : Clock) :
    (timeProviderWrite flags epoch clock = (.error .rtcFail, clock) ∧ flags.initf = false) ∨
      (timeProviderWrite flags epoch clock = (.error .rtcFail, clock.setTo epoch) ∧
        flags.rsf = false) ∨
      timeProviderWrite flags epoch clock = (.ok (), clock.synchronisedTo epoch) := by
  rcases flags with ⟨initf, rsf⟩
  cases initf with
  | false => exact Or.inl ⟨rfl, rfl⟩
  | true =>
      cases rsf with
      | false => exact Or.inr (Or.inl ⟨rfl, rfl⟩)
      | true => exact Or.inr (Or.inr rfl)

theorem timeProviderSetTime_cases (rsf : Bool) (flags : RtcFlags) (epoch : Nat) (clock : Clock) :
    (exists err, timeProviderSetTime rsf flags epoch clock = (.error err, clock)) ∨
      (clock.Accepts epoch ∧
        timeProviderSetTime rsf flags epoch clock = timeProviderWrite flags epoch clock) := by
  unfold timeProviderSetTime
  split
  · exact Or.inl ⟨_, rfl⟩
  · rename_i hinit
    have hinitialised : clock.provider.initialised = true := by
      cases hflag : clock.provider.initialised with
      | true => rfl
      | false =>
          rw [hflag] at hinit
          exact absurd rfl hinit
    split
    · exact Or.inl ⟨_, rfl⟩
    · rename_i hrange
      have hmin : timeProviderEpochMin ≤ epoch := Nat.le_of_not_lt (fun h => hrange (Or.inl h))
      have hmax : epoch ≤ timeProviderEpochMax := Nat.le_of_not_lt (fun h => hrange (Or.inr h))
      split
      · cases rsf with
        | false => exact Or.inl ⟨_, rfl⟩
        | true =>
            change (exists err, (if timeProviderSanityDeltaS < epochDelta epoch clock.epoch then
                (.error .rtcFail, clock) else timeProviderWrite flags epoch clock) =
                  (.error err, clock)) ∨ (clock.Accepts epoch ∧
                (if timeProviderSanityDeltaS < epochDelta epoch clock.epoch then
                  (.error .rtcFail, clock) else timeProviderWrite flags epoch clock) = _)
            split
            · exact Or.inl ⟨_, rfl⟩
            · rename_i hdelta
              exact Or.inr ⟨⟨hinitialised, hmin, hmax, fun _ => Nat.le_of_not_lt hdelta⟩, rfl⟩
      · rename_i hsync
        exact Or.inr ⟨⟨hinitialised, hmin, hmax, fun h => absurd h hsync⟩, rfl⟩

variable {clock : Clock} {rtc : Rtc} {s t : TimeService} {now : Nat}

theorem timeProviderSetTime_accepts {epoch : Nat} (h : clock.Accepts epoch) :
    timeProviderSetTime true ⟨true, true⟩ epoch clock = (.ok (), clock.synchronisedTo epoch) := by
  rcases h with ⟨hinit, hmin, hmax, hdelta⟩
  unfold timeProviderSetTime
  rw [if_neg (by rw [hinit]; decide), if_neg (by omega)]
  split
  · rename_i hsync
    change (if timeProviderSanityDeltaS < epochDelta epoch clock.epoch then
      (.error .rtcFail, clock) else timeProviderWrite ⟨true, true⟩ epoch clock) = _
    rw [if_neg (Nat.not_lt.mpr (hdelta hsync))]
    rfl
  · rfl

theorem Clock.epoch_setTo (clock : Clock) {epoch : Nat} (hmin : timeProviderEpochMin ≤ epoch)
    (hmax : epoch ≤ timeProviderEpochMax) : (clock.setTo epoch).epoch = epoch := by
  unfold Clock.epoch Clock.setTo
  dsimp only
  rw [Rtc.datetime_write _ (epochToDatetime_valid hmin hmax)]
  exact datetimeToEpoch_epochToDatetime hmin hmax

theorem Clock.epoch_synchronisedTo (clock : Clock) (epoch : Nat) :
    (clock.synchronisedTo epoch).epoch = (clock.setTo epoch).epoch := rfl

theorem apply_cases (answers : RtcAnswers) (utc : Nat) (s : TimeService) :
    ((s.apply answers utc).1 ≠ .ok ∧ (s.apply answers utc).2.clock = s.clock) ∨
      (s.clock.Accepts utc ∧
        (((s.apply answers utc).1 ≠ .ok ∧
            (s.apply answers utc).2.clock = s.clock.setTo utc) ∨
          ((s.apply answers utc).1 = .ok ∧
            (s.apply answers utc).2.clock = s.clock.synchronisedTo utc))) := by
  unfold TimeService.apply
  rcases timeProviderSetTime_cases answers.sanity answers.set utc s.clock with
    ⟨err, hset⟩ | ⟨haccepts, hset⟩
  · rw [hset]
    exact Or.inl ⟨fun h => (by cases h), rfl⟩
  · rw [hset]
    rcases timeProviderWrite_cases answers.set utc s.clock with
      ⟨hwrite, -⟩ | ⟨hwrite, -⟩ | hwrite
    · rw [hwrite]
      exact Or.inl ⟨fun h => (by cases h), rfl⟩
    · rw [hwrite]
      exact Or.inr ⟨haccepts, Or.inl ⟨fun h => (by cases h), rfl⟩⟩
    · rw [hwrite]
      exact Or.inr ⟨haccepts, Or.inr ⟨rfl, rfl⟩⟩

/-- A sync leaves the clock alone, or its reply passes the checks of TimeProvider and is
written. -/
theorem doNtpSync_cases (reply : Option Nat) (answers : RtcAnswers) (s : TimeService) :
    ((doNtpSync reply answers s).1 ≠ .ok ∧ (doNtpSync reply answers s).2.clock = s.clock) ∨
      exists utc, reply = some utc ∧ s.clock.Accepts utc ∧
        (((doNtpSync reply answers s).1 ≠ .ok ∧
            (doNtpSync reply answers s).2.clock = s.clock.setTo utc) ∨
          ((doNtpSync reply answers s).1 = .ok ∧
            (doNtpSync reply answers s).2.clock = s.clock.synchronisedTo utc)) := by
  cases reply with
  | none =>
      left
      unfold doNtpSync
      dsimp only
      split
      · exact ⟨fun h => (by cases h), rfl⟩
      · exact ⟨fun h => (by cases h), rfl⟩
  | some utc =>
      have happly := apply_cases answers utc s
      have hok : s.apply answers utc = doNtpSync (some utc) answers s ->
          ((doNtpSync (some utc) answers s).1 ≠ .ok ∧
              (doNtpSync (some utc) answers s).2.clock = s.clock) ∨
            exists other, some utc = some other ∧ s.clock.Accepts other ∧
              (((doNtpSync (some utc) answers s).1 ≠ .ok ∧
                  (doNtpSync (some utc) answers s).2.clock = s.clock.setTo other) ∨
                ((doNtpSync (some utc) answers s).1 = .ok ∧
                  (doNtpSync (some utc) answers s).2.clock = s.clock.synchronisedTo other)) := by
        intro hsame
        rw [hsame] at happly
        rcases happly with hkept | hset
        · exact Or.inl hkept
        · exact Or.inr ⟨utc, rfl, hset⟩
      cases hreference : rtcIsReference answers.reference s with
      | none =>
          apply hok
          unfold doNtpSync
          dsimp only
          rw [hreference]
      | some currentUtc =>
          by_cases hdelta : timeServiceNtpMaxDeltaS < epochDelta utc currentUtc
          · left
            unfold doNtpSync
            dsimp only
            rw [hreference]
            dsimp only
            rw [if_pos hdelta]
            exact ⟨fun h => (by cases h), rfl⟩
          · apply hok
            unfold doNtpSync
            dsimp only
            rw [hreference]
            dsimp only
            rw [if_neg hdelta]

/-!
## Reachable states
-/

/-- The RTC holds a date and the provider is running. -/
structure Clock.Running (clock : Clock) : Prop where
  valid : clock.rtc.datetime.Valid
  initialised : clock.provider.initialised = true

theorem rtcInit_valid (h : rtc.datetime.Valid) : (rtcInit rtc).datetime.Valid := by
  unfold rtcInit
  split
  · exact h
  · have hdefault : Rtc.datetime { rtc with tr := rtcDefaultTr, dr := rtcDefaultDr } =
        ⟨2000, 1, 1, 0, 0, 0⟩ := by
      simp [Rtc.datetime, rtcBcdToBin, rtcDefaultTr, rtcDefaultDr]
    rw [hdefault]
    constructor <;> decide

theorem timeProviderInit_initialised (rtc : Rtc) :
    (timeProviderInit rtc).2.initialised = true := rfl

theorem bootTime_running (h : rtc.datetime.Valid) : (bootTime rtc).clock.Running where
  valid := rtcInit_valid h
  initialised := timeProviderInit_initialised _

theorem Rtc.reset_valid : Rtc.reset.datetime.Valid := by
  have hreset : Rtc.reset.datetime = ⟨2000, 1, 1, 0, 0, 0⟩ := rfl
  rw [hreset]
  constructor <;> decide

theorem Clock.Running.setTo (h : clock.Running) {epoch : Nat} (hmin : timeProviderEpochMin ≤ epoch)
    (hmax : epoch ≤ timeProviderEpochMax) : (clock.setTo epoch).Running := by
  constructor
  · unfold Clock.setTo
    dsimp only
    rw [Rtc.datetime_write _ (epochToDatetime_valid hmin hmax)]
    exact epochToDatetime_valid hmin hmax
  · exact h.initialised

theorem Clock.Running.synchronisedTo (h : clock.Running) {epoch : Nat}
    (hmin : timeProviderEpochMin ≤ epoch) (hmax : epoch ≤ timeProviderEpochMax) :
    (clock.synchronisedTo epoch).Running where
  valid := (h.setTo hmin hmax).valid
  initialised := h.initialised

theorem Clock.Running.sync (h : s.clock.Running) (reply : Option Nat) (answers : RtcAnswers) :
    (doNtpSync reply answers s).2.clock.Running := by
  rcases doNtpSync_cases reply answers s with ⟨-, hsame⟩ | ⟨utc, -, haccepts, hset⟩
  · rw [hsame]
    exact h
  · rcases haccepts with ⟨-, hmin, hmax, -⟩
    rcases hset with ⟨-, hset⟩ | ⟨-, hset⟩
    · rw [hset]
      exact h.setTo hmin hmax
    · rw [hset]
      exact h.synchronisedTo hmin hmax

theorem Clock.Running.after (h : s.clock.Running) {event : TimeEvent} (possible : event.Possible) :
    (s.after event).clock.Running := by
  cases event with
  | tick =>
      constructor
      · change s.clock.rtc.tick.datetime.Valid
        unfold Rtc.tick
        rw [Rtc.datetime_write _ h.valid.nextSecond]
        exact h.valid.nextSecond
      · exact h.initialised
  | sync reply answers => exact h.sync reply answers
  | markUnsynchronised =>
      change (timeProviderMarkUnsynchronised s.clock).2.Running
      unfold timeProviderMarkUnsynchronised
      rw [h.initialised]
      exact ⟨h.valid, h.initialised⟩
  | rtcChanges dt =>
      constructor
      · change (s.clock.rtc.write dt).datetime.Valid
        rw [Rtc.datetime_write _ possible]
        exact possible
      · exact h.initialised
  | warmReset => exact bootTime_running h.valid
  | coldStart => exact bootTime_running Rtc.reset_valid

theorem TimeReachable.running (h : TimeReachable now s) : s.clock.Running := by
  induction h with
  | coldStart now => exact bootTime_running Rtc.reset_valid
  | passes reached ih => exact ih.after trivial
  | event reached possible clock ih => exact ih.after possible

/-!
## True replies and accepted replies
-/

/-- Neither check stands between this state and the true time: the provider is unsynchronised,
or the RTC is near the true time; before the first sync after a reset a day is near. -/
def TimeService.Correctable (now : Nat) (s : TimeService) : Prop :=
  s.clock.provider.syncState = .unsynchronised ∨
    epochDelta now s.clock.epoch ≤ timeServiceNtpMaxDeltaS ∨
    (s.syncState = .never ∧ epochDelta now s.clock.epoch ≤ timeProviderSanityDeltaS)

/-- `seconds` pass without another reset and without another write to the RTC. -/
inductive ClockKept (s : TimeService) : Nat -> TimeService -> Prop
  | start : ClockKept s 0 s
  | tick {seconds : Nat} {t : TimeService} (kept : ClockKept s seconds t) :
      ClockKept s (seconds + 1) (t.after .tick)
  | sync {seconds : Nat} {t : TimeService} {reply : Option Nat} {answers : RtcAnswers}
      (kept : ClockKept s seconds t)
      (unwritten : (doNtpSync reply answers t).2.clock = t.clock) :
      ClockKept s seconds (t.after (.sync reply answers))

theorem Clock.Running.time_eq (h : s.clock.Running)
    (hsync : s.clock.provider.syncState = .synchronised) :
    s.time = .ok ⟨s.clock.epoch, .synchronised⟩ := by
  unfold TimeService.time timeProviderGet
  rw [h.initialised, hsync]
  rfl

theorem rtcIsReference_eq (h : s.clock.Running) (hsync : s.clock.provider.syncState = .synchronised)
    (hstate : s.syncState ≠ .never) : rtcIsReference true s = some s.clock.epoch := by
  have htime : timeProviderGet true s.uptime s.clock = .ok ⟨s.clock.epoch, .synchronised⟩ :=
    h.time_eq hsync
  unfold rtcIsReference
  rw [if_neg hstate, htime]
  rfl

theorem rtcIsReference_unsynchronised (hsync : s.clock.provider.syncState = .unsynchronised)
    (rsf : Bool) : rtcIsReference rsf s = none := by
  unfold rtcIsReference timeProviderGet
  split
  · rfl
  · rw [hsync]
    cases s.clock.provider.initialised <;> rfl

theorem doNtpSync_correctable (h : s.clock.Running) (hmin : timeProviderEpochMin ≤ now)
    (hmax : now ≤ timeProviderEpochMax) (hcorr : s.Correctable now) :
    doNtpSync (some now) RtcAnswers.good s =
      (.ok, { s with syncState := .ok, clock := s.clock.synchronisedTo now }) := by
  have haccepts : s.clock.Accepts now := by
    refine ⟨h.initialised, hmin, hmax, ?_⟩
    intro hsync
    rcases hcorr with hun | hnear | ⟨-, hday⟩
    · rw [hun] at hsync
      cases hsync
    · exact Nat.le_trans hnear (by decide)
    · exact hday
  have happly : s.apply RtcAnswers.good now =
      (.ok, { s with syncState := .ok, clock := s.clock.synchronisedTo now }) := by
    unfold TimeService.apply
    have hset : timeProviderSetTime RtcAnswers.good.sanity RtcAnswers.good.set now s.clock =
        (.ok (), s.clock.synchronisedTo now) := timeProviderSetTime_accepts haccepts
    rw [hset]
  unfold doNtpSync
  dsimp only
  cases hreference : rtcIsReference RtcAnswers.good.reference s with
  | none => exact happly
  | some currentUtc =>
      dsimp only
      have hnever : s.syncState ≠ .never := by
        intro hstate
        unfold rtcIsReference at hreference
        rw [if_pos hstate] at hreference
        cases hreference
      have hsync : s.clock.provider.syncState = .synchronised := by
        cases hstate : s.clock.provider.syncState with
        | synchronised => rfl
        | unsynchronised =>
            rw [rtcIsReference_unsynchronised hstate] at hreference
            cases hreference
      have hcurrent : rtcIsReference true s = some currentUtc := hreference
      rw [rtcIsReference_eq h hsync hnever] at hcurrent
      cases hcurrent
      have hnear : epochDelta now s.clock.epoch ≤ timeServiceNtpMaxDeltaS := by
        rcases hcorr with hun | hnear | ⟨hstate, -⟩
        · rw [hun] at hsync
          cases hsync
        · exact hnear
        · exact absurd hstate hnever
      rw [if_neg (Nat.not_lt.mpr hnear)]
      exact happly

/-- The clock shows the accepted reply and what has passed since. -/
structure Clock.Shows (clock : Clock) (epoch : Nat) : Prop where
  running : clock.Running
  synchronised : clock.provider.syncState = .synchronised
  shows : clock.epoch = epoch

theorem Clock.Shows.tick {epoch : Nat} (h : s.clock.Shows epoch)
    (hmax : epoch + 1 ≤ timeProviderEpochMax) : (s.after .tick).clock.Shows (epoch + 1) where
  running := h.running.after trivial
  synchronised := h.synchronised
  shows := by
    have hvalid := h.running.valid
    have hshows : datetimeToEpoch s.clock.rtc.datetime = epoch := h.shows
    change datetimeToEpoch s.clock.rtc.tick.datetime = epoch + 1
    unfold Rtc.tick
    rw [Rtc.datetime_write _ hvalid.nextSecond]
    rcases hvalid.nextSecond_epoch with hnext | ⟨hlast, -⟩
    · rw [hnext, hshows]
    · rw [hshows] at hlast
      omega

theorem ClockKept.shows {seconds epoch : Nat} (h : ClockKept s seconds t)
    (hstart : s.clock.Shows epoch) (hmax : epoch + seconds ≤ timeProviderEpochMax) :
    t.clock.Shows (epoch + seconds) := by
  induction h with
  | start => exact hstart
  | tick kept ih => exact (ih (Nat.le_of_succ_le hmax)).tick hmax
  | @sync seconds t reply answers kept unwritten ih =>
      have hsame : (t.after (.sync reply answers)).clock = t.clock := unwritten
      rw [hsame]
      exact ih hmax

/-- From every reachable state that is correctable one true reply brings the clock to the true
time, and a reply for which the sync reports success is the time the clock shows from then on. -/
theorem true_reply_sets_clock {now : Nat} {s : TimeService} (h : TimeReachable now s) :
    (timeProviderEpochMin ≤ now -> now ≤ timeProviderEpochMax -> s.Correctable now ->
      (doNtpSync (some now) RtcAnswers.good s).1 = .ok ∧
        (doNtpSync (some now) RtcAnswers.good s).2.time = .ok ⟨now, .synchronised⟩) ∧
    (forall utc answers seconds t, (doNtpSync (some utc) answers s).1 = .ok ->
      ClockKept (doNtpSync (some utc) answers s).2 seconds t ->
      utc + seconds ≤ timeProviderEpochMax ->
      t.time = .ok ⟨utc + seconds, .synchronised⟩) := by
  have hrunning := h.running
  have hshown : forall utc answers, (doNtpSync (some utc) answers s).1 = .ok ->
      (doNtpSync (some utc) answers s).2.clock.Shows utc := by
    intro utc answers hok
    rcases doNtpSync_cases (some utc) answers s with ⟨herr, -⟩ | ⟨other, hreply, haccepts, hset⟩
    · exact absurd hok herr
    · cases hreply
      rcases haccepts with ⟨-, hmin, hmax, -⟩
      rcases hset with ⟨herr, -⟩ | ⟨-, hset⟩
      · exact absurd hok herr
      · constructor
        · rw [hset]
          exact hrunning.synchronisedTo hmin hmax
        · rw [hset]
          rfl
        · rw [hset, Clock.epoch_synchronisedTo]
          exact s.clock.epoch_setTo hmin hmax
  constructor
  · intro hmin hmax hcorr
    have hok : (doNtpSync (some now) RtcAnswers.good s).1 = .ok := by
      rw [doNtpSync_correctable hrunning hmin hmax hcorr]
    have hclock := hshown now RtcAnswers.good hok
    refine ⟨hok, ?_⟩
    rw [hclock.running.time_eq hclock.synchronised, hclock.shows]
  · intro utc answers seconds t hok hkept hmax
    have hclock := hkept.shows (hshown utc answers hok) hmax
    rw [hclock.running.time_eq hclock.synchronised, hclock.shows]

/-- The first reply after a cold start. -/
theorem true_reply_sets_clock_cold :
    (doNtpSync (some 1767225600) RtcAnswers.good (bootTime Rtc.reset)).2.time =
      .ok ⟨1767225600, .synchronised⟩ :=
  ((true_reply_sets_clock (TimeReachable.coldStart 1767225600)).1 (by decide) (by decide)
    (Or.inl rfl)).2

/-!
## An RTC that stood still over a warm reset
-/

/-- The RTC works and every reply carries the true time. -/
inductive TrueReplies (now : Nat) (s : TimeService) : Nat -> TimeService -> Prop
  | start : TrueReplies now s now s
  | passes {later : Nat} {t : TimeService} (run : TrueReplies now s later t) :
      TrueReplies now s (later + 1) (t.after .tick)
  | reply {later : Nat} {t : TimeService} (run : TrueReplies now s later t) :
      TrueReplies now s later (t.after (.sync (some later) RtcAnswers.good))

/-- The provider trusts an RTC that is more than a day behind. -/
structure Behind (now : Nat) (s : TimeService) : Prop where
  running : s.clock.Running
  synchronised : s.clock.provider.syncState = .synchronised
  behind : s.clock.epoch + timeProviderSanityDeltaS < now

theorem Behind.not_accepts (h : Behind now s) : ¬s.clock.Accepts now := by
  intro haccepts
  have hdelta := haccepts.2.2.2 h.synchronised
  have hbehind := h.behind
  unfold epochDelta at hdelta
  rw [if_pos (by omega)] at hdelta
  omega

theorem Behind.rejects (h : Behind now s) (answers : RtcAnswers) :
    (doNtpSync (some now) answers s).1 ≠ .ok ∧
      (doNtpSync (some now) answers s).2.clock = s.clock := by
  rcases doNtpSync_cases (some now) answers s with hkept | ⟨utc, hreply, haccepts, -⟩
  · exact hkept
  · cases hreply
    exact absurd haccepts h.not_accepts

theorem Behind.run {later : Nat} (h : Behind now s) (run : TrueReplies now s later t) :
    Behind later t := by
  induction run with
  | start => exact h
  | @passes later t run ih =>
      have hbehind := ih.behind
      have hvalid := ih.running.valid
      constructor
      · exact ih.running.after trivial
      · exact ih.synchronised
      · have hepoch : (t.after .tick).clock.epoch ≤ t.clock.epoch + 1 := by
          change datetimeToEpoch t.clock.rtc.tick.datetime ≤ t.clock.epoch + 1
          unfold Rtc.tick
          rw [Rtc.datetime_write _ hvalid.nextSecond]
          rcases hvalid.nextSecond_epoch with hnext | ⟨hlast, hwrap⟩
          · exact Nat.le_of_eq hnext
          · have hmax : t.clock.epoch = timeProviderEpochMax := hlast
            rw [hwrap, hmax]
            decide
        omega
  | @reply later t run ih =>
      have hsame : (t.after (.sync (some later) RtcAnswers.good)).clock = t.clock :=
        (ih.rejects RtcAnswers.good).2
      constructor
      · rw [hsame]
        exact ih.running
      · rw [hsame]
        exact ih.synchronised
      · rw [hsame]
        exact ih.behind

theorem bootTime_synchronised (h : rtc.bkp timeProviderBkupReg = timeProviderSyncMagic) :
    (bootTime rtc).clock.provider.syncState = .synchronised := by
  have hbkp : (rtcInit rtc).bkp timeProviderBkupReg = timeProviderSyncMagic := by
    unfold rtcInit
    split
    · exact h
    · exact h
  change (if (rtcInit rtc).bkp timeProviderBkupReg = timeProviderSyncMagic then
    TimeSyncState.synchronised else TimeSyncState.unsynchronised) = .synchronised
  rw [if_pos hbkp]

/-- Synchronised on 2026-01-01, then reset with an RTC that fell back to 2000-01-01. -/
def stoppedRtc : TimeService :=
  ((((bootTime Rtc.reset).after (.sync (some 1767225600) RtcAnswers.good)).after .warmReset).after
    (.rtcChanges ⟨2000, 1, 1, 0, 0, 0⟩))

theorem stoppedRtc_date : RtcDatetime.Valid ⟨2000, 1, 1, 0, 0, 0⟩ := by
  constructor <;> decide

theorem stoppedRtc_reachable : TimeReachable 1767225600 stoppedRtc := by
  have hcold := TimeReachable.coldStart 1767225600
  have hsync := @TimeReachable.event _ _ (.sync (some 1767225600) RtcAnswers.good) hcold
    trivial (fun h => by cases h)
  have hreset := @TimeReachable.event _ _ .warmReset hsync trivial (fun h => by cases h)
  exact @TimeReachable.event _ _ (.rtcChanges ⟨2000, 1, 1, 0, 0, 0⟩) hreset stoppedRtc_date
    (fun h => by cases h)

theorem stoppedRtc_behind : Behind 1767225600 stoppedRtc := by
  have hcold := (TimeReachable.coldStart 1767225600).running
  have hsync := @doNtpSync_correctable _ 1767225600 hcold (by decide) (by decide) (Or.inl rfl)
  constructor
  · exact stoppedRtc_reachable.running
  · apply bootTime_synchronised
    change (doNtpSync (some 1767225600) RtcAnswers.good (bootTime Rtc.reset)).2.clock.rtc.bkp
      timeProviderBkupReg = timeProviderSyncMagic
    rw [hsync]
    rfl
  · have hepoch : stoppedRtc.clock.epoch = datetimeToEpoch ⟨2000, 1, 1, 0, 0, 0⟩ := by
      unfold Clock.epoch stoppedRtc
      exact congrArg datetimeToEpoch (Rtc.datetime_write _ stoppedRtc_date)
    have hvalue : datetimeToEpoch ⟨2000, 1, 1, 0, 0, 0⟩ = 946684800 := by decide +kernel
    rw [hepoch, hvalue]
    decide

/-- From there every true reply is rejected and the clock stays wrong. -/
theorem true_replies_rejected :
    exists now s, TimeReachable now s ∧ forall later t, TrueReplies now s later t ->
      (doNtpSync (some later) RtcAnswers.good t).1 ≠ .ok ∧
        t.time ≠ .ok ⟨later, .synchronised⟩ := by
  refine ⟨1767225600, stoppedRtc, stoppedRtc_reachable, ?_⟩
  intro later t hrun
  have hbehind := stoppedRtc_behind.run hrun
  refine ⟨(hbehind.rejects RtcAnswers.good).1, ?_⟩
  rw [hbehind.running.time_eq hbehind.synchronised]
  intro h
  have hepoch : t.clock.epoch = later := by
    injection h with h
    injection h
  have hlate := hbehind.behind
  omega

end EnvMonitor.Gateway
