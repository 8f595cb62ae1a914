import EnvMonitor.Concurrency.Sampling
import EnvMonitor.FieldDevice.ModbusSlave

/-!
# Input registers read while other tasks run

The response to a read is filled register by register.  Each handler takes its own snapshot, in a
critical section or under a mutex, and between two handlers the other tasks of the device may commit
an acquisition cycle or bring a counter up to date.
-/

namespace EnvMonitor.FieldDevice

open Modbus Concurrency

/-- What the handlers read and other tasks write. -/
structure Live where
  sensorsReady : Bool
  readings : SensorId -> SensorReading
  cycleCount : UInt32
  alarms : SensorId -> AlarmState
  health : HealthSnapshot
  /-- The counters of the slave itself; those of the register map are a copy. -/
  slaveStats : StatsSnapshot

/-- The services over that state; `base` has those that a read does not use. -/
def liveServices (base : Services Live) : Services Live :=
  { base with
    sensorSnapshot := fun live => if live.sensorsReady then some live.readings else none
    alarmStates := fun live => live.alarms
    healthSnapshot := fun live => live.health }

/-- The atomic steps of the other tasks. -/
inductive TaskStep : Device Live -> Device Live -> Prop
  /-- `sensor_service_init` has run. -/
  | sensorsReady (d : Device Live) : TaskStep d { d with rest.sensorsReady := true }
  /-- The second critical section of `run_cycle_impl`. -/
  | commitCycle (d : Device Live) (readings : SensorId -> SensorReading) :
      TaskStep d { d with
        rest.readings := readings
        rest.cycleCount := d.rest.cycleCount + 1 }
  | alarms (d : Device Live) (states : SensorId -> AlarmState) :
      TaskStep d { d with rest.alarms := states }
  /-- `HEALTH_EVENT_SENSOR_FAIL` -/
  | sensorFail (d : Device Live) :
      TaskStep d { d with rest.health.sensorFailCount := d.rest.health.sensorFailCount + 1 }
  /-- `health_monitor_reset_metrics` -/
  | resetMetrics (d : Device Live) : TaskStep d { d with rest.health.sensorFailCount := 0 }
  /-- `health_monitor_poll` -/
  | pollUptime (d : Device Live) (uptime : UInt32) :
      TaskStep d { d with rest.health.uptimeS := uptime }
  | lifecycle (d : Device Live) (state : UInt16) :
      TaskStep d { d with rest.health.lifecycleState := state }
  /-- `modbus_register_map_poll_stats` copies field by field. -/
  | pollReceived (d : Device Live) :
      TaskStep d { d with lastStatsSnapshot.validFrames := d.rest.slaveStats.validFrames }
  | pollCrcErrors (d : Device Live) :
      TaskStep d { d with lastStatsSnapshot.crcErrors := d.rest.slaveStats.crcErrors }

section Read

variable (base : Services Live)

/-- Register `i` of a read from `start` on, as the slave fetches it. -/
def inputRegister (start : UInt16) (i : Nat) (d : Device Live) : Option UInt16 :=
  (bridgeReadInput (liveServices base) d (start + UInt16.ofNat i)).toOption

/-- An FC04 read under way, among the steps of the other tasks. -/
abbrev ReadAmongTasks (start : UInt16) (count : Nat) :
    List (Device Live) -> Device Live -> List UInt16 -> Prop :=
  Sampling TaskStep (inputRegister base start) count

/-!
## What the registers stand for
-/

inductive Counter where
  | uptime
  | receivedFrames
  | crcErrors
  | sensorErrors
  deriving DecidableEq, Repr

/-- The register with the high word; the low word is in the next one. -/
def Counter.register : Counter -> UInt16
  | .uptime => 0x0032
  | .receivedFrames => 0x0034
  | .crcErrors => 0x0036
  | .sensorErrors => 0x003A

def Counter.value (d : Device Live) : Counter -> UInt32
  | .uptime => d.rest.health.uptimeS
  | .receivedFrames => d.lastStatsSnapshot.validFrames
  | .crcErrors => d.lastStatsSnapshot.crcErrors
  | .sensorErrors => d.rest.health.sensorFailCount

def sensorRegister : SensorId -> UInt16
  | .temperature => 0x0010
  | .humidity => 0x0011
  | .pressure => 0x0012

/-- What a snapshot shows in the register of a sensor. -/
def sensorWord (snapshot : Option (SensorId -> SensorReading)) (id : SensorId) : UInt16 :=
  let invalid := if id = .temperature then 0x8000 else 0xFFFF
  match snapshot with
  | none => invalid
  | some readings =>
      if (readings id).valid then
        match id with
        | .temperature => (readings id).value.toInt16.toUInt16
        | .humidity | .pressure => (readings id).value.toUInt32.toUInt16
      else invalid

variable {base} {d : Device Live} {word : UInt16}

variable {readFn : ReadFn Live} {addr x : UInt16} {i n : Nat} {moments : List (Device Live)}
variable {t : Nat -> Nat}

theorem bridgeReadInput_ok (hslot : findSlot (liveServices base) addr = some (readOnly addr readFn))
    (h : (bridgeReadInput (liveServices base) d addr).toOption = some word) :
    readFn d = .ok word := by
  cases hinit : d.initialised with
  | false =>
      unfold bridgeReadInput mrmReadInputRegs mrmReadRegs at h
      rw [hinit] at h
      cases h
  | true =>
      have hread : mrmReadReg (liveServices base) .r d addr = readFn d := by
        unfold mrmReadReg
        rw [hslot]
        rfl
      unfold bridgeReadInput mrmReadInputRegs mrmReadRegs at h
      rw [hinit] at h
      change (bridgeRead (mrmReadLoop _ .r d addr 1)).toOption = some word at h
      unfold mrmReadLoop at h
      rw [hread] at h
      cases hword : readFn d with
      | error exc =>
          rw [hword] at h
          cases h
      | ok value =>
          rw [hword] at h
          cases h
          rfl

theorem find?_of_nodup {α β : Type} [DecidableEq β] {key : α -> β} {xs : List α} {x : α}
    (hnodup : (xs.map key).Nodup) (hx : x ∈ xs) :
    xs.find? (fun y => key y = key x) = some x := by
  induction xs with
  | nil => exact absurd hx List.not_mem_nil
  | cons y ys ih =>
      rw [List.map_cons, List.nodup_cons] at hnodup
      rcases List.mem_cons.mp hx with rfl | hx
      · exact List.find?_cons_of_pos (decide_eq_true rfl)
      · have hne : key y ≠ key x := fun h => hnodup.1 (h ▸ List.mem_map_of_mem hx)
        rw [List.find?_cons_of_neg (by rw [decide_eq_true_eq]; exact hne)]
        exact ih hnodup.2 hx

theorem findSlot_of_getElem {sigma : Type} {svc : Services sigma} {slot : RegSlot sigma}
    (h : (kSlots svc)[n]? = some slot) : findSlot svc slot.addr = some slot := by
  have hnodup : ((kSlots svc).map (·.addr)).Nodup := by
    change ([0x0000, 0x0001, 0x0002, 0x0003, 0x0004, 0x0005, 0x0006, 0x0007, 0x0010, 0x0011,
      0x0012, 0x0030, 0x0031, 0x0032, 0x0033, 0x0034, 0x0035, 0x0036, 0x0037, 0x0038, 0x0039,
      0x003A, 0x003B, 0x0100, 0x0101, 0x0102, 0x0110, 0x0111, 0x0112, 0x0120, 0x0121, 0x0122,
      0x0130, 0x0140, 0x0141, 0x0150, 0x0200, 0x0201, 0x0202, 0x0210, 0x0211] :
      List UInt16).Nodup
    decide
  exact find?_of_nodup hnodup (List.mem_of_getElem? h)

theorem readWord_eq {value : UInt16}
    (hslot : (kSlots (liveServices base))[n]? = some (readOnly addr readFn))
    (h : (bridgeReadInput (liveServices base) d addr).toOption = some word)
    (hvalue : readFn d = .ok value) : word = value := by
  have hread := bridgeReadInput_ok (findSlot_of_getElem hslot) h
  rw [hvalue] at hread
  exact (Except.ok.inj hread).symm

theorem counter_high (c : Counter)
    (h : (bridgeReadInput (liveServices base) d c.register).toOption = some word) :
    word = highWord (c.value d) := by
  cases c with
  | uptime => exact readWord_eq (n := 13) rfl h rfl
  | receivedFrames => exact readWord_eq (n := 15) rfl h rfl
  | crcErrors => exact readWord_eq (n := 17) rfl h rfl
  | sensorErrors => exact readWord_eq (n := 21) rfl h rfl

theorem counter_low (c : Counter)
    (h : (bridgeReadInput (liveServices base) d (c.register + 1)).toOption = some word) :
    word = lowWord (c.value d) := by
  cases c with
  | uptime => exact readWord_eq (n := 14) rfl h rfl
  | receivedFrames => exact readWord_eq (n := 16) rfl h rfl
  | crcErrors => exact readWord_eq (n := 18) rfl h rfl
  | sensorErrors => exact readWord_eq (n := 22) rfl h rfl

theorem readSensor_eq (svc : Services Live) (id : SensorId) (invalid : UInt16)
    (shown : Int32 -> UInt16) :
    readSensor svc id invalid shown d =
      .ok (match svc.sensorSnapshot d.rest with
        | none => invalid
        | some readings =>
            if (readings id).valid then shown (readings id).value else invalid) := by
  unfold readSensor
  cases svc.sensorSnapshot d.rest with
  | none => rfl
  | some readings =>
      dsimp only
      split <;> rfl

theorem sensor_word (id : SensorId)
    (h : (bridgeReadInput (liveServices base) d (sensorRegister id)).toOption = some word) :
    word = sensorWord ((liveServices base).sensorSnapshot d.rest) id := by
  cases id with
  | temperature => exact readWord_eq (n := 8) rfl h (readSensor_eq _ .temperature _ _)
  | humidity => exact readWord_eq (n := 9) rfl h (readSensor_eq _ .humidity _ _)
  | pressure => exact readWord_eq (n := 10) rfl h (readSensor_eq _ .pressure _ _)

/-!
## Reads of several registers
-/

variable {start : UInt16} {count : Nat} {past : List (Device Live)} {got : List UInt16}

/-- Registers `i` and `i + 1` of a read are the two halves of a counter. -/
structure Halves (start : UInt16) (got : List UInt16) (c : Counter) (i : Nat) (x y : UInt16) :
    Prop where
  register : start + UInt16.ofNat i = c.register
  high : got[i]? = some x
  low : got[i + 1]? = some y

/-- Register `i` of a read is the one of a sensor. -/
structure ShowsSensor (start : UInt16) (got : List UInt16) (id : SensorId) (i : Nat) (x : UInt16) :
    Prop where
  register : start + UInt16.ofNat i = sensorRegister id
  word : got[i]? = some x

/-- Both halves are of a value that the counter had during the read. -/
def PairsWhole (start : UInt16) (moments : List (Device Live)) (got : List UInt16) : Prop :=
  forall c i x y, Halves start got c i x y ->
    exists d, d ∈ moments ∧ x = highWord (c.value d) ∧ y = lowWord (c.value d)

/-- All sensor registers are of the snapshot of one moment of the read. -/
def OneCycle (base : Services Live) (start : UInt16) (moments : List (Device Live))
    (got : List UInt16) : Prop :=
  exists d, d ∈ moments ∧ forall id i x, ShowsSensor start got id i x ->
    x = sensorWord ((liveServices base).sensorSnapshot d.rest) id

theorem Halves.timed {c : Counter} {y : UInt16}
    (ht : Sampling.Timed (inputRegister base start) moments got t) (h : Halves start got c i x y) :
    exists d d', moments[t i]? = some d ∧ moments[t (i + 1)]? = some d' ∧
      x = highWord (c.value d) ∧ y = lowWord (c.value d') := by
  rcases ht.at_ i x h.high with ⟨d, hd, hx⟩
  rcases ht.at_ (i + 1) y h.low with ⟨d', hd', hy⟩
  unfold inputRegister at hx hy
  rw [h.register] at hx
  rw [UInt16.ofNat_add, ← UInt16.add_assoc, h.register] at hy
  exact ⟨d, d', hd, hd', counter_high c hx, counter_low c hy⟩

theorem ShowsSensor.timed {id : SensorId}
    (ht : Sampling.Timed (inputRegister base start) moments got t)
    (h : ShowsSensor start got id i x) :
    exists d, moments[t i]? = some d ∧
      x = sensorWord ((liveServices base).sensorSnapshot d.rest) id := by
  rcases ht.at_ i x h.word with ⟨d, hd, hx⟩
  unfold inputRegister at hx
  rw [h.register] at hx
  exact ⟨d, hd, sensor_word id hx⟩

/-- Every register is the one of some moment of the read, and the moments go forward.  The halves of
a counter are of one value if no step between their handlers changes its high word, and the sensor
registers of one cycle if no step between the first and the last of their handlers changes the
snapshot. -/
theorem multi_read (h : ReadAmongTasks base start count past d got) :
    exists t, Sampling.Timed (inputRegister base start) (past ++ [d]) got t ∧
      (forall c i x y, Halves start got c i x y ->
        Sampling.Unchanged (fun s => highWord (Counter.value s c)) (past ++ [d]) (t i) (t (i + 1)) ->
        exists s, s ∈ past ++ [d] ∧ x = highWord (Counter.value s c) ∧
          y = lowWord (Counter.value s c)) ∧
      (forall first last,
        (forall id i x, ShowsSensor start got id i x -> first ≤ t i ∧ t i ≤ last) ->
        Sampling.Unchanged (fun s : Device Live => (liveServices base).sensorSnapshot s.rest)
          (past ++ [d]) first last ->
        OneCycle base start (past ++ [d]) got) := by
  rcases h.timed with ⟨t, ht⟩
  refine ⟨t, ht, ?_, ?_⟩
  · intro c i x y hhalves hquiet
    rcases hhalves.timed ht with ⟨d₁, d₂, hd₁, hd₂, hx, hy⟩
    have hsame := hquiet.eq (ht.forward (Nat.le_succ i)) (Nat.le_refl _) hd₁ hd₂
    exact ⟨d₂, List.mem_of_getElem? hd₂, hx.trans hsame.symm, hy⟩
  · intro first last hbetween hquiet
    by_cases hsensor : exists id i x, ShowsSensor start got id i x
    · rcases hsensor with ⟨id, i, x, hshows⟩
      rcases hshows.timed ht with ⟨d₁, hd₁, _⟩
      have hlt := (List.getElem?_eq_some_iff.mp hd₁).1
      have hfirst := List.getElem?_eq_getElem
        (Nat.lt_of_le_of_lt (hbetween id i x hshows).1 hlt)
      refine ⟨_, List.mem_of_getElem? hfirst, ?_⟩
      intro id' j y hother
      rcases hother.timed ht with ⟨d₂, hd₂, hy⟩
      have hbounds := hbetween id' j y hother
      have hsame := hquiet.eq hbounds.1 hbounds.2 hfirst hd₂
      change (liveServices base).sensorSnapshot d₂.rest = _ at hsame
      rw [hy, hsame]
    · exact ⟨d, List.mem_append_right _ List.mem_cons_self,
        fun id i x hshows => absurd ⟨id, i, x, hshows⟩ hsensor⟩

end Read

/-!
## Torn reads
-/

/-- Services whose writes do nothing. -/
def idleServices : Services Live where
  version := ⟨1, 0, 0⟩
  sensorSnapshot _ := none
  alarmStates _ _ := .clear
  params _ := ⟨0, 0, 0, 0, 0, 0, 0, 0, 0, 0, 1⟩
  healthSnapshot live := live.health
  setParam _ live := (true, live)
  ackAll live := live
  handleRemoteCommand _ live := live
  setTime _ live := (true, live)

def steadyReadings (value : Int32) : SensorId -> SensorReading := fun _ => ⟨value, true⟩

/-- After 131071 failed sensor reads; every sensor shows 2000. -/
def liveDevice : Device Live where
  slaveAddr := 1
  rxBuf := []
  initialised := true
  cmdAckAlarmLast := 0
  cmdResetMetricsLast := 0
  cmdSoftRestartLast := 0
  cmdSetTimeHiLast := 0
  cmdSetTimeLoLast := 0
  lastStatsSnapshot := ⟨0, 0⟩
  rest := ⟨true, steadyReadings 2000, 0, fun _ => .clear, ⟨3, 0, 0x0001FFFF⟩, ⟨0, 0⟩⟩

def oneMoreFailure : Device Live :=
  { liveDevice with rest.health.sensorFailCount := liveDevice.rest.health.sensorFailCount + 1 }

def nextCycle : Device Live :=
  { liveDevice with
    rest.readings := steadyReadings 2100
    rest.cycleCount := liveDevice.rest.cycleCount + 1 }

theorem carry_between_halves :
    ReadAmongTasks idleServices 0x003A 2 [liveDevice] oneMoreFailure [1, 0] := by
  have hfirst : ReadAmongTasks idleServices 0x003A 2 [] liveDevice [1] :=
    (Sampling.start liveDevice).sample (by decide) (by decide +kernel)
  exact (hfirst.other (.sensorFail liveDevice)).sample (by decide) (by decide +kernel)

theorem cycle_between_sensors :
    ReadAmongTasks idleServices 0x0010 2 [liveDevice] nextCycle [2000, 2100] := by
  have hfirst : ReadAmongTasks idleServices 0x0010 2 [] liveDevice [2000] :=
    (Sampling.start liveDevice).sample (by decide) (by decide +kernel)
  exact (hfirst.other (.commitCycle liveDevice (steadyReadings 2100))).sample (by decide)
    (by decide +kernel)

theorem multi_read_carry :
    ReadAmongTasks idleServices 0x003A 2 [liveDevice] oneMoreFailure [1, 0] ∧
      exists t, Sampling.Timed (inputRegister idleServices 0x003A) [liveDevice, oneMoreFailure]
        [1, 0] t := by
  refine ⟨carry_between_halves, ?_⟩
  rcases multi_read carry_between_halves with ⟨t, ht, _⟩
  exact ⟨t, ht⟩

/-- The halves of the failure count give a number it never had during the read, and the sensors of
one read show two cycles. -/
theorem reads_are_torn :
    (¬forall base start count past d got, ReadAmongTasks base start count past d got ->
      PairsWhole start (past ++ [d]) got) ∧
    ¬forall base start count past d got, ReadAmongTasks base start count past d got ->
      OneCycle base start (past ++ [d]) got := by
  constructor
  · intro hclaim
    have hwhole := hclaim _ _ _ _ _ _ carry_between_halves .sensorErrors 0 1 0 ⟨rfl, rfl, rfl⟩
    rcases hwhole with ⟨d, hd, hhigh, hlow⟩
    rcases List.mem_cons.mp hd with rfl | hd
    · exact absurd hlow (by decide)
    · cases List.mem_singleton.mp hd
      exact absurd hhigh (by decide)
  · intro hclaim
    rcases hclaim _ _ _ _ _ _ cycle_between_sensors with ⟨d, hd, hcycle⟩
    have htemperature := hcycle .temperature 0 2000 ⟨rfl, rfl⟩
    have hhumidity := hcycle .humidity 1 2100 ⟨rfl, rfl⟩
    rcases List.mem_cons.mp hd with rfl | hd
    · exact absurd hhumidity (by decide)
    · cases List.mem_singleton.mp hd
      exact absurd htemperature (by decide)

end EnvMonitor.FieldDevice
