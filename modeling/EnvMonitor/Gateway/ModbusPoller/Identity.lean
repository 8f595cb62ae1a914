import EnvMonitor.Gateway.ModbusPoller.Requests
import Mathlib.Logic.Function.Basic

/-!
# Identity checks and readings of the poller

The device profile registry, the slave table and `poll_slaves`, one Modbus transaction at a time;
other tasks change profiles and ask for a new probe in between.
-/

namespace EnvMonitor.Gateway

open Modbus

/-!
## Device profile registry
-/

abbrev deviceProfileMax : Nat := 8

/-- The bytes of a description from index `i` on: printable up to a NUL that is not the first. -/
def descriptionValidFrom (i : Nat) : List UInt8 -> Bool
  | [] => false  -- no terminator
  | c :: rest =>
      if c = 0 then decide (0 < i)
      else if c < 0x20 ∨ 0x7E < c then false
      else descriptionValidFrom (i + 1) rest

def descriptionValid (description : List UInt8) : Bool :=
  descriptionValidFrom 0 (description.take deviceProfileDescMax)

def profileValid (profile : DeviceProfile) : Bool :=
  (1 ≤ profile.slaveAddr ∧ profile.slaveAddr ≤ 247 ∧ profile.mapVersion ≠ 0 ∧
    profile.vendorCode ≠ 0) && descriptionValid profile.description

/-- Index of an address in a table. -/
def findIn (table : List DeviceProfile) (slaveAddr : UInt8) : Option Nat :=
  table.findIdx? (fun profile => profile.slaveAddr = slaveAddr)

/-- `device_profile_get_by_addr` -/
def getByAddr (table : List DeviceProfile) (slaveAddr : UInt8) : Option DeviceProfile :=
  table.find? (fun profile => profile.slaveAddr = slaveAddr)

/-- The table that `add_or_update` saves and then makes the live one. -/
def addOrUpdate (table : List DeviceProfile) (profile : DeviceProfile) :
    Option (List DeviceProfile) :=
  if !profileValid profile then none
  else
    match findIn table profile.slaveAddr with
    | some i => some (table.set i profile)
    | none => if deviceProfileMax ≤ table.length then none else some (table ++ [profile])

/-- The last profile takes the place of the removed one. -/
def removeProfile (table : List DeviceProfile) (slaveAddr : UInt8) :
    Option (List DeviceProfile) :=
  match findIn table slaveAddr with
  | none => none
  | some i => table.getLast?.map (fun last => (table.set i last).dropLast)

/-!
## Slave table
-/

inductive SlaveIdentity where
  | unverified
  | verified
  | rejected
  deriving DecidableEq, Repr

/-- `fd_cache_t` -/
structure FdCache where
  temperatureCentiC : Int16
  humidityCentiPct : UInt16
  pressureDeciHpa : UInt16
  temperatureValid : Bool
  humidityValid : Bool
  pressureValid : Bool
  hasData : Bool
  updatedTick : UInt32
  deriving DecidableEq

def FdCache.empty : FdCache :=
  ⟨0, 0, 0, false, false, false, false, 0⟩

/-- One entry of `s_slave_states`, `s_alarm_flags` and `s_fd_cache`. -/
structure SlaveSlot where
  slaveAddr : UInt8
  consecutiveSuccesses : Nat
  consecutiveFailures : Nat
  linkOnline : Bool
  identity : SlaveIdentity
  recheckCycles : Nat
  alarmFlags : UInt16
  cache : FdCache

def SlaveSlot.free : SlaveSlot :=
  ⟨0, 0, 0, false, .unverified, 0, 0, FdCache.empty⟩

abbrev hysteresisThreshold : Nat := 3
abbrev rejectedRecheckCycles : Nat := 10

def findSlotIndex (slots : List SlaveSlot) (slaveAddr : UInt8) : Option Nat :=
  slots.findIdx? (fun slot => slot.slaveAddr = slaveAddr)

/-- The slot of a slave; a free one is claimed on first sight. -/
def findOrClaimSlot (slots : List SlaveSlot) (slaveAddr : UInt8) :
    Option (Nat × List SlaveSlot) :=
  match findSlotIndex slots slaveAddr with
  | some i => some (i, slots)
  | none =>
      match findSlotIndex slots 0 with
      | some i => some (i, slots.modify i (fun slot => { slot with slaveAddr := slaveAddr }))
      | none => none

/-- A hysteresis counter stops at the threshold. -/
def countUp (n : Nat) : Nat :=
  if n < hysteresisThreshold then n + 1 else n

def recordPollOutcome (ok : Bool) (slot : SlaveSlot) : SlaveSlot :=
  if ok then
    let successes := countUp slot.consecutiveSuccesses
    { slot with consecutiveFailures := 0, consecutiveSuccesses := successes,
                linkOnline := slot.linkOnline || successes = hysteresisThreshold }
  else
    let failures := countUp slot.consecutiveFailures
    if failures = hysteresisThreshold ∧ slot.linkOnline then
      { slot with consecutiveSuccesses := 0, consecutiveFailures := failures,
                  linkOnline := false, identity := .unverified }
    else { slot with consecutiveSuccesses := 0, consecutiveFailures := failures }

def rejectSlave (slot : SlaveSlot) : SlaveSlot :=
  if slot.identity ≠ .rejected then
    { slot with linkOnline := false, consecutiveSuccesses := 0, identity := .rejected,
                recheckCycles := rejectedRecheckCycles }
  else { slot with identity := .rejected, recheckCycles := rejectedRecheckCycles }

/-- The identity block names the profile's map version and vendor code. -/
def identityMatches (profile : DeviceProfile) (block : ModbusFrame) : Bool :=
  block.data.length = 17 ∧ responseWord block 0 = profile.mapVersion ∧
    responseWord block 7 = profile.vendorCode

abbrev fdRegTemperature : UInt16 := 0x0010
abbrev fdRegHumidity : UInt16 := 0x0011
abbrev fdRegPressure : UInt16 := 0x0012

/-- `read_register_word` -/
def readRegisterWord (map : MapEntry) (response : ModbusFrame) (reg : UInt16) : Option UInt16 :=
  if reg < map.inputRegStart ∨ map.inputRegStart + map.inputRegCount ≤ reg then none
  else some (wordAt response.data (1 + (reg - map.inputRegStart).toNat * 2))

/-- The cache entry that `forward_response_to_consumers` decodes. -/
def decodeReading (map : MapEntry) (response : ModbusFrame) (tick : UInt32) : FdCache :=
  let temperature := readRegisterWord map response fdRegTemperature
  let humidity := readRegisterWord map response fdRegHumidity
  let pressure := readRegisterWord map response fdRegPressure
  { temperatureCentiC := (temperature.getD 0).toInt16
    humidityCentiPct := humidity.getD 0
    pressureDeciHpa := pressure.getD 0
    temperatureValid := temperature.any (· ≠ 0x8000)
    humidityValid := humidity.any (· ≠ 0xFFFF)
    pressureValid := pressure.any (· ≠ 0xFFFF)
    hasData := true
    updatedTick := tick }

def expectedLength (map : MapEntry) : Nat :=
  1 + map.inputRegCount.toNat * 2

/-- `forward_response_to_consumers` -/
def forwardResponse (slots : List SlaveSlot) (profile : DeviceProfile) (map : MapEntry)
    (response : ModbusFrame) (tick : UInt32) : List SlaveSlot :=
  match findSlotIndex slots profile.slaveAddr with
  | none => slots
  | some i =>
      if response.data.length ≠ expectedLength map then slots
      else slots.modify i (fun slot => { slot with cache := decodeReading map response tick })

/-!
## Poll cycle
-/

/-- The copy of a profile that a cycle works with, the version of the table it is from, and the
version at the last re-probe of its address. -/
structure Copy where
  profile : DeviceProfile
  version : Nat
  asked : Nat

/-- Where `poll_slaves` is: before the next profile, or in a transaction. -/
inductive PollPoint where
  | next (index : Nat)
  | identity (index : Nat) (copy : Copy) (map : MapEntry) (slot : Nat)
  | telemetry (index : Nat) (copy : Copy) (map : MapEntry) (slot : Nat)
  | alarmFlags (index : Nat) (copy : Copy)

/-- Responses that were accepted, for the record. -/
inductive Received where
  | identity (copy : Copy) (block : ModbusFrame)
  | telemetry (copy : Copy) (response : ModbusFrame) (tick : UInt32)

/-- The address whose identity block is being read. -/
def PollPoint.identifying : PollPoint -> Option UInt8
  | .identity _ copy _ _ => some copy.profile.slaveAddr
  | _ => none

/-- `history` and `version` remember every table the registry had; `log` the responses accepted,
newest first; `asked` the version at the last re-probe of an address, those left out that came
while its identity block was being read. -/
structure Poller where
  registry : List DeviceProfile
  version : Nat
  history : Nat -> List DeviceProfile
  slots : List SlaveSlot
  point : PollPoint
  log : List Received
  asked : UInt8 -> Nat

def Poller.initial (registry : List DeviceProfile) : Poller :=
  { registry := registry, version := 0, history := fun _ => registry,
    slots := List.replicate 4 SlaveSlot.free, point := .next 0, log := [], asked := fun _ => 0 }

/-- `commit` of a table that was saved. -/
def Poller.commit (s : Poller) (table : List DeviceProfile) : Poller :=
  { s with registry := table, version := s.version + 1,
           history := Function.update s.history (s.version + 1) table }

/-- From the copied profile to the first transaction, or to the next profile. -/
def Poller.startProfile (s : Poller) (index : Nat) (profile : DeviceProfile) : Poller :=
  let copy : Copy := ⟨profile, s.version, s.asked profile.slaveAddr⟩
  match findOrClaimSlot s.slots profile.slaveAddr with
  | none => { s with point := .next index }
  | some (i, slots) =>
      match mapFor profile with
      | none => { s with slots := slots.modify i rejectSlave, point := .next index }
      | some map =>
          match slots[i]? with
          | none => { s with point := .next index }
          | some slot =>
              if slot.identity = .verified then
                { s with slots := slots, point := .telemetry index copy map i }
              else if slot.identity = .rejected ∧ 1 < slot.recheckCycles then
                { s with slots := slots.modify i (fun slot =>
                           { slot with recheckCycles := slot.recheckCycles - 1 }),
                         point := .next index }
              else { s with slots := slots, point := .identity index copy map i }

/-- The rest of `ensure_identity`, after its transaction. -/
def Poller.afterIdentity (s : Poller) (index : Nat) (copy : Copy) (map : MapEntry) (slot : Nat) :
    Transacted -> Poller
  | (.ok, some block) =>
      if identityMatches copy.profile block then
        { s with slots := s.slots.modify slot (fun slot => { slot with identity := .verified }),
                 point := .telemetry index copy map slot,
                 log := .identity copy block :: s.log }
      else { s with slots := s.slots.modify slot rejectSlave, point := .next index }
  | _ =>
      { s with slots := s.slots.modify slot (fun slot =>
                 let slot := recordPollOutcome false slot
                 if slot.identity = .rejected then
                   { slot with recheckCycles := rejectedRecheckCycles }
                 else slot),
               point := .next index }

/-- After the telemetry transaction. -/
def Poller.afterTelemetry (s : Poller) (index : Nat) (copy : Copy) (map : MapEntry) (slot : Nat)
    (tick : UInt32) : Transacted -> Poller
  | (.ok, some response) =>
      { s with slots := forwardResponse (s.slots.modify slot (recordPollOutcome true))
                 copy.profile map response tick,
               point := .alarmFlags index copy,
               log := .telemetry copy response tick :: s.log }
  | _ => { s with slots := s.slots.modify slot (recordPollOutcome false), point := .next index }

/-- After the transaction of `poll_alarm_flags`. -/
def Poller.afterAlarmFlags (s : Poller) (index : Nat) (copy : Copy) : Transacted -> Poller
  | (.ok, some response) =>
      if response.data.length = 3 then
        { s with slots := (match findSlotIndex s.slots copy.profile.slaveAddr with
                   | none => s.slots
                   | some i => s.slots.modify i (fun slot =>
                       { slot with alarmFlags := wordAt response.data 1 })),
                 point := .next index }
      else { s with point := .next index }
  | _ => { s with point := .next index }

/-- What is on record after a re-probe of the address. -/
def Poller.ask (s : Poller) (slaveAddr : UInt8) : UInt8 -> Nat :=
  if s.point.identifying = some slaveAddr then s.asked
  else Function.update s.asked slaveAddr s.version

/-- `modbus_poller_reprobe` -/
def Poller.reprobe (s : Poller) (slaveAddr : UInt8) : Poller :=
  if (getByAddr s.registry slaveAddr).isNone then s
  else
    match findSlotIndex s.slots slaveAddr with
    | none => { s with asked := s.ask slaveAddr }
    | some i => { s with asked := s.ask slaveAddr, slots := s.slots.modify i (fun slot =>
                    { slot with recheckCycles := 0, identity := .unverified }) }

/-- One transaction of the poller with what surrounds it, or one call of another task.  Commands
go through a queue of their own and touch neither table. -/
inductive PollStep : Poller -> Poller -> Prop
  | copyProfile {s : Poller} {index : Nat} {profile : DeviceProfile}
      (here : s.point = .next index) (get : s.registry[index]? = some profile) :
      PollStep s (s.startProfile (index + 1) profile)
  | cycleEnds {s : Poller} {index : Nat} (here : s.point = .next index)
      (get : s.registry[index]? = none) : PollStep s { s with point := .next 0 }
  | identityRead {s : Poller} {index slot : Nat} {copy : Copy} {map : MapEntry}
      (attempts : List Attempt) (here : s.point = .identity index copy map slot) :
      PollStep s (s.afterIdentity index copy map slot
        (modbusMasterTransact (identityRequest copy.profile) attempts))
  | telemetryRead {s : Poller} {index slot : Nat} {copy : Copy} {map : MapEntry}
      (attempts : List Attempt) (tick : UInt32)
      (here : s.point = .telemetry index copy map slot) :
      PollStep s (s.afterTelemetry index copy map slot tick
        (modbusMasterTransact (buildPollRequest copy.profile map) attempts))
  | alarmFlagsRead {s : Poller} {index : Nat} {copy : Copy} (attempts : List Attempt)
      (here : s.point = .alarmFlags index copy) :
      PollStep s (s.afterAlarmFlags index copy
        (modbusMasterTransact (alarmFlagsRequest copy.profile) attempts))
  | addOrUpdate {s : Poller} {profile : DeviceProfile} {table : List DeviceProfile}
      (saved : addOrUpdate s.registry profile = some table) : PollStep s (s.commit table)
  | remove {s : Poller} {slaveAddr : UInt8} {table : List DeviceProfile}
      (saved : removeProfile s.registry slaveAddr = some table) : PollStep s (s.commit table)
  | reprobe {s : Poller} (slaveAddr : UInt8) : PollStep s (s.reprobe slaveAddr)

/-- What `device_profile_registry_load` leaves behind: valid profiles, one for each address. -/
structure RegistryOk (table : List DeviceProfile) : Prop where
  valid : forall profile, profile ∈ table -> profileValid profile = true
  unique : forall (i j : Nat) (p q : DeviceProfile), table[i]? = some p -> table[j]? = some q ->
    p.slaveAddr = q.slaveAddr -> i = j

inductive PollReachable : Poller -> Prop
  | initial {registry : List DeviceProfile} (loaded : RegistryOk registry) :
      PollReachable (Poller.initial registry)
  | step {s s' : Poller} (reached : PollReachable s) (step : PollStep s s') : PollReachable s'

/-- `modbus_poller_get_fd_reading`: the cached reading and the link state. -/
def getFdReading (s : Poller) (slaveAddr : UInt8) : Option (FdCache × Bool) :=
  if (getByAddr s.registry slaveAddr).isNone then none
  else
    match findSlotIndex s.slots slaveAddr with
    | none => some (FdCache.empty, false)
    | some i => (s.slots[i]?).map (fun slot => (slot.cache, slot.linkOnline))

end EnvMonitor.Gateway
