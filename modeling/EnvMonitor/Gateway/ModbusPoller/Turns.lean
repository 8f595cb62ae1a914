import EnvMonitor.Gateway.ModbusPoller.Provenance

/-!
# Who gets a turn

The slot table belongs to the first addresses that the cycles have come across, for good.  What a
cycle owes the registered slaves therefore depends on every address of the past.
-/

namespace EnvMonitor.Gateway

open Modbus

/-!
## Slots and the addresses met
-/

abbrev modbusMaxSlaves : Nat := 4

/-- Addresses in the order in which they were first met. -/
def meet (met : List UInt8) (slaveAddr : UInt8) : List UInt8 :=
  if slaveAddr ∈ met then met else met ++ [slaveAddr]

/-- The owners of the slots: the first addresses met, then free slots. -/
def ownersOf (met : List UInt8) : List UInt8 :=
  met.take modbusMaxSlaves ++ List.replicate (modbusMaxSlaves - met.length) 0

def owners (slots : List SlaveSlot) : List UInt8 := slots.map SlaveSlot.slaveAddr

variable {slaveAddr : UInt8} {met : List UInt8} {update : SlaveSlot -> SlaveSlot}
variable {slots slots' : List SlaveSlot} {c : Cycles} {allowed : Cycles -> CycleAct -> Prop}
variable {i index : Nat} {s : Poller} {profile : DeviceProfile} {table table' : List DeviceProfile}

theorem zero_not_mem_meet (hmet : 0 ∉ met) (haddr : slaveAddr ≠ 0) : 0 ∉ meet met slaveAddr := by
  unfold meet
  split
  · exact hmet
  · intro h
    rcases List.mem_append.mp h with hold | hnew
    · exact hmet hold
    · exact haddr (List.mem_singleton.mp hnew).symm

theorem owners_modify (slots : List SlaveSlot) (i : Nat)
    (h : forall slot, (update slot).slaveAddr = slot.slaveAddr) :
    owners (slots.modify i update) = owners slots := by
  unfold owners
  apply List.ext_getElem?
  intro k
  rw [List.getElem?_map, List.getElem?_map]
  by_cases hki : i = k
  · rw [hki, List.getElem?_modify_eq]
    cases slots[k]? with
    | none => rfl
    | some slot => exact congrArg some (h slot)
  · rw [List.getElem?_modify_ne update slots hki]

theorem findSlotIndex_owners (slots : List SlaveSlot) (slaveAddr : UInt8) :
    findSlotIndex slots slaveAddr = (owners slots).idxOf? slaveAddr := by
  unfold findSlotIndex owners List.idxOf?
  rw [List.findIdx?_map]
  congr

theorem findSlotIndex_none : findSlotIndex slots slaveAddr = none ↔ slaveAddr ∉ owners slots := by
  rw [findSlotIndex_owners, List.idxOf?_eq_none_iff]

theorem findSlotIndex_free (howners : owners slots = ownersOf met) (hmet : 0 ∉ met) :
    findSlotIndex slots 0 = if met.length < modbusMaxSlaves then some met.length else none := by
  rw [findSlotIndex_owners, howners]
  unfold ownersOf
  split
  · rename_i hroom
    rw [List.take_of_length_le (Nat.le_of_lt hroom)]
    have hfree : modbusMaxSlaves - met.length = (modbusMaxSlaves - met.length - 1) + 1 := by omega
    have hnone : met.findIdx? (· == (0 : UInt8)) = none := List.idxOf?_eq_none_iff.mpr hmet
    unfold List.idxOf?
    rw [hfree, List.replicate_succ, List.findIdx?_append, hnone, List.findIdx?_cons]
    simp
  · rename_i hfull
    rw [Nat.sub_eq_zero_of_le (Nat.not_lt.mp hfull), List.replicate_zero, List.append_nil]
    exact List.idxOf?_eq_none_iff.mpr fun h => hmet (List.mem_of_mem_take h)

theorem owners_claim (slots : List SlaveSlot) (i : Nat) (slaveAddr : UInt8) :
    owners (slots.modify i fun slot => { slot with slaveAddr := slaveAddr }) =
      (owners slots).set i slaveAddr := by
  unfold owners
  apply List.ext_getElem?
  intro k
  rw [List.getElem?_map]
  by_cases hki : i = k
  · rw [hki, List.getElem?_modify_eq, List.getElem?_set_self', List.getElem?_map]
    cases slots[k]? with
    | none => rfl
    | some slot => rfl
  · rw [List.getElem?_modify_ne _ slots hki, List.getElem?_set_ne hki, List.getElem?_map]

theorem ownersOf_full (h : modbusMaxSlaves ≤ met.length) (slaveAddr : UInt8) :
    (meet met slaveAddr).take modbusMaxSlaves = met.take modbusMaxSlaves ∧
      ownersOf (meet met slaveAddr) = ownersOf met := by
  have htake : (meet met slaveAddr).take modbusMaxSlaves = met.take modbusMaxSlaves := by
    unfold meet
    split
    · rfl
    · exact List.take_append_of_le_length h
  have hlength : modbusMaxSlaves ≤ (meet met slaveAddr).length := by
    unfold meet
    split
    · exact h
    · rw [List.length_append]
      omega
  constructor
  · exact htake
  · unfold ownersOf
    rw [htake, Nat.sub_eq_zero_of_le h, Nat.sub_eq_zero_of_le hlength]

theorem ownersOf_claim (h : met.length < modbusMaxSlaves) (slaveAddr : UInt8) :
    (ownersOf met).set met.length slaveAddr = ownersOf (met ++ [slaveAddr]) := by
  have hfree : modbusMaxSlaves - met.length = (modbusMaxSlaves - (met ++ [slaveAddr]).length) + 1 := by
    rw [List.length_append, List.length_singleton]
    omega
  have hroom : (met ++ [slaveAddr]).length ≤ modbusMaxSlaves := by
    rw [List.length_append, List.length_singleton]
    exact h
  unfold ownersOf
  rw [List.take_of_length_le (Nat.le_of_lt h), List.take_of_length_le hroom, hfree,
    List.replicate_succ, List.set_append_right _ _ (Nat.le_refl _), Nat.sub_self, List.set_cons_zero,
    List.append_assoc]
  rfl

section Claim

variable {slots : List SlaveSlot} {met : List UInt8} {slaveAddr : UInt8}

theorem mem_of_owned (howners : owners slots = ownersOf met) (haddr : slaveAddr ≠ 0)
    (h : slaveAddr ∈ owners slots) : slaveAddr ∈ met.take modbusMaxSlaves := by
  rw [howners] at h
  rcases List.mem_append.mp h with hmet | hfree
  · exact hmet
  · exact absurd (List.eq_of_mem_replicate hfree) haddr

theorem findOrClaimSlot_some {slots' : List SlaveSlot} {i : Nat}
    (howners : owners slots = ownersOf met) (hmet : 0 ∉ met) (haddr : slaveAddr ≠ 0)
    (h : findOrClaimSlot slots slaveAddr = some (i, slots')) :
    owners slots' = ownersOf (meet met slaveAddr) := by
  unfold findOrClaimSlot at h
  cases hfind : findSlotIndex slots slaveAddr with
  | some j =>
      rw [hfind] at h
      cases h
      have howned : slaveAddr ∈ owners slots := by
        apply Classical.not_not.mp
        intro hnot
        rw [findSlotIndex_none.mpr hnot] at hfind
        cases hfind
      have hold := List.mem_of_mem_take (mem_of_owned howners haddr howned)
      unfold meet
      rw [if_pos hold]
      exact howners
  | none =>
      have hnew := findSlotIndex_none.mp hfind
      rw [hfind, findSlotIndex_free howners hmet] at h
      dsimp only at h
      split at h
      · rename_i j hj
        cases h
        split at hj
        · rename_i hroom
          cases hj
          have hunmet : slaveAddr ∉ met := by
            intro hold
            apply hnew
            rw [howners]
            unfold ownersOf
            rw [List.take_of_length_le (Nat.le_of_lt hroom)]
            exact List.mem_append_left _ hold
          unfold meet
          rw [owners_claim, howners, ownersOf_claim hroom, if_neg hunmet]
        · cases hj
      · cases h

theorem findOrClaimSlot_none (howners : owners slots = ownersOf met) (hmet : 0 ∉ met)
    (h : findOrClaimSlot slots slaveAddr = none) :
    owners slots = ownersOf (meet met slaveAddr) ∧
      slaveAddr ∉ (meet met slaveAddr).take modbusMaxSlaves := by
  unfold findOrClaimSlot at h
  cases hfind : findSlotIndex slots slaveAddr with
  | some j =>
      rw [hfind] at h
      cases h
  | none =>
      have hnew := findSlotIndex_none.mp hfind
      rw [hfind, findSlotIndex_free howners hmet] at h
      dsimp only at h
      split at h
      · cases h
      · rename_i hj
        split at hj
        · cases hj
        · rename_i hfull
          have hsame := ownersOf_full (Nat.not_lt.mp hfull) slaveAddr
          constructor
          · rw [hsame.2]
            exact howners
          · rw [hsame.1]
            intro hold
            apply hnew
            rw [howners]
            exact List.mem_append_left _ hold

end Claim

/-!
## Cycles
-/

/-- The index that `device_profile_get_next` is called with next. -/
def PollPoint.nextIndex : PollPoint -> Nat
  | .next index => index
  | .identity index _ _ _ => index
  | .telemetry index _ _ _ => index
  | .alarmFlags index _ => index

/-- The profile of the transaction under way. -/
def PollPoint.copy : PollPoint -> Option Copy
  | .next _ => none
  | .identity _ copy _ _ => some copy
  | .telemetry _ copy _ _ => some copy
  | .alarmFlags _ copy => some copy

/-- The slave was rejected and its next check is more than one cycle away. -/
def waitsOut (slots : List SlaveSlot) (slaveAddr : UInt8) : Bool :=
  slots.any fun slot =>
    slot.slaveAddr = slaveAddr ∧ slot.identity = .rejected ∧ 1 < slot.recheckCycles

/-- The poller, the addresses its cycles have met, and of the running cycle the slaves that were
sent a request and those that are owed none. -/
structure Cycles where
  poller : Poller
  met : List UInt8
  sent : List UInt8
  excused : List UInt8

def Cycles.initial (registry : List DeviceProfile) : Cycles :=
  { poller := Poller.initial registry, met := [], sent := [], excused := [] }

/-- A profile is taken up. -/
def Cycles.turn (c : Cycles) (index : Nat) (profile : DeviceProfile) : Cycles :=
  { c with
    poller := c.poller.startProfile (index + 1) profile
    met := meet c.met profile.slaveAddr
    excused :=
      if (mapFor profile).isNone || waitsOut c.poller.slots profile.slaveAddr then
        profile.slaveAddr :: c.excused
      else c.excused }

/-- A request was sent to the slave of the copy. -/
def Cycles.exchanged (c : Cycles) (copy : Copy) (poller : Poller) : Cycles :=
  { c with poller := poller, sent := copy.profile.slaveAddr :: c.sent }

inductive CycleAct where
  | turn
  | cycleEnds
  | exchange
  | addOrUpdate (profile : DeviceProfile)
  | remove (slaveAddr : UInt8)
  | reprobe (slaveAddr : UInt8)

/-- The steps of `PollStep`, with what they do to the account of the cycle. -/
inductive CycleStep : Cycles -> CycleAct -> Cycles -> Prop
  | turn {c : Cycles} {index : Nat} {profile : DeviceProfile}
      (here : c.poller.point = .next index) (get : c.poller.registry[index]? = some profile) :
      CycleStep c .turn (c.turn index profile)
  | cycleEnds {c : Cycles} {index : Nat} (here : c.poller.point = .next index)
      (get : c.poller.registry[index]? = none) :
      CycleStep c .cycleEnds
        { c with poller := { c.poller with point := .next 0 }, sent := [], excused := [] }
  | identityRead {c : Cycles} {index slot : Nat} {copy : Copy} {map : MapEntry}
      (attempts : List Attempt) (here : c.poller.point = .identity index copy map slot) :
      CycleStep c .exchange (c.exchanged copy (c.poller.afterIdentity index copy map slot
        (modbusMasterTransact (identityRequest copy.profile) attempts)))
  | telemetryRead {c : Cycles} {index slot : Nat} {copy : Copy} {map : MapEntry}
      (attempts : List Attempt) (tick : UInt32)
      (here : c.poller.point = .telemetry index copy map slot) :
      CycleStep c .exchange (c.exchanged copy (c.poller.afterTelemetry index copy map slot tick
        (modbusMasterTransact (buildPollRequest copy.profile map) attempts)))
  | alarmFlagsRead {c : Cycles} {index : Nat} {copy : Copy} (attempts : List Attempt)
      (here : c.poller.point = .alarmFlags index copy) :
      CycleStep c .exchange (c.exchanged copy (c.poller.afterAlarmFlags index copy
        (modbusMasterTransact (alarmFlagsRequest copy.profile) attempts)))
  | addOrUpdate {c : Cycles} {profile : DeviceProfile} {table : List DeviceProfile}
      (saved : addOrUpdate c.poller.registry profile = some table) :
      CycleStep c (.addOrUpdate profile) { c with poller := c.poller.commit table }
  | remove {c : Cycles} {slaveAddr : UInt8} {table : List DeviceProfile}
      (saved : removeProfile c.poller.registry slaveAddr = some table) :
      CycleStep c (.remove slaveAddr) { c with poller := c.poller.commit table }
  | reprobe {c : Cycles} (slaveAddr : UInt8) :
      CycleStep c (.reprobe slaveAddr) { c with poller := c.poller.reprobe slaveAddr }

/-- States of runs in which every step is allowed. -/
inductive CyclesReached (allowed : Cycles -> CycleAct -> Prop) : Cycles -> Prop
  | initial {registry : List DeviceProfile} (loaded : RegistryOk registry) :
      CyclesReached allowed (Cycles.initial registry)
  | step {c c' : Cycles} {act : CycleAct} (reached : CyclesReached allowed c)
      (ok : allowed c act) (step : CycleStep c act c') : CyclesReached allowed c'

theorem CycleStep.pollStep {c' : Cycles} {act : CycleAct} (h : CycleStep c act c') :
    PollStep c.poller c'.poller := by
  cases h with
  | turn here get => exact .copyProfile here get
  | cycleEnds here get => exact .cycleEnds here get
  | identityRead attempts here => exact .identityRead attempts here
  | telemetryRead attempts tick here => exact .telemetryRead attempts tick here
  | alarmFlagsRead attempts here => exact .alarmFlagsRead attempts here
  | addOrUpdate saved => exact .addOrUpdate saved
  | remove saved => exact .remove saved
  | reprobe slaveAddr => exact .reprobe slaveAddr

theorem CyclesReached.poller (h : CyclesReached allowed c) : PollReachable c.poller := by
  induction h with
  | initial loaded => exact .initial loaded
  | step _ _ hstep ih => exact .step ih hstep.pollStep

/-- At the end of a cycle every registered slave has been sent a request in it, but for those with
an unknown map version and those that wait out a rejected check. -/
def EveryoneServed (c : Cycles) : Prop :=
  forall index, c.poller.point = .next index -> c.poller.registry[index]? = none ->
    forall profile, profile ∈ c.poller.registry ->
      profile.slaveAddr ∈ c.sent ∨ profile.slaveAddr ∈ c.excused

/-- A slave with a known map that gets its turn is among the first addresses ever met; no change of
the registry puts a profile behind the running cycle that the cycle has not taken up. -/
def WithinTable (c : Cycles) : CycleAct -> Prop
  | .turn => forall index profile, c.poller.point = .next index ->
      c.poller.registry[index]? = some profile -> (mapFor profile).isSome = true ->
      profile.slaveAddr ∈ (meet c.met profile.slaveAddr).take modbusMaxSlaves
  | .addOrUpdate profile => findIn c.poller.registry profile.slaveAddr = none ->
      c.poller.point.nextIndex ≤ c.poller.registry.length
  | .remove slaveAddr => forall i, findIn c.poller.registry slaveAddr = some i ->
      c.poller.point.nextIndex ≤ i ∨ c.poller.registry.length ≤ c.poller.point.nextIndex
  | _ => True

/-!
## What the steps keep
-/

/-- No free slot carries a verdict. -/
def FreeUnjudged (slots : List SlaveSlot) : Prop :=
  forall slot, slot ∈ slots -> slot.slaveAddr = 0 -> slot.identity ≠ .rejected

/-- Owners stay, and free slots stay without a verdict. -/
structure SlotsKept (slots slots' : List SlaveSlot) : Prop where
  owners : owners slots' = owners slots
  free : FreeUnjudged slots -> FreeUnjudged slots'

theorem SlotsKept.refl (slots : List SlaveSlot) : SlotsKept slots slots := ⟨rfl, fun h => h⟩

theorem SlotsKept.trans {slots'' : List SlaveSlot} (h : SlotsKept slots slots')
    (h' : SlotsKept slots' slots'') : SlotsKept slots slots'' :=
  ⟨h'.owners.trans h.owners, fun hfree => h'.free (h.free hfree)⟩

theorem SlotsKept.modify (slots : List SlaveSlot) (i : Nat)
    (haddr : forall slot, (update slot).slaveAddr = slot.slaveAddr)
    (hverdict : forall slot, slots[i]? = some slot -> (update slot).identity = .rejected ->
      slot.identity = .rejected ∨ slot.slaveAddr ≠ 0) :
    SlotsKept slots (slots.modify i update) := by
  constructor
  · exact owners_modify slots i haddr
  · intro hfree slot hslot hzero hrejected
    rcases mem_modify hslot with hold | ⟨old, hold, heq⟩
    · exact hfree slot hold hzero hrejected
    · rw [heq] at hzero hrejected
      rw [haddr] at hzero
      rcases hverdict old hold hrejected with hbefore | howned
      · exact hfree old (List.mem_of_getElem? hold) hzero hbefore
      · exact howned hzero

theorem recordPollOutcome_kept (ok : Bool) (slot : SlaveSlot) :
    (recordPollOutcome ok slot).slaveAddr = slot.slaveAddr ∧
      ((recordPollOutcome ok slot).identity = .rejected -> slot.identity = .rejected) := by
  unfold recordPollOutcome
  dsimp only
  split
  · exact ⟨rfl, fun h => h⟩
  · split
    · exact ⟨rfl, fun h => nomatch h⟩
    · exact ⟨rfl, fun h => h⟩

theorem SlotsKept.pollOutcome (slots : List SlaveSlot) (i : Nat) (ok : Bool) :
    SlotsKept slots (slots.modify i (recordPollOutcome ok)) :=
  .modify slots i (fun slot => (recordPollOutcome_kept ok slot).1)
    fun slot _ h => .inl ((recordPollOutcome_kept ok slot).2 h)

theorem rejectSlave_slaveAddr (slot : SlaveSlot) : (rejectSlave slot).slaveAddr = slot.slaveAddr := by
  unfold rejectSlave
  split <;> rfl

theorem SlotsKept.reject (h : HasAddr slots i slaveAddr) (haddr : slaveAddr ≠ 0) :
    SlotsKept slots (slots.modify i rejectSlave) := by
  apply SlotsKept.modify slots i rejectSlave_slaveAddr
  intro slot hslot _
  rcases h with ⟨owner, howner, hown⟩
  rw [hslot] at howner
  cases howner
  rw [hown]
  exact .inr haddr

/-- What a transaction leaves: the registry, the owners, its place in the cycle. -/
structure Exchanged (s s' : Poller) (index : Nat) (copy : Copy) : Prop where
  registry : s'.registry = s.registry
  slots : SlotsKept s.slots s'.slots
  nextIndex : s'.point.nextIndex = index
  copy : s'.point.copy = none ∨ s'.point.copy = some copy

theorem Exchanged.identity (index : Nat) (copy : Copy) (map : MapEntry) {slot : Nat}
    (h : HasAddr s.slots slot copy.profile.slaveAddr) (haddr : copy.profile.slaveAddr ≠ 0)
    (result : Transacted) :
    Exchanged s (s.afterIdentity index copy map slot result) index copy := by
  unfold Poller.afterIdentity
  split
  · split
    · exact ⟨rfl, .modify s.slots slot (fun _ => rfl) (fun _ _ h => nomatch h), rfl, .inr rfl⟩
    · exact ⟨rfl, .reject h haddr, rfl, .inl rfl⟩
  · refine ⟨rfl, .modify s.slots slot ?_ ?_, rfl, .inl rfl⟩
    · intro slot
      dsimp only
      split
      · exact (recordPollOutcome_kept false slot).1
      · exact (recordPollOutcome_kept false slot).1
    · intro slot _ hrejected
      dsimp only at hrejected
      split at hrejected
      · exact .inl ((recordPollOutcome_kept false slot).2 ‹_›)
      · exact .inl ((recordPollOutcome_kept false slot).2 hrejected)

theorem SlotsKept.forward (slots : List SlaveSlot) (profile : DeviceProfile) (map : MapEntry)
    (response : ModbusFrame) (tick : UInt32) :
    SlotsKept slots (forwardResponse slots profile map response tick) := by
  unfold forwardResponse
  split
  · exact .refl slots
  · split
    · exact .refl slots
    · exact .modify slots _ (fun _ => rfl) fun _ _ h => .inl h

theorem Exchanged.telemetry (s : Poller) (index : Nat) (copy : Copy) (map : MapEntry) (slot : Nat)
    (tick : UInt32) (result : Transacted) :
    Exchanged s (s.afterTelemetry index copy map slot tick result) index copy := by
  unfold Poller.afterTelemetry
  split
  · exact ⟨rfl, (SlotsKept.pollOutcome s.slots slot true).trans (.forward ..), rfl, .inr rfl⟩
  · exact ⟨rfl, .pollOutcome s.slots slot false, rfl, .inl rfl⟩

theorem Exchanged.alarmFlags (s : Poller) (index : Nat) (copy : Copy) (result : Transacted) :
    Exchanged s (s.afterAlarmFlags index copy result) index copy := by
  unfold Poller.afterAlarmFlags
  split
  · split
    · refine ⟨rfl, ?_, rfl, .inl rfl⟩
      dsimp only
      split
      · exact .refl s.slots
      · exact .modify s.slots _ (fun _ => rfl) fun _ _ h => .inl h
    · exact ⟨rfl, .refl s.slots, rfl, .inl rfl⟩
  · exact ⟨rfl, .refl s.slots, rfl, .inl rfl⟩

/-!
## A turn
-/

theorem findOrClaimSlot_cases (h : findOrClaimSlot slots slaveAddr = some (i, slots')) :
    (slots' = slots ∧ HasAddr slots i slaveAddr) ∨
      (HasAddr slots i 0 ∧
        slots' = slots.modify i fun slot => { slot with slaveAddr := slaveAddr }) := by
  unfold findOrClaimSlot at h
  cases hfind : findSlotIndex slots slaveAddr with
  | some j =>
      rw [hfind] at h
      cases h
      exact .inl ⟨rfl, findSlotIndex_hasAddr hfind⟩
  | none =>
      rw [hfind] at h
      dsimp only at h
      split at h
      · rename_i hfree
        cases h
        exact .inr ⟨findSlotIndex_hasAddr hfree, rfl⟩
      · cases h

theorem findOrClaimSlot_hasAddr (h : findOrClaimSlot slots slaveAddr = some (i, slots')) :
    HasAddr slots' i slaveAddr := by
  rcases findOrClaimSlot_cases h with ⟨heq, hold⟩ | ⟨⟨slot, hslot, _⟩, heq⟩
  · rw [heq]
    exact hold
  · rw [heq]
    exact ⟨_, by rw [List.getElem?_modify_eq, hslot]; rfl, rfl⟩

theorem waitsOut_of_mem {slot : SlaveSlot} (h : slot ∈ slots)
    (hrejected : slot.identity = .rejected) (hcycles : 1 < slot.recheckCycles) :
    waitsOut slots slot.slaveAddr = true := by
  unfold waitsOut
  rw [List.any_eq_true]
  exact ⟨slot, h, decide_eq_true ⟨rfl, hrejected, hcycles⟩⟩

/-- What a turn leaves, and why a slave gets no transaction in it. -/
structure TurnTaken (s s' : Poller) (met : List UInt8) (index : Nat) (profile : DeviceProfile) :
    Prop where
  registry : s'.registry = s.registry
  owners : owners s'.slots = ownersOf (meet met profile.slaveAddr)
  free : FreeUnjudged s'.slots
  nextIndex : s'.point.nextIndex = index
  outcome : s'.point.copy = some ⟨profile, s.version, s.asked profile.slaveAddr⟩ ∨ (mapFor profile).isNone = true ∨
    waitsOut s.slots profile.slaveAddr = true ∨
    profile.slaveAddr ∉ (meet met profile.slaveAddr).take modbusMaxSlaves

theorem TurnTaken.start (index : Nat) (howners : Gateway.owners s.slots = ownersOf met)
    (hmet : 0 ∉ met) (hfree : FreeUnjudged s.slots) (haddr : profile.slaveAddr ≠ 0) :
    TurnTaken s (s.startProfile index profile) met index profile := by
  unfold Poller.startProfile
  dsimp only
  cases hclaim : findOrClaimSlot s.slots profile.slaveAddr with
  | none =>
      have hfull := findOrClaimSlot_none howners hmet hclaim
      exact ⟨rfl, hfull.1, hfree, rfl, .inr (.inr (.inr hfull.2))⟩
  | some claimed =>
      rcases claimed with ⟨i, slots⟩
      have hnow := findOrClaimSlot_some howners hmet haddr hclaim
      have hown := findOrClaimSlot_hasAddr hclaim
      have hclaimed : FreeUnjudged slots := by
        rcases findOrClaimSlot_cases hclaim with ⟨heq, _⟩ | ⟨_, heq⟩
        · rw [heq]
          exact hfree
        · intro slot hslot hzero
          rw [heq] at hslot
          rcases mem_modify hslot with hold | ⟨old, _, hnew⟩
          · exact hfree slot hold hzero
          · rw [hnew] at hzero
            exact absurd hzero haddr
      dsimp only
      cases hmap : mapFor profile with
      | none =>
          have hkept := SlotsKept.reject hown haddr
          exact ⟨rfl, hkept.owners.trans hnow, hkept.free hclaimed, rfl, .inr (.inl (by rw [hmap]; rfl))⟩
      | some map =>
          dsimp only
          cases hslot : slots[i]? with
          | none =>
              rcases hown with ⟨slot, hslot', _⟩
              rw [hslot] at hslot'
              cases hslot'
          | some slot =>
              have hslotAddr : slot.slaveAddr = profile.slaveAddr := by
                rcases hown with ⟨other, hother, hotherAddr⟩
                rw [hslot] at hother
                cases hother
                exact hotherAddr
              dsimp only
              split
              · exact ⟨rfl, hnow, hclaimed, rfl, .inl rfl⟩
              · split
                · rename_i hwaits
                  have hkept : SlotsKept slots (slots.modify i fun slot =>
                      { slot with recheckCycles := slot.recheckCycles - 1 }) :=
                    .modify slots i (fun _ => rfl) fun _ _ h => .inl h
                  refine ⟨rfl, hkept.owners.trans hnow, hkept.free hclaimed, rfl,
                    .inr (.inr (.inl ?_))⟩
                  rw [← hslotAddr]
                  apply waitsOut_of_mem _ hwaits.1 hwaits.2
                  -- a slot claimed just now carries no verdict
                  rcases findOrClaimSlot_cases hclaim with ⟨heq, _⟩ | ⟨⟨old, hold, hzero⟩, heq⟩
                  · rw [← heq]
                    exact List.mem_of_getElem? hslot
                  · rw [heq, List.getElem?_modify_eq, hold] at hslot
                    cases hslot
                    exact absurd hwaits.1 (hfree old (List.mem_of_getElem? hold) hzero)
                · exact ⟨rfl, hnow, hclaimed, rfl, .inl rfl⟩

/-!
## Changes of the registry
-/

/-- The address is registered at an index that the cycle has passed. -/
def Passed (table : List DeviceProfile) (index : Nat) (slaveAddr : UInt8) : Prop :=
  exists j profile, j < index ∧ table[j]? = some profile ∧ profile.slaveAddr = slaveAddr

theorem addOrUpdate_passed (h : addOrUpdate table profile = some table')
    (hbehind : findIn table profile.slaveAddr = none -> index ≤ table.length)
    (hpassed : Passed table' index slaveAddr) : Passed table index slaveAddr := by
  rcases hpassed with ⟨j, p, hj, hp, haddr⟩
  rcases addOrUpdate_cases h with ⟨_, ⟨i, old, hold, holdAddr, rfl⟩ | ⟨hnone, _, rfl⟩⟩
  · by_cases hij : i = j
    · rw [← hij, List.getElem?_set_self', hold] at hp
      cases hp
      exact ⟨i, old, by omega, hold, holdAddr.trans haddr⟩
    · rw [List.getElem?_set_ne hij] at hp
      exact ⟨j, p, hj, hp, haddr⟩
  · have hlt : j < table.length := Nat.lt_of_lt_of_le hj (hbehind hnone)
    rw [List.getElem?_append_left hlt] at hp
    exact ⟨j, p, hj, hp, haddr⟩

theorem removeProfile_passed {removed : UInt8} (h : removeProfile table removed = some table')
    (hbehind : forall i, findIn table removed = some i -> index ≤ i ∨ table.length ≤ index)
    (hpassed : Passed table' index slaveAddr) : Passed table index slaveAddr := by
  rcases hpassed with ⟨j, p, hj, hp, haddr⟩
  rcases removeProfile_cases h with ⟨i, old, last, hfind, _, _, hlast, rfl⟩
  rw [List.getElem?_dropLast, List.length_set] at hp
  split at hp
  · rename_i hlt
    by_cases hij : i = j
    · -- the last profile stands where the removed one stood
      rw [← hij, List.getElem?_set_self (by omega)] at hp
      rw [List.getLast?_eq_getElem?] at hlast
      refine ⟨table.length - 1, p, ?_, hlast.trans hp, haddr⟩
      rcases hbehind i hfind with hahead | hall
      · omega
      · omega
    · rw [List.getElem?_set_ne hij] at hp
      exact ⟨j, p, hj, hp, haddr⟩
  · cases hp

/-!
## Every cycle
-/

/-- Served in the running cycle, owed nothing, or in the transaction under way. -/
def Cycles.Attended (c : Cycles) (slaveAddr : UInt8) : Prop :=
  slaveAddr ∈ c.sent ∨ slaveAddr ∈ c.excused ∨
    exists copy, c.poller.point.copy = some copy ∧ copy.profile.slaveAddr = slaveAddr

/-- The slot table of any run. -/
structure SlotsInv (c : Cycles) : Prop where
  owners : owners c.poller.slots = ownersOf c.met
  met : 0 ∉ c.met
  free : FreeUnjudged c.poller.slots

def AllAttended (c : Cycles) : Prop :=
  forall slaveAddr, Passed c.poller.registry c.poller.point.nextIndex slaveAddr ->
    c.Attended slaveAddr

theorem SlotsInv.initial (registry : List DeviceProfile) : SlotsInv (Cycles.initial registry) where
  owners := rfl
  met := List.not_mem_nil
  free := by
    intro slot hslot _
    rw [List.eq_of_mem_replicate hslot]
    exact fun h => nomatch h

theorem not_passed_zero (table : List DeviceProfile) (slaveAddr : UInt8) :
    ¬ Passed table 0 slaveAddr := by
  intro h
  rcases h with ⟨j, profile, hj, _⟩
  exact Nat.not_lt_zero j hj

section Steps

variable {c : Cycles}

variable {s : Poller} {index : Nat} {profile : DeviceProfile} {c' : Cycles} {act : CycleAct}

theorem copy_addr_ne_zero (hinv : PollInv s) {copy : Copy} (h : CopyOk s copy) :
    copy.profile.slaveAddr ≠ 0 :=
  mem_addr_ne_zero (hinv.registries copy.version h.1) h.2

theorem registered_addr_ne_zero (hinv : PollInv s) (get : s.registry[index]? = some profile) :
    profile.slaveAddr ≠ 0 := by
  have hregistry : RegistryOk s.registry := by
    rw [← hinv.current]
    exact hinv.registries _ (Nat.le_refl _)
  exact mem_addr_ne_zero hregistry (List.mem_of_getElem? get)

theorem exchanged_identity (hinv : PollInv c.poller) {slot : Nat} {copy : Copy} {map : MapEntry}
    (here : c.poller.point = .identity index copy map slot) (result : Transacted) :
    Exchanged c.poller (c.poller.afterIdentity index copy map slot result) index copy := by
  have hpoint := hinv.point
  unfold PointOk at hpoint
  rw [here] at hpoint
  exact .identity index copy map hpoint.2.2.1 (copy_addr_ne_zero hinv hpoint.1) result

theorem reprobe_kept (s : Poller) (slaveAddr : UInt8) :
    (s.reprobe slaveAddr).registry = s.registry ∧ (s.reprobe slaveAddr).point = s.point ∧
      SlotsKept s.slots (s.reprobe slaveAddr).slots := by
  unfold Poller.reprobe
  split
  · exact ⟨rfl, rfl, .refl s.slots⟩
  · split
    · exact ⟨rfl, rfl, .refl s.slots⟩
    · exact ⟨rfl, rfl, .modify s.slots _ (fun _ => rfl) fun _ _ h => nomatch h⟩

theorem SlotsInv.kept (h : SlotsInv c) (hmet : c'.met = c.met)
    (hkept : SlotsKept c.poller.slots c'.poller.slots) : SlotsInv c' where
  owners := by
    rw [hmet]
    exact hkept.owners.trans h.owners
  met := by
    rw [hmet]
    exact h.met
  free := hkept.free h.free

theorem SlotsInv.step (h : SlotsInv c) (hinv : PollInv c.poller) (hstep : CycleStep c act c') :
    SlotsInv c' := by
  cases hstep with
  | @turn index profile here get =>
      have haddr := registered_addr_ne_zero hinv get
      have htaken := TurnTaken.start (index + 1) h.owners h.met h.free haddr
      exact ⟨htaken.owners, zero_not_mem_meet h.met haddr, htaken.free⟩
  | cycleEnds here get => exact h.kept rfl (.refl _)
  | identityRead attempts here => exact h.kept rfl (exchanged_identity hinv here _).slots
  | telemetryRead attempts tick here => exact h.kept rfl (Exchanged.telemetry ..).slots
  | alarmFlagsRead attempts here => exact h.kept rfl (Exchanged.alarmFlags ..).slots
  | addOrUpdate saved => exact h.kept rfl (.refl _)
  | remove saved => exact h.kept rfl (.refl _)
  | reprobe slaveAddr => exact h.kept rfl (reprobe_kept c.poller slaveAddr).2.2

theorem AllAttended.turn (h : AllAttended c) (hslots : SlotsInv c) (haddr : profile.slaveAddr ≠ 0)
    (here : c.poller.point = .next index) (get : c.poller.registry[index]? = some profile)
    (hfirst : (mapFor profile).isSome = true ->
      profile.slaveAddr ∈ (meet c.met profile.slaveAddr).take modbusMaxSlaves) :
    AllAttended (c.turn index profile) := by
  have htaken := TurnTaken.start (index + 1) hslots.owners hslots.met hslots.free haddr
  have hexcused : forall slaveAddr, slaveAddr ∈ c.excused ->
      slaveAddr ∈ (c.turn index profile).excused := by
    intro slaveAddr hold
    unfold Cycles.turn
    dsimp only
    split
    · exact List.mem_cons_of_mem _ hold
    · exact hold
  have hreason : (mapFor profile).isNone = true ∨
      waitsOut c.poller.slots profile.slaveAddr = true ->
      profile.slaveAddr ∈ (c.turn index profile).excused := by
    intro hwhy
    unfold Cycles.turn
    dsimp only
    rw [if_pos (by rw [Bool.or_eq_true]; exact hwhy)]
    exact List.mem_cons_self
  intro slaveAddr hpassed
  rcases hpassed with ⟨j, p, hj, hp, hpa⟩
  change j < (c.poller.startProfile (index + 1) profile).point.nextIndex at hj
  change (c.poller.startProfile (index + 1) profile).registry[j]? = some p at hp
  rw [htaken.nextIndex] at hj
  rw [htaken.registry] at hp
  by_cases hlast : j = index
  · rw [hlast, get] at hp
    cases hp
    rw [← hpa]
    rcases htaken.outcome with hcopy | hunknown | hwaits | hlate
    · exact .inr (.inr ⟨_, hcopy, rfl⟩)
    · exact .inr (.inl (hreason (.inl hunknown)))
    · exact .inr (.inl (hreason (.inr hwaits)))
    · cases hmap : mapFor profile with
      | none => exact .inr (.inl (hreason (.inl (by rw [hmap]; rfl))))
      | some map => exact absurd (hfirst (by rw [hmap]; rfl)) hlate
  · have hbefore : Passed c.poller.registry c.poller.point.nextIndex slaveAddr := by
      rw [here]
      exact ⟨j, p, by change j < index; omega, hp, hpa⟩
    rcases h slaveAddr hbefore with hsent | hexcuse | ⟨copy, hcopy, _⟩
    · exact .inl hsent
    · exact .inr (.inl (hexcused slaveAddr hexcuse))
    · rw [here] at hcopy
      cases hcopy

theorem AllAttended.exchanged (h : AllAttended c) {copy : Copy} {poller : Poller}
    (hindex : c.poller.point.nextIndex = index) (here : c.poller.point.copy = some copy)
    (hexchanged : Exchanged c.poller poller index copy) :
    AllAttended (c.exchanged copy poller) := by
  intro slaveAddr hpassed
  change Passed poller.registry poller.point.nextIndex slaveAddr at hpassed
  rw [hexchanged.registry, hexchanged.nextIndex, ← hindex] at hpassed
  rcases h slaveAddr hpassed with hsent | hexcuse | ⟨copy', hcopy, haddr⟩
  · exact .inl (List.mem_cons_of_mem _ hsent)
  · exact .inr (.inl hexcuse)
  · rw [here] at hcopy
    cases hcopy
    rw [← haddr]
    exact .inl List.mem_cons_self

theorem AllAttended.reprobe (h : AllAttended c) (slaveAddr : UInt8) :
    AllAttended { c with poller := c.poller.reprobe slaveAddr } := by
  rcases reprobe_kept c.poller slaveAddr with ⟨hregistry, hpoint, _⟩
  intro other hpassed
  change Passed (c.poller.reprobe slaveAddr).registry (c.poller.reprobe slaveAddr).point.nextIndex
    other at hpassed
  unfold Cycles.Attended
  rw [hregistry, hpoint] at hpassed
  rw [hpoint]
  exact h other hpassed

theorem AllAttended.step (h : AllAttended c) (hslots : SlotsInv c) (hinv : PollInv c.poller)
    (hok : WithinTable c act) (hstep : CycleStep c act c') : AllAttended c' := by
  cases hstep with
  | turn here get =>
      exact h.turn hslots (registered_addr_ne_zero hinv get) here get (hok _ _ here get)
  | cycleEnds here get => exact fun slaveAddr hpassed => (not_passed_zero _ _ hpassed).elim
  | identityRead attempts here =>
      exact h.exchanged (by rw [here]; rfl) (by rw [here]; rfl) (exchanged_identity hinv here _)
  | telemetryRead attempts tick here =>
      exact h.exchanged (by rw [here]; rfl) (by rw [here]; rfl) (.telemetry ..)
  | alarmFlagsRead attempts here =>
      exact h.exchanged (by rw [here]; rfl) (by rw [here]; rfl) (.alarmFlags ..)
  | addOrUpdate saved => exact fun other hnow => h other (addOrUpdate_passed saved hok hnow)
  | remove saved => exact fun other hnow => h other (removeProfile_passed saved hok hnow)
  | reprobe slaveAddr => exact h.reprobe slaveAddr

end Steps

theorem CyclesReached.slotsInv (h : CyclesReached allowed c) : SlotsInv c := by
  induction h with
  | initial _ => exact SlotsInv.initial _
  | step hreached _ hstep ih => exact ih.step hreached.poller.inv hstep

theorem CyclesReached.attended (h : CyclesReached WithinTable c) : AllAttended c := by
  induction h with
  | initial _ => exact fun slaveAddr hpassed => (not_passed_zero _ _ hpassed).elim
  | step hreached hok hstep ih =>
      exact ih.step hreached.slotsInv hreached.poller.inv hok hstep

/-- While the slots suffice and no change works behind a cycle's back, every cycle serves
everyone to whom it owes a request. -/
theorem everyone_served {c : Cycles} (h : CyclesReached WithinTable c) : EveryoneServed c := by
  intro index here hend profile hmem
  rcases List.getElem?_of_mem hmem with ⟨j, hj⟩
  have hlt : j < index := by
    have hlength := List.getElem?_eq_none_iff.mp hend
    have hin := (List.getElem?_eq_some_iff.mp hj).1
    omega
  have hpassed : Passed c.poller.registry c.poller.point.nextIndex profile.slaveAddr := by
    rw [here]
    exact ⟨j, profile, hlt, hj, rfl⟩
  rcases h.attended _ hpassed with hsent | hexcused | ⟨copy, hcopy, _⟩
  · exact .inl hsent
  · exact .inr hexcused
  · rw [here] at hcopy
    cases hcopy

/-!
## Runs on silent slaves
-/

/-- Every step is allowed. -/
def anyStep (_ : Cycles) (_ : CycleAct) : Prop := True

/-- The poller's next step when no slave answers. -/
def Cycles.silentStep (c : Cycles) : Cycles :=
  match c.poller.point with
  | .next index =>
      match c.poller.registry[index]? with
      | some profile => c.turn index profile
      | none => { c with poller := { c.poller with point := .next 0 }, sent := [], excused := [] }
  | .identity index copy map slot =>
      c.exchanged copy (c.poller.afterIdentity index copy map slot
        (modbusMasterTransact (identityRequest copy.profile) []))
  | .telemetry index copy map slot =>
      c.exchanged copy (c.poller.afterTelemetry index copy map slot 0
        (modbusMasterTransact (buildPollRequest copy.profile map) []))
  | .alarmFlags index copy =>
      c.exchanged copy (c.poller.afterAlarmFlags index copy
        (modbusMasterTransact (alarmFlagsRequest copy.profile) []))

def profileAt (slaveAddr : UInt8) : DeviceProfile := { defaultProfile with slaveAddr := slaveAddr }

/-- A profile is added and another one removed. -/
def Cycles.replaced (c : Cycles) (old new : UInt8) : Cycles :=
  match addOrUpdate c.poller.registry (profileAt new) with
  | none => c
  | some table =>
      match removeProfile table old with
      | none => c
      | some table' => { c with poller := (c.poller.commit table).commit table' }

theorem CyclesReached.silentStep (h : CyclesReached allowed c) (hturn : allowed c .turn)
    (hends : allowed c .cycleEnds) (hexchange : allowed c .exchange) :
    CyclesReached allowed c.silentStep := by
  unfold Cycles.silentStep
  split
  · rename_i here
    split
    · rename_i get
      exact h.step hturn (.turn here get)
    · rename_i get
      exact h.step hends (.cycleEnds here get)
  · exact h.step hexchange (.identityRead [] ‹_›)
  · exact h.step hexchange (.telemetryRead [] 0 ‹_›)
  · exact h.step hexchange (.alarmFlagsRead [] ‹_›)

theorem CyclesReached.replaced (h : CyclesReached anyStep c) (old new : UInt8) :
    CyclesReached anyStep (c.replaced old new) := by
  unfold Cycles.replaced
  split
  · exact h
  · rename_i hadd
    split
    · exact h
    · rename_i hremove
      exact (h.step trivial (.addOrUpdate hadd)).step trivial (.remove hremove)

theorem profileAt_registryOk : RegistryOk [profileAt 1] := fieldDeviceProfile_registryOk

/-- A whole cycle over the one registered slave, which then makes place for the next. -/
def Cycles.moved (c : Cycles) (old new : UInt8) : Cycles :=
  c.silentStep.silentStep.silentStep.replaced old new

/-- Slave 5 is registered alone, after slaves 1 to 4 were, one after the other; its cycle is at
the end. -/
def fifthAddress : Cycles :=
  ((((((Cycles.initial [profileAt 1]).moved 1 2).moved 2 3).moved 3 4).moved 4 5)).silentStep

theorem fifthAddress_reached : CyclesReached anyStep fifthAddress := by
  have hstep : forall {c : Cycles}, CyclesReached anyStep c -> CyclesReached anyStep c.silentStep :=
    fun h => h.silentStep trivial trivial trivial
  have hmoved : forall {c : Cycles} (old new : UInt8), CyclesReached anyStep c ->
      CyclesReached anyStep (c.moved old new) :=
    fun old new h => (hstep (hstep (hstep h))).replaced old new
  have hstart : CyclesReached anyStep (Cycles.initial [profileAt 1]) :=
    .initial profileAt_registryOk
  exact hstep (hmoved 4 5 (hmoved 3 4 (hmoved 2 3 (hmoved 1 2 hstart))))

/-- No request goes to slave 5. -/
theorem fifth_address_never_polled :
    ¬ forall c, CyclesReached anyStep c -> EveryoneServed c := by
  intro h
  have hregistry : fifthAddress.poller.registry = [profileAt 5] := by decide +kernel
  have hnobody : fifthAddress.sent = [] ∧ fifthAddress.excused = [] := by decide +kernel
  have hserved := h fifthAddress fifthAddress_reached 1 rfl (by rw [hregistry]; rfl) (profileAt 5)
    (by rw [hregistry]; exact List.mem_singleton.mpr rfl)
  rw [hnobody.1, hnobody.2] at hserved
  rcases hserved with hsent | hexcused
  · cases hsent
  · cases hexcused

/-- Slave 1 has had its request when slave 2 is added. -/
def secondAdded : Cycles :=
  let c := (Cycles.initial [profileAt 1]).silentStep.silentStep
  { c with poller := c.poller.commit [profileAt 1, profileAt 2] }

/-- The same cycle at its end. -/
def firstCycle : Cycles := secondAdded.silentStep.silentStep

theorem WithinTable.turn_at (here : c.poller.point = .next index)
    (get : c.poller.registry[index]? = some profile)
    (h : profile.slaveAddr ∈ (meet c.met profile.slaveAddr).take modbusMaxSlaves) :
    WithinTable c .turn := by
  intro index' profile' here' get' _
  rw [here] at here'
  cases here'
  rw [get] at get'
  cases get'
  exact h

theorem WithinTable.turn_elsewhere (h : forall index, c.poller.point ≠ .next index) :
    WithinTable c .turn :=
  fun index _ here => absurd here (h index)

theorem firstCycle_reached : CyclesReached WithinTable firstCycle := by
  have hstart : CyclesReached WithinTable (Cycles.initial [profileAt 1]) :=
    .initial profileAt_registryOk
  have hfirst := hstart.silentStep (.turn_at rfl (rfl : _ = some (profileAt 1)) (by decide))
    trivial trivial
  have hsent := hfirst.silentStep (.turn_elsewhere fun _ h => by cases h) trivial trivial
  have hbehind : WithinTable (Cycles.initial [profileAt 1]).silentStep.silentStep
      (.addOrUpdate (profileAt 2)) := fun _ => show 1 ≤ 1 from Nat.le_refl 1
  have hadded : CyclesReached WithinTable secondAdded :=
    hsent.step hbehind (@CycleStep.addOrUpdate _ (profileAt 2) _ rfl)
  have hturn := hadded.silentStep (.turn_at rfl (rfl : _ = some (profileAt 2)) (by decide))
    trivial trivial
  exact hturn.silentStep (.turn_elsewhere fun _ h => by cases h) trivial trivial

theorem everyone_served_first : EveryoneServed firstCycle ∧ firstCycle.sent = [2, 1] :=
  ⟨everyone_served firstCycle_reached, by decide +kernel⟩

end EnvMonitor.Gateway
