import EnvMonitor.Gateway.ModbusPoller.Identity

/-!
# Where a reading comes from

Every version of the registry stays valid, a verified slot rests on an identity block of its
address, and a cached reading rests on a response taken after such a block.
-/

namespace EnvMonitor.Gateway

open Modbus

/-!
## The registry stays valid
-/

variable {i index slot : Nat} {slaveAddr : UInt8} {table table' : List DeviceProfile}
variable {profile : DeviceProfile} {log : List Received} {s s' : Poller} {map : MapEntry}
variable {copy : Copy}

theorem findIn_some (h : findIn table slaveAddr = some i) :
    exists profile, table[i]? = some profile ∧ profile.slaveAddr = slaveAddr := by
  rcases List.findIdx?_eq_some_iff_getElem.mp h with ⟨hlt, haddr, -⟩
  exact ⟨table[i], List.getElem?_eq_getElem hlt, of_decide_eq_true haddr⟩

theorem findIn_none (h : findIn table slaveAddr = none) :
    forall (j : Nat) (profile : DeviceProfile), table[j]? = some profile ->
      profile.slaveAddr ≠ slaveAddr := by
  intro j profile hj haddr
  have hmem := List.mem_of_getElem? hj
  have hfalse := List.findIdx?_eq_none_iff.mp h profile hmem
  exact of_decide_eq_false hfalse haddr

theorem RegistryOk.set (h : RegistryOk table) {old : DeviceProfile} (hold : table[i]? = some old)
    (haddr : old.slaveAddr = profile.slaveAddr) (hvalid : profileValid profile = true) :
    RegistryOk (table.set i profile) where
  valid := by
    intro other hother
    rcases List.mem_or_eq_of_mem_set hother with hmem | heq
    · exact h.valid other hmem
    · rw [heq]
      exact hvalid
  unique := by
    have hentry : forall (k : Nat) (q : DeviceProfile), (table.set i profile)[k]? = some q ->
        exists p, table[k]? = some p ∧ p.slaveAddr = q.slaveAddr := by
      intro k q hk
      by_cases hki : i = k
      · rw [← hki, List.getElem?_set_self'] at hk
        rw [hold] at hk
        cases hk
        exact ⟨old, by rw [← hki, hold], haddr⟩
      · rw [List.getElem?_set_ne hki] at hk
        exact ⟨q, hk, rfl⟩
    intro j k p q hj hk hsame
    rcases hentry j p hj with ⟨p', hp', hpa⟩
    rcases hentry k q hk with ⟨q', hq', hqa⟩
    exact h.unique j k p' q' hp' hq' (by rw [hpa, hqa, hsame])

theorem RegistryOk.append (h : RegistryOk table) (hnew : findIn table profile.slaveAddr = none)
    (hvalid : profileValid profile = true) : RegistryOk (table ++ [profile]) where
  valid := by
    intro other hother
    rcases List.mem_append.mp hother with hmem | hlast
    · exact h.valid other hmem
    · rw [List.mem_singleton.mp hlast]
      exact hvalid
  unique := by
    have hentry : forall (k : Nat) (q : DeviceProfile), (table ++ [profile])[k]? = some q ->
        table[k]? = some q ∨ (k = table.length ∧ q = profile) := by
      intro k q hk
      rcases Nat.lt_trichotomy k table.length with hlt | heq | hgt
      · rw [List.getElem?_append_left hlt] at hk
        exact Or.inl hk
      · rw [heq, List.getElem?_append_right (Nat.le_refl _), Nat.sub_self] at hk
        cases hk
        exact Or.inr ⟨heq, rfl⟩
      · rw [List.getElem?_eq_none (by rw [List.length_append, List.length_singleton]; omega)] at hk
        cases hk
    have hother := findIn_none hnew
    intro j k p q hj hk hsame
    rcases hentry j p hj with hp | ⟨hjl, hp⟩
    · rcases hentry k q hk with hq | ⟨hkl, hq⟩
      · exact h.unique j k p q hp hq hsame
      · exact absurd (by rw [hsame, hq]) (hother j p hp)
    · rcases hentry k q hk with hq | ⟨hkl, hq⟩
      · exact absurd (by rw [← hsame, hp]) (hother k q hq)
      · rw [hjl, hkl]

theorem RegistryOk.swapLast (h : RegistryOk table) {last : DeviceProfile}
    (hlast : table.getLast? = some last) : RegistryOk (table.set i last).dropLast := by
  have hend : table[table.length - 1]? = some last := by
    rw [← List.getLast?_eq_getElem?, hlast]
  have hentry : forall (k : Nat) (q : DeviceProfile), (table.set i last).dropLast[k]? = some q ->
      k < table.length - 1 ∧
        ((k = i ∧ q = last) ∨ (k ≠ i ∧ table[k]? = some q)) := by
    intro k q hk
    rw [List.getElem?_dropLast, List.length_set] at hk
    split at hk
    · rename_i hlt
      refine ⟨hlt, ?_⟩
      by_cases hki : i = k
      · rw [← hki, List.getElem?_set_self (by omega)] at hk
        cases hk
        exact Or.inl ⟨hki.symm, rfl⟩
      · rw [List.getElem?_set_ne hki] at hk
        exact Or.inr ⟨fun heq => hki heq.symm, hk⟩
    · cases hk
  constructor
  · intro other hother
    rcases List.getElem?_of_mem hother with ⟨k, hk⟩
    rcases hentry k other hk with ⟨-, ⟨-, heq⟩ | ⟨-, hmem⟩⟩
    · rw [heq]
      exact h.valid last (List.mem_of_getElem? hend)
    · exact h.valid other (List.mem_of_getElem? hmem)
  · intro j k p q hj hk hsame
    rcases hentry j p hj with ⟨hjlt, ⟨hji, hp⟩ | ⟨hji, hp⟩⟩
    · rcases hentry k q hk with ⟨hklt, ⟨hki, hq⟩ | ⟨hki, hq⟩⟩
      · rw [hji, hki]
      · rw [hp] at hsame
        have := h.unique _ k last q hend hq hsame
        omega
    · rcases hentry k q hk with ⟨hklt, ⟨hki, hq⟩ | ⟨hki, hq⟩⟩
      · rw [hq] at hsame
        have := h.unique j _ p last hp hend hsame
        omega
      · exact h.unique j k p q hp hq hsame

/-- A profile that is stored replaces the one with its address, or is appended. -/
theorem addOrUpdate_cases (h : addOrUpdate table profile = some table') :
    profileValid profile = true ∧
      ((exists i old, table[i]? = some old ∧ old.slaveAddr = profile.slaveAddr ∧
          table' = table.set i profile) ∨
        findIn table profile.slaveAddr = none ∧ table.length < deviceProfileMax ∧
          table' = table ++ [profile]) := by
  unfold addOrUpdate at h
  cases hvalid : profileValid profile with
  | false =>
      rw [hvalid] at h
      cases h
  | true =>
      rw [hvalid, if_neg (by simp)] at h
      cases hfind : findIn table profile.slaveAddr with
      | some i =>
          rw [hfind] at h
          cases h
          rcases findIn_some hfind with ⟨old, hold, haddr⟩
          exact ⟨rfl, .inl ⟨i, old, hold, haddr, rfl⟩⟩
      | none =>
          rw [hfind] at h
          dsimp only at h
          split at h
          · cases h
          · rename_i hroom
            cases h
            exact ⟨rfl, .inr ⟨rfl, Nat.lt_of_not_le hroom, rfl⟩⟩

theorem removeProfile_cases (h : removeProfile table slaveAddr = some table') :
    exists i old last, findIn table slaveAddr = some i ∧ table[i]? = some old ∧
      old.slaveAddr = slaveAddr ∧ table.getLast? = some last ∧
        table' = (table.set i last).dropLast := by
  unfold removeProfile at h
  cases hfind : findIn table slaveAddr with
  | none =>
      rw [hfind] at h
      cases h
  | some i =>
      rw [hfind] at h
      rcases Option.map_eq_some_iff.mp h with ⟨last, hlast, htable⟩
      rcases findIn_some hfind with ⟨old, hold, haddr⟩
      exact ⟨i, old, last, rfl, hold, haddr, hlast, htable.symm⟩

theorem addOrUpdate_ok (hok : RegistryOk table) (h : addOrUpdate table profile = some table') :
    RegistryOk table' := by
  rcases addOrUpdate_cases h with ⟨hvalid, ⟨i, old, hold, haddr, rfl⟩ | ⟨hnone, _, rfl⟩⟩
  · exact hok.set hold haddr hvalid
  · exact hok.append hnone hvalid

theorem removeProfile_ok (hok : RegistryOk table) (h : removeProfile table slaveAddr = some table')
    : RegistryOk table' := by
  rcases removeProfile_cases h with ⟨i, old, last, _, _, _, hlast, rfl⟩
  exact hok.swapLast hlast

theorem getByAddr_mem (hok : RegistryOk table) (hmem : profile ∈ table) :
    getByAddr table profile.slaveAddr = some profile := by
  cases hfind : getByAddr table profile.slaveAddr with
  | none =>
      have hfalse := List.find?_eq_none.mp hfind profile hmem
      simp at hfalse
  | some other =>
      have haddr : other.slaveAddr = profile.slaveAddr := by
        simpa using List.find?_some hfind
      rcases List.getElem?_of_mem (List.mem_of_find?_eq_some hfind) with ⟨j, hj⟩
      rcases List.getElem?_of_mem hmem with ⟨k, hk⟩
      have hjk := hok.unique j k other profile hj hk haddr
      rw [hjk, hk] at hj
      exact hj.symm

/-!
## What slots rest on
-/

/-- An identity block of the address was matched, with a copy of a version between the two. -/
def Checked (log : List Received) (slaveAddr : UInt8) (asked version : Nat) : Prop :=
  exists copy block, Received.identity copy block ∈ log ∧ copy.profile.slaveAddr = slaveAddr ∧
    asked ≤ copy.version ∧ copy.version ≤ version

/-- The reading is a decoded response, received after a check of the address. -/
def ReadingFrom (log : List Received) (slaveAddr : UInt8) (reading : FdCache) : Prop :=
  exists newer older copy response tick map,
    log = newer ++ Received.telemetry copy response tick :: older ∧
      copy.profile.slaveAddr = slaveAddr ∧ Checked older slaveAddr copy.asked copy.version ∧
      mapFor copy.profile = some map ∧ response.data.length = expectedLength map ∧
      reading = decodeReading map response tick

structure SlotOk (log : List Received) (asked : UInt8 -> Nat) (version : Nat) (slot : SlaveSlot) :
    Prop where
  free : slot.slaveAddr = 0 -> slot.identity ≠ .verified ∧ slot.cache.hasData = false
  verified : slot.identity = .verified ->
    Checked log slot.slaveAddr (asked slot.slaveAddr) version
  reading : slot.cache.hasData = true -> ReadingFrom log slot.slaveAddr slot.cache

theorem Checked.mono {asked version version' : Nat} (h : Checked log slaveAddr asked version)
    (newer : List Received) (hversion : version ≤ version') :
    Checked (newer ++ log) slaveAddr asked version' := by
  rcases h with ⟨copy, block, hmem, haddr, hasked, hle⟩
  exact ⟨copy, block, List.mem_append_right newer hmem, haddr, hasked, Nat.le_trans hle hversion⟩

theorem ReadingFrom.mono {reading : FdCache} (h : ReadingFrom log slaveAddr reading)
    (more : List Received) : ReadingFrom (more ++ log) slaveAddr reading := by
  rcases h with ⟨newer, older, copy, response, tick, map, hlog, hrest⟩
  exact ⟨more ++ newer, older, copy, response, tick, map, by rw [hlog, List.append_assoc], hrest⟩

section

variable {log : List Received} {asked : UInt8 -> Nat} {version version' : Nat}
variable {slot : SlaveSlot} {slots slots' : List SlaveSlot}

theorem SlotOk.mono (h : SlotOk log asked version slot) (newer : List Received)
    (hversion : version ≤ version') : SlotOk (newer ++ log) asked version' slot where
  free := h.free
  verified := fun hverified => (h.verified hverified).mono newer hversion
  reading := fun hdata => (h.reading hdata).mono newer

/-- Updates that keep address and reading and verify nothing. -/
def Tame (update : SlaveSlot -> SlaveSlot) : Prop :=
  forall slot, (update slot).slaveAddr = slot.slaveAddr ∧ (update slot).cache = slot.cache ∧
    ((update slot).identity = .verified -> slot.identity = .verified)

variable {update : SlaveSlot -> SlaveSlot} {i : Nat} {alpha : Type} {slaveAddr : UInt8}

theorem SlotOk.tame (hupdate : Tame update) (h : SlotOk log asked version slot) :
    SlotOk log asked version (update slot) := by
  rcases hupdate slot with ⟨haddr, hcache, hidentity⟩
  constructor
  · intro hzero
    rw [haddr] at hzero
    rw [hcache]
    exact ⟨fun hverified => (h.free hzero).1 (hidentity hverified), (h.free hzero).2⟩
  · intro hverified
    rw [haddr]
    exact h.verified (hidentity hverified)
  · intro hdata
    rw [hcache] at hdata
    rw [haddr, hcache]
    exact h.reading hdata

theorem recordPollOutcome_tame (ok : Bool) : Tame (recordPollOutcome ok) := by
  intro slot
  unfold recordPollOutcome
  cases ok with
  | true => exact ⟨rfl, rfl, fun h => h⟩
  | false =>
      rw [if_neg Bool.false_ne_true]
      dsimp only
      split
      · exact ⟨rfl, rfl, fun h => (by cases h)⟩
      · exact ⟨rfl, rfl, fun h => h⟩

theorem rejectSlave_tame : Tame rejectSlave := by
  intro slot
  unfold rejectSlave
  split
  · exact ⟨rfl, rfl, fun h => (by cases h)⟩
  · exact ⟨rfl, rfl, fun h => (by cases h)⟩

theorem Tame.ifRejected (h : Tame update) :
    Tame (fun slot =>
      let slot := update slot
      if slot.identity = .rejected then { slot with recheckCycles := rejectedRecheckCycles }
      else slot) := by
  intro slot
  dsimp only
  split
  · exact h slot
  · exact h slot

theorem mem_modify {xs : List alpha} {f : alpha -> alpha} {y : alpha} (h : y ∈ xs.modify i f) :
    y ∈ xs ∨ exists x, xs[i]? = some x ∧ y = f x := by
  rcases List.getElem?_of_mem h with ⟨k, hk⟩
  by_cases hki : i = k
  · rw [← hki, List.getElem?_modify_eq] at hk
    cases hx : xs[i]? with
    | none =>
        rw [hx] at hk
        cases hk
    | some x =>
        rw [hx] at hk
        cases hk
        exact Or.inr ⟨x, rfl, rfl⟩
  · rw [List.getElem?_modify_ne f xs hki] at hk
    exact Or.inl (List.mem_of_getElem? hk)

def SlotsOk (log : List Received) (asked : UInt8 -> Nat) (version : Nat)
    (slots : List SlaveSlot) : Prop :=
  forall slot, slot ∈ slots -> SlotOk log asked version slot

theorem SlotsOk.modify (h : SlotsOk log asked version slots) (i : Nat)
    (hupdate : forall slot, slots[i]? = some slot -> SlotOk log asked version (update slot)) :
    SlotsOk log asked version (slots.modify i update) := by
  intro slot hslot
  rcases mem_modify hslot with hold | ⟨old, hold, heq⟩
  · exact h slot hold
  · rw [heq]
    exact hupdate old hold

theorem SlotsOk.modifyTame (h : SlotsOk log asked version slots) (i : Nat) (hupdate : Tame update) :
    SlotsOk log asked version (slots.modify i update) :=
  h.modify i (fun slot hslot => (h slot (List.mem_of_getElem? hslot)).tame hupdate)

theorem SlotsOk.mono (h : SlotsOk log asked version slots) (newer : List Received)
    (hversion : version ≤ version') : SlotsOk (newer ++ log) asked version' slots :=
  fun slot hslot => (h slot hslot).mono newer hversion

/-- A re-probe of an address that no verified slot has. -/
theorem SlotsOk.ask {asked' : UInt8 -> Nat} (h : SlotsOk log asked version slots)
    (hother : forall other, other ≠ slaveAddr -> asked' other = asked other)
    (hnone : forall slot, slot ∈ slots -> slot.slaveAddr = slaveAddr ->
      slot.identity ≠ .verified) : SlotsOk log asked' version slots := by
  intro slot hslot
  have hok := h slot hslot
  exact {
    free := hok.free
    verified := by
      intro hverified
      rw [hother _ fun hsame => hnone slot hslot hsame hverified]
      exact hok.verified hverified
    reading := hok.reading }

/-- Slot `i` belongs to the address. -/
def HasAddr (slots : List SlaveSlot) (i : Nat) (slaveAddr : UInt8) : Prop :=
  exists slot, slots[i]? = some slot ∧ slot.slaveAddr = slaveAddr

theorem HasAddr.modify (h : HasAddr slots i slaveAddr) (j : Nat)
    (hupdate : forall slot, (update slot).slaveAddr = slot.slaveAddr) :
    HasAddr (slots.modify j update) i slaveAddr := by
  rcases h with ⟨slot, hslot, haddr⟩
  by_cases hji : j = i
  · rw [hji]
    exact ⟨update slot, by rw [List.getElem?_modify_eq, hslot]; rfl, by rw [hupdate, haddr]⟩
  · exact ⟨slot, by rw [List.getElem?_modify_ne update slots hji, hslot], haddr⟩

theorem findSlotIndex_hasAddr (h : findSlotIndex slots slaveAddr = some i) :
    HasAddr slots i slaveAddr := by
  rcases List.findIdx?_eq_some_iff_getElem.mp h with ⟨hlt, haddr, -⟩
  exact ⟨slots[i], List.getElem?_eq_getElem hlt, of_decide_eq_true haddr⟩

theorem findOrClaimSlot_ok (hslots : SlotsOk log asked version slots) (haddr : slaveAddr ≠ 0)
    (h : findOrClaimSlot slots slaveAddr = some (i, slots')) :
    SlotsOk log asked version slots' ∧ HasAddr slots' i slaveAddr := by
  unfold findOrClaimSlot at h
  cases hfind : findSlotIndex slots slaveAddr with
  | some j =>
      rw [hfind] at h
      cases h
      exact ⟨hslots, findSlotIndex_hasAddr hfind⟩
  | none =>
      rw [hfind] at h
      cases hfree : findSlotIndex slots 0 with
      | none =>
          rw [hfree] at h
          cases h
      | some j =>
          rw [hfree] at h
          cases h
          rcases findSlotIndex_hasAddr hfree with ⟨slot, hslot, hzero⟩
          have hfreeSlot := (hslots slot (List.mem_of_getElem? hslot)).free hzero
          constructor
          · apply hslots.modify
            intro other hother
            rw [hslot] at hother
            cases hother
            exact {
              free := fun hclaimed => absurd hclaimed haddr
              verified := fun hverified => absurd hverified hfreeSlot.1
              reading := by
                intro hdata
                rw [hfreeSlot.2] at hdata
                cases hdata }
          · exact ⟨{ slot with slaveAddr := slaveAddr },
              by rw [List.getElem?_modify_eq, hslot]; rfl, rfl⟩

/-- No two slots belong to one address. -/
def OwnSlots (slots : List SlaveSlot) : Prop :=
  forall (i j : Nat) (slot slot' : SlaveSlot), slots[i]? = some slot -> slots[j]? = some slot' ->
    slot.slaveAddr = slot'.slaveAddr -> slot.slaveAddr ≠ 0 -> i = j

theorem getElem?_modify_cases {xs : List alpha} {f : alpha -> alpha} {k : Nat} {y : alpha}
    (h : (xs.modify i f)[k]? = some y) :
    exists x, xs[k]? = some x ∧ ((k = i ∧ y = f x) ∨ (k ≠ i ∧ y = x)) := by
  rw [List.getElem?_modify] at h
  rcases Option.map_eq_some_iff.mp h with ⟨x, hx, hy⟩
  exists x
  constructor
  · exact hx
  · by_cases hik : i = k
    · rw [if_pos hik] at hy
      exact .inl ⟨hik.symm, hy.symm⟩
    · rw [if_neg hik] at hy
      exact .inr ⟨fun hki => hik hki.symm, hy.symm⟩

theorem OwnSlots.initial (n : Nat) : OwnSlots (List.replicate n SlaveSlot.free) := by
  intro i j slot slot' hslot _ _ hne
  rw [List.eq_of_mem_replicate (List.mem_of_getElem? hslot)] at hne
  exact absurd rfl hne

theorem OwnSlots.modify (h : OwnSlots slots) (i : Nat)
    (hkeep : forall slot, (update slot).slaveAddr = slot.slaveAddr) :
    OwnSlots (slots.modify i update) := by
  have haddr : forall (k : Nat) (y : SlaveSlot), (slots.modify i update)[k]? = some y ->
      exists x, slots[k]? = some x ∧ y.slaveAddr = x.slaveAddr := by
    intro k y hy
    rcases getElem?_modify_cases hy with ⟨x, hx, ⟨_, heq⟩ | ⟨_, heq⟩⟩
    · exact ⟨x, hx, by rw [heq, hkeep]⟩
    · exact ⟨x, hx, by rw [heq]⟩
  intro j k y y' hy hy' hsame hne
  rcases haddr j y hy with ⟨x, hx, hxaddr⟩
  rcases haddr k y' hy' with ⟨x', hx', hxaddr'⟩
  rw [hxaddr, hxaddr'] at hsame
  rw [hxaddr] at hne
  exact h j k x x' hx hx' hsame hne

theorem findSlotIndex_absent (h : findSlotIndex slots slaveAddr = none) :
    forall slot, slot ∈ slots -> slot.slaveAddr ≠ slaveAddr := fun slot hslot hsame =>
  of_decide_eq_false (List.findIdx?_eq_none_iff.mp h slot hslot) hsame

theorem OwnSlots.claim (h : OwnSlots slots)
    (hclaim : findOrClaimSlot slots slaveAddr = some (i, slots')) : OwnSlots slots' := by
  unfold findOrClaimSlot at hclaim
  cases hfind : findSlotIndex slots slaveAddr with
  | some j =>
      rw [hfind] at hclaim
      cases hclaim
      exact h
  | none =>
      have habsent := findSlotIndex_absent hfind
      rw [hfind] at hclaim
      dsimp only at hclaim
      split at hclaim
      · cases hclaim
        intro j k y y' hy hy' hsame hnz
        rcases getElem?_modify_cases hy with ⟨x, hx, ⟨hj, heq⟩ | ⟨_, heq⟩⟩
        · rcases getElem?_modify_cases hy' with ⟨x', hx', ⟨hk, heq'⟩ | ⟨_, heq'⟩⟩
          · rw [hj, hk]
          · rw [heq, heq'] at hsame
            exact absurd hsame.symm (habsent x' (List.mem_of_getElem? hx'))
        · rcases getElem?_modify_cases hy' with ⟨x', hx', ⟨hk, heq'⟩ | ⟨_, heq'⟩⟩
          · rw [heq, heq'] at hsame
            exact absurd hsame (habsent x (List.mem_of_getElem? hx))
          · rw [heq, heq'] at hsame
            rw [heq] at hnz
            exact h j k x x' hx hx' hsame hnz
      · cases hclaim

end

/-!
## Invariant
-/

/-- The copy is an entry of a version of the registry. -/
def CopyOk (s : Poller) (copy : Copy) : Prop :=
  copy.version ≤ s.version ∧ copy.profile ∈ s.history copy.version

def LogOk (s : Poller) : Prop :=
  forall entry, entry ∈ s.log ->
    match entry with
    | .identity copy block =>
        CopyOk s copy ∧ identityMatches copy.profile block = true ∧
          block.slaveAddr = copy.profile.slaveAddr
    | .telemetry copy response _ =>
        CopyOk s copy ∧ response.slaveAddr = copy.profile.slaveAddr

/-- A running transaction works for the slot of its profile; telemetry needs a check, and a check
that is under way is of the profile as it was at the last re-probe, or later. -/
def PointOk (s : Poller) : Prop :=
  match s.point with
  | .next _ => True
  | .identity _ copy map slot =>
      CopyOk s copy ∧ mapFor copy.profile = some map ∧
        HasAddr s.slots slot copy.profile.slaveAddr ∧
        copy.asked ≤ copy.version ∧ s.asked copy.profile.slaveAddr ≤ copy.version
  | .telemetry _ copy map slot =>
      CopyOk s copy ∧ mapFor copy.profile = some map ∧
        HasAddr s.slots slot copy.profile.slaveAddr ∧
        Checked s.log copy.profile.slaveAddr copy.asked copy.version
  | .alarmFlags _ _ => True

structure PollInv (s : Poller) : Prop where
  registries : forall version, version ≤ s.version -> RegistryOk (s.history version)
  current : s.history s.version = s.registry
  asked : forall slaveAddr, s.asked slaveAddr ≤ s.version
  own : OwnSlots s.slots
  slots : SlotsOk s.log s.asked s.version s.slots
  log : LogOk s
  point : PointOk s

theorem PollInv.initial {registry : List DeviceProfile} (h : RegistryOk registry) :
    PollInv (Poller.initial registry) where
  registries := fun _ _ => h
  current := rfl
  asked := fun _ => Nat.le_refl _
  own := OwnSlots.initial 4
  slots := by
    intro slot hslot
    rw [List.eq_of_mem_replicate hslot]
    exact {
      free := fun _ => ⟨fun hverified => (by cases hverified), rfl⟩
      verified := fun hverified => (by cases hverified)
      reading := fun hdata => (by cases hdata) }
  log := fun _ hentry => (by cases hentry)
  point := trivial

theorem mem_addr_ne_zero (hok : RegistryOk table) (hmem : profile ∈ table) :
    profile.slaveAddr ≠ 0 := by
  have hvalid := hok.valid profile hmem
  unfold profileValid at hvalid
  rw [Bool.and_eq_true, decide_eq_true_iff] at hvalid
  intro hzero
  rw [hzero] at hvalid
  exact absurd hvalid.1.1 (by decide)

theorem PollInv.startProfile (hinv : PollInv s) (index : Nat) (hmem : profile ∈ s.registry) :
    PollInv (s.startProfile index profile) := by
  have hcopy : CopyOk s ⟨profile, s.version, s.asked profile.slaveAddr⟩ := by
    constructor
    · exact Nat.le_refl _
    · change profile ∈ s.history s.version
      rw [hinv.current]
      exact hmem
  have hregistry : RegistryOk s.registry := by
    rw [← hinv.current]
    exact hinv.registries s.version (Nat.le_refl _)
  have hzero := mem_addr_ne_zero hregistry hmem
  -- every branch keeps registry, history and log
  have hnext : forall slots, SlotsOk s.log s.asked s.version slots -> OwnSlots slots ->
      PollInv { s with slots := slots, point := .next index } := fun slots hslots hown =>
    { registries := hinv.registries, current := hinv.current, asked := hinv.asked, own := hown,
      slots := hslots, log := hinv.log, point := trivial }
  unfold Poller.startProfile
  dsimp only
  cases hclaim : findOrClaimSlot s.slots profile.slaveAddr with
  | none => exact hnext s.slots hinv.slots hinv.own
  | some claimed =>
      rcases findOrClaimSlot_ok hinv.slots hzero hclaim with ⟨hslots, haddr⟩
      have hown := hinv.own.claim hclaim
      dsimp only
      cases hmap : mapFor profile with
      | none =>
          exact hnext _ (hslots.modifyTame claimed.1 rejectSlave_tame)
            (hown.modify claimed.1 fun slot => (rejectSlave_tame slot).1)
      | some map =>
          dsimp only
          cases hslot : claimed.2[claimed.1]? with
          | none => exact hnext s.slots hinv.slots hinv.own
          | some slot =>
              have hslotAddr : slot.slaveAddr = profile.slaveAddr := by
                rcases haddr with ⟨other, hother, haddr⟩
                rw [hslot] at hother
                cases hother
                exact haddr
              dsimp only
              split
              · rename_i hverified
                have hchecked := (hslots slot (List.mem_of_getElem? hslot)).verified hverified
                rw [hslotAddr] at hchecked
                exact {
                  registries := hinv.registries
                  current := hinv.current
                  asked := hinv.asked
                  own := hown
                  slots := hslots
                  log := hinv.log
                  point := ⟨hcopy, hmap, haddr, hchecked⟩ }
              · split
                · exact hnext _ (hslots.modifyTame claimed.1 (fun _ => ⟨rfl, rfl, fun h => h⟩))
                    (hown.modify claimed.1 fun _ => rfl)
                · exact {
                    registries := hinv.registries
                    current := hinv.current
                    asked := hinv.asked
                    own := hown
                    slots := hslots
                    log := hinv.log
                    point := ⟨hcopy, hmap, haddr, hinv.asked _, hinv.asked _⟩ }

theorem PollInv.afterIdentity (hinv : PollInv s) (hpoint : s.point = .identity index copy map slot)
    (attempts : List Attempt) :
    PollInv (s.afterIdentity index copy map slot
      (modbusMasterTransact (identityRequest copy.profile) attempts)) := by
  have hat : CopyOk s copy ∧ mapFor copy.profile = some map ∧
      HasAddr s.slots slot copy.profile.slaveAddr ∧ copy.asked ≤ copy.version ∧
      s.asked copy.profile.slaveAddr ≤ copy.version := by
    have h := hinv.point
    unfold PointOk at h
    rw [hpoint] at h
    exact h
  rcases hat with ⟨hcopy, hmap, haddr, hcopyAsked, hasked⟩
  have hnext : forall update, Tame update ->
      PollInv { s with slots := s.slots.modify slot update, point := .next index } :=
    fun update hupdate =>
      { registries := hinv.registries, current := hinv.current, asked := hinv.asked,
        own := hinv.own.modify slot fun slot => (hupdate slot).1,
        slots := hinv.slots.modifyTame slot hupdate, log := hinv.log, point := trivial }
  unfold Poller.afterIdentity
  split
  · rename_i block hresult
    split
    · rename_i hmatches
      have hblock : block.slaveAddr = copy.profile.slaveAddr := transact_slaveAddr hresult
      have hchecked : forall asked, asked ≤ copy.version ->
          Checked (.identity copy block :: s.log) copy.profile.slaveAddr asked copy.version :=
        fun asked hle => ⟨copy, block, List.mem_cons_self, rfl, hle, Nat.le_refl _⟩
      exact {
        registries := hinv.registries
        current := hinv.current
        asked := hinv.asked
        own := hinv.own.modify slot fun _ => rfl
        slots := by
          have hslots := hinv.slots.mono [.identity copy block] (Nat.le_refl s.version)
          rcases haddr with ⟨other, hother, hotherAddr⟩
          apply hslots.modify
          intro old hold
          rw [hother] at hold
          cases hold
          have hok := hslots other (List.mem_of_getElem? hother)
          have hzero : other.slaveAddr ≠ 0 := by
            rw [hotherAddr]
            exact mem_addr_ne_zero (hinv.registries copy.version hcopy.1) hcopy.2
          exact {
            free := fun h => absurd h hzero
            verified := by
              intro _
              change Checked (.identity copy block :: s.log) other.slaveAddr
                (s.asked other.slaveAddr) s.version
              rw [hotherAddr]
              exact (hchecked _ hasked).mono [] hcopy.1
            reading := hok.reading }
        log := by
          intro entry hentry
          rcases List.mem_cons.mp hentry with hnew | hold
          · rw [hnew]
            exact ⟨hcopy, hmatches, hblock⟩
          · exact hinv.log entry hold
        point := by
          refine ⟨hcopy, hmap, haddr.modify slot (fun _ => rfl), hchecked _ hcopyAsked⟩ }
    · exact hnext rejectSlave rejectSlave_tame
  · exact hnext _ (recordPollOutcome_tame false).ifRejected

theorem PollInv.afterTelemetry (hinv : PollInv s)
    (hpoint : s.point = .telemetry index copy map slot) (attempts : List Attempt) (tick : UInt32) :
    PollInv (s.afterTelemetry index copy map slot tick
      (modbusMasterTransact (buildPollRequest copy.profile map) attempts)) := by
  have hat : CopyOk s copy ∧ mapFor copy.profile = some map ∧
      HasAddr s.slots slot copy.profile.slaveAddr ∧
      Checked s.log copy.profile.slaveAddr copy.asked copy.version := by
    have h := hinv.point
    unfold PointOk at h
    rw [hpoint] at h
    exact h
  rcases hat with ⟨hcopy, hmap, haddr, hchecked⟩
  unfold Poller.afterTelemetry
  split
  · rename_i response hresult
    have hresponse : response.slaveAddr = copy.profile.slaveAddr := transact_slaveAddr hresult
    have hown := hinv.own.modify slot fun slot => (recordPollOutcome_tame true slot).1
    have hslots : SlotsOk (.telemetry copy response tick :: s.log) s.asked s.version
        (s.slots.modify slot (recordPollOutcome true)) :=
      (hinv.slots.modifyTame slot (recordPollOutcome_tame true)).mono
        [.telemetry copy response tick] (Nat.le_refl s.version)
    exact {
      registries := hinv.registries
      current := hinv.current
      asked := hinv.asked
      own := by
        unfold forwardResponse
        split
        · exact hown
        · split
          · exact hown
          · exact hown.modify _ fun _ => rfl
      slots := by
        unfold forwardResponse
        split
        · exact hslots
        · rename_i i hfind
          split
          · exact hslots
          · rename_i hlen
            rcases findSlotIndex_hasAddr hfind with ⟨other, hother, hotherAddr⟩
            apply hslots.modify
            intro old hold
            rw [hother] at hold
            cases hold
            have hok := hslots other (List.mem_of_getElem? hother)
            have hzero : other.slaveAddr ≠ 0 := by
              rw [hotherAddr]
              exact mem_addr_ne_zero (hinv.registries copy.version hcopy.1) hcopy.2
            exact {
              free := fun h => absurd h hzero
              verified := hok.verified
              reading := by
                intro _
                exact ⟨[], s.log, copy, response, tick, map, rfl, hotherAddr.symm,
                  by rw [hotherAddr]; exact hchecked, hmap, Classical.not_not.mp hlen, rfl⟩ }
      log := by
        intro entry hentry
        rcases List.mem_cons.mp hentry with hnew | hold
        · rw [hnew]
          exact ⟨hcopy, hresponse⟩
        · exact hinv.log entry hold
      point := trivial }
  · exact {
      registries := hinv.registries
      current := hinv.current
      asked := hinv.asked
      own := hinv.own.modify slot fun slot => (recordPollOutcome_tame false slot).1
      slots := hinv.slots.modifyTame slot (recordPollOutcome_tame false)
      log := hinv.log
      point := trivial }

theorem PollInv.afterAlarmFlags (hinv : PollInv s) (index : Nat) (copy : Copy) (result : Transacted)
    : PollInv (s.afterAlarmFlags index copy result) := by
  have hnext : forall slots, SlotsOk s.log s.asked s.version slots -> OwnSlots slots ->
      PollInv { s with slots := slots, point := .next index } := fun slots hslots hown =>
    { registries := hinv.registries, current := hinv.current, asked := hinv.asked, own := hown,
      slots := hslots, log := hinv.log, point := trivial }
  unfold Poller.afterAlarmFlags
  split
  · split
    · split
      · exact hnext s.slots hinv.slots hinv.own
      · exact hnext _ (hinv.slots.modifyTame _ (fun _ => ⟨rfl, rfl, fun h => h⟩))
          (hinv.own.modify _ fun _ => rfl)
    · exact hnext s.slots hinv.slots hinv.own
  · exact hnext s.slots hinv.slots hinv.own

theorem PollInv.commit (hinv : PollInv s) (hok : RegistryOk table) : PollInv (s.commit table) := by
  have hearlier : forall version, version ≤ s.version ->
      (s.commit table).history version = s.history version := by
    intro version hle
    change Function.update s.history (s.version + 1) table version = s.history version
    exact Function.update_of_ne (Nat.ne_of_lt (Nat.lt_succ_of_le hle)) table s.history
  have hcopy : forall copy, CopyOk s copy -> CopyOk (s.commit table) copy := by
    intro copy h
    constructor
    · exact Nat.le_succ_of_le h.1
    · rw [hearlier copy.version h.1]
      exact h.2
  constructor
  · intro version hle
    rcases Nat.lt_or_ge version (s.version + 1) with hlt | hge
    · rw [hearlier version (Nat.le_of_lt_succ hlt)]
      exact hinv.registries version (Nat.le_of_lt_succ hlt)
    · have heq : version = s.version + 1 := Nat.le_antisymm hle hge
      rw [heq]
      change RegistryOk (Function.update s.history (s.version + 1) table (s.version + 1))
      rw [Function.update_self]
      exact hok
  · change Function.update s.history (s.version + 1) table (s.version + 1) = table
    exact Function.update_self (s.version + 1) table s.history
  · exact fun slaveAddr => Nat.le_succ_of_le (hinv.asked slaveAddr)
  · exact hinv.own
  · exact hinv.slots.mono [] (Nat.le_succ s.version)
  · intro entry hentry
    have h := hinv.log entry hentry
    cases entry with
    | identity copy block => exact ⟨hcopy copy h.1, h.2⟩
    | telemetry copy response tick => exact ⟨hcopy copy h.1, h.2⟩
  · have h := hinv.point
    unfold PointOk at h ⊢
    change match s.point with
      | .next _ => True
      | .identity _ copy map slot => CopyOk (s.commit table) copy ∧ _
      | .telemetry _ copy map slot => CopyOk (s.commit table) copy ∧ _
      | .alarmFlags _ _ => True
    cases hpoint : s.point with
    | next index => trivial
    | identity index copy map slot =>
        rw [hpoint] at h
        exact ⟨hcopy copy h.1, h.2⟩
    | telemetry index copy map slot =>
        rw [hpoint] at h
        exact ⟨hcopy copy h.1, h.2⟩
    | alarmFlags index copy => trivial

theorem Poller.ask_other (s : Poller) {other : UInt8} (h : other ≠ slaveAddr) :
    s.ask slaveAddr other = s.asked other := by
  unfold Poller.ask
  split
  · rfl
  · exact Function.update_of_ne h _ _

theorem PollInv.ask_le (hinv : PollInv s) (slaveAddr other : UInt8) :
    s.ask slaveAddr other ≤ s.version := by
  unfold Poller.ask
  split
  · exact hinv.asked other
  · by_cases hother : other = slaveAddr
    · subst hother
      exact Nat.le_of_eq (Function.update_self ..)
    · rw [Function.update_of_ne hother]
      exact hinv.asked other

/-- A re-probe that comes while a check of the address is under way does not move its bound. -/
theorem PointOk.ask (h : PointOk s) (slaveAddr : UInt8)
    (hcopies : forall copy, CopyOk s copy -> CopyOk s' copy) (hpoint : s'.point = s.point)
    (hlog : s'.log = s.log) (hasked : s'.asked = s.ask slaveAddr)
    (hslots : forall i other, HasAddr s.slots i other -> HasAddr s'.slots i other) :
    PointOk s' := by
  unfold PointOk at h ⊢
  rw [hpoint, hlog, hasked]
  cases hat : s.point with
  | next index => trivial
  | identity index copy map slot =>
      rw [hat] at h
      refine ⟨hcopies copy h.1, h.2.1, hslots _ _ h.2.2.1, h.2.2.2.1, ?_⟩
      by_cases hsame : copy.profile.slaveAddr = slaveAddr
      · have hidentifying : s.point.identifying = some slaveAddr := by
          rw [hat, ← hsame]
          rfl
        unfold Poller.ask
        rw [if_pos hidentifying]
        exact h.2.2.2.2
      · rw [s.ask_other hsame]
        exact h.2.2.2.2
  | telemetry index copy map slot =>
      rw [hat] at h
      exact ⟨hcopies copy h.1, h.2.1, hslots _ _ h.2.2.1, h.2.2.2⟩
  | alarmFlags index copy => trivial

theorem PollInv.registered_ne_zero (hinv : PollInv s)
    (h : ¬(getByAddr s.registry slaveAddr).isNone = true) : slaveAddr ≠ 0 := by
  have hregistry : RegistryOk s.registry := by
    rw [← hinv.current]
    exact hinv.registries s.version (Nat.le_refl _)
  cases hget : getByAddr s.registry slaveAddr with
  | none => exact absurd (by rw [hget]; rfl) h
  | some profile =>
      have haddr : profile.slaveAddr = slaveAddr := by
        simpa using List.find?_some hget
      rw [← haddr]
      exact mem_addr_ne_zero hregistry (List.mem_of_find?_eq_some hget)

theorem PollInv.reprobe (hinv : PollInv s) (slaveAddr : UInt8) : PollInv (s.reprobe slaveAddr) := by
  have hother : forall other, other ≠ slaveAddr -> s.ask slaveAddr other = s.asked other :=
    fun _ => s.ask_other
  unfold Poller.reprobe
  split
  · exact hinv
  · rename_i hregistered
    split
    · rename_i hfind
      exact {
        registries := hinv.registries
        current := hinv.current
        asked := hinv.ask_le slaveAddr
        own := hinv.own
        slots := hinv.slots.ask hother fun slot hslot hsame =>
          absurd hsame (findSlotIndex_absent hfind slot hslot)
        log := hinv.log
        point := hinv.point.ask slaveAddr (fun _ h => h) rfl rfl rfl fun _ _ h => h }
    · rename_i i hfind
      have hzero := hinv.registered_ne_zero hregistered
      have hunverified : SlotsOk s.log s.asked s.version (s.slots.modify i fun slot =>
          { slot with recheckCycles := 0, identity := .unverified }) :=
        hinv.slots.modifyTame i fun _ => ⟨rfl, rfl, fun h => (by cases h)⟩
      have hown : OwnSlots (s.slots.modify i fun slot =>
          { slot with recheckCycles := 0, identity := .unverified }) :=
        hinv.own.modify i fun _ => rfl
      exact {
        registries := hinv.registries
        current := hinv.current
        asked := hinv.ask_le slaveAddr
        own := hown
        slots := hunverified.ask hother (by
          intro slot hslot hsame hverified
          rcases List.getElem?_of_mem hslot with ⟨k, hk⟩
          have hfound : HasAddr (s.slots.modify i fun slot =>
              { slot with recheckCycles := 0, identity := .unverified }) i slaveAddr :=
            (findSlotIndex_hasAddr hfind).modify i fun _ => rfl
          rcases hfound with ⟨found, hi, haddr⟩
          have hki := hown k i slot found hk hi (hsame.trans haddr.symm) (hsame ▸ hzero)
          rw [hki] at hk
          rcases getElem?_modify_cases hk with ⟨old, _, ⟨_, heq⟩ | ⟨hne, _⟩⟩
          · rw [heq] at hverified
            cases hverified
          · exact hne rfl)
        log := hinv.log
        point := hinv.point.ask slaveAddr (fun _ h => h) rfl rfl rfl
          fun _ _ h => h.modify i fun _ => rfl }

theorem PollInv.step (hinv : PollInv s) (h : PollStep s s') : PollInv s' := by
  have hregistry : RegistryOk s.registry := by
    rw [← hinv.current]
    exact hinv.registries s.version (Nat.le_refl _)
  cases h with
  | copyProfile here get => exact hinv.startProfile _ (List.mem_of_getElem? get)
  | cycleEnds here get =>
      exact {
        registries := hinv.registries
        current := hinv.current
        asked := hinv.asked
        own := hinv.own
        slots := hinv.slots
        log := hinv.log
        point := trivial }
  | identityRead attempts here => exact hinv.afterIdentity here attempts
  | telemetryRead attempts tick here => exact hinv.afterTelemetry here attempts tick
  | alarmFlagsRead attempts here => exact hinv.afterAlarmFlags _ _ _
  | addOrUpdate saved => exact hinv.commit (addOrUpdate_ok hregistry saved)
  | remove saved => exact hinv.commit (removeProfile_ok hregistry saved)
  | reprobe slaveAddr => exact hinv.reprobe slaveAddr

theorem PollReachable.inv (h : PollReachable s) : PollInv s := by
  induction h with
  | initial loaded => exact PollInv.initial loaded
  | step reached step ih => exact ih.step step

/-!
## Readings that are served
-/

/-- The reading is decoded, with the span of the profile `copy`, from a response of the slave
received after an identity block that matched the profile `check`; both were registered for the
address when their cycle read them.  The block was matched against the profile as it was at the last
re-probe before `copy` was read, or later; so it matched `copy` itself if the profile had not been
changed since that re-probe.  Both are the present profile if it was not changed since `check`. -/
structure ReadingOrigin (s : Poller) (slaveAddr : UInt8) (reading : FdCache)
    (newer older : List Received) (check : Copy) (block : ModbusFrame) (copy : Copy)
    (response : ModbusFrame) (tick : UInt32) (map : MapEntry) : Prop where
  received : s.log = newer ++ Received.telemetry copy response tick :: older
  checkedBefore : Received.identity check block ∈ older
  fromSlave : block.slaveAddr = slaveAddr ∧ response.slaveAddr = slaveAddr
  order : copy.asked ≤ check.version ∧ check.version ≤ copy.version ∧ copy.version ≤ s.version
  checkRegistered : getByAddr (s.history check.version) slaveAddr = some check.profile
  copyRegistered : getByAddr (s.history copy.version) slaveAddr = some copy.profile
  identity : identityMatches check.profile block = true
  span : mapFor copy.profile = some map ∧ response.data.length = expectedLength map
  decoded : reading = decodeReading map response tick
  repeated : (forall version, copy.asked ≤ version -> version ≤ copy.version ->
      getByAddr (s.history version) slaveAddr = some copy.profile) ->
    check.profile = copy.profile ∧ identityMatches copy.profile block = true
  unchanged : (forall version, check.version ≤ version -> version ≤ s.version ->
      getByAddr (s.history version) slaveAddr = some check.profile) ->
    copy.profile = check.profile ∧ getByAddr s.registry slaveAddr = some check.profile

theorem served_reading {s : Poller} (h : PollReachable s) {slaveAddr : UInt8}
    {reading : FdCache} {online : Bool}
    (hread : getFdReading s slaveAddr = some (reading, online))
    (hdata : reading.hasData = true) :
    exists newer older check block copy response tick map,
      ReadingOrigin s slaveAddr reading newer older check block copy response tick map := by
  have hinv := h.inv
  have hslot : exists slot, slot ∈ s.slots ∧ slot.slaveAddr = slaveAddr ∧
      slot.cache = reading := by
    unfold getFdReading at hread
    split at hread
    · cases hread
    · split at hread
      · cases hread
        cases hdata
      · rename_i i hfind
        rcases findSlotIndex_hasAddr hfind with ⟨slot, hslot, haddr⟩
        rw [hslot] at hread
        cases hread
        exact ⟨slot, List.mem_of_getElem? hslot, haddr, rfl⟩
  rcases hslot with ⟨slot, hmem, haddr, hcache⟩
  rw [← hcache] at hdata
  rcases (hinv.slots slot hmem).reading hdata with
    ⟨newer, older, copy, response, tick, map, hlog, hcopyAddr, hchecked, hmap, hlen, hdecoded⟩
  rw [haddr] at hcopyAddr hchecked
  rcases hchecked with ⟨check, block, hcheck, hcheckAddr, hasked, hle⟩
  have htelemetry : CopyOk s copy ∧ response.slaveAddr = copy.profile.slaveAddr := by
    apply hinv.log (.telemetry copy response tick)
    rw [hlog]
    exact List.mem_append_right newer List.mem_cons_self
  have hidentity : CopyOk s check ∧ identityMatches check.profile block = true ∧
      block.slaveAddr = check.profile.slaveAddr := by
    apply hinv.log (.identity check block)
    rw [hlog]
    exact List.mem_append_right newer (List.mem_cons_of_mem _ hcheck)
  have hregistered : forall c : Copy, CopyOk s c -> c.profile.slaveAddr = slaveAddr ->
      getByAddr (s.history c.version) slaveAddr = some c.profile := by
    intro c hc hca
    rw [← hca]
    exact getByAddr_mem (hinv.registries c.version hc.1) hc.2
  have hcopyRegistered := hregistered copy htelemetry.1 hcopyAddr
  have hcheckRegistered := hregistered check hidentity.1 hcheckAddr
  refine ⟨newer, older, check, block, copy, response, tick, map, ?_⟩
  exact {
    received := hlog
    checkedBefore := hcheck
    fromSlave := ⟨hidentity.2.2.trans hcheckAddr, htelemetry.2.trans hcopyAddr⟩
    order := ⟨hasked, hle, htelemetry.1.1⟩
    checkRegistered := hcheckRegistered
    copyRegistered := hcopyRegistered
    identity := hidentity.2.1
    span := ⟨hmap, hlen⟩
    decoded := by rw [← hcache, hdecoded]
    repeated := by
      intro hsame
      have hthen := hsame check.version hasked hle
      rw [hcheckRegistered] at hthen
      have hprofile := Option.some.inj hthen
      exact ⟨hprofile, by rw [← hprofile]; exact hidentity.2.1⟩
    unchanged := by
      intro hsame
      constructor
      · have hthen := hsame copy.version hle htelemetry.1.1
        rw [hcopyRegistered] at hthen
        exact Option.some.inj hthen
      · rw [← hinv.current]
        exact hsame s.version (Nat.le_trans hle htelemetry.1.1) (Nat.le_refl _) }

/-!
## A profile is changed
-/

theorem transact_onWire {request response : ModbusFrame}
    (haddr : response.slaveAddr = request.slaveAddr)
    (hfc : response.functionCode = request.functionCode)
    (hplain : request.functionCode ≠ request.functionCode ||| exceptionFlag)
    (hlen : request.data.length ≤ modbusMaxDataBytes) :
    modbusMasterTransact request [.frame response.onWire] = (.ok, some response) :=
  transact_first [] hlen (processResponse_ok haddr hfc hplain)

def fieldDeviceProfile : DeviceProfile := defaultProfile

def otherVendorProfile : DeviceProfile := { defaultProfile with vendorCode := 0x2B56 }

def identityBlock : ModbusFrame :=
  ⟨1, fcReadInput, 16 :: wordsBytes [1, 0, 0, 1, 1, 0, 0, 0x1A45]⟩

def telemetryBlock : ModbusFrame :=
  ⟨1, fcReadInput, 6 :: wordsBytes [2200, 5000, 10132]⟩

def telemetryMap : MapEntry := ⟨1, 0x0010, 3⟩

theorem fieldDeviceProfile_registryOk : RegistryOk [fieldDeviceProfile] := by
  constructor
  · intro profile hmem
    rw [List.mem_singleton.mp hmem]
    decide
  · intro i j p q hi hj _
    cases i with
    | zero =>
        cases j with
        | zero => rfl
        | succ j => cases hj
    | succ i => cases hi

/-- The identity and the alarm flags of a device that answers to the other profile. -/
def otherVendorBlock : ModbusFrame :=
  ⟨1, fcReadInput, 16 :: wordsBytes [1, 0, 0, 1, 1, 0, 0, 0x2B56]⟩

def alarmFlagsBlock : ModbusFrame :=
  ⟨1, fcReadInput, 2 :: wordsBytes [0]⟩

def copiedState : Poller :=
  (Poller.initial [fieldDeviceProfile]).startProfile 1 fieldDeviceProfile

def verifiedState : Poller :=
  copiedState.afterIdentity 1 ⟨fieldDeviceProfile, 0, 0⟩ telemetryMap 0 (.ok, some identityBlock)

/-- One poll of the field device. -/
def polledState : Poller :=
  verifiedState.afterTelemetry 1 ⟨fieldDeviceProfile, 0, 0⟩ telemetryMap 0 7
    (.ok, some telemetryBlock)

theorem telemetry_transact (profile : DeviceProfile) (haddr : profile.slaveAddr = 1) :
    modbusMasterTransact (buildPollRequest profile telemetryMap) [.frame telemetryBlock.onWire] =
      (.ok, some telemetryBlock) :=
  transact_onWire haddr.symm rfl (show fcReadInput ≠ fcReadInput ||| exceptionFlag by decide)
    (show 4 ≤ modbusMaxDataBytes by decide)

theorem polledState_reachable : PollReachable polledState := by
  have hidentity : modbusMasterTransact (identityRequest fieldDeviceProfile)
      [.frame identityBlock.onWire] = (.ok, some identityBlock) :=
    transact_onWire rfl rfl (by decide) (by decide)
  have hcopied : PollReachable copiedState :=
    (PollReachable.initial fieldDeviceProfile_registryOk).step (PollStep.copyProfile rfl rfl)
  have hverified : PollReachable verifiedState := by
    unfold verifiedState
    rw [← hidentity]
    exact hcopied.step (@PollStep.identityRead copiedState 1 0 ⟨fieldDeviceProfile, 0, 0⟩
      telemetryMap _ rfl)
  unfold polledState
  rw [← telemetry_transact fieldDeviceProfile rfl]
  exact hverified.step (@PollStep.telemetryRead verifiedState 1 0 ⟨fieldDeviceProfile, 0, 0⟩
    telemetryMap _ 7 rfl)

def flagsState : Poller :=
  polledState.afterAlarmFlags 1 ⟨fieldDeviceProfile, 0, 0⟩ (.ok, some alarmFlagsBlock)

/-- The cycle ends, and the vendor code of the profile is changed. -/
def changedState : Poller :=
  Poller.commit { flagsState with point := .next 0 } [otherVendorProfile]

theorem changedState_reachable : PollReachable changedState := by
  have hflags : modbusMasterTransact (alarmFlagsRequest fieldDeviceProfile)
      [.frame alarmFlagsBlock.onWire] = (.ok, some alarmFlagsBlock) :=
    transact_onWire rfl rfl (by decide) (by decide)
  have hread : PollReachable flagsState := by
    unfold flagsState
    rw [← hflags]
    exact polledState_reachable.step (@PollStep.alarmFlagsRead polledState 1
      ⟨fieldDeviceProfile, 0, 0⟩ _ rfl)
  exact (hread.step (@PollStep.cycleEnds flagsState 1 rfl rfl)).step
    (@PollStep.addOrUpdate _ otherVendorProfile _ rfl)

/-- The re-probe after the change, and the next cycle up to its identity read. -/
def reprobedState : Poller :=
  (changedState.reprobe 1).startProfile 1 otherVendorProfile

/-- The device proves itself anew. -/
def recheckedState : Poller :=
  reprobedState.afterIdentity 1 ⟨otherVendorProfile, 1, 1⟩ telemetryMap 0
    (.ok, some otherVendorBlock)

def repolledState : Poller :=
  recheckedState.afterTelemetry 1 ⟨otherVendorProfile, 1, 1⟩ telemetryMap 0 9
    (.ok, some telemetryBlock)

theorem repolledState_reachable : PollReachable repolledState := by
  have hidentity : modbusMasterTransact (identityRequest otherVendorProfile)
      [.frame otherVendorBlock.onWire] = (.ok, some otherVendorBlock) :=
    transact_onWire rfl rfl (by decide) (by decide)
  have hreprobed : PollReachable reprobedState :=
    (changedState_reachable.step (PollStep.reprobe 1)).step
      (@PollStep.copyProfile (changedState.reprobe 1) 0 otherVendorProfile rfl rfl)
  have hrechecked : PollReachable recheckedState := by
    unfold recheckedState
    rw [← hidentity]
    exact hreprobed.step (@PollStep.identityRead reprobedState 1 0 ⟨otherVendorProfile, 1, 1⟩
      telemetryMap _ rfl)
  unfold repolledState
  rw [← telemetry_transact otherVendorProfile rfl]
  exact hrechecked.step (@PollStep.telemetryRead recheckedState 1 0 ⟨otherVendorProfile, 1, 1⟩
    telemetryMap _ 9 rfl)

theorem served_reading_reprobed :
    exists newer older check block copy response tick map,
      ReadingOrigin repolledState 1 (decodeReading telemetryMap telemetryBlock 9) newer older check
        block copy response tick map :=
  @served_reading repolledState repolledState_reachable 1
    (decodeReading telemetryMap telemetryBlock 9) false rfl rfl

/-- What a reading would have to rest on: a check of the profile that is registered now. -/
def ServedUnderCurrent (s : Poller) : Prop :=
  forall slaveAddr reading online, getFdReading s slaveAddr = some (reading, online) ->
    reading.hasData = true ->
      exists profile copy block, getByAddr s.registry slaveAddr = some profile ∧
        Received.identity copy block ∈ s.log ∧ identityMatches profile block = true

/-- Before the re-probe, the next cycle polls with the new profile and the old check. -/
def unaskedState : Poller :=
  (changedState.startProfile 1 otherVendorProfile).afterTelemetry 1 ⟨otherVendorProfile, 1, 0⟩
    telemetryMap 0 9 (.ok, some telemetryBlock)

/-- The vendor code of the profile is changed: the reading of the old profile is still served, and
until the re-probe so is a reading that was taken with the new one and never checked for it. -/
theorem changed_profile_served :
    (exists s, PollReachable s ∧ ¬ServedUnderCurrent s) ∧
      exists s copy response tick older, PollReachable s ∧
        s.log = .telemetry copy response tick :: older ∧
        forall check block, Received.identity check block ∈ older ->
          identityMatches copy.profile block = false := by
  constructor
  · refine ⟨changedState, changedState_reachable, ?_⟩
    intro h
    rcases h 1 (decodeReading telemetryMap telemetryBlock 7) false rfl rfl with
      ⟨profile, copy, block, hprofile, hblock, hmatch⟩
    have hcurrent : otherVendorProfile = profile := Option.some.inj hprofile
    have hlog : (Received.identity copy block) ∈
        [Received.telemetry ⟨fieldDeviceProfile, 0, 0⟩ telemetryBlock 7,
          Received.identity ⟨fieldDeviceProfile, 0, 0⟩ identityBlock] := hblock
    rcases List.mem_cons.mp hlog with htelemetry | hidentity
    · cases htelemetry
    · cases List.mem_singleton.mp hidentity
      rw [← hcurrent] at hmatch
      exact absurd hmatch (by decide)
  · refine ⟨unaskedState, ⟨otherVendorProfile, 1, 0⟩, telemetryBlock, 9,
      [.telemetry ⟨fieldDeviceProfile, 0, 0⟩ telemetryBlock 7,
        .identity ⟨fieldDeviceProfile, 0, 0⟩ identityBlock], ?_, rfl, ?_⟩
    · unfold unaskedState
      rw [← telemetry_transact otherVendorProfile rfl]
      exact (changedState_reachable.step (PollStep.copyProfile rfl rfl)).step
        (@PollStep.telemetryRead _ 1 0 ⟨otherVendorProfile, 1, 0⟩ telemetryMap _ 9 rfl)
    · intro check block hmem
      rcases List.mem_cons.mp hmem with htelemetry | hidentity
      · cases htelemetry
      · cases List.mem_singleton.mp hidentity
        decide

end EnvMonitor.Gateway
