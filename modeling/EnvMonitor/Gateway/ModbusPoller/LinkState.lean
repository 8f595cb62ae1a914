import EnvMonitor.Gateway.ModbusPoller.Turns
import EnvMonitor.Link.Debounce

/-!
# Link events of the poller

What each step of the poller makes of the links of its slaves, the events it pushes to the health
monitor, and the one flag that the health monitor keeps for all of them.
-/

namespace EnvMonitor.Gateway

open Modbus
open Debounce (Happening Lawful Follows)

/-- What happened to the link of a slave. -/
structure LinkNote where
  slaveAddr : UInt8
  happening : Happening
  deriving DecidableEq

/-- The outcome, with the event that `record_poll_outcome` emits. -/
def recordPollOutcomeNotes (ok : Bool) (slot : SlaveSlot) : List Happening :=
  if ok then
    .success :: if countUp slot.consecutiveSuccesses = hysteresisThreshold ∧
        slot.linkOnline = false then [.up] else []
  else
    .failure :: if countUp slot.consecutiveFailures = hysteresisThreshold ∧
        slot.linkOnline = true then [.down] else []

/-- The rejection, with the event that `reject_slave` emits. -/
def rejectSlaveNotes (slot : SlaveSlot) : List Happening :=
  .rejected :: if slot.identity ≠ .rejected ∧ slot.linkOnline = true then [.down] else []

/-- What the poller or another task does next. -/
inductive LinkAct where
  | copyProfile
  | cycleEnds
  | identityRead (attempts : List Attempt)
  | telemetryRead (attempts : List Attempt) (tick : UInt32)
  | alarmFlagsRead (attempts : List Attempt)
  | addOrUpdate (profile : DeviceProfile)
  | remove (slaveAddr : UInt8)
  | reprobe (slaveAddr : UInt8)

/-- One step of the poller. -/
def Poller.perform (s : Poller) : LinkAct -> Option Poller
  | .copyProfile =>
      match s.point with
      | .next index => (s.registry[index]?).map (s.startProfile (index + 1))
      | _ => none
  | .cycleEnds =>
      match s.point with
      | .next index =>
          if (s.registry[index]?).isNone then some { s with point := .next 0 } else none
      | _ => none
  | .identityRead attempts =>
      match s.point with
      | .identity index copy map slot =>
          some (s.afterIdentity index copy map slot
            (modbusMasterTransact (identityRequest copy.profile) attempts))
      | _ => none
  | .telemetryRead attempts tick =>
      match s.point with
      | .telemetry index copy map slot =>
          some (s.afterTelemetry index copy map slot tick
            (modbusMasterTransact (buildPollRequest copy.profile map) attempts))
      | _ => none
  | .alarmFlagsRead attempts =>
      match s.point with
      | .alarmFlags index copy =>
          some (s.afterAlarmFlags index copy
            (modbusMasterTransact (alarmFlagsRequest copy.profile) attempts))
      | _ => none
  | .addOrUpdate profile => (addOrUpdate s.registry profile).map s.commit
  | .remove slaveAddr => (removeProfile s.registry slaveAddr).map s.commit
  | .reprobe slaveAddr => some (s.reprobe slaveAddr)

/-- What a step calls for the link of a slave: `record_poll_outcome` or `reject_slave`. -/
inductive LinkCall where
  | outcome (ok : Bool)
  | reject
  deriving DecidableEq

def LinkCall.notes : LinkCall -> SlaveSlot -> List Happening
  | .outcome ok => recordPollOutcomeNotes ok
  | .reject => rejectSlaveNotes

def pollOk : Transacted -> Bool
  | (.ok, some _) => true
  | _ => false

def Poller.identityCall (s : Poller) (copy : Copy) (slot : Nat) :
    Transacted -> Option (SlaveSlot × LinkCall)
  | (.ok, some block) =>
      if identityMatches copy.profile block then none
      else (s.slots[slot]?).map fun slot => (slot, .reject)
  | _ => (s.slots[slot]?).map fun slot => (slot, .outcome false)

/-- The call that a step makes, with the slot it makes it for. -/
def Poller.linkCall (s : Poller) : LinkAct -> Option (SlaveSlot × LinkCall)
  | .copyProfile =>
      match s.point with
      | .next index => do
          let profile <- s.registry[index]?
          let claimed <- findOrClaimSlot s.slots profile.slaveAddr
          match mapFor profile with
          | none => (claimed.2[claimed.1]?).map fun slot => (slot, .reject)
          | some _ => none
      | _ => none
  | .identityRead attempts =>
      match s.point with
      | .identity _ copy _ slot =>
          s.identityCall copy slot
            (modbusMasterTransact (identityRequest copy.profile) attempts)
      | _ => none
  | .telemetryRead attempts _ =>
      match s.point with
      | .telemetry _ copy map slot =>
          let result := modbusMasterTransact (buildPollRequest copy.profile map) attempts
          (s.slots[slot]?).map fun slot => (slot, .outcome (pollOk result))
      | _ => none
  | _ => none

def Poller.linkNotes (s : Poller) (act : LinkAct) : List LinkNote :=
  match s.linkCall act with
  | none => []
  | some (slot, call) => (call.notes slot).map (LinkNote.mk slot.slaveAddr)

/-- `health_monitor_push_event`: what an event makes of `modbus_link_online`, whose slave it is
about. -/
def pushEvent (online : Bool) (note : LinkNote) : Bool :=
  match note.happening with
  | .up => true
  | .down => false
  | _ => online

/-- The poller, the flag of the health monitor and everything noted so far. -/
structure Links where
  poller : Poller
  modbusLinkOnline : Bool
  notes : List LinkNote

def Links.initial (registry : List DeviceProfile) : Links :=
  ⟨Poller.initial registry, false, []⟩

def Links.perform (s : Links) (act : LinkAct) : Option Links :=
  (s.poller.perform act).map fun poller =>
    ⟨poller, (s.poller.linkNotes act).foldl pushEvent s.modbusLinkOnline,
      s.notes ++ s.poller.linkNotes act⟩

/-- Runs whose steps are all allowed. -/
inductive LinksReached (allowed : Poller -> LinkAct -> Prop) : Links -> Prop
  | initial {registry : List DeviceProfile} (loaded : RegistryOk registry) :
      LinksReached allowed (Links.initial registry)
  | step {s s' : Links} {act : LinkAct} (reached : LinksReached allowed s)
      (isAllowed : allowed s.poller act) (step : s.perform act = some s') : LinksReached allowed s'

/-- What happened to one slave. -/
def linkHistory (slaveAddr : UInt8) (notes : List LinkNote) : List Happening :=
  notes.filterMap fun note => if note.slaveAddr = slaveAddr then some note.happening else none

/-- The link of the slave is online. -/
def Online (slots : List SlaveSlot) (slaveAddr : UInt8) : Prop :=
  exists slot, slot ∈ slots ∧ slot.slaveAddr = slaveAddr ∧ slot.linkOnline = true

def Registered (registry : List DeviceProfile) (slaveAddr : UInt8) : Prop :=
  exists profile, profile ∈ registry ∧ profile.slaveAddr = slaveAddr

/-- A registered slave is online. -/
def AnyOnline (registry : List DeviceProfile) (slots : List SlaveSlot) : Prop :=
  exists slaveAddr, Registered registry slaveAddr ∧ Online slots slaveAddr

/-- A registered slave other than this one is online. -/
def AnotherOnline (registry : List DeviceProfile) (slots : List SlaveSlot) (slaveAddr : UInt8) :
    Prop :=
  exists other, other ≠ slaveAddr ∧ Registered registry other ∧ Online slots other

/-- One flag is enough for the step.  A link goes down while no other registered slave is online.
A link that comes up is of a registered slave, or another one is online.  A profile is removed, or
added, while its slave is offline or another registered one is online. -/
structure Calm (s : Poller) (act : LinkAct) : Prop where
  failed : forall slot, s.linkCall act = some (slot, .outcome false) ->
    slot.linkOnline = true -> hysteresisThreshold ≤ slot.consecutiveFailures + 1 ->
      ¬ AnotherOnline s.registry s.slots slot.slaveAddr
  rejected : forall slot, s.linkCall act = some (slot, .reject) ->
    slot.linkOnline = true -> slot.identity ≠ .rejected ->
      ¬ AnotherOnline s.registry s.slots slot.slaveAddr
  answered : forall slot, s.linkCall act = some (slot, .outcome true) ->
    slot.linkOnline = false -> hysteresisThreshold ≤ slot.consecutiveSuccesses + 1 ->
      Registered s.registry slot.slaveAddr ∨ AnotherOnline s.registry s.slots slot.slaveAddr
  remove : forall slaveAddr, act = .remove slaveAddr -> Online s.slots slaveAddr ->
    AnotherOnline s.registry s.slots slaveAddr
  add : forall profile, act = .addOrUpdate profile -> Online s.slots profile.slaveAddr ->
    AnyOnline s.registry s.slots

/-!
## Steps are steps of the poller
-/

section

variable {s s' : Poller} {act : LinkAct}

theorem Poller.perform_step (h : s.perform act = some s') : PollStep s s' := by
  cases act with
  | copyProfile =>
      simp only [perform] at h
      split at h
      · rename_i index hpoint
        rcases Option.map_eq_some_iff.mp h with ⟨profile, hget, hs'⟩
        rw [← hs']
        exact .copyProfile hpoint hget
      · cases h
  | cycleEnds =>
      simp only [perform] at h
      split at h
      · rename_i index hpoint
        split at h
        · rename_i hend
          cases h
          exact .cycleEnds hpoint (Option.isNone_iff_eq_none.mp hend)
        · cases h
      · cases h
  | identityRead attempts =>
      simp only [perform] at h
      split at h
      · rename_i hpoint
        cases h
        exact .identityRead attempts hpoint
      · cases h
  | telemetryRead attempts tick =>
      simp only [perform] at h
      split at h
      · rename_i hpoint
        cases h
        exact .telemetryRead attempts tick hpoint
      · cases h
  | alarmFlagsRead attempts =>
      simp only [perform] at h
      split at h
      · rename_i hpoint
        cases h
        exact .alarmFlagsRead attempts hpoint
      · cases h
  | addOrUpdate profile =>
      rcases Option.map_eq_some_iff.mp h with ⟨table, hsaved, hs'⟩
      rw [← hs']
      exact .addOrUpdate hsaved
  | remove slaveAddr =>
      rcases Option.map_eq_some_iff.mp h with ⟨table, hsaved, hs'⟩
      rw [← hs']
      exact .remove hsaved
  | reprobe slaveAddr =>
      cases h
      exact .reprobe slaveAddr

end

/-!
## A slot is a debounced link
-/

def SlaveSlot.link (slot : SlaveSlot) : Debounce.Link :=
  ⟨slot.consecutiveSuccesses, slot.consecutiveFailures, slot.linkOnline⟩

def LinkCall.apply : LinkCall -> SlaveSlot -> SlaveSlot
  | .outcome ok => recordPollOutcome ok
  | .reject => rejectSlave

theorem LinkCall.apply_slaveAddr (call : LinkCall) (slot : SlaveSlot) :
    (call.apply slot).slaveAddr = slot.slaveAddr := by
  cases call with
  | outcome ok => exact (recordPollOutcome_tame ok slot).1
  | reject => exact (rejectSlave_tame slot).1

section

variable {slot : SlaveSlot} {history : List Happening}

theorem recordPollOutcome_succeeds (slot : SlaveSlot) :
    (recordPollOutcome true slot).link = slot.link.succeed hysteresisThreshold ∧
      recordPollOutcomeNotes true slot =
        .success :: Debounce.report slot.linkOnline (recordPollOutcome true slot).linkOnline := by
  constructor
  · rfl
  · change Happening.success :: _ = Happening.success :: Debounce.report slot.linkOnline
      (slot.linkOnline || decide (countUp slot.consecutiveSuccesses = hysteresisThreshold))
    cases slot.linkOnline with
    | true => rw [if_neg (fun h => Bool.noConfusion h.2)]; rfl
    | false =>
        by_cases hreached : countUp slot.consecutiveSuccesses = hysteresisThreshold
        · rw [if_pos ⟨hreached, rfl⟩, decide_eq_true hreached]
          rfl
        · rw [if_neg fun h => hreached h.1, decide_eq_false hreached]
          rfl

theorem recordPollOutcome_fails (slot : SlaveSlot) :
    (recordPollOutcome false slot).link = slot.link.fail hysteresisThreshold ∧
      recordPollOutcomeNotes false slot =
        .failure :: Debounce.report slot.linkOnline (recordPollOutcome false slot).linkOnline := by
  have htally : Debounce.tally hysteresisThreshold slot.consecutiveFailures =
    countUp slot.consecutiveFailures := rfl
  unfold recordPollOutcome recordPollOutcomeNotes SlaveSlot.link Debounce.Link.fail
  rw [if_neg Bool.false_ne_true, if_neg Bool.false_ne_true]
  dsimp only
  rw [htally]
  by_cases hdown : countUp slot.consecutiveFailures = hysteresisThreshold ∧ slot.linkOnline = true
  · rw [if_pos hdown, if_pos hdown, hdown.1, hdown.2]
    exact ⟨rfl, rfl⟩
  · rw [if_neg hdown, if_neg hdown]
    cases honline : slot.linkOnline with
    | false => exact ⟨rfl, rfl⟩
    | true =>
        have hbelow : countUp slot.consecutiveFailures ≠ hysteresisThreshold :=
          fun h => hdown ⟨h, honline⟩
        rw [decide_eq_true hbelow]
        exact ⟨rfl, rfl⟩

theorem rejectSlave_rejects (hnew : slot.identity ≠ .rejected) :
    (rejectSlave slot).link = slot.link.reject ∧
      rejectSlaveNotes slot = .rejected :: Debounce.report slot.linkOnline false := by
  unfold rejectSlave rejectSlaveNotes
  rw [if_pos hnew]
  constructor
  · rfl
  · cases honline : slot.linkOnline with
    | true => rw [if_pos ⟨hnew, rfl⟩]; rfl
    | false => rw [if_neg fun h => nomatch h.2]; rfl

theorem rejectSlave_again (hold : slot.identity = .rejected) :
    (rejectSlave slot).link = slot.link ∧ rejectSlaveNotes slot = [.rejected] := by
  unfold rejectSlave rejectSlaveNotes
  rw [if_neg fun h => h hold, if_neg fun h => h.1 hold]
  exact ⟨rfl, rfl⟩

theorem LinkCall.follows (h : Follows hysteresisThreshold history slot.link) (call : LinkCall) :
    Follows hysteresisThreshold (history ++ call.notes slot) (call.apply slot).link := by
  cases call with
  | outcome ok =>
      cases ok with
      | true =>
          rcases recordPollOutcome_succeeds slot with ⟨hlink, hnotes⟩
          change Follows _ (history ++ recordPollOutcomeNotes true slot)
            (recordPollOutcome true slot).link
          rw [hnotes, hlink]
          exact h.succeed
      | false =>
          rcases recordPollOutcome_fails slot with ⟨hlink, hnotes⟩
          have honline : (recordPollOutcome false slot).linkOnline =
            (slot.link.fail hysteresisThreshold).online := congrArg Debounce.Link.online hlink
          change Follows _ (history ++ recordPollOutcomeNotes false slot)
            (recordPollOutcome false slot).link
          rw [hnotes, hlink, honline]
          exact h.fail
  | reject =>
      change Follows _ (history ++ rejectSlaveNotes slot) (rejectSlave slot).link
      by_cases hold : slot.identity = .rejected
      · rcases rejectSlave_again hold with ⟨hlink, hnotes⟩
        rw [hnotes, hlink]
        exact h.rejected
      · rcases rejectSlave_rejects hold with ⟨hlink, hnotes⟩
        rw [hnotes, hlink]
        exact h.reject

end

/-!
## Slots follow their histories
-/

/-- Addresses are not shared, every slot is where the history of its slave has led, and nothing
was noted on a slave that has no slot. -/
structure SlotsFollow (slots : List SlaveSlot) (notes : List LinkNote) : Prop where
  unique : OwnSlots slots
  follows : forall slot, slot ∈ slots ->
    Follows hysteresisThreshold (linkHistory slot.slaveAddr notes) slot.link
  unseen : forall slaveAddr, (forall slot, slot ∈ slots -> slot.slaveAddr = slaveAddr ->
    slaveAddr = 0) -> linkHistory slaveAddr notes = []

section

variable {slots slots' : List SlaveSlot} {notes : List LinkNote} {i : Nat} {slaveAddr : UInt8}

theorem linkHistory_append (slaveAddr : UInt8) (notes later : List LinkNote) :
    linkHistory slaveAddr (notes ++ later) =
      linkHistory slaveAddr notes ++ linkHistory slaveAddr later :=
  List.filterMap_append

theorem linkHistory_own (slaveAddr : UInt8) (happenings : List Happening) :
    linkHistory slaveAddr (happenings.map (LinkNote.mk slaveAddr)) = happenings := by
  unfold linkHistory
  rw [List.filterMap_map]
  have hsome : ((fun note : LinkNote =>
      if note.slaveAddr = slaveAddr then some note.happening else none) ∘
        LinkNote.mk slaveAddr) = some := by
    funext happening
    exact if_pos rfl
  rw [hsome, List.filterMap_some]

theorem linkHistory_other {other : UInt8} (hne : other ≠ slaveAddr)
    (happenings : List Happening) :
    linkHistory slaveAddr (happenings.map (LinkNote.mk other)) = [] := by
  unfold linkHistory
  rw [List.filterMap_map, List.filterMap_eq_nil_iff]
  intro happening _
  exact if_neg hne

theorem SlotsFollow.zero (h : SlotsFollow slots notes) : linkHistory 0 notes = [] :=
  h.unseen 0 fun _ _ _ => rfl

theorem SlotsFollow.modify (h : SlotsFollow slots notes) (i : Nat) (slaveAddr : UInt8)
    (happenings : List Happening) {update : SlaveSlot -> SlaveSlot}
    (hkeep : forall slot, (update slot).slaveAddr = slot.slaveAddr)
    (hmoved : forall slot, slots[i]? = some slot -> slot.slaveAddr = slaveAddr ∧
      Follows hysteresisThreshold (linkHistory slot.slaveAddr notes ++ happenings)
        (update slot).link)
    (hnoted : happenings = [] ∨ (slaveAddr ≠ 0 ∧ HasAddr slots i slaveAddr)) :
    SlotsFollow (slots.modify i update)
      (notes ++ happenings.map (LinkNote.mk slaveAddr)) := by
  constructor
  · exact h.unique.modify i hkeep
  · intro y hmem
    rcases List.getElem?_of_mem hmem with ⟨k, hy⟩
    rcases getElem?_modify_cases hy with ⟨x, hx, ⟨hk, heq⟩ | ⟨hk, heq⟩⟩
    · rw [hk] at hx
      rcases hmoved x hx with ⟨hslave, hfollows⟩
      rw [hslave] at hfollows
      rw [heq, hkeep, hslave, linkHistory_append, linkHistory_own]
      exact hfollows
    · rw [heq, linkHistory_append]
      have hold := h.follows x (List.mem_of_getElem? hx)
      rcases hnoted with hnil | ⟨hne, owner, howner, howns⟩
      · rw [hnil]
        change Follows _ (_ ++ []) _
        rw [List.append_nil]
        exact hold
      · have hother : slaveAddr ≠ x.slaveAddr := by
          intro hsame
          rw [hsame] at howns hne
          exact hk (h.unique k i x owner hx howner howns.symm hne)
        rw [linkHistory_other hother, List.append_nil]
        exact hold
  · intro other hfree
    have hno : forall slot, slot ∈ slots -> slot.slaveAddr = other -> other = 0 := by
      intro slot hslot hother
      rcases List.getElem?_of_mem hslot with ⟨k, hk⟩
      by_cases hki : i = k
      · have hnew : (slots.modify i update)[k]? = some (update slot) := by
          rw [← hki, List.getElem?_modify_eq, hki, hk]
          rfl
        exact hfree _ (List.mem_of_getElem? hnew) (by rw [hkeep, hother])
      · have hsame : (slots.modify i update)[k]? = some slot := by
          rw [List.getElem?_modify_ne update slots hki, hk]
        exact hfree _ (List.mem_of_getElem? hsame) hother
    rw [linkHistory_append, h.unseen other hno, List.nil_append]
    rcases hnoted with hnil | ⟨hne, owner, howner, howns⟩
    · rw [hnil]
      rfl
    · apply linkHistory_other
      intro hsame
      exact hne (hsame.trans
        (hno owner (List.mem_of_getElem? howner) (howns.trans hsame)))

theorem SlotsFollow.call (h : SlotsFollow slots notes) (hhas : HasAddr slots i slaveAddr)
    (hne : slaveAddr ≠ 0) (call : LinkCall) :
    exists slot, slots[i]? = some slot ∧ SlotsFollow (slots.modify i call.apply)
      (notes ++ (call.notes slot).map (LinkNote.mk slot.slaveAddr)) := by
  rcases hhas with ⟨slot, hslot, haddr⟩
  exists slot
  constructor
  · exact hslot
  · apply h.modify i slot.slaveAddr (call.notes slot) call.apply_slaveAddr
    · intro other hother
      rw [hslot] at hother
      cases hother
      exact ⟨rfl, call.follows (h.follows slot (List.mem_of_getElem? hslot))⟩
    · rw [haddr]
      exact .inr ⟨hne, slot, hslot, haddr⟩

theorem SlotsFollow.quiet (h : SlotsFollow slots notes) (i : Nat)
    {update : SlaveSlot -> SlaveSlot}
    (hkeep : forall slot, (update slot).slaveAddr = slot.slaveAddr)
    (hlink : forall slot, (update slot).link = slot.link) :
    SlotsFollow (slots.modify i update) notes := by
  cases hslot : slots[i]? with
  | none =>
      have hout : slots.length ≤ i := List.getElem?_eq_none_iff.mp hslot
      rw [List.modify_eq_self hout]
      exact h
  | some slot =>
      have hmoved : forall other, slots[i]? = some other -> other.slaveAddr = slot.slaveAddr ∧
          Follows hysteresisThreshold (linkHistory other.slaveAddr notes ++ [])
            (update other).link := by
        intro other hother
        rw [hslot] at hother
        cases hother
        rw [List.append_nil, hlink]
        exact ⟨rfl, h.follows slot (List.mem_of_getElem? hslot)⟩
      have hsame := h.modify i slot.slaveAddr [] hkeep hmoved (.inl rfl)
      rw [List.map_nil, List.append_nil] at hsame
      exact hsame

theorem SlotsFollow.claim (h : SlotsFollow slots notes)
    (hclaim : findOrClaimSlot slots slaveAddr = some (i, slots')) :
    SlotsFollow slots' notes := by
  have hunique := h.unique.claim hclaim
  unfold findOrClaimSlot at hclaim
  cases hfind : findSlotIndex slots slaveAddr with
  | some j =>
      rw [hfind] at hclaim
      cases hclaim
      exact h
  | none =>
      have habsent : forall slot, slot ∈ slots -> slot.slaveAddr ≠ slaveAddr := by
        exact findSlotIndex_absent hfind
      have hunseen := h.unseen slaveAddr fun slot hslot hsame => absurd hsame (habsent slot hslot)
      rw [hfind] at hclaim
      cases hfree : findSlotIndex slots 0 with
      | none =>
          rw [hfree] at hclaim
          cases hclaim
      | some j =>
          rw [hfree] at hclaim
          cases hclaim
          rcases findSlotIndex_hasAddr hfree with ⟨free, hslot, hzero⟩
          have hidle := h.follows free (List.mem_of_getElem? hslot)
          rw [hzero, h.zero] at hidle
          constructor
          · exact hunique
          · intro y hmem
            rcases List.getElem?_of_mem hmem with ⟨k, hy⟩
            rcases getElem?_modify_cases hy with ⟨x, hx, ⟨hk, heq⟩ | ⟨_, heq⟩⟩
            · rw [hk, hslot] at hx
              cases hx
              rw [heq]
              change Follows _ (linkHistory slaveAddr notes) free.link
              rw [hunseen]
              exact hidle
            · rw [heq]
              exact h.follows x (List.mem_of_getElem? hx)
          · intro other hno
            by_cases hother : other = slaveAddr
            · rw [hother]
              exact hunseen
            · apply h.unseen
              intro slot hmem hsame
              rcases List.getElem?_of_mem hmem with ⟨k, hk⟩
              by_cases hik : i = k
              · rw [← hik, hslot] at hk
                cases hk
                exact hsame.symm.trans hzero
              · have hkept : (slots.modify i fun slot =>
                    { slot with slaveAddr := slaveAddr })[k]? = some slot := by
                  rw [List.getElem?_modify_ne _ slots hik, hk]
                exact hno slot (List.mem_of_getElem? hkept) hsame

theorem SlotsFollow.initial (n : Nat) : SlotsFollow (List.replicate n SlaveSlot.free) [] := by
  constructor
  · exact .initial n
  · intro slot hslot
    rw [List.eq_of_mem_replicate hslot]
    exact .idle
  · intro _ _
    rfl

variable {s s' : Poller} {act : LinkAct}

theorem SlotsFollow.startProfile (h : SlotsFollow s.slots notes) {index : Nat}
    {profile : DeviceProfile} (hpoint : s.point = .next index)
    (hget : s.registry[index]? = some profile) (hne : profile.slaveAddr ≠ 0) :
    SlotsFollow (s.startProfile (index + 1) profile).slots
      (notes ++ s.linkNotes .copyProfile) := by
  unfold Poller.linkNotes Poller.startProfile
  simp only [Poller.linkCall, hpoint, hget, Option.bind_eq_bind, Option.bind_some]
  cases hclaim : findOrClaimSlot s.slots profile.slaveAddr with
  | none =>
      change SlotsFollow s.slots (notes ++ [])
      rw [List.append_nil]
      exact h
  | some claimed =>
      rcases claimed with ⟨i, slots⟩
      have hclaimed := h.claim hclaim
      have hhas := findOrClaimSlot_hasAddr hclaim
      cases hmap : mapFor profile with
      | none =>
          rcases hclaimed.call hhas hne .reject with ⟨slot, hslot, hcalled⟩
          simp only [Option.bind_some, hslot, Option.map_some]
          exact hcalled
      | some map =>
          simp only [Option.bind_some, List.append_nil]
          cases hslot : slots[i]? with
          | none => exact h
          | some slot =>
              dsimp only
              split
              · exact hclaimed
              · split
                · exact hclaimed.quiet i (fun _ => rfl) (fun _ => rfl)
                · exact hclaimed

theorem pollOk_true {result : Transacted} (h : pollOk result = true) :
    exists block, result = (.ok, some block) := by
  unfold pollOk at h
  split at h
  · rename_i block
    exact ⟨block, rfl⟩
  · cases h

section

variable {index slot : Nat} {copy : Copy} {map : MapEntry} {result : Transacted} {tick : UInt32}

theorem afterIdentity_failed (h : pollOk result = false) :
    s.afterIdentity index copy map slot result =
        { s with slots := s.slots.modify slot (fun slot =>
                   let slot := recordPollOutcome false slot
                   if slot.identity = .rejected then
                     { slot with recheckCycles := rejectedRecheckCycles }
                   else slot),
                 point := .next index } ∧
      s.identityCall copy slot result =
        (s.slots[slot]?).map fun slot => (slot, .outcome false) := by
  constructor
  · unfold Poller.afterIdentity
    split
    · cases h
    · rfl
  · unfold Poller.identityCall
    split
    · cases h
    · rfl

theorem afterTelemetry_failed (h : pollOk result = false) :
    s.afterTelemetry index copy map slot tick result =
      { s with slots := s.slots.modify slot (recordPollOutcome false), point := .next index } := by
  unfold Poller.afterTelemetry
  split
  · cases h
  · rfl

theorem SlotsFollow.afterIdentity (h : SlotsFollow s.slots notes) (attempts : List Attempt)
    (hpoint : s.point = .identity index copy map slot)
    (hhas : HasAddr s.slots slot copy.profile.slaveAddr) (hne : copy.profile.slaveAddr ≠ 0) :
    SlotsFollow (s.afterIdentity index copy map slot
      (modbusMasterTransact (identityRequest copy.profile) attempts)).slots
      (notes ++ s.linkNotes (.identityRead attempts)) := by
  unfold Poller.linkNotes
  simp only [Poller.linkCall, hpoint]
  generalize modbusMasterTransact (identityRequest copy.profile) attempts = result
  cases hok : pollOk result with
  | true =>
      rcases pollOk_true hok with ⟨block, hresult⟩
      simp only [hresult, Poller.afterIdentity, Poller.identityCall]
      cases hmatch : identityMatches copy.profile block with
      | true =>
          simp only [if_true]
          rw [List.append_nil]
          exact h.quiet slot (fun _ => rfl) (fun _ => rfl)
      | false =>
          rcases h.call hhas hne .reject with ⟨old, hold, hcalled⟩
          simp only [if_neg Bool.false_ne_true, hold, Option.map_some]
          exact hcalled
  | false =>
      rcases h.call hhas hne (.outcome false) with ⟨old, hold, hcalled⟩
      rcases @afterIdentity_failed s index slot copy map result hok with ⟨hafter, hcall⟩
      rw [hafter, hcall, hold]
      -- the recheck is put off after the outcome
      have hrechecked : SlotsFollow
          ((s.slots.modify slot (LinkCall.outcome false).apply).modify slot fun slot =>
            if slot.identity = .rejected then
              { slot with recheckCycles := rejectedRecheckCycles } else slot)
          (notes ++ ((LinkCall.outcome false).notes old).map (LinkNote.mk old.slaveAddr)) := by
        apply hcalled.quiet
        · intro old
          split <;> rfl
        · intro old
          split <;> rfl
      rw [List.modify_modify_eq] at hrechecked
      exact hrechecked

theorem SlotsFollow.afterTelemetry (h : SlotsFollow s.slots notes) (attempts : List Attempt)
    (hpoint : s.point = .telemetry index copy map slot)
    (hhas : HasAddr s.slots slot copy.profile.slaveAddr) (hne : copy.profile.slaveAddr ≠ 0) :
    SlotsFollow (s.afterTelemetry index copy map slot tick
      (modbusMasterTransact (buildPollRequest copy.profile map) attempts)).slots
      (notes ++ s.linkNotes (.telemetryRead attempts tick)) := by
  unfold Poller.linkNotes
  simp only [Poller.linkCall, hpoint]
  generalize modbusMasterTransact (buildPollRequest copy.profile map) attempts = result
  rcases h.call hhas hne (.outcome (pollOk result)) with ⟨old, hold, hcalled⟩
  rw [hold, Option.map_some]
  cases hok : pollOk result with
  | true =>
      rw [hok] at hcalled
      rcases pollOk_true hok with ⟨response, hresult⟩
      simp only [hresult, Poller.afterTelemetry]
      unfold forwardResponse
      split
      · exact hcalled
      · split
        · exact hcalled
        · exact hcalled.quiet _ (fun _ => rfl) (fun _ => rfl)
  | false =>
      rw [hok] at hcalled
      rw [afterTelemetry_failed hok]
      exact hcalled

theorem SlotsFollow.afterAlarmFlags (h : SlotsFollow s.slots notes) :
    SlotsFollow (s.afterAlarmFlags index copy result).slots notes := by
  unfold Poller.afterAlarmFlags
  split
  · split
    · dsimp only
      split
      · exact h
      · exact h.quiet _ (fun _ => rfl) (fun _ => rfl)
    · exact h
  · exact h

end

theorem SlotsFollow.reprobe (h : SlotsFollow s.slots notes) (slaveAddr : UInt8) :
    SlotsFollow (s.reprobe slaveAddr).slots notes := by
  unfold Poller.reprobe
  split
  · exact h
  · split
    · exact h
    · exact h.quiet _ (fun _ => rfl) (fun _ => rfl)

theorem SlotsFollow.perform (h : SlotsFollow s.slots notes) (hinv : PollInv s)
    (hstep : s.perform act = some s') :
    SlotsFollow s'.slots (notes ++ s.linkNotes act) := by
  have hpoint := hinv.point
  unfold PointOk at hpoint
  cases act with
  | copyProfile =>
      simp only [Poller.perform] at hstep
      split at hstep
      · rename_i index hhere
        rcases Option.map_eq_some_iff.mp hstep with ⟨profile, hget, hs'⟩
        rw [← hs']
        exact h.startProfile hhere hget (registered_addr_ne_zero hinv hget)
      · cases hstep
  | cycleEnds =>
      change SlotsFollow s'.slots (notes ++ [])
      rw [List.append_nil]
      simp only [Poller.perform] at hstep
      split at hstep
      · split at hstep
        · cases hstep
          exact h
        · cases hstep
      · cases hstep
  | identityRead attempts =>
      simp only [Poller.perform] at hstep
      split at hstep
      · rename_i hhere
        rw [hhere] at hpoint
        cases hstep
        exact h.afterIdentity attempts hhere hpoint.2.2.1 (copy_addr_ne_zero hinv hpoint.1)
      · cases hstep
  | telemetryRead attempts tick =>
      simp only [Poller.perform] at hstep
      split at hstep
      · rename_i hhere
        rw [hhere] at hpoint
        cases hstep
        exact h.afterTelemetry attempts hhere hpoint.2.2.1 (copy_addr_ne_zero hinv hpoint.1)
      · cases hstep
  | alarmFlagsRead attempts =>
      change SlotsFollow s'.slots (notes ++ [])
      rw [List.append_nil]
      simp only [Poller.perform] at hstep
      split at hstep
      · cases hstep
        exact h.afterAlarmFlags
      · cases hstep
  | addOrUpdate profile =>
      change SlotsFollow s'.slots (notes ++ [])
      rw [List.append_nil]
      rcases Option.map_eq_some_iff.mp hstep with ⟨table, _, hs'⟩
      rw [← hs']
      exact h
  | remove slaveAddr =>
      change SlotsFollow s'.slots (notes ++ [])
      rw [List.append_nil]
      rcases Option.map_eq_some_iff.mp hstep with ⟨table, _, hs'⟩
      rw [← hs']
      exact h
  | reprobe slaveAddr =>
      change SlotsFollow s'.slots (notes ++ [])
      rw [List.append_nil]
      cases hstep
      exact h.reprobe slaveAddr

end

section

variable {allowed : Poller -> LinkAct -> Prop} {s : Links}

theorem LinksReached.pollReachable (h : LinksReached allowed s) : PollReachable s.poller := by
  induction h with
  | initial loaded => exact .initial loaded
  | step _ _ hstep ih =>
      rcases Option.map_eq_some_iff.mp hstep with ⟨poller, hpoller, hs'⟩
      rw [← hs']
      exact ih.step (Poller.perform_step hpoller)

theorem LinksReached.follows (h : LinksReached allowed s) :
    SlotsFollow s.poller.slots s.notes := by
  induction h with
  | initial loaded => exact .initial 4
  | step reached _ hstep ih =>
      rcases Option.map_eq_some_iff.mp hstep with ⟨poller, hpoller, hs'⟩
      rw [← hs']
      exact ih.perform reached.pollReachable.inv hpoller

theorem LinksReached.lawful (h : LinksReached allowed s) (slaveAddr : UInt8) :
    Lawful hysteresisThreshold (linkHistory slaveAddr s.notes) := by
  by_cases hslot : exists slot, slot ∈ s.poller.slots ∧ slot.slaveAddr = slaveAddr
  · rcases hslot with ⟨slot, hmem, haddr⟩
    rw [← haddr]
    exact (h.follows.follows slot hmem).lawful
  · have hnone : linkHistory slaveAddr s.notes = [] := by
      apply h.follows.unseen
      intro slot hmem haddr
      exact absurd ⟨slot, hmem, haddr⟩ hslot
    rw [hnone]
    exact Throughout.nil

end

end EnvMonitor.Gateway
