import EnvMonitor.Gateway.ModbusPoller.LinkState

/-!
# The link flag of the health monitor

The events of all slaves set and clear one flag.  It says whether a registered slave is online as
long as no event or change of profiles has to speak for more than its own slave.
-/

namespace EnvMonitor.Gateway

open Modbus
open Debounce (Happening Lawful Follows isUp isUp_snoc)

/-!
## Registered addresses
-/

section

variable {table table' : List DeviceProfile} {profile : DeviceProfile} {slaveAddr removed : UInt8}

theorem addOrUpdate_registered (h : addOrUpdate table profile = some table') :
    Registered table' slaveAddr <->
      slaveAddr = profile.slaveAddr ∨ Registered table slaveAddr := by
  rcases addOrUpdate_cases h with ⟨_, ⟨i, old, hold, holdAddr, rfl⟩ | ⟨_, _, rfl⟩⟩
  · have hnew : profile ∈ table.set i profile :=
      List.mem_set (List.getElem?_eq_some_iff.mp hold).1 profile
    constructor
    · intro hgiven
      rcases hgiven with ⟨p, hmem, haddr⟩
      rcases List.mem_or_eq_of_mem_set hmem with hp | hp
      · exact .inr ⟨p, hp, haddr⟩
      · rw [hp] at haddr
        exact .inl haddr.symm
    · intro hgiven
      rcases hgiven with haddr | ⟨p, hmem, haddr⟩
      · exact ⟨profile, hnew, haddr.symm⟩
      · rcases List.getElem?_of_mem hmem with ⟨k, hk⟩
        by_cases hik : i = k
        · rw [← hik, hold] at hk
          cases hk
          exact ⟨profile, hnew, holdAddr.symm.trans haddr⟩
        · have hkept : (table.set i profile)[k]? = some p := by
            rw [List.getElem?_set_ne hik, hk]
          exact ⟨p, List.mem_of_getElem? hkept, haddr⟩
  · constructor
    · intro hgiven
      rcases hgiven with ⟨p, hmem, haddr⟩
      rcases List.mem_append.mp hmem with hp | hp
      · exact .inr ⟨p, hp, haddr⟩
      · rw [List.mem_singleton.mp hp] at haddr
        exact .inl haddr.symm
    · intro hgiven
      rcases hgiven with haddr | ⟨p, hmem, haddr⟩
      · exact ⟨profile, List.mem_append_right _ (List.mem_singleton.mpr rfl), haddr.symm⟩
      · exact ⟨p, List.mem_append_left _ hmem, haddr⟩

theorem removeProfile_registered (hok : RegistryOk table)
    (h : removeProfile table removed = some table') :
    Registered table' slaveAddr <-> slaveAddr ≠ removed ∧ Registered table slaveAddr := by
  rcases removeProfile_cases h with ⟨i, old, last, _, hold, holdAddr, hlast, htable⟩
  have hi : i < table.length := (List.getElem?_eq_some_iff.mp hold).1
  rw [List.getLast?_eq_getElem?] at hlast
  have hentry : forall k : Nat, table'[k]? =
      if k < table.length - 1 then (if i = k then some last else table[k]?) else none := by
    intro k
    rw [htable, List.getElem?_dropLast, List.length_set]
    split
    · by_cases hik : i = k
      · rw [if_pos hik, ← hik, List.getElem?_set_self hi]
      · rw [if_neg hik, List.getElem?_set_ne hik]
    · rfl
  have hother : forall (k : Nat) (p : DeviceProfile), table[k]? = some p -> k ≠ i ->
      p.slaveAddr ≠ removed := by
    intro k p hk hne haddr
    exact hne (hok.unique k i p old hk hold (haddr.trans holdAddr.symm))
  constructor
  · intro hgiven
    rcases hgiven with ⟨p, hmem, haddr⟩
    rcases List.getElem?_of_mem hmem with ⟨k, hk⟩
    rw [hentry] at hk
    split at hk
    · rename_i hlt
      split at hk
      · rename_i hik
        cases hk
        rw [← haddr]
        exact ⟨hother _ _ hlast (by omega), last, List.mem_of_getElem? hlast, rfl⟩
      · rename_i hik
        rw [← haddr]
        exact ⟨hother k p hk (Ne.symm hik), p, List.mem_of_getElem? hk, rfl⟩
    · cases hk
  · intro hgiven
    rcases hgiven with ⟨hne, p, hmem, haddr⟩
    rcases List.getElem?_of_mem hmem with ⟨k, hk⟩
    have hlt : k < table.length := (List.getElem?_eq_some_iff.mp hk).1
    have hik : i ≠ k := by
      intro hsame
      rw [← hsame, hold] at hk
      cases hk
      exact hne (haddr.symm.trans holdAddr)
    by_cases hend : k = table.length - 1
    · -- the last profile has moved to the index of the removed one
      rw [← hend, hk] at hlast
      cases hlast
      have hmoved : table'[i]? = some last := by
        rw [hentry, if_pos (by omega), if_pos rfl]
      exact ⟨last, List.mem_of_getElem? hmoved, haddr⟩
    · have hkept : table'[k]? = some p := by
        rw [hentry, if_pos (by omega), if_neg hik, hk]
      exact ⟨p, List.mem_of_getElem? hkept, haddr⟩

end

/-!
## The flag
-/

/-- The flag against the events of the registered slaves. -/
def FlagShown (registry : List DeviceProfile) (notes : List LinkNote) (online : Bool) : Prop :=
  online = true <-> exists slaveAddr, Registered registry slaveAddr ∧
    isUp (linkHistory slaveAddr notes) = true

section

variable {registry : List DeviceProfile} {notes : List LinkNote} {online : Bool}
  {slots : List SlaveSlot} {slot : SlaveSlot} {slaveAddr other : UInt8}

theorem online_iff (h : SlotsFollow slots notes) :
    Online slots slaveAddr <-> isUp (linkHistory slaveAddr notes) = true := by
  constructor
  · intro hgiven
    rcases hgiven with ⟨slot, hmem, haddr, honline⟩
    rw [← haddr, ← (h.follows slot hmem).online]
    exact honline
  · intro hup
    by_cases hslot : exists slot, slot ∈ slots ∧ slot.slaveAddr = slaveAddr
    · rcases hslot with ⟨slot, hmem, haddr⟩
      rw [← haddr, ← (h.follows slot hmem).online] at hup
      exact ⟨slot, hmem, haddr, hup⟩
    · have hnone := h.unseen slaveAddr fun slot hmem haddr => absurd ⟨slot, hmem, haddr⟩ hslot
      rw [hnone] at hup
      cases hup

theorem isUp_note (slaveAddr : UInt8) (notes : List LinkNote) (note : LinkNote) :
    isUp (linkHistory slaveAddr (notes ++ [note])) =
      if note.slaveAddr = slaveAddr then
        pushEvent (isUp (linkHistory slaveAddr notes)) note
      else isUp (linkHistory slaveAddr notes) := by
  rcases note with ⟨owner, happening⟩
  rw [linkHistory_append]
  by_cases howner : owner = slaveAddr
  · have hown := linkHistory_own slaveAddr [happening]
    rw [if_pos howner, howner]
    rw [List.map_singleton] at hown
    rw [hown, isUp_snoc]
    cases happening <;> rfl
  · have hother := linkHistory_other howner [happening]
    rw [if_neg howner]
    rw [List.map_singleton] at hother
    rw [hother, List.append_nil]

theorem FlagShown.note (h : FlagShown registry notes online) (note : LinkNote)
    (hdown : note.happening = .down -> forall other, other ≠ note.slaveAddr ->
      Registered registry other -> isUp (linkHistory other notes) = false)
    (hup : note.happening = .up -> Registered registry note.slaveAddr ∨
      exists other, other ≠ note.slaveAddr ∧ Registered registry other ∧
        isUp (linkHistory other notes) = true) :
    FlagShown registry (notes ++ [note]) (pushEvent online note) := by
  rcases note with ⟨owner, happening⟩
  -- a happening that is no event leaves every link where it is
  have hquiet : (forall up, pushEvent up ⟨owner, happening⟩ = up) ->
      FlagShown registry (notes ++ [⟨owner, happening⟩])
        (pushEvent online ⟨owner, happening⟩) := by
    intro hsame
    unfold FlagShown
    simp only [isUp_note, hsame, ite_self]
    exact h
  cases happening with
  | success => exact hquiet fun _ => rfl
  | failure => exact hquiet fun _ => rfl
  | rejected => exact hquiet fun _ => rfl
  | up =>
      unfold FlagShown
      simp only [isUp_note]
      constructor
      · intro _
        rcases hup rfl with hregistered | ⟨other, hne, hregistered, hon⟩
        · exact ⟨owner, hregistered, if_pos rfl⟩
        · exact ⟨other, hregistered, (if_neg hne.symm).trans hon⟩
      · intro _
        rfl
  | down =>
      unfold FlagShown
      simp only [isUp_note]
      constructor
      · intro hon
        cases hon
      · intro hgiven
        rcases hgiven with ⟨other, hregistered, hon⟩
        by_cases hown : owner = other
        · rw [if_pos hown] at hon
          cases hon
        · rw [if_neg hown, hdown rfl other (Ne.symm hown) hregistered] at hon
          cases hon

theorem FlagShown.call (h : FlagShown registry notes online) {call : LinkCall}
    (hfailed : call = .outcome false -> slot.linkOnline = true ->
      hysteresisThreshold ≤ slot.consecutiveFailures + 1 -> forall other,
        other ≠ slot.slaveAddr -> Registered registry other ->
          isUp (linkHistory other notes) = false)
    (hrejected : call = .reject -> slot.linkOnline = true -> slot.identity ≠ .rejected ->
      forall other, other ≠ slot.slaveAddr -> Registered registry other ->
        isUp (linkHistory other notes) = false)
    (hanswered : call = .outcome true -> slot.linkOnline = false ->
      hysteresisThreshold ≤ slot.consecutiveSuccesses + 1 ->
        Registered registry slot.slaveAddr ∨ exists other, other ≠ slot.slaveAddr ∧
          Registered registry other ∧ isUp (linkHistory other notes) = true) :
    FlagShown registry (notes ++ (call.notes slot).map (LinkNote.mk slot.slaveAddr))
      (((call.notes slot).map (LinkNote.mk slot.slaveAddr)).foldl pushEvent online) := by
  have hcount : forall n, countUp n = hysteresisThreshold -> hysteresisThreshold ≤ n + 1 := by
    intro n hn
    rw [← hn]
    exact Debounce.tally_le _ n
  have hsame : forall (other : UInt8) (happening : Happening),
      (forall up, pushEvent up ⟨slot.slaveAddr, happening⟩ = up) ->
        isUp (linkHistory other (notes ++ [⟨slot.slaveAddr, happening⟩])) =
          isUp (linkHistory other notes) := by
    intro other happening hquiet
    rw [isUp_note, hquiet, ite_self]
  cases call with
  | outcome ok =>
      cases ok with
      | true =>
          have hoccurred : FlagShown registry (notes ++ [⟨slot.slaveAddr, .success⟩]) online :=
            h.note ⟨slot.slaveAddr, .success⟩ nofun nofun
          change FlagShown registry (notes ++ (recordPollOutcomeNotes true slot).map _)
            (((recordPollOutcomeNotes true slot).map _).foldl pushEvent online)
          unfold recordPollOutcomeNotes
          rw [if_pos rfl]
          split
          · rename_i hreached
            have hnew := hoccurred.note ⟨slot.slaveAddr, .up⟩ nofun (by
              intro _
              rcases hanswered rfl hreached.2 (hcount _ hreached.1) with hregistered | hanother
              · exact .inl hregistered
              · rcases hanother with ⟨other, hne, hregistered, hon⟩
                exact .inr ⟨other, hne, hregistered, by rw [hsame _ _ fun _ => rfl]; exact hon⟩)
            rw [List.append_assoc] at hnew
            exact hnew
          · exact hoccurred
      | false =>
          have hoccurred : FlagShown registry (notes ++ [⟨slot.slaveAddr, .failure⟩]) online :=
            h.note ⟨slot.slaveAddr, .failure⟩ nofun nofun
          change FlagShown registry (notes ++ (recordPollOutcomeNotes false slot).map _)
            (((recordPollOutcomeNotes false slot).map _).foldl pushEvent online)
          unfold recordPollOutcomeNotes
          rw [if_neg Bool.false_ne_true]
          split
          · rename_i hreached
            have hnew := hoccurred.note ⟨slot.slaveAddr, .down⟩ (by
              intro _ other hne hregistered
              rw [hsame _ _ fun _ => rfl]
              exact hfailed rfl hreached.2 (hcount _ hreached.1) other hne hregistered) nofun
            rw [List.append_assoc] at hnew
            exact hnew
          · exact hoccurred
  | reject =>
      have hoccurred : FlagShown registry (notes ++ [⟨slot.slaveAddr, .rejected⟩]) online :=
        h.note ⟨slot.slaveAddr, .rejected⟩ nofun nofun
      change FlagShown registry (notes ++ (rejectSlaveNotes slot).map _)
        (((rejectSlaveNotes slot).map _).foldl pushEvent online)
      unfold rejectSlaveNotes
      split
      · rename_i hreached
        have hnew := hoccurred.note ⟨slot.slaveAddr, .down⟩ (by
          intro _ other hne hregistered
          rw [hsame _ _ fun _ => rfl]
          exact hrejected rfl hreached.2 hreached.1 other hne hregistered) nofun
        rw [List.append_assoc] at hnew
        exact hnew
      · exact hoccurred

end

section

variable {s s' : Poller} {act : LinkAct} {notes : List LinkNote} {online : Bool}

theorem startProfile_registry (s : Poller) (index : Nat) (profile : DeviceProfile) :
    (s.startProfile index profile).registry = s.registry := by
  unfold Poller.startProfile
  dsimp only
  split
  · rfl
  · split
    · rfl
    · split
      · rfl
      · split
        · rfl
        · split <;> rfl

theorem PollInv.registryOk (hinv : PollInv s) : RegistryOk s.registry := by
  rw [← hinv.current]
  exact hinv.registries s.version (Nat.le_refl _)

theorem Poller.perform_registry (hinv : PollInv s) (h : s.perform act = some s') :
    s'.registry = s.registry ∨
      (exists profile, act = .addOrUpdate profile ∧
        addOrUpdate s.registry profile = some s'.registry) ∨
      (exists slaveAddr, act = .remove slaveAddr ∧
        removeProfile s.registry slaveAddr = some s'.registry) := by
  cases act with
  | copyProfile =>
      simp only [perform] at h
      split at h
      · rcases Option.map_eq_some_iff.mp h with ⟨profile, _, hs'⟩
        rw [← hs']
        exact .inl (startProfile_registry s _ profile)
      · cases h
  | cycleEnds =>
      simp only [perform] at h
      split at h
      · split at h
        · cases h
          exact .inl rfl
        · cases h
      · cases h
  | identityRead attempts =>
      simp only [perform] at h
      split at h
      · rename_i index copy map slot hhere
        have hpoint := hinv.point
        unfold PointOk at hpoint
        rw [hhere] at hpoint
        cases h
        exact .inl (Exchanged.identity index copy map hpoint.2.2.1
          (copy_addr_ne_zero hinv hpoint.1) _).registry
      · cases h
  | telemetryRead attempts tick =>
      simp only [perform] at h
      split at h
      · cases h
        exact .inl (Exchanged.telemetry ..).registry
      · cases h
  | alarmFlagsRead attempts =>
      simp only [perform] at h
      split at h
      · cases h
        exact .inl (Exchanged.alarmFlags ..).registry
      · cases h
  | addOrUpdate profile =>
      rcases Option.map_eq_some_iff.mp h with ⟨table, hsaved, hs'⟩
      rw [← hs']
      exact .inr (.inl ⟨profile, rfl, hsaved⟩)
  | remove slaveAddr =>
      rcases Option.map_eq_some_iff.mp h with ⟨table, hsaved, hs'⟩
      rw [← hs']
      exact .inr (.inr ⟨slaveAddr, rfl, hsaved⟩)
  | reprobe slaveAddr =>
      cases h
      exact .inl (reprobe_kept s slaveAddr).1

theorem not_anotherOnline (hfollow : SlotsFollow s.slots notes) {slaveAddr : UInt8}
    (h : ¬ AnotherOnline s.registry s.slots slaveAddr) :
    forall other, other ≠ slaveAddr -> Registered s.registry other ->
      isUp (linkHistory other notes) = false := by
  intro other hne hregistered
  cases hup : isUp (linkHistory other notes) with
  | false => rfl
  | true => exact absurd ⟨other, hne, hregistered, (online_iff hfollow).mpr hup⟩ h

theorem FlagShown.step (h : FlagShown s.registry notes online) (hinv : PollInv s)
    (hfollow : SlotsFollow s.slots notes) (hcalm : Calm s act) (hstep : s.perform act = some s') :
    FlagShown s'.registry (notes ++ s.linkNotes act)
      ((s.linkNotes act).foldl pushEvent online) := by
  rcases Poller.perform_registry hinv hstep with hsame | ⟨profile, hact, hsaved⟩ |
    ⟨removed, hact, hsaved⟩
  · rw [hsame]
    unfold Poller.linkNotes
    cases hcall : s.linkCall act with
    | none =>
        change FlagShown s.registry (notes ++ []) online
        rw [List.append_nil]
        exact h
    | some called =>
        rcases called with ⟨slot, call⟩
        dsimp only
        apply h.call
        · intro heq hon hcount
          rw [heq] at hcall
          exact not_anotherOnline hfollow (hcalm.failed slot hcall hon hcount)
        · intro heq hon hidentity
          rw [heq] at hcall
          exact not_anotherOnline hfollow (hcalm.rejected slot hcall hon hidentity)
        · intro heq hoff hcount
          rw [heq] at hcall
          rcases hcalm.answered slot hcall hoff hcount with hregistered | hanother
          · exact .inl hregistered
          · rcases hanother with ⟨other, hne, hregistered, hon⟩
            exact .inr ⟨other, hne, hregistered, (online_iff hfollow).mp hon⟩
  · rw [hact]
    change FlagShown s'.registry (notes ++ []) online
    rw [List.append_nil]
    constructor
    · intro hon
      rcases h.mp hon with ⟨slaveAddr, hregistered, hup⟩
      exact ⟨slaveAddr, (addOrUpdate_registered hsaved).mpr (.inr hregistered), hup⟩
    · intro hany
      rcases hany with ⟨slaveAddr, hregistered, hup⟩
      rcases (addOrUpdate_registered hsaved).mp hregistered with hnew | hold
      · rw [hnew] at hup
        rcases hcalm.add profile hact ((online_iff hfollow).mpr hup) with ⟨other, hother, hon⟩
        exact h.mpr ⟨other, hother, (online_iff hfollow).mp hon⟩
      · exact h.mpr ⟨slaveAddr, hold, hup⟩
  · rw [hact]
    change FlagShown s'.registry (notes ++ []) online
    rw [List.append_nil]
    constructor
    · intro hon
      rcases h.mp hon with ⟨slaveAddr, hregistered, hup⟩
      by_cases hremoved : slaveAddr = removed
      · rw [hremoved] at hup
        rcases hcalm.remove removed hact ((online_iff hfollow).mpr hup) with
          ⟨other, hne, hother, hotherOn⟩
        exact ⟨other, (removeProfile_registered hinv.registryOk hsaved).mpr ⟨hne, hother⟩,
          (online_iff hfollow).mp hotherOn⟩
      · exact ⟨slaveAddr,
          (removeProfile_registered hinv.registryOk hsaved).mpr ⟨hremoved, hregistered⟩, hup⟩
    · intro hany
      rcases hany with ⟨slaveAddr, hregistered, hup⟩
      exact h.mpr ⟨slaveAddr,
        ((removeProfile_registered hinv.registryOk hsaved).mp hregistered).2, hup⟩

end

section

variable {allowed : Poller -> LinkAct -> Prop} {s : Links}

theorem LinksReached.flagShown (h : LinksReached allowed s)
    (hcalm : forall poller act, allowed poller act -> Calm poller act) :
    FlagShown s.poller.registry s.notes s.modbusLinkOnline := by
  induction h with
  | initial loaded =>
      constructor
      · intro hon
        cases hon
      · intro hany
        rcases hany with ⟨_, _, hup⟩
        cases hup
  | step reached hallowed hstep ih =>
      rcases Option.map_eq_some_iff.mp hstep with ⟨poller, hpoller, hs'⟩
      rw [← hs']
      exact ih.step reached.pollReachable.inv reached.follows (hcalm _ _ hallowed) hpoller

/-- Every run is lawful for each slave; in a run of calm steps the flag says whether a registered
slave is online. -/
theorem link_state_shown (h : LinksReached allowed s) :
    (forall slaveAddr, Lawful hysteresisThreshold (linkHistory slaveAddr s.notes) ∧
      (exists n, Debounce.events (linkHistory slaveAddr s.notes) = Debounce.turns n) ∧
      (Online s.poller.slots slaveAddr <-> isUp (linkHistory slaveAddr s.notes) = true)) ∧
    ((forall poller act, allowed poller act -> Calm poller act) ->
      (s.modbusLinkOnline = true <-> AnyOnline s.poller.registry s.poller.slots)) := by
  constructor
  · intro slaveAddr
    have hlawful := h.lawful slaveAddr
    rcases hlawful.alternates with ⟨n, hevents, _⟩
    exact ⟨hlawful, ⟨n, hevents⟩, online_iff h.follows⟩
  · intro hcalm
    have hshown := h.flagShown hcalm
    constructor
    · intro hon
      rcases hshown.mp hon with ⟨slaveAddr, hregistered, hup⟩
      exact ⟨slaveAddr, hregistered, (online_iff h.follows).mpr hup⟩
    · intro hany
      rcases hany with ⟨slaveAddr, hregistered, hon⟩
      exact hshown.mpr ⟨slaveAddr, hregistered, (online_iff h.follows).mp hon⟩

end

/-!
## Two runs
-/

/-- A run of allowed steps. -/
def Links.performAll (allowed : Poller -> LinkAct -> Bool) (s : Links) :
    List LinkAct -> Option Links
  | [] => some s
  | act :: acts =>
      if allowed s.poller act then (s.perform act).bind fun s' => s'.performAll allowed acts
      else none

theorem LinksReached.performAll {allowed : Poller -> LinkAct -> Bool} {acts : List LinkAct} :
    forall {s s' : Links}, LinksReached (fun poller act => allowed poller act = true) s ->
      s.performAll allowed acts = some s' ->
        LinksReached (fun poller act => allowed poller act = true) s' := by
  induction acts with
  | nil =>
      intro s s' h hrun
      cases hrun
      exact h
  | cons act acts ih =>
      intro s s' h hrun
      simp only [Links.performAll] at hrun
      split at hrun
      · rename_i hallowed
        rcases Option.bind_eq_some_iff.mp hrun with ⟨next, hnext, hrest⟩
        exact ih (h.step hallowed hnext) hrest
      · cases hrun

theorem LinksReached.mono {allowed allowed' : Poller -> LinkAct -> Prop} {s : Links}
    (h : LinksReached allowed s) (hmore : forall poller act, allowed poller act ->
      allowed' poller act) : LinksReached allowed' s := by
  induction h with
  | initial loaded => exact .initial loaded
  | step _ hallowed hstep ih => exact ih.step (hmore _ _ hallowed) hstep

/-- The profiles stay, only slaves with a profile are polled, and a slave that does not answer
is offline or the only one online. -/
def takesTurns (s : Poller) (act : LinkAct) : Bool :=
  (match act with
    | .addOrUpdate _ => false
    | .remove _ => false
    | _ => true) &&
  (match s.linkCall act with
    | none => true
    | some (slot, call) =>
        (s.registry.map DeviceProfile.slaveAddr).contains slot.slaveAddr &&
          (call == .outcome true || !slot.linkOnline ||
            s.slots.all fun other => other.slaveAddr == slot.slaveAddr || !other.linkOnline))

theorem takesTurns_calm {s : Poller} {act : LinkAct} (h : takesTurns s act = true) :
    Calm s act := by
  unfold takesTurns at h
  rcases Bool.and_eq_true_iff.mp h with ⟨hact, hcall⟩
  have hslot : forall slot call, s.linkCall act = some (slot, call) ->
      Registered s.registry slot.slaveAddr ∧ (call = .outcome true ∨ slot.linkOnline = false ∨
        ¬ AnotherOnline s.registry s.slots slot.slaveAddr) := by
    intro slot call hsome
    rw [hsome] at hcall
    rcases Bool.and_eq_true_iff.mp hcall with ⟨hregistered, hquiet⟩
    refine ⟨List.mem_map.mp (List.contains_iff_mem.mp hregistered), ?_⟩
    rcases Bool.or_eq_true_iff.mp hquiet with hok | hothers
    · rcases Bool.or_eq_true_iff.mp hok with hanswered | hoffline
      · exact .inl (eq_of_beq hanswered)
      · exact .inr (.inl (by simpa using hoffline))
    · right
      right
      rintro ⟨other, hne, _, found, hmem, haddr, hon⟩
      have hfound := List.all_eq_true.mp hothers found hmem
      rw [haddr, hon] at hfound
      exact hne (by simpa using hfound)
  constructor
  · intro slot hsome hon _
    rcases (hslot slot _ hsome).2 with hanswered | hoffline | hnone
    · cases hanswered
    · exact absurd (hon.symm.trans hoffline) (by decide)
    · exact hnone
  · intro slot hsome hon _
    rcases (hslot slot _ hsome).2 with hanswered | hoffline | hnone
    · cases hanswered
    · exact absurd (hon.symm.trans hoffline) (by decide)
    · exact hnone
  · intro slot hsome _ _
    exact .inl (hslot slot _ hsome).1
  · intro other hremove
    rw [hremove] at hact
    cases hact
  · intro profile hadd
    rw [hadd] at hact
    cases hact

/-- What a slave answers to the reads of its profile. -/
def answers (slaveAddr : UInt8) (block : ModbusFrame) : List Attempt :=
  [.frame (ModbusFrame.mk slaveAddr fcReadInput block.data).onWire]

def unanswered : List Attempt := [.noResponse, .noResponse]

def firstTurn (slaveAddr : UInt8) : List LinkAct :=
  [.copyProfile, .identityRead (answers slaveAddr identityBlock),
    .telemetryRead (answers slaveAddr telemetryBlock) 7, .alarmFlagsRead unanswered]

def answeredTurn (slaveAddr : UInt8) : List LinkAct :=
  [.copyProfile, .telemetryRead (answers slaveAddr telemetryBlock) 7, .alarmFlagsRead unanswered]

def unansweredTurn : List LinkAct := [.copyProfile, .telemetryRead unanswered 7]

/-- A slave without a verified identity that does not answer. -/
def silentTurn : List LinkAct := [.copyProfile, .identityRead unanswered]

/-- The first slave comes up and goes silent while the second has not answered yet; then the
second comes up. -/
def changeOverActs : List LinkAct :=
  firstTurn 1 ++ silentTurn ++ .cycleEnds :: answeredTurn 1 ++ silentTurn ++
    .cycleEnds :: answeredTurn 1 ++ silentTurn ++
    .cycleEnds :: unansweredTurn ++ silentTurn ++
    .cycleEnds :: unansweredTurn ++ silentTurn ++
    .cycleEnds :: unansweredTurn ++ silentTurn ++
    .cycleEnds :: silentTurn ++ firstTurn 2 ++ .cycleEnds :: silentTurn ++ answeredTurn 2 ++
    .cycleEnds :: silentTurn ++ answeredTurn 2

theorem twoSlaves_registryOk : RegistryOk [profileAt 1, profileAt 2] := by
  have hboth : RegistryOk ([profileAt 1] ++ [profileAt 2]) :=
    profileAt_registryOk.append rfl (by decide)
  exact hboth

theorem link_state_shown_changeOver :
    exists s, LinksReached (fun poller act => takesTurns poller act = true) s ∧
      s.modbusLinkOnline = true ∧
      (s.modbusLinkOnline = true <-> AnyOnline s.poller.registry s.poller.slots) ∧
      Debounce.events (linkHistory 1 s.notes) = [true, false] ∧
      Lawful hysteresisThreshold (linkHistory 1 s.notes) ∧
      Debounce.events (linkHistory 2 s.notes) = [true] := by
  have hrun : ((Links.initial [profileAt 1, profileAt 2]).performAll takesTurns
      changeOverActs).map (fun s => (s.modbusLinkOnline,
        Debounce.events (linkHistory 1 s.notes), Debounce.events (linkHistory 2 s.notes))) =
      some (true, [true, false], [true]) := by
    decide +kernel
  rcases Option.map_eq_some_iff.mp hrun with ⟨s, hs, hseen⟩
  rcases Prod.mk.inj hseen with ⟨hon, hevents⟩
  rcases Prod.mk.inj hevents with ⟨hfirst, hsecond⟩
  have hreached := (LinksReached.initial twoSlaves_registryOk).performAll hs
  have hshown := link_state_shown hreached
  exact ⟨s, hreached, hon, hshown.2 fun _ _ h => takesTurns_calm h, hfirst, (hshown.1 1).1,
    hsecond⟩

/-- Both slaves come up, and the second goes silent for three cycles. -/
def secondLostActs : List LinkAct :=
  firstTurn 1 ++ firstTurn 2 ++ .cycleEnds :: answeredTurn 1 ++ answeredTurn 2 ++
    .cycleEnds :: answeredTurn 1 ++ answeredTurn 2 ++
    .cycleEnds :: answeredTurn 1 ++ unansweredTurn ++
    .cycleEnds :: answeredTurn 1 ++ unansweredTurn ++
    .cycleEnds :: answeredTurn 1 ++ unansweredTurn

/-- The first slave answers every poll, and the flag is down. -/
theorem second_slave_lost :
    exists s, LinksReached (fun _ _ => True) s ∧
      ¬ (s.modbusLinkOnline = true <-> AnyOnline s.poller.registry s.poller.slots) := by
  have hrun : ((Links.initial [profileAt 1, profileAt 2]).performAll (fun _ _ => true)
      secondLostActs).map (fun s => (s.modbusLinkOnline,
        s.poller.registry.map DeviceProfile.slaveAddr,
        s.poller.slots.map fun slot => (slot.slaveAddr, slot.linkOnline))) =
      some (false, [1, 2], [(1, true), (2, false), (0, false), (0, false)]) := by
    decide +kernel
  rcases Option.map_eq_some_iff.mp hrun with ⟨s, hs, hseen⟩
  rcases Prod.mk.inj hseen with ⟨hflag, hrest⟩
  rcases Prod.mk.inj hrest with ⟨hregistry, hslots⟩
  have hfirst : Registered s.poller.registry 1 := by
    apply List.mem_map.mp
    rw [hregistry]
    exact List.mem_cons_self
  have honline : Online s.poller.slots 1 := by
    have hmem : ((1 : UInt8), true) ∈
        s.poller.slots.map fun slot => (slot.slaveAddr, slot.linkOnline) := by
      rw [hslots]
      exact List.mem_cons_self
    rcases List.mem_map.mp hmem with ⟨slot, hslot, heq⟩
    rcases Prod.mk.inj heq with ⟨haddr, hon⟩
    exact ⟨slot, hslot, haddr, hon⟩
  refine ⟨s, ?_, ?_⟩
  · exact ((LinksReached.initial twoSlaves_registryOk).performAll hs).mono fun _ _ _ => trivial
  · intro hiff
    have hon := hiff.mpr ⟨1, hfirst, honline⟩
    rw [hflag] at hon
    cases hon

end EnvMonitor.Gateway
