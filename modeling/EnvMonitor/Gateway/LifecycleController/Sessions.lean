import EnvMonitor.Gateway.LifecycleController.TimeOuts
import Mathlib.Data.List.Sublists

/-!
# Edit sessions and restart windows of the gateway

What each kind of step keeps: the first event to end a running session is its own, one time-out at
most is on its way to a restart window, and the deferred events wait for the next pass.
-/

namespace EnvMonitor.Gateway.LifecycleController

open Concurrency (FirstEnd)

/-!
## Edit sessions
-/

structure EditInv (w : Watch) : Prop where
  guarded : w.lc.state = .editingConfig -> FirstEnd endsEdit (OfSession w.edits) w.lc.queue
  edit : forall ev number, (ev, number) ∈ w.editTimeouts -> ev.tag.timer = some number

/-- An event is added to the queue, or dropped where the queue is full. -/
structure Sent (ev : Event) (w w' : Watch) : Prop where
  lc : w'.lc = w.lc ∨ (w.lc.queue.length < lifecycleQueueDepth ∧
    w'.lc = { w.lc with queue := w.lc.queue ++ [ev] })
  arrival : ev.tag.arrival = w.arrivals
  arrivals : w'.arrivals = w.arrivals + 1
  edits : w'.edits = w.edits
  windows : w'.windows = w.windows
  ended : w'.ended = w.ended
  requests : w'.requests = w.requests
  replayed : w'.replayed = w.replayed
  taken : w'.taken = w.taken
  editTimeouts : w'.editTimeouts = w.editTimeouts
  restartTimeouts : w'.restartTimeouts = w.restartTimeouts
  reset : w'.reset = w.reset

section

variable {w w' : Watch} {ev : Event}

theorem Sent.state (h : Sent ev w w') : w'.lc.state = w.lc.state := by
  rcases h.lc with hlc | ⟨_, hlc⟩ <;> rw [hlc]

theorem Sent.deferred (h : Sent ev w w') : w'.lc.deferred = w.lc.deferred := by
  rcases h.lc with hlc | ⟨_, hlc⟩ <;> rw [hlc]

theorem sent_post (w : Watch) (event : LifecycleEvent) :
    Sent ⟨event, w.arrivals, none⟩ w (w.perform (.post event)) :=
  ⟨vtblPostEvent_cases _ w.lc, rfl, rfl, rfl, rfl, rfl, rfl, rfl, rfl, rfl, rfl, rfl⟩

theorem sent_editTimer (w : Watch) (session : Nat) :
    Sent ⟨.configEditTimeout, w.arrivals, some session⟩ w (w.perform (.editTimer session)) :=
  ⟨xQueueSend_cases _ w.lc, rfl, rfl, rfl, rfl, rfl, rfl, rfl, rfl, rfl, rfl, rfl⟩

theorem sent_restartTimer (w : Watch) (window : Nat) :
    Sent ⟨.restartTimeout, w.arrivals, some window⟩ w (w.perform (.restartTimer window)) :=
  ⟨xQueueSend_cases _ w.lc, rfl, rfl, rfl, rfl, rfl, rfl, rfl, rfl, rfl, rfl, rfl⟩

theorem EditInv.sent (hinv : EditInv w) (h : Sent ev w w')
    (hown : w.lc.state = .editingConfig -> w.lc.queue.length < lifecycleQueueDepth ->
      endsEdit ev = true -> (forall m, m ∈ w.lc.queue -> endsEdit m = false) ->
      OfSession w.edits ev) :
    EditInv w' := by
  constructor
  · intro hstate
    rw [h.edits]
    rw [h.state] at hstate
    rcases h.lc with hlc | ⟨hroom, hlc⟩ <;> rw [hlc]
    · exact hinv.guarded hstate
    · exact (hinv.guarded hstate).snoc (hown hstate hroom)
  · rw [h.editTimeouts]
    exact hinv.edit

theorem ofSession_of_ne {number : Nat} (h : ev.event ≠ .configEditTimeout) :
    OfSession number ev :=
  fun heq => absurd heq h

theorem EditInv.pass {replies : LcReplies} {late : Bool} {calls : List LcCall}
    {lc : Controller Origin} (hinv : EditInv w) (hpass : Pass replies w.lc calls lc)
    (hrequests : forall ev, ev ∈ w.lc.deferred -> ev.event.isRequest = true)
    (hok : SessionsApart w (.pass replies late)) :
    EditInv (w.after late calls lc) := by
  constructor
  · intro hafter
    change lc.state = .editingConfig at hafter
    change FirstEnd endsEdit (OfSession (w.after late calls lc).edits) lc.queue
    cases hpass with
    | idle hqueue _ hcalls =>
        rw [hqueue]
        exact FirstEnd.nil
    | replayed ev rest hstate hdeferred effect =>
        have hrequest : ev.event.isRequest = true := by
          apply hrequests
          rw [hdeferred]
          exact List.mem_cons_self
        cases effect with
        | none => cases hstate.symm.trans hafter
        | entered _ hevent => rw [hevent] at hrequest; cases hrequest
        | heldBack hediting => cases hstate.symm.trans hediting
        | closed | asked | lapsed | updating | ready | faulted => cases hafter
    | taken ev rest hempty hqueue effect =>
        cases effect with
        | none hcalls hedit =>
            rw [after_edits hcalls.edit]
            have hguarded := hinv.guarded hafter
            rw [hqueue] at hguarded
            exact hguarded.tail (hedit hafter).1
        | entered hstate hevent hsnapshot =>
            intro m hm
            exact ofSession_of_ne ((hok ev rest hqueue).1 hstate (hempty hstate) hevent hsnapshot
              m hm)
        | heldBack hediting hevent hcalls =>
            rw [after_edits hcalls.edit]
            have hguarded := hinv.guarded hediting
            rw [hqueue] at hguarded
            have hgoes : endsEdit ev = false := by
              unfold endsEdit
              cases hcase : ev.event <;> rw [hcase] at hevent <;> first | rfl | cases hevent
            have hrest := hguarded.tail hgoes
            unfold deferEvent
            split <;> exact hrest
        | closed | asked | lapsed | updating | ready | faulted => cases hafter
  · intro ev number hmem
    rcases mem_editTimeouts_after hmem with hold | ⟨hstate, ⟨rest, hqueue⟩, hevent, hnumber⟩
    · exact hinv.edit ev number hold
    · have hguarded := hinv.guarded hstate
      rw [hqueue] at hguarded
      rw [hnumber]
      apply hguarded.head _ hevent
      unfold endsEdit
      rw [hevent]
      rfl

end

/-!
## Restart windows
-/

/-- The window a `RESTART_TIMEOUT` comes from. -/
def restartTicket (ev : Event) : Option (Option Nat) :=
  if ev.event = .restartTimeout then some ev.tag.timer else none

/-- The time-outs of restart windows that are still to come. -/
def outstanding (w : Watch) : List (Option Nat) :=
  w.restartTimers.map some ++ w.lc.queue.filterMap restartTicket

structure WindowInv (w : Watch) : Prop where
  window : forall ev number, (ev, number) ∈ w.restartTimeouts -> ev.tag.timer = some number
  outstanding : outstanding w = [] ∨
    (outstanding w = [some w.windows] ∧ (w.lc.state = .restarting ∨ w.lc.state = .faulted))

section

variable {w w' : Watch} {ev : Event}

theorem WindowInv.sent (hinv : WindowInv w) (h : Sent ev w w')
    (htimers : w'.restartTimers = w.restartTimers) (hevent : ev.event ≠ .restartTimeout) :
    WindowInv w' := by
  have hsame : LifecycleController.outstanding w' = LifecycleController.outstanding w := by
    unfold LifecycleController.outstanding
    rw [htimers]
    rcases h.lc with hlc | ⟨_, hlc⟩ <;> rw [hlc]
    change _ ++ List.filterMap restartTicket (w.lc.queue ++ [ev]) = _
    have hticket : restartTicket ev = none := if_neg hevent
    rw [List.filterMap_append, List.filterMap_cons_none hticket, List.filterMap_nil,
      List.append_nil]
  constructor
  · rw [h.restartTimeouts]
    exact hinv.window
  · rw [hsame, h.windows, h.state]
    exact hinv.outstanding

theorem WindowInv.restartTimer {window : Nat} (hinv : WindowInv w)
    (hpossible : window ∈ w.restartTimers) : WindowInv (w.perform (.restartTimer window)) := by
  have h := sent_restartTimer w window
  rcases hinv.outstanding with hnone | ⟨hone, hstate⟩
  · rcases List.append_eq_nil_iff.mp hnone with ⟨hnil, _⟩
    rw [List.map_eq_nil_iff.mp hnil] at hpossible
    cases hpossible
  · have hlist : w.restartTimers = [window] ∧ window = w.windows ∧
        w.lc.queue.filterMap restartTicket = [] := by
      unfold LifecycleController.outstanding at hone
      cases htimers : w.restartTimers with
      | nil => rw [htimers] at hpossible; cases hpossible
      | cons first rest =>
          rw [htimers, List.map_cons, List.cons_append] at hone
          rcases List.cons_eq_cons.mp hone with ⟨hfirst, hrest⟩
          rcases List.append_eq_nil_iff.mp hrest with ⟨hnil, htickets⟩
          have hrestNil : rest = [] := List.map_eq_nil_iff.mp hnil
          rw [htimers, hrestNil] at hpossible
          have heq : window = first := List.mem_singleton.mp hpossible
          rw [hrestNil, heq]
          exact ⟨rfl, Option.some.inj hfirst, htickets⟩
    constructor
    · rw [h.restartTimeouts]
      exact hinv.window
    · rw [h.windows, h.state]
      have htimers : (w.perform (.restartTimer window)).restartTimers = [] := by
        change w.restartTimers.erase window = []
        rw [hlist.1, List.erase_cons_head]
      unfold LifecycleController.outstanding
      rw [htimers]
      rcases h.lc with hlc | ⟨_, hlc⟩ <;> rw [hlc]
      · exact Or.inl hlist.2.2
      · right
        refine ⟨?_, hstate⟩
        change List.filterMap restartTicket (w.lc.queue ++ [_]) = _
        rw [List.filterMap_append, hlist.2.2, ← hlist.2.1]
        rfl

variable {lc : Controller Origin} {calls : List LcCall}

theorem outstanding_sublist (late : Bool) (hcalls : LcCall.restartTimerStart ∉ calls)
    (hqueue : lc.queue.Sublist w.lc.queue) :
    (outstanding (w.after late calls lc)).Sublist (outstanding w) :=
  List.Sublist.append ((after_restartTimers hcalls).map some) (hqueue.filterMap restartTicket)

theorem WindowInv.last {rest : List Event} (hinv : WindowInv w) (hqueue : w.lc.queue = ev :: rest)
    (hevent : ev.event = .restartTimeout) :
    w.restartTimers = [] ∧ rest.filterMap restartTicket = [] := by
  have hticket : restartTicket ev = some ev.tag.timer := if_pos hevent
  have hout : LifecycleController.outstanding w = w.restartTimers.map some ++
      ev.tag.timer :: rest.filterMap restartTicket := by
    unfold LifecycleController.outstanding
    rw [hqueue, List.filterMap_cons_some hticket]
  rcases hinv.outstanding with hnone | ⟨hone, _⟩
  · rw [hout] at hnone
    cases (List.append_eq_nil_iff.mp hnone).2
  · rw [hout] at hone
    cases htimers : w.restartTimers with
    | nil =>
        rw [htimers] at hone
        exact ⟨rfl, (List.cons_eq_cons.mp hone).2⟩
    | cons first more =>
        rw [htimers] at hone
        cases (List.append_eq_nil_iff.mp (List.cons_eq_cons.mp hone).2).2

theorem WindowInv.pass {replies : LcReplies} {late : Bool} (hinv : WindowInv w)
    (hpass : Pass replies w.lc calls lc) : WindowInv (w.after late calls lc) := by
  have hkeep : LcCall.restartTimerStart ∉ calls -> lc.queue.Sublist w.lc.queue ->
      (w.lc.state = .restarting ∨ w.lc.state = .faulted ->
        lc.state = .restarting ∨ lc.state = .faulted) ->
      LifecycleController.outstanding (w.after late calls lc) = [] ∨
        (LifecycleController.outstanding (w.after late calls lc) =
          [some (w.after late calls lc).windows] ∧
          (lc.state = .restarting ∨ lc.state = .faulted)) := by
    intro hcalls hqueue hstates
    have hsub := outstanding_sublist late hcalls hqueue
    rw [after_windows hcalls]
    rcases hinv.outstanding with hnone | ⟨hone, hstate⟩
    · rw [hnone] at hsub
      exact Or.inl (List.sublist_nil.mp hsub)
    · rw [hone] at hsub
      rcases List.sublist_singleton.mp hsub with hnil | hsame
      · exact Or.inl hnil
      · exact Or.inr ⟨hsame, hstates hstate⟩
  have hstart : w.lc.state = .operational -> LcCall.restartTimerStart ∈ calls ->
      lc.queue.Sublist w.lc.queue -> lc.state = .restarting ->
      LifecycleController.outstanding (w.after late calls lc) = [] ∨
        (LifecycleController.outstanding (w.after late calls lc) =
          [some (w.after late calls lc).windows] ∧
          (lc.state = .restarting ∨ lc.state = .faulted)) := by
    intro hstate hcalls hqueue hafter
    have hnone : LifecycleController.outstanding w = [] := by
      rcases hinv.outstanding with hnone | ⟨_, hr | hf⟩
      · exact hnone
      · cases hstate.symm.trans hr
      · cases hstate.symm.trans hf
    rcases List.append_eq_nil_iff.mp hnone with ⟨htimers, htickets⟩
    have htickets' : lc.queue.filterMap restartTicket = [] := by
      have hsub := hqueue.filterMap restartTicket
      rw [htickets] at hsub
      exact List.sublist_nil.mp hsub
    have htimers' : (w.after late calls lc).restartTimers = [(w.after late calls lc).windows] := by
      change stopTimers late _ calls w.restartTimers ++ (if _ then _ else _) = _
      have hnil : stopTimers late .restartTimerStop calls w.restartTimers = [] := by
        have hsub := stopTimers_sublist late .restartTimerStop calls w.restartTimers
        rw [List.map_eq_nil_iff.mp htimers] at hsub ⊢
        exact List.sublist_nil.mp hsub
      rw [hnil, if_pos hcalls]
      rfl
    right
    constructor
    · change (w.after late calls lc).restartTimers.map some ++ lc.queue.filterMap restartTicket = _
      rw [htimers', htickets']
      rfl
    · exact Or.inl hafter
  constructor
  · intro ev number hmem
    rcases mem_restartTimeouts_after hmem with hold | ⟨hstate, ⟨rest, hqueue⟩, hevent, hnumber⟩
    · exact hinv.window ev number hold
    · have hticket : some ev.tag.timer = restartTicket ev := (if_pos hevent).symm
      have hmem : ev.tag.timer ∈ LifecycleController.outstanding w := by
        apply List.mem_append_right
        rw [hqueue, List.filterMap_cons_some hticket.symm]
        exact List.mem_cons_self
      rcases hinv.outstanding with hnone | ⟨hone, _⟩
      · rw [hnone] at hmem
        cases hmem
      · rw [hone] at hmem
        rw [hnumber]
        exact List.mem_singleton.mp hmem
  · cases hpass with
    | idle hqueue _ hcalls => exact hkeep hcalls.restart (List.Sublist.refl _) id
    | replayed ev rest hstate hdeferred effect =>
        cases effect with
        | none hcalls => exact hkeep hcalls.restart (List.Sublist.refl _) id
        | entered _ _ _ _ hrestart =>
            refine hkeep hrestart (List.Sublist.refl _) ?_
            rintro (h | h) <;> cases hstate.symm.trans h
        | closed h | heldBack h | lapsed h => cases hstate.symm.trans h
        | asked _ _ _ hrestart => exact hstart hstate hrestart (List.Sublist.refl _) rfl
        | updating _ _ hcalls =>
            refine hkeep hcalls.restart (List.Sublist.refl _) ?_
            rintro (h | h) <;> cases hstate.symm.trans h
        | ready awaiting h => rcases h with h | h <;> cases hstate.symm.trans h
        | faulted _ _ hcalls =>
            exact hkeep hcalls.restart (List.Sublist.refl _) (fun _ => Or.inr rfl)
    | taken ev rest hempty hqueue effect =>
        have hsub : rest.Sublist w.lc.queue := by
          rw [hqueue]
          exact List.sublist_cons_self ev rest
        cases effect with
        | none hcalls => exact hkeep hcalls.restart hsub id
        | entered hstate _ _ _ hrestart =>
            refine hkeep hrestart hsub ?_
            rintro (h | h) <;> cases hstate.symm.trans h
        | closed hstate _ hcalls =>
            refine hkeep hcalls.restart hsub ?_
            rintro (h | h) <;> cases hstate.symm.trans h
        | heldBack hstate _ hcalls =>
            refine hkeep hcalls.restart ?_ ?_
            · unfold deferEvent
              split <;> exact hsub
            · rintro (h | h) <;> cases hstate.symm.trans h
        | asked hstate _ _ hrestart => exact hstart hstate hrestart hsub rfl
        | lapsed hstate hevent hcalls =>
            rcases hinv.last hqueue hevent with ⟨htimers, htickets⟩
            left
            change List.map some (stopTimers late .restartTimerStop calls w.restartTimers ++
              (if _ then _ else _)) ++ rest.filterMap restartTicket = []
            rw [if_neg hcalls.restart, htickets, htimers]
            unfold stopTimers
            split <;> rfl
        | updating hstate _ hcalls =>
            refine hkeep hcalls.restart hsub ?_
            rintro (h | h) <;> cases hstate.symm.trans h
        | ready awaiting hstate hcalls =>
            refine hkeep hcalls.restart hsub ?_
            rintro (h | h) <;> rcases hstate with h' | h' <;> cases h'.symm.trans h
        | faulted _ _ hcalls => exact hkeep hcalls.restart hsub (fun _ => Or.inr rfl)

end

end EnvMonitor.Gateway.LifecycleController
