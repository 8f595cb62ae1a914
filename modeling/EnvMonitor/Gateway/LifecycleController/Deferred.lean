import EnvMonitor.Gateway.LifecycleController.Sessions

/-!
# Deferred events and whole runs

What a step keeps of the events that an edit session holds back, and from this and the sessions
what holds in every state of a run.
-/

namespace EnvMonitor.Gateway.LifecycleController

/-- The arrivals of the deferred and the queued events, and the next one. -/
def inOrder (requests : List (Nat × Event)) (queue : List Event) (arrivals : Nat) : List Nat :=
  requests.map (·.2.tag.arrival) ++ (queue.map (·.tag.arrival) ++ [arrivals])

structure DeferInv (w : Watch) : Prop where
  once : w.replayed ++ w.lc.deferred = w.requests.map Prod.snd
  order : (inOrder w.requests w.lc.queue w.arrivals).Pairwise (· < ·)
  takenArrived : forall ev count, (ev, count) ∈ w.taken -> ev.tag.arrival < w.arrivals
  requests : forall ev, ev ∈ w.lc.deferred -> ev.event.isRequest = true
  next : w.lc.deferred ≠ [] ->
    w.lc.state = .editingConfig ∨ (w.lc.state = .operational ∧ w.reset = false)
  few : w.lc.state ≠ .editingConfig -> w.lc.deferred.length ≤ 1
  ended : forall number arrivals, (number, arrivals) ∈ w.ended ->
    number ≤ w.edits ∧ (w.lc.state = .editingConfig -> number < w.edits)
  recent : w.lc.state = .editingConfig -> forall i number request, w.replayed.length ≤ i ->
    w.requests[i]? = some (number, request) -> number = w.edits
  first : DeferredFirst w

section

variable {w w' : Watch} {ev : Event}

variable {arrivals : Nat} {queue rest : List Event} {requests : List (Nat × Event)}
variable {lc : Controller Origin} {calls : List LcCall} {late : Bool}

theorem inOrder_lt (h : (inOrder requests queue arrivals).Pairwise (· < ·)) (hev : ev ∈ queue) :
    ev.tag.arrival < arrivals := by
  have hqueue := (List.pairwise_append.mp h).2.1
  exact (List.pairwise_append.mp hqueue).2.2 _ (List.mem_map_of_mem hev) _ (List.mem_singleton_self _)

theorem inOrder_later {later : Nat} (h : (inOrder requests queue arrivals).Pairwise (· < ·))
    (hlater : arrivals ≤ later) : (inOrder requests queue later).Pairwise (· < ·) := by
  unfold inOrder at h ⊢
  rw [← List.append_assoc, List.pairwise_append] at h ⊢
  refine ⟨h.1, List.pairwise_singleton _ _, ?_⟩
  intro a ha b hb
  rw [List.mem_singleton.mp hb]
  exact Nat.lt_of_lt_of_le (h.2.2 a ha arrivals (List.mem_singleton_self _)) hlater

theorem inOrder_snoc (h : (inOrder requests queue arrivals).Pairwise (· < ·))
    (hev : ev.tag.arrival = arrivals) :
    (inOrder requests (queue ++ [ev]) (arrivals + 1)).Pairwise (· < ·) := by
  unfold inOrder at h ⊢
  rw [List.map_append, ← List.append_assoc, List.pairwise_append]
  rw [← hev] at h ⊢
  refine ⟨h, List.pairwise_singleton _ _, ?_⟩
  intro a ha b hb
  rw [List.mem_singleton.mp hb, Nat.lt_succ_iff]
  rw [← List.append_assoc] at h ha
  rcases List.mem_append.mp ha with hold | hnew
  · exact Nat.le_of_lt ((List.pairwise_append.mp h).2.2 a hold _ (List.mem_singleton_self _))
  · exact Nat.le_of_eq (List.mem_singleton.mp hnew)

theorem DeferInv.sent (hinv : DeferInv w) (h : Sent ev w w') : DeferInv w' := by
  constructor
  · rw [h.replayed, h.deferred, h.requests]
    exact hinv.once
  · rw [h.requests, h.arrivals]
    rcases h.lc with hlc | ⟨_, hlc⟩ <;> rw [hlc]
    · exact inOrder_later hinv.order (Nat.le_succ _)
    · exact inOrder_snoc hinv.order h.arrival
  · rw [h.taken, h.arrivals]
    intro m count hm
    exact Nat.lt_succ_of_lt (hinv.takenArrived m count hm)
  · rw [h.deferred]
    exact hinv.requests
  · rw [h.deferred, h.state, h.reset]
    exact hinv.next
  · rw [h.deferred, h.state]
    exact hinv.few
  · rw [h.ended, h.edits, h.state]
    exact hinv.ended
  · rw [h.state, h.replayed, h.requests, h.edits]
    exact hinv.recent
  · unfold DeferredFirst
    rw [h.taken, h.requests, h.ended]
    exact hinv.first

theorem requests_after (hstate : w.lc.state ≠ .editingConfig) :
    (w.after late calls lc).requests = w.requests :=
  if_neg hstate

theorem requests_after_editing (late : Bool) (calls : List LcCall) (lc : Controller Origin)
    (hstate : w.lc.state = .editingConfig) (hfrom : fromQueue w.lc = some ev) :
    (w.after late calls lc).requests =
      if ev.event.isRequest then w.requests ++ [(w.edits, ev)] else w.requests := by
  change (if _ then _ else _) = _
  rw [if_pos hstate, hfrom]
  cases hrequest : ev.event.isRequest with
  | true => simp [hrequest]
  | false => simp [hrequest]

theorem replayed_after (hstate : w.lc.state = .operational -> w.lc.deferred = []) :
    (w.after late calls lc).replayed = w.replayed := by
  change (if _ then _ else _) = _
  split
  · next hop => rw [hstate hop, List.take_nil, List.append_nil]
  · rfl

theorem taken_arrived_after (hinv : DeferInv w) {count : Nat}
    (hmem : (ev, count) ∈ (w.after late calls lc).taken) : ev.tag.arrival < w.arrivals := by
  rcases mem_taken_after hmem with hold | ⟨hfrom, _⟩
  · exact hinv.takenArrived ev count hold
  · rcases fromQueue_eq_some hfrom with ⟨rest, hqueue⟩
    apply inOrder_lt hinv.order
    rw [hqueue]
    exact List.mem_cons_self

theorem inOrder_tail (h : (inOrder requests (ev :: rest) arrivals).Pairwise (· < ·)) :
    (inOrder requests rest arrivals).Pairwise (· < ·) :=
  h.sublist (List.Sublist.append (List.Sublist.refl _) (List.sublist_cons_self _ _))

theorem DeferInv.nothing (hinv : DeferInv w) (hstate : w.lc.state ≠ .editingConfig)
    (hempty : w.lc.state = .operational -> w.lc.deferred = []) : w.lc.deferred = [] := by
  by_cases hdeferred : w.lc.deferred = []
  · exact hdeferred
  · rcases hinv.next hdeferred with h | ⟨h, _⟩
    · exact absurd h hstate
    · exact hempty h

theorem DeferInv.outside (hinv : DeferInv w) (hstate : w.lc.state ≠ .editingConfig)
    (honce : (w.after late calls lc).replayed = w.requests.map Prod.snd)
    (hdeferred : lc.deferred = [])
    (horder : (inOrder w.requests lc.queue w.arrivals).Pairwise (· < ·))
    (htaken : forall ev, fromQueue w.lc = some ev -> w.lc.deferred = [])
    (hentered : lc.state = .editingConfig -> LcCall.editTimerStart ∈ calls) :
    DeferInv (w.after late calls lc) := by
  have hended : forall number arrivals, (number, arrivals) ∈ (w.after late calls lc).ended ->
      (number, arrivals) ∈ w.ended := by
    intro number arrivals hmem
    rcases mem_ended_after hmem with hold | ⟨hediting, _⟩
    · exact hold
    · exact absurd hediting hstate
  have hlength : (w.after late calls lc).replayed.length = w.requests.length := by
    rw [honce, List.length_map]
  constructor
  · change _ ++ lc.deferred = _
    rw [hdeferred, List.append_nil, honce, requests_after hstate]
  · rw [requests_after hstate]
    exact horder
  · intro ev count hmem
    have harrived := taken_arrived_after hinv hmem
    exact harrived
  · intro ev hmem
    change ev ∈ lc.deferred at hmem
    rw [hdeferred] at hmem
    cases hmem
  · intro hne
    exact absurd hdeferred hne
  · intro _
    change lc.deferred.length ≤ 1
    rw [hdeferred]
    exact Nat.zero_le 1
  · intro number arrivals hmem
    have hle := (hinv.ended number arrivals (hended number arrivals hmem)).1
    constructor
    · change number ≤ if _ then _ else _
      split
      · exact Nat.le_succ_of_le hle
      · exact hle
    · intro hediting
      change number < if _ then _ else _
      rw [if_pos (hentered hediting)]
      exact Nat.lt_succ_of_le hle
  · intro _ i number request hi hget
    rw [requests_after hstate] at hget
    rw [hlength] at hi
    rw [List.getElem?_eq_none hi] at hget
    cases hget
  · intro ev count hmem i number request hi hget arrivals harrivals
    rw [requests_after hstate] at hget
    rcases mem_taken_after hmem with hold | ⟨hfrom, hcount⟩
    · exact hinv.first ev count hold i number request hi hget arrivals
        (hended number arrivals harrivals)
    · have hall : w.replayed.length = w.requests.length := by
        have honce' := hinv.once
        rw [htaken ev hfrom, List.append_nil] at honce'
        rw [honce', List.length_map]
      rw [hcount, hall] at hi
      rw [List.getElem?_eq_none hi] at hget
      cases hget

theorem DeferInv.inside (hinv : DeferInv w) (hstate : w.lc.state = .editingConfig)
    (hqueue : w.lc.queue = ev :: rest) (hrest : lc.queue = rest)
    (hedits : LcCall.editTimerStart ∉ calls) (hdeferred : lc.deferred =
      if ev.event.isRequest then w.lc.deferred ++ [ev] else w.lc.deferred)
    (hafter : lc.state ≠ .editingConfig -> lc.deferred.length ≤ 1 ∧
      (lc.deferred ≠ [] -> lc.state = .operational ∧ (w.after late calls lc).reset = false)) :
    DeferInv (w.after late calls lc) := by
  have hfrom : fromQueue w.lc = some ev :=
    fromQueue_some (fun h => nomatch h.symm.trans hstate) hqueue
  have hreplayed : (w.after late calls lc).replayed = w.replayed :=
    replayed_after (fun h => nomatch h.symm.trans hstate)
  have hrequests := requests_after_editing late calls lc hstate hfrom
  have hget : forall (i number : Nat) (request : Event),
      (w.after late calls lc).requests[i]? = some (number, request) ->
      w.requests[i]? = some (number, request) ∨ number = w.edits := by
    intro i number request h
    rw [hrequests] at h
    split at h
    · rw [List.getElem?_append] at h
      split at h
      · exact Or.inl h
      · right
        have hmem := List.mem_of_getElem? h
        cases List.mem_singleton.mp hmem
        rfl
    · exact Or.inl h
  have horder := hinv.order
  rw [hqueue] at horder
  constructor
  · rw [hreplayed, hrequests]
    change _ ++ lc.deferred = _
    rw [hdeferred]
    split
    · rw [← List.append_assoc, hinv.once, List.map_append]
      rfl
    · exact hinv.once
  · rw [hrequests]
    change (inOrder _ lc.queue w.arrivals).Pairwise _
    rw [hrest]
    split
    · unfold inOrder at horder ⊢
      rw [List.map_append, List.append_assoc]
      exact horder
    · exact inOrder_tail horder
  · intro m count hmem
    have harrived := taken_arrived_after hinv hmem
    exact harrived
  · intro m hmem
    change m ∈ lc.deferred at hmem
    rw [hdeferred] at hmem
    split at hmem
    · next hrequest =>
        rcases List.mem_append.mp hmem with hold | hnew
        · exact hinv.requests m hold
        · rw [List.mem_singleton.mp hnew]
          exact hrequest
    · exact hinv.requests m hmem
  · intro hne
    by_cases hediting : lc.state = .editingConfig
    · exact Or.inl hediting
    · exact Or.inr ((hafter hediting).2 hne)
  · intro hediting
    exact (hafter hediting).1
  · intro number arrivals hmem
    rw [after_edits hedits]
    rcases mem_ended_after hmem with hold | ⟨_, hleft, hnumber, _⟩
    · have h := hinv.ended number arrivals hold
      exact ⟨h.1, fun _ => h.2 hstate⟩
    · exact ⟨Nat.le_of_eq hnumber, fun hediting => absurd hediting hleft⟩
  · intro _ i number request hi h
    rw [hreplayed] at hi
    rw [after_edits hedits]
    rcases hget i number request h with hold | hnew
    · exact hinv.recent hstate i number request hi hold
    · exact hnew
  · intro m count hmem i number request hi h arrivals harrivals
    rcases mem_ended_after harrivals with holdEnd | ⟨_, _, _, harrived⟩
    · have hlt := (hinv.ended number arrivals holdEnd).2 hstate
      rcases hget i number request h with hold | hnew
      · rcases mem_taken_after hmem with holdTaken | ⟨_, hcount⟩
        · exact hinv.first m count holdTaken i number request hi hold arrivals holdEnd
        · rw [hcount] at hi
          exact absurd (hinv.recent hstate i number request hi hold) (Nat.ne_of_lt hlt)
      · exact absurd hnew (Nat.ne_of_lt hlt)
    · rw [harrived]
      exact taken_arrived_after hinv hmem

theorem DeferInv.idle (hinv : DeferInv w) (hstate : w.lc.state = .editingConfig)
    (hqueue : w.lc.queue = []) (hedits : LcCall.editTimerStart ∉ calls) :
    DeferInv (w.after late calls w.lc) := by
  have hfrom : fromQueue w.lc = none := by
    unfold fromQueue
    rw [hqueue]
    split <;> rfl
  have hreplayed : (w.after late calls w.lc).replayed = w.replayed :=
    replayed_after (fun h => nomatch h.symm.trans hstate)
  have hrequests : (w.after late calls w.lc).requests = w.requests := by
    change (if _ then _ else _) = _
    rw [if_pos hstate, hfrom]
    exact List.append_nil _
  have htaken : (w.after late calls w.lc).taken = w.taken := by
    change _ ++ _ = _
    rw [hfrom]
    exact List.append_nil _
  have hended : (w.after late calls w.lc).ended = w.ended :=
    if_neg (fun h => h.2 hstate)
  constructor
  · rw [hreplayed, hrequests]
    exact hinv.once
  · rw [hrequests]
    exact hinv.order
  · rw [htaken]
    exact hinv.takenArrived
  · exact hinv.requests
  · intro _
    exact Or.inl hstate
  · intro hediting
    exact absurd hstate hediting
  · rw [hended, after_edits hedits]
    exact hinv.ended
  · rw [hreplayed, hrequests, after_edits hedits]
    exact hinv.recent
  · unfold DeferredFirst
    rw [htaken, hrequests, hended]
    exact hinv.first

theorem DeferInv.pass {replies : LcReplies} (hinv : DeferInv w) (hpass : Pass replies w.lc calls lc)
    (hreset : w.reset = false) (hok : SessionsApart w (.pass replies late)) :
    DeferInv (w.after late calls lc) := by
  have hnone : w.lc.state ≠ .editingConfig -> (w.lc.state = .operational -> w.lc.deferred = []) ->
      (w.after late calls lc).replayed = w.requests.map Prod.snd := by
    intro hstate hempty
    have honce := hinv.once
    rw [hinv.nothing hstate hempty, List.append_nil] at honce
    rw [replayed_after hempty, honce]
  cases hpass with
  | idle hqueue hempty hcalls =>
      by_cases hstate : w.lc.state = .editingConfig
      · exact hinv.idle hstate hqueue hcalls.edit
      · have hnothing := hinv.nothing hstate hempty
        exact hinv.outside hstate (hnone hstate hempty) hnothing hinv.order
          (fun _ _ => hnothing) (fun h => absurd h hstate)
  | replayed ev rest hstate hdeferred effect =>
      have hne : w.lc.state ≠ .editingConfig := fun h => nomatch h.symm.trans hstate
      have hrequest : ev.event.isRequest = true := by
        apply hinv.requests
        rw [hdeferred]
        exact List.mem_cons_self
      have hrest : rest = [] := by
        have hfew := hinv.few hne
        rw [hdeferred, List.length_cons] at hfew
        exact List.eq_nil_of_length_eq_zero (Nat.le_zero.mp (Nat.le_of_succ_le_succ hfew))
      have honce : (w.after late calls lc).replayed = w.requests.map Prod.snd := by
        have honce := hinv.once
        rw [hdeferred, hrest] at honce
        change (if _ then _ else _) = _
        rw [if_pos hstate, hdeferred, hrest]
        exact honce
      have htaken : forall m, fromQueue w.lc = some m -> w.lc.deferred = [] := by
        intro m hm
        rw [fromQueue_none hstate (by rw [hdeferred]; exact List.cons_ne_nil _ _)] at hm
        cases hm
      cases effect with
      | none _ _ _ hquiet => rw [hquiet hstate] at hrequest; cases hrequest
      | entered _ hevent => rw [hevent] at hrequest; cases hrequest
      | closed h | heldBack h | lapsed h => cases h.symm.trans hstate
      | ready _ h => rcases h with h | h <;> cases h.symm.trans hstate
      | asked | updating | faulted =>
          exact hinv.outside hne honce hrest hinv.order htaken (fun h => nomatch h)
  | taken ev rest hempty hqueue effect =>
      have horder : (inOrder w.requests rest w.arrivals).Pairwise (· < ·) := by
        have horder := hinv.order
        rw [hqueue] at horder
        exact inOrder_tail horder
      by_cases hstate : w.lc.state = .editingConfig
      · rcases (hok ev rest hqueue).2 hstate with ⟨hroom, hclosed, hfault⟩
        cases effect with
        | none hcalls hedit =>
            refine hinv.inside hstate hqueue rfl hcalls.edit ?_ (fun h => absurd hstate h)
            rw [(hedit hstate).2]
            rfl
        | closed _ hevent hcalls hnoReset =>
            refine hinv.inside hstate hqueue rfl hcalls.edit ?_ ?_
            · have hrequest : ev.event.isRequest = false := by
                cases hcase : ev.event <;> rw [hcase] at hevent <;> first | rfl | cases hevent
              rw [hrequest]
              rfl
            · intro _
              refine ⟨hclosed hevent, fun _ => ⟨rfl, ?_⟩⟩
              change (w.reset || decide _) = false
              rw [hreset, decide_eq_false hnoReset]
              rfl
        | heldBack _ hevent hcalls =>
            have hdeferEvent : deferEvent ev { w.lc with queue := rest } =
                { w.lc with queue := rest, deferred := w.lc.deferred ++ [ev] } :=
              if_neg (Nat.not_le_of_lt (hroom hevent))
            rw [hdeferEvent]
            refine hinv.inside hstate hqueue rfl hcalls.edit ?_ (fun h => absurd hstate h)
            rw [hevent]
            rfl
        | faulted _ hevent hcalls =>
            have hisFault := hevent hstate
            refine hinv.inside hstate hqueue rfl hcalls.edit ?_ ?_
            · have hrequest : ev.event.isRequest = false := by
                cases hcase : ev.event <;> rw [hcase] at hisFault <;> first | rfl | cases hisFault
              rw [hrequest]
              rfl
            · intro _
              change w.lc.deferred.length ≤ 1 ∧ (w.lc.deferred ≠ [] -> _)
              rw [hfault hisFault]
              exact ⟨Nat.zero_le 1, fun h => absurd rfl h⟩
        | entered h | asked h | lapsed h | updating h => cases h.symm.trans hstate
        | ready _ h => rcases h with h | h <;> cases h.symm.trans hstate
      · have hnothing := hinv.nothing hstate hempty
        have houtside : forall {lc' : Controller Origin}, lc = lc' -> lc'.queue = rest ->
            lc'.deferred = w.lc.deferred ->
            (lc'.state = .editingConfig -> LcCall.editTimerStart ∈ calls) ->
            DeferInv (w.after late calls lc) := by
          intro lc' heq hrest hdeferred hentered
          rw [← heq] at hrest hdeferred hentered
          refine hinv.outside hstate (hnone hstate hempty) ?_ ?_ (fun _ _ => hnothing) hentered
          · rw [hdeferred]
            exact hnothing
          · rw [hrest]
            exact horder
        cases effect with
        | none => exact houtside rfl rfl rfl (fun h => absurd h hstate)
        | entered _ _ _ hedit => exact houtside rfl rfl rfl (fun _ => hedit)
        | closed h | heldBack h => exact absurd h hstate
        | asked | lapsed | updating | ready | faulted =>
            exact houtside rfl rfl rfl (fun h => nomatch h)

end

/-!
## Runs
-/

variable {w : Watch}

theorem Started.editInv (h : Started w) : EditInv w := by
  constructor
  · intro hstate
    rcases h.state with h' | h' | h' <;> cases h'.symm.trans hstate
  · rw [h.editTimeouts]
    intro ev number hmem
    cases hmem

theorem Started.windowInv (h : Started w) : WindowInv w := by
  constructor
  · rw [h.restartTimeouts]
    intro ev number hmem
    cases hmem
  · left
    unfold outstanding
    rw [h.restartTimers, List.map_nil, List.nil_append, List.filterMap_eq_nil_iff]
    intro ev hev
    have hquiet := h.noTimeout ev hev
    apply if_neg
    intro heq
    rw [heq] at hquiet
    cases hquiet

theorem Started.deferInv (h : Started w) : DeferInv w := by
  constructor
  · rw [h.replayed, h.deferred, h.requests]
    rfl
  · rw [h.requests]
    change (List.map _ w.lc.queue ++ [w.arrivals]).Pairwise _
    refine List.pairwise_append.mpr ⟨h.order, List.pairwise_singleton _ _, ?_⟩
    intro a ha b hb
    rcases List.mem_map.mp ha with ⟨ev, hev, rfl⟩
    rw [List.mem_singleton.mp hb]
    exact h.arrivals ev hev
  · rw [h.taken]
    intro ev count hmem
    cases hmem
  · rw [h.deferred]
    intro ev hmem
    cases hmem
  · intro hne
    exact absurd h.deferred hne
  · rw [h.deferred]
    intro _
    exact Nat.zero_le 1
  · rw [h.ended]
    intro number arrivals hmem
    cases hmem
  · rw [h.requests]
    intro _ i number request _ hget
    cases hget
  · unfold DeferredFirst
    rw [h.taken]
    intro ev count hmem
    cases hmem

/-- All that holds of a run, step by step. -/
structure WatchInv (w : Watch) : Prop where
  edit : EditInv w
  window : WindowInv w
  defer : DeferInv w

theorem WatchInv.keeps (h : WatchInv w) : KeepsSessions w where
  edit := h.edit.edit
  window := h.window.window
  once := h.defer.once
  order := (List.pairwise_append.mp h.defer.order).1
  next := h.defer.next
  first := h.defer.first

theorem WatchInv.perform {step : WatchStep} (h : WatchInv w) (hpossible : Possible w step)
    (hok : SessionsApart w step) : WatchInv (w.perform step) := by
  cases step with
  | post event =>
      have hquiet : event ≠ .configEditTimeout ∧ event ≠ .restartTimeout := by
        change event.isTimeout = false at hpossible
        constructor <;> intro heq <;> rw [heq] at hpossible <;> cases hpossible
      have hsent := sent_post w event
      exact ⟨h.edit.sent hsent (fun _ _ _ _ => ofSession_of_ne hquiet.1),
        h.window.sent hsent rfl hquiet.2, h.defer.sent hsent⟩
  | editTimer session =>
      have hsent := sent_editTimer w session
      refine ⟨h.edit.sent hsent ?_, h.window.sent hsent rfl (fun heq => nomatch heq),
        h.defer.sent hsent⟩
      intro hstate hroom _ hquiet _
      exact congrArg some (hok hstate hroom hquiet)
  | restartTimer window =>
      have hsent := sent_restartTimer w window
      exact ⟨h.edit.sent hsent (fun _ _ _ _ => ofSession_of_ne (fun heq => nomatch heq)),
        h.window.restartTimer hpossible, h.defer.sent hsent⟩
  | pass replies late =>
      have hpass := runEventLoopOnce_pass replies w.lc
      exact ⟨h.edit.pass hpass h.defer.requests hok, h.window.pass hpass,
        h.defer.pass hpass hpossible hok⟩

theorem WatchRun.inv (run : WatchRun SessionsApart w) : WatchInv w := by
  induction run with
  | start started => exact ⟨started.editInv, started.windowInv, started.deferInv⟩
  | step _ step possible ok ih => exact ih.perform possible ok

end EnvMonitor.Gateway.LifecycleController
