import EnvMonitor.Gateway.LifecycleController.Controller

/-!
# What a pass of the event loop can do
-/

namespace EnvMonitor.Gateway.LifecycleController

/-- The events that close an edit session. -/
def LifecycleEvent.closesEdit : LifecycleEvent -> Bool
  | .configEditApply | .configEditCancel | .configEditTimeout => true
  | _ => false

def LifecycleEvent.isFault : LifecycleEvent -> Bool
  | .unrecoverableFault _ => true
  | _ => false

/-- The events that an edit session holds back. -/
def LifecycleEvent.isRequest : LifecycleEvent -> Bool
  | .restartRequested | .otaRequested _ => true
  | _ => false

variable {tag : Type}

/-- An edit session that runs is over after this event. -/
def endsEdit (ev : Posted tag) : Bool := ev.event.closesEdit || ev.event.isFault

structure NoStart (calls : List LcCall) : Prop where
  edit : LcCall.editTimerStart ∉ calls
  restart : LcCall.restartTimerStart ∉ calls

theorem NoStart.nil : NoStart [] := ⟨List.not_mem_nil, List.not_mem_nil⟩

theorem NoStart.append {calls calls' : List LcCall} (h : NoStart calls) (h' : NoStart calls') :
    NoStart (calls ++ calls') := by
  constructor
  · intro hmem
    rcases List.mem_append.mp hmem with hl | hr
    · exact h.edit hl
    · exact h'.edit hr
  · intro hmem
    rcases List.mem_append.mp hmem with hl | hr
    · exact h.restart hl
    · exact h'.restart hr

/-- What handling `ev` can make of `c`, which does not have it any more. -/
inductive Effect (replies : LcReplies) (ev : Posted tag) (c : Controller tag) :
    List LcCall -> Controller tag -> Prop
  | none {calls : List LcCall} (hcalls : NoStart calls)
      (hedit : c.state = .editingConfig -> endsEdit ev = false ∧ ev.event.isRequest = false)
      (hwindow : c.state = .restarting -> ev.event ≠ .restartTimeout)
      (hrequest : c.state = .operational -> ev.event.isRequest = false)
      (henter : c.state = .operational -> ev.event = .configEditEnter ->
        replies.snapshot = false) :
      Effect replies ev c calls c
  | entered {calls : List LcCall} (hstate : c.state = .operational)
      (hevent : ev.event = .configEditEnter) (hsnapshot : replies.snapshot = true)
      (hedit : LcCall.editTimerStart ∈ calls) (hrestart : LcCall.restartTimerStart ∉ calls) :
      Effect replies ev c calls { c with state := .editingConfig }
  | closed {calls : List LcCall} (hstate : c.state = .editingConfig)
      (hevent : ev.event.closesEdit = true) (hcalls : NoStart calls)
      (hreset : LcCall.softReset ∉ calls) :
      Effect replies ev c calls { c with state := .operational }
  | heldBack {calls : List LcCall} (hstate : c.state = .editingConfig)
      (hevent : ev.event.isRequest = true) (hcalls : NoStart calls) :
      Effect replies ev c calls (deferEvent ev c)
  | asked {calls : List LcCall} (hstate : c.state = .operational)
      (hevent : ev.event = .restartRequested) (hedit : LcCall.editTimerStart ∉ calls)
      (hrestart : LcCall.restartTimerStart ∈ calls) :
      Effect replies ev c calls { c with state := .restarting }
  | lapsed {calls : List LcCall} (hstate : c.state = .restarting)
      (hevent : ev.event = .restartTimeout) (hcalls : NoStart calls) :
      Effect replies ev c calls { c with state := .operational }
  | updating {calls : List LcCall} (hstate : c.state = .operational)
      (hevent : ev.event.isRequest = true) (hcalls : NoStart calls) :
      Effect replies ev c calls { c with state := .updatingFw }
  | ready {calls : List LcCall} (awaiting : Bool) (hstate : c.state = .init ∨ c.state = .updatingFw)
      (hcalls : NoStart calls) :
      Effect replies ev c calls { c with state := .operational, awaitingSelfCheck := awaiting }
  | faulted {calls : List LcCall} (hstate : c.state ≠ .faulted)
      (hevent : c.state = .editingConfig -> ev.event.isFault = true) (hcalls : NoStart calls) :
      Effect replies ev c calls { c with state := .faulted, awaitingSelfCheck := false }

theorem Effect.append {replies : LcReplies} {ev : Posted tag} {c c' : Controller tag}
    {calls more : List LcCall} (h : Effect replies ev c calls c') (hmore : NoStart more)
    (hreset : LcCall.softReset ∉ more) : Effect replies ev c (calls ++ more) c' := by
  cases h with
  | none hcalls hedit hwindow hrequest henter =>
      exact .none (hcalls.append hmore) hedit hwindow hrequest henter
  | entered hstate hevent hsnapshot hedit hrestart =>
      refine .entered hstate hevent hsnapshot (List.mem_append_left _ hedit) ?_
      intro hmem
      rcases List.mem_append.mp hmem with hl | hr
      · exact hrestart hl
      · exact hmore.restart hr
  | closed hstate hevent hcalls hreset' =>
      refine .closed hstate hevent (hcalls.append hmore) ?_
      intro hmem
      rcases List.mem_append.mp hmem with hl | hr
      · exact hreset' hl
      · exact hreset hr
  | heldBack hstate hevent hcalls => exact .heldBack hstate hevent (hcalls.append hmore)
  | asked hstate hevent hedit hrestart =>
      refine .asked hstate hevent ?_ (List.mem_append_left _ hrestart)
      intro hmem
      rcases List.mem_append.mp hmem with hl | hr
      · exact hedit hl
      · exact hmore.edit hr
  | lapsed hstate hevent hcalls => exact .lapsed hstate hevent (hcalls.append hmore)
  | updating hstate hevent hcalls => exact .updating hstate hevent (hcalls.append hmore)
  | ready awaiting hstate hcalls => exact .ready awaiting hstate (hcalls.append hmore)
  | faulted hstate hevent hcalls => exact .faulted hstate hevent (hcalls.append hmore)

section

variable {replies : LcReplies} {ev : Posted tag} {c : Controller tag}

theorem enterFaulted_effect {calls : List LcCall} {code : UInt32} (hstate : c.state ≠ .faulted)
    (hevent : c.state = .editingConfig -> ev.event.isFault = true) (hcalls : NoStart calls) :
    Effect replies ev c (Handled.after calls (enterFaulted code c)).1
      (Handled.after calls (enterFaulted code c)).2 := by
  unfold enterFaulted
  rw [if_neg hstate]
  refine .faulted hstate hevent (hcalls.append ?_)
  constructor <;> simp [setState, stopAllTimers]

theorem handleSelfCheckEvent_effect (hstate : c.state = .init ∨ c.state = .updatingFw) :
    Effect replies ev c (handleSelfCheckEvent replies ev c).1
      (handleSelfCheckEvent replies ev c).2 := by
  have hne : c.state ≠ .faulted ∧ c.state ≠ .editingConfig ∧ c.state ≠ .restarting ∧
      c.state ≠ .operational := by
    rcases hstate with h | h <;> rw [h] <;> decide
  have hnone : forall {calls : List LcCall}, NoStart calls -> Effect replies ev c calls c := by
    intro calls hcalls
    exact .none hcalls (fun h => absurd h hne.2.1) (fun h => absurd h hne.2.2.1)
      (fun h => absurd h hne.2.2.2) (fun h => absurd h hne.2.2.2)
  unfold handleSelfCheckEvent
  split
  · cases hconfirm : replies.confirmSelfCheck with
    | false =>
        apply enterFaulted_effect hne.1 (fun h => absurd h hne.2.1)
        constructor <;> simp
    | true =>
        apply Effect.ready false hstate
        constructor <;> simp [enterOperational, setState]
  · apply hnone
    constructor <;> simp [rollBackAndReset, resetSystem]
  · exact enterFaulted_effect hne.1 (fun h => absurd h hne.2.1) NoStart.nil
  · exact hnone NoStart.nil

theorem handleInitEvent_effect (hstate : c.state = .init) :
    Effect replies ev c (handleInitEvent replies ev c).1 (handleInitEvent replies ev c).2 := by
  have hne : forall {state : LifecycleState}, state ≠ .init -> c.state ≠ state := by
    intro state h heq
    exact h (heq.symm.trans hstate)
  unfold handleInitEvent
  split
  · exact handleSelfCheckEvent_effect (Or.inl hstate)
  · split
    · exact enterFaulted_effect (hne (by decide)) (fun h => absurd h (hne (by decide)))
        NoStart.nil
    · exact .none NoStart.nil (fun h => absurd h (hne (by decide)))
        (fun h => absurd h (hne (by decide))) (fun h => absurd h (hne (by decide)))
        (fun h => absurd h (hne (by decide)))

theorem handleEditingEvent_effect (hstate : c.state = .editingConfig) :
    Effect replies ev c (handleEditingEvent replies ev c).1
      (handleEditingEvent replies ev c).2 := by
  have hne : forall {state : LifecycleState}, state ≠ .editingConfig -> c.state ≠ state := by
    intro state h heq
    exact h (heq.symm.trans hstate)
  unfold handleEditingEvent
  cases hevent : ev.event with
  | configEditApply =>
      apply Effect.closed hstate (by rw [hevent]; rfl)
      · constructor <;> cases replies.commit <;> simp [leaveEditing, setState]
      · cases replies.commit <;> simp [leaveEditing, setState]
  | configEditCancel | configEditTimeout =>
      apply Effect.closed hstate (by rw [hevent]; rfl)
      · constructor <;> simp [leaveEditing, setState]
      · simp [leaveEditing, setState]
  | restartRequested => exact .heldBack hstate (by rw [hevent]; rfl) NoStart.nil
  | otaRequested job => exact .heldBack hstate (by rw [hevent]; rfl) NoStart.nil
  | unrecoverableFault param =>
      exact enterFaulted_effect (hne (by decide)) (fun _ => by rw [hevent]; rfl) NoStart.nil
  | configEditEnter | restartConfirmed | restartTimeout | selfCheckPass | selfCheckFail
  | otaResetRequested | otaFinished =>
      exact .none NoStart.nil (fun _ => by unfold endsEdit; rw [hevent]; exact ⟨rfl, rfl⟩)
        (fun h => absurd h (hne (by decide))) (fun h => absurd h (hne (by decide)))
        (fun h => absurd h (hne (by decide)))

theorem handleOperationalEvent_effect (hstate : c.state = .operational) :
    Effect replies ev c (handleOperationalEvent replies ev c).1
      (handleOperationalEvent replies ev c).2 := by
  have hne : forall {state : LifecycleState}, state ≠ .operational -> c.state ≠ state := by
    intro state h heq
    exact h (heq.symm.trans hstate)
  unfold handleOperationalEvent
  cases hevent : ev.event with
  | configEditEnter =>
      cases hsnapshot : replies.snapshot with
      | false =>
          refine .none ?_ (fun h => absurd h (hne (by decide)))
            (fun h => absurd h (hne (by decide))) (fun _ => by rw [hevent]; rfl)
            (fun _ _ => hsnapshot)
          constructor <;> simp
      | true =>
          apply Effect.entered hstate hevent hsnapshot <;> simp [setState]
  | restartRequested =>
      apply Effect.asked hstate hevent <;> simp [setState]
  | otaRequested job =>
      cases hstart : replies.updateStart with
      | false =>
          apply enterFaulted_effect (hne (by decide)) (fun h => absurd h (hne (by decide)))
          constructor <;> simp
      | true =>
          apply Effect.updating hstate (by rw [hevent]; rfl)
          constructor <;> simp [setState]
  | unrecoverableFault param =>
      exact enterFaulted_effect (hne (by decide)) (fun h => absurd h (hne (by decide)))
        NoStart.nil
  | configEditApply | configEditCancel | configEditTimeout | restartConfirmed | restartTimeout
  | selfCheckPass | selfCheckFail | otaResetRequested | otaFinished =>
      exact .none NoStart.nil (fun h => absurd h (hne (by decide)))
        (fun h => absurd h (hne (by decide))) (fun _ => by rw [hevent]; rfl)
        (fun _ h => by rw [hevent] at h; cases h)

theorem handleRestartingEvent_effect (hstate : c.state = .restarting) :
    Effect replies ev c (handleRestartingEvent ev c).1 (handleRestartingEvent ev c).2 := by
  have hne : forall {state : LifecycleState}, state ≠ .restarting -> c.state ≠ state := by
    intro state h heq
    exact h (heq.symm.trans hstate)
  have hnone : forall {calls : List LcCall}, NoStart calls -> ev.event ≠ .restartTimeout ->
      Effect replies ev c calls c := by
    intro calls hcalls hevent
    exact .none hcalls (fun h => absurd h (hne (by decide))) (fun _ => hevent)
      (fun h => absurd h (hne (by decide))) (fun h => absurd h (hne (by decide)))
  unfold handleRestartingEvent
  cases hevent : ev.event with
  | restartTimeout =>
      apply Effect.lapsed hstate hevent
      constructor <;> simp [setState]
  | unrecoverableFault param =>
      exact enterFaulted_effect (hne (by decide)) (fun h => absurd h (hne (by decide)))
        NoStart.nil
  | restartConfirmed | restartRequested =>
      refine hnone ?_ (by rw [hevent]; decide)
      constructor <;> simp [resetSystem]
  | configEditEnter | configEditApply | configEditCancel | configEditTimeout | otaRequested job
  | selfCheckPass | selfCheckFail | otaResetRequested | otaFinished =>
      exact hnone NoStart.nil (by rw [hevent]; exact fun h => nomatch h)

theorem handleUpdatingEvent_effect (hstate : c.state = .updatingFw) :
    Effect replies ev c (handleUpdatingEvent replies ev c).1
      (handleUpdatingEvent replies ev c).2 := by
  have hne : forall {state : LifecycleState}, state ≠ .updatingFw -> c.state ≠ state := by
    intro state h heq
    exact h (heq.symm.trans hstate)
  have hnone : forall {calls : List LcCall}, NoStart calls -> Effect replies ev c calls c := by
    intro calls hcalls
    exact .none hcalls (fun h => absurd h (hne (by decide)))
      (fun h => absurd h (hne (by decide))) (fun h => absurd h (hne (by decide)))
      (fun h => absurd h (hne (by decide)))
  unfold handleUpdatingEvent
  cases ev.event with
  | otaRequested job => exact hnone NoStart.nil
  | otaFinished =>
      apply Effect.ready c.awaitingSelfCheck (Or.inr hstate)
      constructor <;> simp [setState]
  | otaResetRequested =>
      apply hnone
      constructor <;> simp [otaReset, resetSystem]
  | _ => exact handleSelfCheckEvent_effect (Or.inr hstate)

theorem processEvent_effect (replies : LcReplies) (ev : Posted tag) (c : Controller tag) :
    Effect replies ev c (processEvent replies ev c).1 (processEvent replies ev c).2 := by
  unfold processEvent
  split
  · next hskip =>
      have hevent : endsEdit ev = false ∧ ev.event.isRequest = false ∧
          ev.event ≠ .restartTimeout ∧ ev.event ≠ .configEditEnter := by
        unfold endsEdit
        rcases hskip.1 with h | h <;> rw [h] <;> decide
      exact .none NoStart.nil (fun _ => ⟨hevent.1, hevent.2.1⟩) (fun _ => hevent.2.2.1)
        (fun _ => hevent.2.1) (fun _ h => absurd h hevent.2.2.2)
  · split
    · exact handleInitEvent_effect ‹_›
    · exact handleOperationalEvent_effect ‹_›
    · exact handleEditingEvent_effect ‹_›
    · exact handleRestartingEvent_effect ‹_›
    · exact handleUpdatingEvent_effect ‹_›
    · next hstate =>
        have hne : forall {state : LifecycleState}, state ≠ .faulted -> c.state ≠ state := by
          intro state h heq
          exact h (heq.symm.trans hstate)
        exact .none NoStart.nil (fun h => absurd h (hne (by decide)))
          (fun h => absurd h (hne (by decide))) (fun h => absurd h (hne (by decide)))
          (fun h => absurd h (hne (by decide)))

end

/-- What a pass can do. -/
inductive Pass (replies : LcReplies) (c : Controller tag) : List LcCall -> Controller tag -> Prop
  | idle {calls : List LcCall} (hqueue : c.queue = [])
      (hdeferred : c.state = .operational -> c.deferred = []) (hcalls : NoStart calls) :
      Pass replies c calls c
  | replayed {calls : List LcCall} {c' : Controller tag} (ev : Posted tag)
      (rest : List (Posted tag)) (hstate : c.state = .operational)
      (hdeferred : c.deferred = ev :: rest)
      (effect : Effect replies ev { c with deferred := rest } calls c') : Pass replies c calls c'
  | taken {calls : List LcCall} {c' : Controller tag} (ev : Posted tag)
      (rest : List (Posted tag)) (hstate : c.state = .operational -> c.deferred = [])
      (hqueue : c.queue = ev :: rest)
      (effect : Effect replies ev { c with queue := rest } calls c') : Pass replies c calls c'

theorem noStart_persist (c : Controller tag) (calls : List LcCall) :
    exists more, NoStart more ∧ LcCall.softReset ∉ more ∧
      (if c.state = .operational then calls ++ [.persistPending] else calls) = calls ++ more := by
  split
  · exists [.persistPending]
    exact ⟨⟨by simp, by simp⟩, by simp, rfl⟩
  · exists []
    exact ⟨NoStart.nil, List.not_mem_nil, (List.append_nil calls).symm⟩

theorem runEventLoopOnce_pass (replies : LcReplies) (c : Controller tag) :
    Pass replies c (runEventLoopOnce replies c).1 (runEventLoopOnce replies c).2 := by
  have hqueue : (c.state = .operational -> c.deferred = []) ->
      nextEvent c = xQueueReceive c := by
    intro hempty
    unfold nextEvent popDeferred
    split
    · next hstate =>
        rw [hempty hstate]
        rfl
    · rfl
  unfold runEventLoopOnce
  by_cases hreplay : c.state = .operational ∧ c.deferred ≠ []
  · cases hdeferred : c.deferred with
    | nil => exact absurd hdeferred hreplay.2
    | cons ev rest =>
        have hnext : nextEvent c = some (ev, { c with deferred := rest }) := by
          unfold nextEvent popDeferred
          rw [if_pos hreplay.1, hdeferred]
          rfl
        rw [hnext]
        rcases noStart_persist (processEvent replies ev { c with deferred := rest }).2
          (processEvent replies ev { c with deferred := rest }).1 with
          ⟨more, hmore, hreset, hcalls⟩
        change Pass replies c (if _ then _ else _) _
        rw [hcalls]
        exact .replayed ev rest hreplay.1 hdeferred
          ((processEvent_effect replies ev _).append hmore hreset)
  · have hempty : c.state = .operational -> c.deferred = [] := by
      intro hstate
      by_cases hdeferred : c.deferred = []
      · exact hdeferred
      · exact absurd ⟨hstate, hdeferred⟩ hreplay
    rw [hqueue hempty]
    unfold xQueueReceive
    cases hq : c.queue with
    | nil =>
        rcases noStart_persist c [] with ⟨more, hmore, hreset, hcalls⟩
        change Pass replies c (if _ then _ else _) _
        rw [hcalls]
        exact .idle hq hempty (NoStart.nil.append hmore)
    | cons ev rest =>
        rcases noStart_persist (processEvent replies ev { c with queue := rest }).2
          (processEvent replies ev { c with queue := rest }).1 with
          ⟨more, hmore, hreset, hcalls⟩
        change Pass replies c (if _ then _ else _) _
        rw [hcalls]
        exact .taken ev rest hempty hq
          ((processEvent_effect replies ev _).append hmore hreset)

end EnvMonitor.Gateway.LifecycleController
