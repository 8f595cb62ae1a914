import EnvMonitor.Concurrency.Ring

/-!
# Receive path of the gateway console

`prv_rx_isr` stores each byte in a ring, and ConsoleTask takes it out in `prv_drain_input`.  The
interrupt comes between any two accesses of the task to what both use, and the task goes on only
after it has returned.
-/

namespace EnvMonitor.Gateway.Console

open Concurrency (RingHolds)

abbrev ringSize : Nat := 256

abbrev ringMask : Nat := ringSize - 1

def masked (index : Nat) : Nat := index &&& ringMask

theorem masked_eq (index : Nat) : masked index = index % ringSize :=
  Nat.and_two_pow_sub_one_eq_mod index 8

/-- Where ConsoleTask is, by its next access to the shared variables. -/
inductive TaskAt where
  /-- Before `console_task_body`. -/
  | absent
  /-- In `xTaskNotifyWait`, or on the way there from the check for an overflow. -/
  | waiting
  /-- In `prv_cycle`, before `prv_drain_input`. -/
  | woken
  /-- Before the condition of the loop. -/
  | checking
  | reading
  /-- With the byte that was read, before the tail is written. -/
  | advancing (byte : UInt8)
  | overflowCheck
  | clearing
  /-- Before the warning is written to the panel. -/
  | warning
  deriving DecidableEq, Repr

structure ConsoleRx where
  ring : Nat -> UInt8
  ringHead : Nat
  ringTail : Nat
  ringOverflow : Bool
  /-- `s_task` is set. -/
  task : Bool
  notifyRx : Bool
  notifyDataTick : Bool
  taskAt : TaskAt

def prvRxIsr (byte : UInt8) (s : ConsoleRx) : ConsoleRx :=
  let head := s.ringHead
  let next := masked (head + 1)
  if next = s.ringTail then { s with ringOverflow := true }
  else
    let s := { s with ring := Function.update s.ring head byte, ringHead := next }
    if s.task ∧ head = s.ringTail then { s with notifyRx := true } else s

/-- The next access of ConsoleTask; `xTaskNotifyWait` returns once a notification is pending. -/
def taskStep (s : ConsoleRx) : ConsoleRx :=
  match s.taskAt with
  | .absent => { s with task := true, taskAt := .woken }
  | .waiting =>
      if s.notifyRx || s.notifyDataTick then
        { s with notifyRx := false, notifyDataTick := false, taskAt := .woken }
      else s
  | .woken => { s with taskAt := .checking }
  | .checking => { s with taskAt := if s.ringTail ≠ s.ringHead then .reading else .overflowCheck }
  | .reading => { s with taskAt := .advancing (s.ring s.ringTail) }
  | .advancing _ => { s with ringTail := masked (s.ringTail + 1), taskAt := .checking }
  | .overflowCheck => { s with taskAt := if s.ringOverflow then .clearing else .waiting }
  | .clearing => { s with ringOverflow := false, taskAt := .warning }
  | .warning => { s with taskAt := .waiting }

/-- The wait for the rest of an escape sequence times out. -/
def escTimeout (s : ConsoleRx) : ConsoleRx :=
  match s.taskAt with
  | .waiting => { s with taskAt := .woken }
  | _ => s

/-- `prv_tick_cb` -/
def prvTickCb (s : ConsoleRx) : ConsoleRx :=
  if s.task then { s with notifyDataTick := true } else s

/-- `console_service_init` -/
def consoleServiceInit (ring : Nat -> UInt8) : ConsoleRx :=
  ⟨ring, 0, 0, false, false, false, false, .absent⟩

/-!
## Runs
-/

/-- What became of a received byte. -/
inductive Fate where
  | stored
  /-- It was dropped while so many bytes were unread. -/
  | dropped (unread : Nat)
  deriving DecidableEq, Repr

/-- The receive path with a record of its input and output. -/
structure Received where
  rx : ConsoleRx
  fates : List (UInt8 × Fate)
  taken : List UInt8
  /-- A byte was dropped, and no warning was written since. -/
  owed : Bool

def storedBytes (fates : List (UInt8 × Fate)) : List UInt8 :=
  (fates.filter (·.2 = .stored)).map Prod.fst

inductive RxStep where
  | isr (byte : UInt8)
  | task
  | escTimeout
  | tick
  deriving DecidableEq

def Received.perform (s : Received) : RxStep -> Received
  | .isr byte =>
      -- the interrupt moves the head if it stores the byte
      if (prvRxIsr byte s.rx).ringHead = s.rx.ringHead then
        { s with
          rx := prvRxIsr byte s.rx
          fates := s.fates ++
            [(byte, .dropped ((storedBytes s.fates).length - s.taken.length))]
          owed := true }
      else { s with rx := prvRxIsr byte s.rx, fates := s.fates ++ [(byte, .stored)] }
  | .task =>
      { s with
        rx := taskStep s.rx
        taken :=
          match s.rx.taskAt with
          | .advancing byte => s.taken ++ [byte]
          | _ => s.taken
        owed := if s.rx.taskAt = .warning then false else s.owed }
  | .escTimeout => { s with rx := escTimeout s.rx }
  | .tick => { s with rx := prvTickCb s.rx }

inductive RxRun : Received -> Prop
  | start (ring : Nat -> UInt8) : RxRun ⟨consoleServiceInit ring, [], [], false⟩
  | step {s : Received} (run : RxRun s) (step : RxStep) : RxRun (s.perform step)

/-!
## What the path promises
-/

/-- The task was woken and comes to check whether the ring is empty. -/
def Awake : TaskAt -> Prop
  | .woken | .checking | .reading | .advancing _ => True
  | _ => False

/-- The task is in the loop of `prv_drain_input`, before its next check. -/
def InLoop : TaskAt -> Prop
  | .checking | .reading | .advancing _ => True
  | _ => False

/-- The task is on its way to the check for an overflow. -/
def ToWarn (at_ : TaskAt) : Prop := Awake at_ ∨ at_ = .overflowCheck

def Warns (at_ : TaskAt) : Prop := at_ = .clearing ∨ at_ = .warning

structure InputKept (s : Received) : Prop where
  /-- What was stored is what was taken, in order, and then what the ring holds. -/
  order : exists unread, storedBytes s.fates = s.taken ++ unread ∧
    RingHolds ringSize s.rx.ring s.rx.ringHead s.rx.ringTail unread
  drops : forall byte unread, (byte, .dropped unread) ∈ s.fates -> unread = ringMask
  /-- A warning that is owed will be written. -/
  warned : s.owed = true ->
    Warns s.rx.taskAt ∨ (s.rx.ringOverflow = true ∧
      (s.rx.task = true -> s.rx.notifyRx = true ∨ ToWarn s.rx.taskAt))
  awake : s.rx.task = true -> s.rx.ringHead ≠ s.rx.ringTail ->
    s.rx.notifyRx = true ∨ Awake s.rx.taskAt

/-- The promise, with what the task has in its hand. -/
structure RxInv (s : Received) : Prop where
  kept : InputKept s
  reading : s.rx.taskAt = .reading -> s.rx.ringHead ≠ s.rx.ringTail
  advancing : forall byte, s.rx.taskAt = .advancing byte ->
    s.rx.ringHead ≠ s.rx.ringTail ∧ s.rx.ring s.rx.ringTail = byte
  started : s.rx.task = true ↔ s.rx.taskAt ≠ .absent

/-!
## The interrupt
-/

section

variable {s : Received}

theorem storedBytes_append (fates more : List (UInt8 × Fate)) :
    storedBytes (fates ++ more) = storedBytes fates ++ storedBytes more := by
  unfold storedBytes
  rw [List.filter_append, List.map_append]

variable {rx : ConsoleRx} {byte : UInt8}

theorem prvRxIsr_full (byte : UInt8) (hfull : masked (rx.ringHead + 1) = rx.ringTail) :
    prvRxIsr byte rx = { rx with ringOverflow := true } :=
  if_pos hfull

theorem prvRxIsr_room (byte : UInt8) (hroom : masked (rx.ringHead + 1) ≠ rx.ringTail) :
    prvRxIsr byte rx =
      { rx with
        ring := Function.update rx.ring rx.ringHead byte
        ringHead := masked (rx.ringHead + 1)
        notifyRx := rx.notifyRx || decide (rx.task ∧ rx.ringHead = rx.ringTail) } := by
  unfold prvRxIsr
  dsimp only
  rw [if_neg hroom]
  split
  · next h => rw [decide_eq_true h, Bool.or_true]
  · next h => rw [decide_eq_false h, Bool.or_false]

theorem masked_ne_self {index : Nat} (h : index < ringSize) : masked (index + 1) ≠ index := by
  rw [masked_eq]
  change index < 256 at h
  change (index + 1) % 256 ≠ index
  omega

theorem RxInv.isr_full (hinv : RxInv s) (hfull : masked (s.rx.ringHead + 1) = s.rx.ringTail) :
    RxInv (s.perform (.isr byte)) := by
  have hrx := prvRxIsr_full byte hfull
  have hstep : s.perform (.isr byte) =
      { s with
        rx := { s.rx with ringOverflow := true }
        fates := s.fates ++ [(byte, .dropped ((storedBytes s.fates).length - s.taken.length))]
        owed := true } := by
    change (if (prvRxIsr byte s.rx).ringHead = s.rx.ringHead then _ else _) = _
    rw [hrx]
    exact if_pos rfl
  rw [hstep]
  rcases hinv.kept.order with ⟨unread, hstored, hring⟩
  have hlength : unread.length + 1 = ringSize := by
    rw [masked_eq] at hfull
    exact hring.full_iff.mp hfull
  have hunread : (storedBytes s.fates).length - s.taken.length = ringMask := by
    rw [hstored, List.length_append, Nat.add_sub_cancel_left]
    exact Nat.succ.inj hlength
  have hne : s.rx.ringHead ≠ s.rx.ringTail := by
    intro heq
    rw [hring.empty_iff.mp heq] at hlength
    cases hlength
  refine ⟨⟨⟨unread, ?_, hring⟩, ?_, ?_, hinv.kept.awake⟩, hinv.reading, hinv.advancing,
    hinv.started⟩
  · rw [storedBytes_append, hstored]
    exact List.append_nil _
  · intro byte' unread' hmem
    rcases List.mem_append.mp hmem with hold | hnew
    · exact hinv.kept.drops byte' unread' hold
    · cases List.mem_singleton.mp hnew
      exact hunread
  · intro _
    right
    refine ⟨rfl, ?_⟩
    intro htask
    rcases hinv.kept.awake htask hne with hnotify | hawake
    · exact Or.inl hnotify
    · exact Or.inr (Or.inl hawake)

theorem RxInv.isr_room (hinv : RxInv s) (hroom : masked (s.rx.ringHead + 1) ≠ s.rx.ringTail) :
    RxInv (s.perform (.isr byte)) := by
  have hrx := prvRxIsr_room byte hroom
  rcases hinv.kept.order with ⟨unread, hstored, hring⟩
  have hhead : s.rx.ringHead < ringSize := by
    rw [hring.head_eq]
    exact Nat.mod_lt _ (Nat.zero_lt_of_lt hring.tail_lt)
  have hstep : s.perform (.isr byte) =
      { s with rx := prvRxIsr byte s.rx, fates := s.fates ++ [(byte, .stored)] } := by
    apply if_neg
    rw [hrx]
    exact masked_ne_self hhead
  rw [hstep, hrx]
  have hpush : RingHolds ringSize (Function.update s.rx.ring s.rx.ringHead byte)
      (masked (s.rx.ringHead + 1)) s.rx.ringTail (unread ++ [byte]) := by
    rw [masked_eq] at hroom ⊢
    apply hring.push
    have hne : unread.length + 1 ≠ ringSize := fun h => hroom (hring.full_iff.mpr h)
    exact Nat.lt_of_le_of_ne hring.length_lt hne
  have hne : masked (s.rx.ringHead + 1) ≠ s.rx.ringTail := hroom
  refine ⟨⟨⟨unread ++ [byte], ?_, hpush⟩, ?_, ?_, ?_⟩, fun _ => hne, ?_, hinv.started⟩
  · rw [storedBytes_append, hstored]
    exact List.append_assoc _ _ _
  · intro byte' unread' hmem
    rcases List.mem_append.mp hmem with hold | hnew
    · exact hinv.kept.drops byte' unread' hold
    · cases List.mem_singleton.mp hnew
  · intro howed
    rcases hinv.kept.warned howed with hwarns | ⟨hflag, hgoes⟩
    · exact Or.inl hwarns
    · refine Or.inr ⟨hflag, ?_⟩
      intro htask
      rcases hgoes htask with hnotify | hto
      · left
        change (s.rx.notifyRx || _) = true
        rw [hnotify, Bool.true_or]
      · exact Or.inr hto
  · intro htask _
    by_cases hempty : s.rx.ringHead = s.rx.ringTail
    · left
      change (s.rx.notifyRx || _) = true
      rw [decide_eq_true ⟨htask, hempty⟩, Bool.or_true]
    · rcases hinv.kept.awake htask hempty with hnotify | hawake
      · left
        change (s.rx.notifyRx || _) = true
        rw [hnotify, Bool.true_or]
      · exact Or.inr hawake
  · intro byte' hat
    rcases hinv.advancing byte' hat with ⟨hnonempty, hcell⟩
    refine ⟨hne, ?_⟩
    change Function.update s.rx.ring s.rx.ringHead byte s.rx.ringTail = byte'
    rw [Function.update_of_ne (Ne.symm hnonempty)]
    exact hcell

/-!
## The task
-/

theorem InputKept.sameRing (h : InputKept s) (rx : ConsoleRx) (owed : Bool)
    (hring : rx.ring = s.rx.ring) (hhead : rx.ringHead = s.rx.ringHead)
    (htail : rx.ringTail = s.rx.ringTail)
    (hwarned : owed = true -> Warns rx.taskAt ∨ (rx.ringOverflow = true ∧
      (rx.task = true -> rx.notifyRx = true ∨ ToWarn rx.taskAt)))
    (hawake : rx.task = true -> rx.ringHead ≠ rx.ringTail ->
      rx.notifyRx = true ∨ Awake rx.taskAt) :
    InputKept { s with rx := rx, owed := owed } where
  order := by
    rcases h.order with ⟨unread, hstored, hholds⟩
    refine ⟨unread, hstored, ?_⟩
    rw [← hring, ← hhead, ← htail] at hholds
    exact hholds
  drops := h.drops
  warned := hwarned
  awake := hawake

theorem perform_task {at_ : TaskAt} (hat : s.rx.taskAt = at_)
    (htakes : forall byte, at_ ≠ .advancing byte) :
    s.perform .task =
      { s with rx := taskStep s.rx, owed := if at_ = .warning then false else s.owed } := by
  unfold Received.perform
  rw [hat]
  cases at_ with
  | advancing byte => exact absurd rfl (htakes byte)
  | _ => rfl

theorem RxInv.wakes (hinv : RxInv s) (rx : ConsoleRx) (hring : rx.ring = s.rx.ring)
    (hhead : rx.ringHead = s.rx.ringHead) (htail : rx.ringTail = s.rx.ringTail)
    (hflag : rx.ringOverflow = s.rx.ringOverflow) (htask : rx.task = true)
    (hwoken : rx.taskAt = .woken) (hwarns : ¬Warns s.rx.taskAt) : RxInv { s with rx := rx } := by
  refine ⟨hinv.kept.sameRing rx s.owed hring hhead htail ?_ ?_, ?_, ?_, ?_⟩
  · intro howed
    rcases hinv.kept.warned howed with h | ⟨h, _⟩
    · exact absurd h hwarns
    · refine Or.inr ⟨hflag.trans h, fun _ => Or.inr (Or.inl ?_)⟩
      rw [hwoken]
      trivial
  · intro _ _
    right
    rw [hwoken]
    trivial
  · intro h
    cases hwoken.symm.trans h
  · intro byte h
    cases hwoken.symm.trans h
  · rw [hwoken]
    exact iff_of_true htask (fun h => nomatch h)

theorem RxInv.moves (hinv : RxInv s) (next : TaskAt) (hpresent : s.rx.taskAt ≠ .absent)
    (hnext : next ≠ .absent) (hwarns : ¬Warns s.rx.taskAt)
    (hawake : s.rx.ringHead ≠ s.rx.ringTail -> Awake s.rx.taskAt -> Awake next)
    (hto : ToWarn s.rx.taskAt -> s.rx.ringOverflow = true -> ToWarn next ∨ Warns next)
    (hreading : next = .reading -> s.rx.ringHead ≠ s.rx.ringTail)
    (hadvancing : forall byte, next = .advancing byte ->
      s.rx.ringHead ≠ s.rx.ringTail ∧ s.rx.ring s.rx.ringTail = byte) :
    RxInv { s with rx := { s.rx with taskAt := next } } := by
  refine ⟨hinv.kept.sameRing { s.rx with taskAt := next } s.owed rfl rfl rfl ?_ ?_, hreading,
    hadvancing, ?_⟩
  · intro howed
    rcases hinv.kept.warned howed with h | ⟨hflag, hgoes⟩
    · exact absurd h hwarns
    · rcases hgoes (hinv.started.mpr hpresent) with hnotify | hon
      · exact Or.inr ⟨hflag, fun _ => Or.inl hnotify⟩
      · rcases hto hon hflag with h | h
        · exact Or.inr ⟨hflag, fun _ => Or.inr h⟩
        · exact Or.inl h
  · intro htask hne
    rcases hinv.kept.awake htask hne with hnotify | hon
    · exact Or.inl hnotify
    · exact Or.inr (hawake hne hon)
  · exact iff_of_true (hinv.started.mpr hpresent) hnext

theorem RxInv.advance (hinv : RxInv s) (hat : s.rx.taskAt = .advancing byte) :
    RxInv (s.perform .task) := by
  have hstep : s.perform .task =
      { s with
        rx := { s.rx with ringTail := masked (s.rx.ringTail + 1), taskAt := .checking }
        taken := s.taken ++ [byte] } := by
    unfold Received.perform taskStep
    rw [hat]
    rfl
  rw [hstep]
  rcases hinv.kept.order with ⟨unread, hstored, hring⟩
  rcases hinv.advancing byte hat with ⟨hne, hcell⟩
  cases hunread : unread with
  | nil => exact absurd (hring.empty_iff.mpr hunread) hne
  | cons first rest =>
      rw [hunread] at hring hstored
      have hfirst : first = byte := hring.front.symm.trans hcell
      rw [hfirst] at hring hstored
      refine ⟨⟨⟨rest, ?_, ?_⟩, hinv.kept.drops, ?_, ?_⟩, (fun h => nomatch h),
        (fun _ h => nomatch h), ?_⟩
      · rw [hstored, List.append_assoc]
        rfl
      · have hpop := hring.pop
        rw [← masked_eq] at hpop
        exact hpop
      · intro howed
        rcases hinv.kept.warned howed with h | ⟨hflag, _⟩
        · rw [hat] at h
          rcases h with h | h <;> cases h
        · exact Or.inr ⟨hflag, fun _ => Or.inr (Or.inl trivial)⟩
      · intro _ _
        exact Or.inr trivial
      · exact iff_of_true (hinv.started.mpr (by rw [hat]; exact fun h => nomatch h))
          (fun h => nomatch h)

theorem RxInv.task_step (hinv : RxInv s) : RxInv (s.perform .task) := by
  cases hat : s.rx.taskAt with
  | absent =>
      rw [perform_task hat (fun _ h => nomatch h)]
      unfold taskStep
      rw [hat]
      apply hinv.wakes { s.rx with task := true, taskAt := .woken } rfl rfl rfl rfl rfl rfl
      rw [hat]
      rintro (h | h) <;> cases h
  | waiting =>
      rw [perform_task hat (fun _ h => nomatch h)]
      unfold taskStep
      rw [hat]
      dsimp only
      split
      · apply hinv.wakes { s.rx with notifyRx := false, notifyDataTick := false, taskAt := .woken }
          rfl rfl rfl rfl _ rfl
        · rw [hat]
          rintro (h | h) <;> cases h
        · exact hinv.started.mpr (by rw [hat]; exact fun h => nomatch h)
      · exact hinv
  | woken =>
      rw [perform_task hat (fun _ h => nomatch h)]
      unfold taskStep
      rw [hat]
      refine hinv.moves .checking ?_ (fun h => nomatch h) ?_ (fun _ _ => trivial)
        (fun _ _ => Or.inl (Or.inl trivial)) (fun h => nomatch h) (fun _ h => nomatch h) <;>
        rw [hat]
      · exact fun h => nomatch h
      · rintro (h | h) <;> cases h
  | checking =>
      rw [perform_task hat (fun _ h => nomatch h)]
      unfold taskStep
      rw [hat]
      dsimp only
      split
      · next hne =>
          refine hinv.moves .reading ?_ (fun h => nomatch h) ?_ (fun _ _ => trivial)
            (fun _ _ => Or.inl (Or.inl trivial)) (fun _ => Ne.symm hne) (fun _ h => nomatch h) <;>
            rw [hat]
          · exact fun h => nomatch h
          · rintro (h | h) <;> cases h
      · next hempty =>
          refine hinv.moves .overflowCheck ?_ (fun h => nomatch h) ?_ (fun hne _ => ?_)
            (fun _ _ => Or.inl (Or.inr rfl)) (fun h => nomatch h) (fun _ h => nomatch h)
          · rw [hat]
            exact fun h => nomatch h
          · rw [hat]
            rintro (h | h) <;> cases h
          · exact absurd (Ne.symm hne) hempty
  | reading =>
      rw [perform_task hat (fun _ h => nomatch h)]
      unfold taskStep
      rw [hat]
      have hne := hinv.reading hat
      refine hinv.moves (.advancing (s.rx.ring s.rx.ringTail)) ?_ (fun h => nomatch h) ?_
        (fun _ _ => trivial) (fun _ _ => Or.inl (Or.inl trivial)) (fun h => nomatch h) ?_
      · rw [hat]
        exact fun h => nomatch h
      · rw [hat]
        rintro (h | h) <;> cases h
      · intro byte heq
        exact ⟨hne, TaskAt.advancing.inj heq⟩
  | advancing byte => exact hinv.advance hat
  | overflowCheck =>
      rw [perform_task hat (fun _ h => nomatch h)]
      unfold taskStep
      rw [hat]
      dsimp only
      split
      · refine hinv.moves .clearing ?_ (fun h => nomatch h) ?_ ?_
          (fun _ _ => Or.inr (Or.inl rfl)) (fun h => nomatch h) (fun _ h => nomatch h)
        · rw [hat]
          exact fun h => nomatch h
        · rw [hat]
          rintro (h | h) <;> cases h
        · rw [hat]
          exact fun _ h => h.elim
      · next hflag =>
          refine hinv.moves .waiting ?_ (fun h => nomatch h) ?_ ?_
            (fun _ h => absurd h hflag) (fun h => nomatch h) (fun _ h => nomatch h)
          · rw [hat]
            exact fun h => nomatch h
          · rw [hat]
            rintro (h | h) <;> cases h
          · rw [hat]
            exact fun _ h => h.elim
  | clearing =>
      rw [perform_task hat (fun _ h => nomatch h)]
      unfold taskStep
      rw [hat]
      refine ⟨hinv.kept.sameRing _ s.owed rfl rfl rfl (fun _ => Or.inl (Or.inr rfl)) ?_,
        (fun h => nomatch h), (fun _ h => nomatch h), ?_⟩
      · intro htask hne
        rcases hinv.kept.awake htask hne with hnotify | hon
        · exact Or.inl hnotify
        · rw [hat] at hon
          exact hon.elim
      · exact iff_of_true (hinv.started.mpr (by rw [hat]; exact fun h => nomatch h))
          (fun h => nomatch h)
  | warning =>
      rw [perform_task hat (fun _ h => nomatch h)]
      unfold taskStep
      rw [hat]
      refine ⟨hinv.kept.sameRing _ false rfl rfl rfl (fun h => nomatch h) ?_,
        (fun h => nomatch h), (fun _ h => nomatch h), ?_⟩
      · intro htask hne
        rcases hinv.kept.awake htask hne with hnotify | hon
        · exact Or.inl hnotify
        · rw [hat] at hon
          exact hon.elim
      · exact iff_of_true (hinv.started.mpr (by rw [hat]; exact fun h => nomatch h))
          (fun h => nomatch h)

/-!
## Runs
-/

theorem RxInv.escTimeout_step (hinv : RxInv s) : RxInv (s.perform .escTimeout) := by
  change RxInv { s with rx := escTimeout s.rx }
  unfold escTimeout
  split
  · next hat =>
      apply hinv.wakes { s.rx with taskAt := .woken } rfl rfl rfl rfl _ rfl
      · rw [hat]
        rintro (h | h) <;> cases h
      · exact hinv.started.mpr (by rw [hat]; exact fun h => nomatch h)
  · exact hinv

theorem RxInv.tick_step (hinv : RxInv s) : RxInv (s.perform .tick) := by
  change RxInv { s with rx := prvTickCb s.rx }
  unfold prvTickCb
  split
  · exact ⟨hinv.kept.sameRing { s.rx with notifyDataTick := true } s.owed rfl rfl rfl
      hinv.kept.warned hinv.kept.awake, hinv.reading, hinv.advancing, hinv.started⟩
  · exact hinv

theorem RxInv.perform {step : RxStep} (hinv : RxInv s) : RxInv (s.perform step) := by
  cases step with
  | isr byte =>
      by_cases hfull : masked (s.rx.ringHead + 1) = s.rx.ringTail
      · exact hinv.isr_full hfull
      · exact hinv.isr_room hfull
  | task => exact hinv.task_step
  | escTimeout => exact hinv.escTimeout_step
  | tick => exact hinv.tick_step

theorem RxInv.start (ring : Nat -> UInt8) : RxInv ⟨consoleServiceInit ring, [], [], false⟩ where
  kept :=
    { order := ⟨[], rfl, .nil (by decide) ring⟩
      drops := fun _ _ h => nomatch h
      warned := fun h => nomatch h
      awake := fun h => nomatch h }
  reading h := nomatch h
  advancing _ h := nomatch h
  started := iff_of_false (fun h => nomatch h) (fun h => h rfl)

theorem RxRun.inv (run : RxRun s) : RxInv s := by
  induction run with
  | start ring => exact .start ring
  | step _ step ih => exact ih.perform

end

/-- Whatever arrives between whichever accesses of the task, the task takes what was stored, each drop
is announced, and bytes in the ring will be looked at. -/
theorem input_neither_lost_nor_stuck {s : Received} (run : RxRun s) : InputKept s :=
  run.inv.kept

/-- Two bytes, the second after the task has begun to take the first. -/
theorem input_neither_lost_nor_stuck_burst :
    InputKept ([.task, .isr 104, .task, .task, .task, .isr 105, .task].foldl Received.perform
      ⟨consoleServiceInit (fun _ => 0), [], [], false⟩) :=
  input_neither_lost_nor_stuck (.step (.step (.step (.step (.step (.step (.step (.start _) .task)
    (.isr 104)) .task) .task) .task) (.isr 105)) .task)

/-- After the wait has returned, the notification is gone and the loop is still to come. -/
theorem woken_outside_the_loop :
    ¬forall s, RxRun s -> s.rx.task = true -> s.rx.ringHead ≠ s.rx.ringTail ->
      s.rx.notifyRx = true ∨ s.rx.notifyDataTick = true ∨ InLoop s.rx.taskAt := by
  intro hclaim
  have h := hclaim _ (.step (.step (.step (.step (.step (.step (.start fun _ => 0) .task) .task)
    .task) .task) (.isr 104)) .task) rfl (by decide)
  rcases h with hnotify | htick | hloop
  · cases hnotify
  · cases htick
  · exact hloop

end EnvMonitor.Gateway.Console
