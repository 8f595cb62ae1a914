import EnvMonitor.FieldDevice.SensorService.Filter
import Mathlib.Logic.Function.Basic

/-!
# Acquisition cycles in several tasks

`run_cycle_impl` of `sensor_service.c` works on a copy of the snapshot and writes the copy back.
SensorTask runs it for every period, and the self-test of the console in its own task.  A step of a
task is a critical section, a driver call with what is made of its answer, or the start or the end
of a subscriber call.
-/

namespace EnvMonitor.FieldDevice.SensorService

/-- The time of a sample, and the number of the driver call it came from. -/
structure Stamp (Ts : Type) where
  order : Nat
  time : Ts

/-- `sensor_snapshot_t` -/
structure Snapshot (Ts : Type) where
  readings : SensorId -> Reading (Stamp Ts)
  cycleCount : Nat

/-- Where a task is in `run_cycle_impl`.  A subscriber is handed a pointer to the snapshot of the
service; `seen` is what was there when its call began. -/
inductive CyclePc (Ts : Type) where
  | idle
  | copied (working : Snapshot Ts)
  | sampledHt (working : Snapshot Ts)
  | sampled (working : Snapshot Ts)
  | notifying (next : Nat)
  | inCall (next : Nat) (seen : Snapshot Ts)

namespace CyclePc

variable {Ts : Type}

/-- The copy, between the two critical sections. -/
def working : CyclePc Ts -> Option (Snapshot Ts)
  | .copied w => some w
  | .sampledHt w => some w
  | .sampled w => some w
  | _ => none

def inSubscriber : CyclePc Ts -> Bool
  | .inCall _ _ => true
  | _ => false

/-- The cycle is committed and its subscribers are being called. -/
def notifies : CyclePc Ts -> Bool
  | .notifying _ => true
  | .inCall _ _ => true
  | _ => false

end CyclePc

/-- The service with its tasks.  The last four fields are there for the proof: the number of driver
calls, the committed snapshots, the samples of the committed cycles, and those of the cycles under
way, in the order they were taken. -/
structure SensorTasks (Task Ts : Type) where
  snapshot : Snapshot Ts
  filters : SensorId -> FilterState
  pc : Task -> CyclePc Ts
  driverCalls : Nat
  commits : List (Snapshot Ts)
  committed : SensorId -> List Int
  uncommitted : SensorId -> List (Task × Int)

variable {Task Ts : Type}

def SensorTasks.goto [DecidableEq Task] (s : SensorTasks Task Ts) (t : Task) (pc : CyclePc Ts) :
    SensorTasks Task Ts :=
  { s with pc := Function.update s.pc t pc }

/-- `process_sensor_reading` on the copy of a task; a failed driver is skipped. -/
def SensorTasks.process (driverFailed : SensorId -> Bool) (t : Task) (id : SensorId)
    (sample : Option Int) (now : Ts) (w : Snapshot Ts) (s : SensorTasks Task Ts) :
    Snapshot Ts × SensorTasks Task Ts :=
  if driverFailed id then (w, s)
  else
    let c := processSensorReading id sample ⟨s.driverCalls, now⟩ ⟨w.readings id, s.filters id⟩
    ({ w with readings := Function.update w.readings id c.reading },
      { s with
        filters := Function.update s.filters id c.filter
        uncommitted :=
          match sample with
          | none => s.uncommitted
          | some x => Function.update s.uncommitted id (s.uncommitted id ++ [(t, x)]) })

def SensorTasks.called (s : SensorTasks Task Ts) : SensorTasks Task Ts :=
  { s with driverCalls := s.driverCalls + 1 }

/-- The two channels of one call of `humidity_temp_read`. -/
def SensorTasks.processHt (driverFailed : SensorId -> Bool) (t : Task)
    (answer : Option (Int × Int)) (now now' : Ts) (w : Snapshot Ts) (s : SensorTasks Task Ts) :
    Snapshot Ts × SensorTasks Task Ts :=
  let temperature := s.called.process driverFailed t .temperature (answer.map Prod.fst) now w
  temperature.2.process driverFailed t .humidity (answer.map Prod.snd) now' temperature.1

/-- The second critical section. -/
def SensorTasks.commit [DecidableEq Task] (s : SensorTasks Task Ts) (t : Task) (w : Snapshot Ts) :
    SensorTasks Task Ts :=
  let new := { w with cycleCount := (w.cycleCount + 1) % 2 ^ 32 }
  { s with
    snapshot := new
    pc := Function.update s.pc t (.notifying 0)
    commits := s.commits ++ [new]
    committed := fun id =>
      s.committed id ++ ((s.uncommitted id).filter fun sample => sample.1 = t).map Prod.snd
    uncommitted := fun id => (s.uncommitted id).filter fun sample => sample.1 ≠ t }

/-- A step of task `t`.  `sensor_service_get_snapshot` copies the snapshot in one critical section
and changes nothing. -/
inductive CycleStep [DecidableEq Task] (driverFailed : SensorId -> Bool) (subscriberCount : Nat)
    (t : Task) : SensorTasks Task Ts -> SensorTasks Task Ts -> Prop where
  | getSnapshot (s) : CycleStep driverFailed subscriberCount t s s
  | copy {s} (hpc : s.pc t = .idle) :
      CycleStep driverFailed subscriberCount t s (s.goto t (.copied s.snapshot))
  | skipHt {s w} (hpc : s.pc t = .copied w)
      (hfailed : driverFailed .temperature = true ∧ driverFailed .humidity = true) :
      CycleStep driverFailed subscriberCount t s (s.goto t (.sampledHt w))
  | readHt {s w} (hpc : s.pc t = .copied w)
      (hactive : ¬ (driverFailed .temperature = true ∧ driverFailed .humidity = true))
      (answer : Option (Int × Int)) (now now' : Ts) :
      CycleStep driverFailed subscriberCount t s
        ((s.processHt driverFailed t answer now now' w).2.goto t
          (.sampledHt (s.processHt driverFailed t answer now now' w).1))
  | skipBarometer {s w} (hpc : s.pc t = .sampledHt w) (hfailed : driverFailed .pressure = true) :
      CycleStep driverFailed subscriberCount t s (s.goto t (.sampled w))
  | readBarometer {s w} (hpc : s.pc t = .sampledHt w) (hactive : driverFailed .pressure = false)
      (answer : Option Int) (now : Ts) :
      CycleStep driverFailed subscriberCount t s
        ((s.called.process driverFailed t .pressure answer now w).2.goto t
          (.sampled (s.called.process driverFailed t .pressure answer now w).1))
  | commit {s w} (hpc : s.pc t = .sampled w) :
      CycleStep driverFailed subscriberCount t s (s.commit t w)
  | call {s i} (hpc : s.pc t = .notifying i) (hmore : i < subscriberCount) :
      CycleStep driverFailed subscriberCount t s (s.goto t (.inCall i s.snapshot))
  | callReturns {s i seen} (hpc : s.pc t = .inCall i seen) :
      CycleStep driverFailed subscriberCount t s (s.goto t (.notifying (i + 1)))
  | done {s i} (hpc : s.pc t = .notifying i) (hlast : subscriberCount ≤ i) :
      CycleStep driverFailed subscriberCount t s (s.goto t .idle)

/-- `sensor_service_init`, with the snapshot still zero. -/
def SensorTasks.start (epoch : Ts) : SensorTasks Task Ts where
  snapshot := ⟨fun _ => ⟨0, false, ⟨0, epoch⟩⟩, 0⟩
  filters := fun _ => ⟨0, false⟩
  pc := fun _ => .idle
  driverCalls := 0
  commits := []
  committed := fun _ => []
  uncommitted := fun _ => []

/-- Nobody else is on the way to a commit or inside a subscriber, and the counter does not wrap. -/
def CommitsAlone (t : Task) (s : SensorTasks Task Ts) : Prop :=
  s.snapshot.cycleCount + 1 < 2 ^ 32 ∧
    forall u, u ≠ t -> (s.pc u).working = none ∧ (s.pc u).inSubscriber = false

/-- A run; a step that commits meets `Ok`. -/
inductive CycleRun [DecidableEq Task] (driverFailed : SensorId -> Bool) (subscriberCount : Nat)
    (Ok : Task -> SensorTasks Task Ts -> Prop) : SensorTasks Task Ts -> Prop where
  | start (epoch : Ts) : CycleRun driverFailed subscriberCount Ok (.start epoch)
  | step {s s' t} (h : CycleRun driverFailed subscriberCount Ok s)
      (hstep : CycleStep driverFailed subscriberCount t s s')
      (hok : forall w, s.pc t = .sampled w -> Ok t s) :
      CycleRun driverFailed subscriberCount Ok s'

/-!
## What holds of a run
-/

/-- The filter after one sample. -/
def filterSample (id : SensorId) (st : FilterState) (rawValue : Int) : FilterState :=
  filterStep (inRange id rawValue) (clamp id rawValue) st

structure SnapshotLaw (s : SensorTasks Task Ts) : Prop where
  counted : s.snapshot.cycleCount = s.commits.length
  /-- A subscriber has the last committed snapshot before it, unchanged since its call began. -/
  stable : forall t i seen, s.pc t = .inCall i seen ->
    s.snapshot = seen ∧ s.commits.getLast? = some seen
  /-- The filter folds the committed samples, and then those of the cycles under way. -/
  filtered : forall id, s.filters id =
    (s.committed id ++ (s.uncommitted id).map Prod.snd).foldl (filterSample id) ⟨0, false⟩
  underWay : forall id sample, sample ∈ s.uncommitted id -> (s.pc sample.1).working ≠ none

/-- What a step does to the snapshot. -/
structure SnapshotMoves (s s' : SensorTasks Task Ts) : Prop where
  counts : (s'.commits = s.commits ∧ s'.snapshot = s.snapshot) ∨
    (s'.commits.length = s.commits.length + 1 ∧
      s'.snapshot.cycleCount = s.snapshot.cycleCount + 1)
  newer : forall id, (s.snapshot.readings id).timestamp.order ≤
    (s'.snapshot.readings id).timestamp.order

/-- What holds of the place of a task. -/
structure PcOk (s : SensorTasks Task Ts) (pc : CyclePc Ts) : Prop where
  current : forall w, pc.working = some w -> w.cycleCount = s.snapshot.cycleCount ∧
    forall id, (s.snapshot.readings id).timestamp.order ≤ (w.readings id).timestamp.order ∧
      (w.readings id).timestamp.order ≤ s.driverCalls
  notified : pc.notifies = true -> s.commits.getLast? = some s.snapshot
  stable : forall i seen, pc = .inCall i seen -> s.snapshot = seen

structure CycleInv (s : SensorTasks Task Ts) : Prop where
  counted : s.snapshot.cycleCount = s.commits.length
  orders : forall id, (s.snapshot.readings id).timestamp.order ≤ s.driverCalls
  pcs : forall t, PcOk s (s.pc t)
  filtered : forall id, s.filters id =
    (s.committed id ++ (s.uncommitted id).map Prod.snd).foldl (filterSample id) ⟨0, false⟩
  underWay : forall id sample, sample ∈ s.uncommitted id -> (s.pc sample.1).working ≠ none

section

variable {s s' : SensorTasks Task Ts} {t : Task} {w : Snapshot Ts} {pc : CyclePc Ts}
  {driverFailed : SensorId -> Bool} {subscriberCount : Nat}

theorem PcOk.congr (h : PcOk s pc) (hsnapshot : s'.snapshot = s.snapshot)
    (hcalls : s.driverCalls ≤ s'.driverCalls) (hcommits : s'.commits = s.commits) : PcOk s' pc where
  current := by
    intro w hw
    rcases h.current w hw with ⟨hcount, horder⟩
    rw [hsnapshot]
    exact ⟨hcount, fun id => ⟨(horder id).1, Nat.le_trans (horder id).2 hcalls⟩⟩
  notified := by
    rw [hsnapshot, hcommits]
    exact h.notified
  stable := by
    rw [hsnapshot]
    exact h.stable

theorem CycleInv.law (h : CycleInv s) : SnapshotLaw s where
  counted := h.counted
  stable := by
    intro t i seen hpc
    have hstable := (h.pcs t).stable i seen hpc
    have hlast := (h.pcs t).notified (by rw [hpc]; rfl)
    rw [hstable] at hlast
    exact ⟨hstable, hlast⟩
  filtered := h.filtered
  underWay := h.underWay

theorem CycleInv.start (epoch : Ts) : CycleInv (.start epoch : SensorTasks Task Ts) where
  counted := rfl
  orders := fun _ => Nat.le_refl _
  pcs := by
    intro t
    constructor
    case current =>
      intro w hw
      cases hw
    case notified =>
      intro h
      cases h
    case stable =>
      intro i seen h
      cases h
  filtered := fun _ => rfl
  underWay := by
    intro id sample h
    cases h

/-- A copy that is as new as the snapshot. -/
def CopyOk (s : SensorTasks Task Ts) (w : Snapshot Ts) : Prop :=
  w.cycleCount = s.snapshot.cycleCount ∧
    forall id, (s.snapshot.readings id).timestamp.order ≤ (w.readings id).timestamp.order ∧
      (w.readings id).timestamp.order ≤ s.driverCalls

theorem CopyOk.pcOk (h : CopyOk s w) (hworking : pc.working = some w)
    (hnotifies : pc.notifies = false) : PcOk s pc where
  current := by
    intro w' hw'
    rw [hworking] at hw'
    cases Option.some.inj hw'
    exact h
  notified := by
    intro hon
    rw [hnotifies] at hon
    cases hon
  stable := by
    intro i seen heq
    rw [heq] at hnotifies
    cases hnotifies

theorem CycleInv.copyOk (h : CycleInv s) (hpc : (s.pc t).working = some w) : CopyOk s w :=
  (h.pcs t).current w hpc

theorem CycleInv.called (h : CycleInv s) : CycleInv s.called where
  counted := h.counted
  orders := fun id => Nat.le_succ_of_le (h.orders id)
  pcs := fun u => (h.pcs u).congr rfl (Nat.le_succ _) rfl
  filtered := h.filtered
  underWay := h.underWay

theorem CopyOk.called (h : CopyOk s w) : CopyOk s.called w :=
  ⟨h.1, fun id => ⟨(h.2 id).1, Nat.le_succ_of_le (h.2 id).2⟩⟩

theorem process_frame (driverFailed : SensorId -> Bool) (t : Task) (id : SensorId)
    (sample : Option Int) (now : Ts) (w : Snapshot Ts) (s : SensorTasks Task Ts) :
    (s.process driverFailed t id sample now w).2.snapshot = s.snapshot ∧
      (s.process driverFailed t id sample now w).2.pc = s.pc ∧
      (s.process driverFailed t id sample now w).2.driverCalls = s.driverCalls ∧
      (s.process driverFailed t id sample now w).2.commits = s.commits ∧
      (s.process driverFailed t id sample now w).2.committed = s.committed := by
  unfold SensorTasks.process
  split <;> exact ⟨rfl, rfl, rfl, rfl, rfl⟩

theorem CopyOk.process (h : CopyOk s w) (driverFailed : SensorId -> Bool) (t : Task)
    (id : SensorId) (sample : Option Int) (now : Ts) :
    CopyOk (s.process driverFailed t id sample now w).2
      (s.process driverFailed t id sample now w).1 := by
  rcases process_frame driverFailed t id sample now w s with ⟨hsnapshot, _, hcalls, _, _⟩
  unfold CopyOk
  rw [hsnapshot, hcalls]
  unfold SensorTasks.process
  split
  · exact h
  · refine ⟨h.1, fun other => ?_⟩
    change _ ≤ (Function.update w.readings id _ other).timestamp.order ∧
      (Function.update w.readings id _ other).timestamp.order ≤ _
    by_cases hsame : other = id
    · rw [hsame, Function.update_self]
      cases sample with
      | none => exact h.2 id
      | some x => exact ⟨Nat.le_trans (h.2 id).1 (h.2 id).2, Nat.le_refl _⟩
    · rw [Function.update_of_ne hsame]
      exact h.2 other

theorem CycleInv.process (h : CycleInv s) (hworking : (s.pc t).working ≠ none)
    (driverFailed : SensorId -> Bool) (id : SensorId) (sample : Option Int) (now : Ts)
    (w : Snapshot Ts) : CycleInv (s.process driverFailed t id sample now w).2 := by
  rcases process_frame driverFailed t id sample now w s with
    ⟨hsnapshot, hpc, hcalls, hcommits, hcommitted⟩
  constructor
  case counted =>
    rw [hsnapshot, hcommits]
    exact h.counted
  case orders =>
    rw [hsnapshot, hcalls]
    exact h.orders
  case pcs =>
    intro u
    rw [hpc]
    exact (h.pcs u).congr hsnapshot (Nat.le_of_eq hcalls.symm) hcommits
  case filtered =>
    intro other
    rw [hcommitted]
    unfold SensorTasks.process
    split
    · exact h.filtered other
    · change Function.update s.filters id _ other = _
      cases sample with
      | none =>
          change Function.update s.filters id (s.filters id) other = _
          rw [Function.update_eq_self]
          exact h.filtered other
      | some x =>
          by_cases hsame : other = id
          · rw [hsame, Function.update_self]
            change filterSample id (s.filters id) x = (s.committed id ++
              (Function.update s.uncommitted id (s.uncommitted id ++ [(t, x)]) id).map
                Prod.snd).foldl (filterSample id) ⟨0, false⟩
            rw [Function.update_self, List.map_append, ← List.append_assoc, List.foldl_append,
              ← h.filtered id]
            rfl
          · rw [Function.update_of_ne hsame]
            change s.filters other = (s.committed other ++
              (Function.update s.uncommitted id (s.uncommitted id ++ [(t, x)]) other).map
                Prod.snd).foldl (filterSample other) ⟨0, false⟩
            rw [Function.update_of_ne hsame]
            exact h.filtered other
  case underWay =>
    intro other taken hmem
    rw [hpc]
    unfold SensorTasks.process at hmem
    split at hmem
    · exact h.underWay other taken hmem
    · cases sample with
      | none => exact h.underWay other taken hmem
      | some x =>
          change taken ∈ Function.update s.uncommitted id (s.uncommitted id ++ [(t, x)]) other at hmem
          by_cases hsame : other = id
          · rw [hsame, Function.update_self] at hmem
            rcases List.mem_append.mp hmem with hold | hnew
            · exact h.underWay id taken hold
            · rw [List.mem_singleton.mp hnew]
              exact hworking
          · rw [Function.update_of_ne hsame] at hmem
            exact h.underWay other taken hmem

variable [DecidableEq Task]

theorem CycleInv.goto (h : CycleInv s) (hpc : PcOk s pc)
    (hunderWay : (s.pc t).working ≠ none -> pc.working ≠ none) : CycleInv (s.goto t pc) where
  counted := h.counted
  orders := h.orders
  pcs := by
    intro u
    change PcOk (s.goto t pc) (Function.update s.pc t pc u)
    by_cases hsame : u = t
    · rw [hsame, Function.update_self]
      exact hpc.congr rfl (Nat.le_refl _) rfl
    · rw [Function.update_of_ne hsame]
      exact (h.pcs u).congr rfl (Nat.le_refl _) rfl
  filtered := h.filtered
  underWay := by
    intro id sample hmem
    have hbefore := h.underWay id sample hmem
    change (Function.update s.pc t pc sample.1).working ≠ none
    by_cases hsame : sample.1 = t
    · rw [hsame, Function.update_self]
      rw [hsame] at hbefore
      exact hunderWay hbefore
    · rw [Function.update_of_ne hsame]
      exact hbefore

theorem CycleInv.uncommitted_own (h : CycleInv s) (halone : CommitsAlone t s) (id : SensorId) :
    (forall sample, sample ∈ s.uncommitted id -> sample.1 = t) := by
  intro sample hmem
  by_contra hne
  exact h.underWay id sample hmem (halone.2 sample.1 hne).1

theorem CycleInv.commit (h : CycleInv s) (hpc : s.pc t = .sampled w) (halone : CommitsAlone t s) :
    CycleInv (s.commit t w) := by
  have hcopy : CopyOk s w := h.copyOk (t := t) (by rw [hpc]; rfl)
  have hcount : (w.cycleCount + 1) % 2 ^ 32 = s.snapshot.cycleCount + 1 := by
    rw [hcopy.1]
    exact Nat.mod_eq_of_lt halone.1
  have hown := h.uncommitted_own halone
  have hall : forall id, (s.uncommitted id).filter (fun sample => sample.1 = t) =
      s.uncommitted id := by
    intro id
    rw [List.filter_eq_self]
    intro sample hmem
    exact decide_eq_true (hown id sample hmem)
  have hnone : forall id, (s.uncommitted id).filter (fun sample => sample.1 ≠ t) = [] := by
    intro id
    rw [List.filter_eq_nil_iff]
    intro sample hmem hne
    exact (of_decide_eq_true hne) (hown id sample hmem)
  constructor
  case counted =>
    change (w.cycleCount + 1) % 2 ^ 32 = (s.commits ++ [_]).length
    rw [hcount, h.counted, List.length_append]
    rfl
  case orders => exact fun id => (hcopy.2 id).2
  case pcs =>
    intro u
    change PcOk (s.commit t w) (Function.update s.pc t (.notifying 0) u)
    have hlast : (s.commit t w).commits.getLast? = some (s.commit t w).snapshot :=
      List.getLast?_concat
    by_cases hsame : u = t
    · rw [hsame, Function.update_self]
      constructor
      case current =>
        intro w' hw'
        cases hw'
      case notified => exact fun _ => hlast
      case stable =>
        intro i seen heq
        cases heq
    · rw [Function.update_of_ne hsame]
      rcases halone.2 u hsame with ⟨hidle, houtside⟩
      constructor
      case current =>
        intro w' hw'
        rw [hidle] at hw'
        cases hw'
      case notified => exact fun _ => hlast
      case stable =>
        intro i seen heq
        rw [heq] at houtside
        cases houtside
  case filtered =>
    intro id
    change s.filters id = ((s.committed id ++ ((s.uncommitted id).filter fun sample =>
      sample.1 = t).map Prod.snd) ++ ((s.uncommitted id).filter fun sample =>
        sample.1 ≠ t).map Prod.snd).foldl (filterSample id) ⟨0, false⟩
    rw [hall, hnone, List.map_nil, List.append_nil]
    exact h.filtered id
  case underWay =>
    intro id sample hmem
    change sample ∈ (s.uncommitted id).filter _ at hmem
    rw [hnone] at hmem
    cases hmem

theorem CycleInv.step (h : CycleInv s) (hstep : CycleStep driverFailed subscriberCount t s s')
    (hok : forall w, s.pc t = .sampled w -> CommitsAlone t s) : CycleInv s' := by
  cases hstep with
  | getSnapshot => exact h
  | copy hpc =>
      have hcopy : CopyOk s s.snapshot := ⟨rfl, fun id => ⟨Nat.le_refl _, h.orders id⟩⟩
      exact h.goto (hcopy.pcOk rfl rfl) fun _ => Option.some_ne_none _
  | skipHt hpc _ =>
      exact h.goto ((h.copyOk (t := t) (by rw [hpc]; rfl)).pcOk rfl rfl) fun _ =>
        Option.some_ne_none _
  | @readHt w hpc _ answer now now' =>
      have hcopy : CopyOk s w := h.copyOk (t := t) (by rw [hpc]; rfl)
      have hworking : (s.called.pc t).working ≠ none := by
        change (s.pc t).working ≠ none
        rw [hpc]
        exact Option.some_ne_none _
      have hfirst := h.called.process hworking driverFailed .temperature (answer.map Prod.fst) now w
      have hworking' : ((s.called.process driverFailed t .temperature (answer.map Prod.fst) now
          w).2.pc t).working ≠ none := by
        rw [(process_frame driverFailed t .temperature _ now w s.called).2.1]
        exact hworking
      have hsecond := hfirst.process hworking' driverFailed .humidity (answer.map Prod.snd) now'
        (s.called.process driverFailed t .temperature (answer.map Prod.fst) now w).1
      exact hsecond.goto
        (((hcopy.called.process driverFailed t .temperature _ now).process driverFailed t .humidity
          _ now').pcOk rfl rfl) fun _ => Option.some_ne_none _
  | skipBarometer hpc _ =>
      exact h.goto ((h.copyOk (t := t) (by rw [hpc]; rfl)).pcOk rfl rfl) fun _ =>
        Option.some_ne_none _
  | @readBarometer w hpc _ answer now =>
      have hcopy : CopyOk s w := h.copyOk (t := t) (by rw [hpc]; rfl)
      have hworking : (s.called.pc t).working ≠ none := by
        change (s.pc t).working ≠ none
        rw [hpc]
        exact Option.some_ne_none _
      exact (h.called.process hworking driverFailed .pressure answer now w).goto
        ((hcopy.called.process driverFailed t .pressure answer now).pcOk rfl rfl) fun _ =>
          Option.some_ne_none _
  | commit hpc => exact h.commit hpc (hok _ hpc)
  | call hpc _ =>
      have hnotified := (h.pcs t).notified (by rw [hpc]; rfl)
      apply h.goto
      · constructor
        case current =>
          intro w' hw'
          cases hw'
        case notified => exact fun _ => hnotified
        case stable =>
          intro i' seen' heq
          cases heq
          rfl
      · intro hworking
        rw [hpc] at hworking
        exact absurd rfl hworking
  | callReturns hpc =>
      have hnotified := (h.pcs t).notified (by rw [hpc]; rfl)
      apply h.goto
      · constructor
        case current =>
          intro w' hw'
          cases hw'
        case notified => exact fun _ => hnotified
        case stable =>
          intro i' seen' heq
          cases heq
      · intro hworking
        rw [hpc] at hworking
        exact absurd rfl hworking
  | done hpc _ =>
      apply h.goto
      · constructor
        case current =>
          intro w' hw'
          cases hw'
        case notified =>
          intro hon
          cases hon
        case stable =>
          intro i' seen' heq
          cases heq
      · intro hworking
        rw [hpc] at hworking
        exact absurd rfl hworking

theorem CycleInv.moves (h : CycleInv s) (hstep : CycleStep driverFailed subscriberCount t s s')
    (hok : forall w, s.pc t = .sampled w -> CommitsAlone t s) : SnapshotMoves s s' := by
  have hsame : forall s'' : SensorTasks Task Ts, s''.commits = s.commits ->
      s''.snapshot = s.snapshot -> SnapshotMoves s s'' := by
    intro s'' hcommits hsnapshot
    refine ⟨.inl ⟨hcommits, hsnapshot⟩, fun id => ?_⟩
    rw [hsnapshot]
  cases hstep with
  | getSnapshot => exact hsame _ rfl rfl
  | copy _ => exact hsame _ rfl rfl
  | skipHt _ _ => exact hsame _ rfl rfl
  | @readHt w hpc _ answer now now' =>
      rcases process_frame driverFailed t .temperature (answer.map Prod.fst) now w s.called with
        ⟨hsnapshot, _, _, hcommits, _⟩
      rcases process_frame driverFailed t .humidity (answer.map Prod.snd) now'
        (s.called.process driverFailed t .temperature (answer.map Prod.fst) now w).1
        (s.called.process driverFailed t .temperature (answer.map Prod.fst) now w).2 with
        ⟨hsnapshot', _, _, hcommits', _⟩
      exact hsame _ (hcommits'.trans hcommits) (hsnapshot'.trans hsnapshot)
  | skipBarometer _ _ => exact hsame _ rfl rfl
  | @readBarometer w hpc _ answer now =>
      rcases process_frame driverFailed t .pressure answer now w s.called with
        ⟨hsnapshot, _, _, hcommits, _⟩
      exact hsame _ hcommits hsnapshot
  | @commit w hpc =>
      have hcopy : CopyOk s w := h.copyOk (t := t) (by rw [hpc]; rfl)
      constructor
      case counts =>
        apply Or.inr
        constructor
        · exact List.length_append
        · change (w.cycleCount + 1) % 2 ^ 32 = s.snapshot.cycleCount + 1
          rw [hcopy.1]
          exact Nat.mod_eq_of_lt (hok w hpc).1
      case newer => exact fun id => (hcopy.2 id).1
  | call _ _ => exact hsame _ rfl rfl
  | callReturns _ => exact hsame _ rfl rfl
  | done _ _ => exact hsame _ rfl rfl

theorem CycleRun.inv (h : CycleRun driverFailed subscriberCount CommitsAlone s) : CycleInv s := by
  induction h with
  | start epoch => exact CycleInv.start epoch
  | step _ hstep hok ih => exact ih.step hstep hok

end

/-- In a run whose commits are alone, snapshots are neither lost nor torn. -/
theorem snapshots_not_lost [DecidableEq Task] {driverFailed : SensorId -> Bool}
    {subscriberCount : Nat} {s : SensorTasks Task Ts}
    (h : CycleRun driverFailed subscriberCount CommitsAlone s) :
    SnapshotLaw s ∧
      forall t s', CycleStep driverFailed subscriberCount t s s' ->
        (forall w, s.pc t = .sampled w -> CommitsAlone t s) -> SnapshotMoves s s' :=
  ⟨h.inv.law, fun _ _ => h.inv.moves⟩

theorem snapshots_not_lost_once :
    exists s : SensorTasks Bool Unit, s.commits.length = 1 ∧ SnapshotLaw s := by
  have hstart : CycleRun (fun _ => false) 1 CommitsAlone (.start () : SensorTasks Bool Unit) :=
    .start ()
  have hcopied := hstart.step (t := true) (.copy rfl) fun _ h => nomatch h
  have hht := hcopied.step (t := true)
    (.readHt rfl (by decide) (some (2200, 5000)) () ()) fun _ h => nomatch h
  have hbarometer := hht.step (t := true)
    (.readBarometer rfl rfl (some 10132) ()) fun _ h => nomatch h
  have hcommit := hbarometer.step (t := true) (.commit rfl) fun _ _ =>
    ⟨by decide, fun u hu => by
      cases u
      · exact ⟨rfl, rfl⟩
      · exact absurd rfl hu⟩
  exact ⟨_, rfl, (snapshots_not_lost hcommit).1⟩

/-- SensorTask and the self-test both start from the snapshot at the beginning: two cycles are
committed, and the counter shows one. -/
theorem overlapping_cycle_lost :
    ¬ forall s : SensorTasks Bool Unit, CycleRun (fun _ => false) 1 (fun _ _ => True) s ->
      SnapshotLaw s := by
  intro hlaw
  have hstart : CycleRun (fun _ => false) 1 (fun _ _ => True) (.start () : SensorTasks Bool Unit) :=
    .start ()
  have hsensor := hstart.step (t := true) (.copy rfl) fun _ _ => trivial
  have hconsole := hsensor.step (t := false) (.copy rfl) fun _ _ => trivial
  have hht := hconsole.step (t := true)
    (.readHt rfl (by decide) (some (2200, 5000)) () ()) fun _ _ => trivial
  have hbarometer := hht.step (t := true)
    (.readBarometer rfl rfl (some 10132) ()) fun _ _ => trivial
  have hcommit := hbarometer.step (t := true) (.commit rfl) fun _ _ => trivial
  have hht' := hcommit.step (t := false)
    (.readHt rfl (by decide) (some (2300, 5000)) () ()) fun _ _ => trivial
  have hbarometer' := hht'.step (t := false)
    (.readBarometer rfl rfl (some 10132) ()) fun _ _ => trivial
  have hcommit' := hbarometer'.step (t := false) (.commit rfl) fun _ _ => trivial
  exact absurd (hlaw _ hcommit').counted (by decide)

end EnvMonitor.FieldDevice.SensorService
