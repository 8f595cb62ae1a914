import EnvMonitor.Gateway.CircularFlashLog.Fifo

/-!
# Flash failures

Any read, page program or sector erase may fail.  Two kinds of failure do harm: a failed
page program in a ring that is not empty, if it starts a sector or completes a header, and
a failed read of the header behind the oldest record, if no record begins there.  All others
cost at most the call that met them.
-/

namespace EnvMonitor.Gateway.CircularFlashLog

open Device Drivers
open Program (wp_bind wp_crash wp_mono wp_of_uses wp_returns wp_seq)

/-!
## Histories of the flash
-/

/-- The calls of a session and the codes they answered, with a condition on the faults
that each call may meet. -/
inductive SessionRun (Safe : Faults qspi -> Memory -> CflInst -> CflCall -> Prop) :
    Memory -> CflInst -> List (CflCall × CflErr) -> Memory -> CflInst -> Prop where
  | done (m : Memory) (inst : CflInst) : SessionRun Safe m inst [] m inst
  | call {m m₁ m' : Memory} {inst inst₁ inst' : CflInst} {F : Faults qspi}
      {call : CflCall} {answer : CflAnswer} {events : List (CflCall × CflErr)} :
      Safe F m inst call ->
      Program.Exec qspiFlash F (cflPerform inst call) m (some (answer, inst₁)) m₁ ->
      SessionRun Safe m₁ inst₁ events m' inst' ->
      SessionRun Safe m inst ((call, answer.err) :: events) m' inst'

/-- No condition on the faults. -/
def AnyFaults (_ : Faults qspi) (_ : Memory) (_ : CflInst) (_ : CflCall) : Prop :=
  True

/-- A flash that was erased once and then only used by sessions of the log, each ended by a
reset or a power cut, whatever failed in them. -/
inductive FlashHistory : Memory -> Prop where
  | erased {m : Memory} : PartitionErased m -> FlashHistory m
  | reset {m m₀ m' : Memory} {inst inst' : CflInst} {F : Faults qspi}
      {events : List (CflCall × CflErr)} :
      FlashHistory m -> Program.Exec qspiFlash F cflCreate m (some (some inst)) m₀ ->
      SessionRun AnyFaults m₀ inst events m' inst' -> FlashHistory m'
  | cut {m m₀ m' m'' : Memory} {inst inst' : CflInst} {F : Faults qspi}
      {events : List (CflCall × CflErr)} {call : CflCall} :
      FlashHistory m -> Program.Exec qspiFlash F cflCreate m (some (some inst)) m₀ ->
      SessionRun AnyFaults m₀ inst events m' inst' ->
      Program.Exec qspiFlash F (cflPerform inst' call) m' none m'' -> FlashHistory m''

section

variable {F : Faults qspi} {m m' : Memory} {R : Ring} {inst inst' : CflInst}

/-- A call that reads. -/
def IsRead : QspiOp -> Prop
  | .read _ _ => True
  | .writePage _ _ => False
  | .eraseSector _ => False

theorem uses_cflReadHeader (sector offset : Nat) :
    Program.Uses IsRead (cflReadHeader sector offset) :=
  ⟨trivial, fun _ => trivial⟩

theorem uses_cflPeekOldest (inst : CflInst) (maxLen : Nat) :
    Program.Uses IsRead (cflPeekOldest inst maxLen) := by
  apply Program.uses_ite
  · exact Program.uses_pure _ _
  · apply Program.uses_bind (uses_cflReadHeader _ _)
    intro hdr
    cases hdr with
    | none => exact Program.uses_pure _ _
    | some hdr =>
        apply Program.uses_ite
        · apply Program.uses_ite
          · exact Program.uses_pure _ _
          · refine ⟨trivial, fun data => ?_⟩
            cases data with
            | none => exact Program.uses_pure _ _
            | some data =>
                refine ⟨trivial, fun stored => ?_⟩
                cases stored with
                | none => exact Program.uses_pure _ _
                | some stored =>
                    apply Program.uses_ite
                    · exact Program.uses_pure _ _
                    · exact Program.uses_pure _ _
        · exact Program.uses_pure _ _

theorem keeps_read (op : QspiOp) (h : IsRead op) :
    Program.Keeps qspiFlash op (Eq m) := by
  cases op with
  | read addr len => exact ⟨fun _ h => h, fun _ _ h => h, fun _ _ h => h⟩
  | writePage _ _ => exact h.elim
  | eraseSector _ => exact h.elim

theorem wp_cflPerform_any (h : Sim m R inst) (call : CflCall) :
    (cflPerform inst call).wp qspiFlash F (fun out m' => exists R', Sim m' R' out.2)
      (fun m' => exists R', Holds m' R') m := by
  cases call with
  | append data =>
      refine (wp_bind _ _).mpr (wp_mono ?_ ?_ (wp_cflAppend h data))
      · rintro out m' ⟨R', _, hsim⟩
        exact ⟨R', hsim⟩
      · rintro m' ⟨R', _, hholds⟩
        exact ⟨R', hholds⟩
  | peek maxLen =>
      refine (wp_bind _ _).mpr (wp_mono ?_ ?_
        (wp_of_uses keeps_read (uses_cflPeekOldest inst maxLen) rfl))
      · rintro out m' rfl
        exact ⟨R, h⟩
      · rintro m' rfl
        exact ⟨R, h.holds⟩
  | consume =>
      apply wp_seq (wp_cflConsumeOldest_any h)
      rintro out m' hsim
      exact hsim
  | drop =>
      apply wp_seq (wp_cflConsumeOldest_any h)
      rintro out m' hsim
      exact hsim

variable {events : List (CflCall × CflErr)} {q : List (List UInt8)}

theorem SessionRun.sim {Safe : Faults qspi -> Memory -> CflInst -> CflCall -> Prop}
    (hrun : SessionRun Safe m inst events m' inst') (h : Sim m R inst) :
    exists R', Sim m' R' inst' := by
  induction hrun generalizing R with
  | done _ _ => exact ⟨R, h⟩
  | call _ hexec _ ih =>
      obtain ⟨R₁, hsim⟩ := wp_returns (wp_cflPerform_any h _) hexec
      exact ih hsim

theorem create_exec (hm : Holds m R)
    (hexec : Program.Exec qspiFlash F cflCreate m (some (some inst)) m') :
    m' = m ∧ (exists k, Booted R inst k) ∧ Sim m R inst := by
  obtain ⟨found, k, hreads, hbooted, hsim, _⟩ := reads_cflCreate F hm
  obtain ⟨hstate, hval | ⟨hnone, _⟩⟩ := wp_returns hreads hexec
  · cases hval
    exact ⟨hstate, ⟨k, hbooted⟩, hsim⟩
  · simp at hnone

theorem FlashHistory.holds (h : FlashHistory m) : exists R, Holds m R := by
  induction h with
  | erased herased => exact ⟨_, holds_erased herased⟩
  | reset _ hcreate hrun ih =>
      obtain ⟨R, hholds⟩ := ih
      obtain ⟨rfl, _, hsim⟩ := create_exec hholds hcreate
      obtain ⟨R', hsim'⟩ := hrun.sim hsim
      exact ⟨R', hsim'.holds⟩
  | cut _ hcreate hrun hexec ih =>
      obtain ⟨R, hholds⟩ := ih
      obtain ⟨rfl, _, hsim⟩ := create_exec hholds hcreate
      obtain ⟨R', hsim'⟩ := hrun.sim hsim
      exact wp_crash (wp_cflPerform_any hsim' _) hexec

/-!
## Sessions with harmless failures
-/

/-- The failures that do no harm. -/
def CallSafe (F : Faults qspi) (m : Memory) (inst : CflInst) : CflCall -> Prop
  | .append data => AppendSafe F inst data
  | .peek _ => True
  | .consume => ConsumeSafe F m inst
  | .drop => ConsumeSafe F m inst

/-- The records a call adds and removes.  A consume or drop that answered an error may have
removed the oldest record. -/
def Accounted (q : List (List UInt8)) (call : CflCall) (err : CflErr)
    (q' : List (List UInt8)) : Prop :=
  match call with
  | .append data => (err = .ok ∧ q' = q ++ [data]) ∨ (err ≠ .ok ∧ q' = q)
  | .peek _ => q' = q
  | .consume => q' = q.tail ∨ (err ≠ .ok ∧ q' = q)
  | .drop => q' = q.tail ∨ (err ≠ .ok ∧ q' = q)

/-- The records left by a sequence of calls. -/
def AccountedRun : List (List UInt8) -> List (CflCall × CflErr) -> List (List UInt8) -> Prop
  | q, [], q' => q' = q
  | q, (call, err) :: events, q' =>
      exists q₁, Accounted q call err q₁ ∧ AccountedRun q₁ events q'

theorem wp_cflPerform_safe (h : Contains m inst q) (call : CflCall) (hsafe : CallSafe F m inst call)
    :
    (cflPerform inst call).wp qspiFlash F
      (fun out m' => exists q', Accounted q call out.1.err q' ∧ Contains m' out.2 q')
      (fun _ => True) m := by
  cases call with
  | append data =>
      apply wp_seq (h.append data hsafe)
      rintro ⟨err, after⟩ m' (⟨hok, hafter⟩ | ⟨herr, hafter⟩)
      · exact ⟨_, .inl ⟨hok, rfl⟩, hafter⟩
      · exact ⟨_, .inr ⟨herr, rfl⟩, hafter⟩
  | peek maxLen =>
      refine (wp_bind _ _).mpr
        (wp_mono ?_ (fun _ _ => trivial) (h.peek maxLen))
      rintro answer m' ⟨_, rfl⟩
      exact ⟨q, rfl, h⟩
  | consume =>
      apply wp_seq (h.consume hsafe)
      rintro ⟨err, after⟩ m' (hafter | ⟨herr, hafter⟩)
      · exact ⟨_, .inl rfl, hafter⟩
      · exact ⟨_, .inr ⟨herr, rfl⟩, hafter⟩
  | drop =>
      apply wp_seq (h.consume hsafe)
      rintro ⟨err, after⟩ m' (hafter | ⟨herr, hafter⟩)
      · exact ⟨_, .inl rfl, hafter⟩
      · exact ⟨_, .inr ⟨herr, rfl⟩, hafter⟩

theorem SessionRun.contains (hrun : SessionRun CallSafe m inst events m' inst')
    (h : Contains m inst q) : exists q', AccountedRun q events q' ∧ Contains m' inst' q' := by
  induction hrun generalizing q with
  | done _ _ => exact ⟨q, rfl, h⟩
  | call hsafe hexec _ ih =>
      obtain ⟨q₁, hstep, hcontains⟩ := wp_returns (wp_cflPerform_safe h _ hsafe) hexec
      obtain ⟨q', haccount, hafter⟩ := ih hcontains
      exact ⟨q', ⟨q₁, hstep, haccount⟩, hafter⟩

end

/-- In a session whose failures are harmless, a failure-free drain delivers what was in the
ring at its start and was appended since, less what was removed, and the entry count is its
length. -/
theorem harmless_failures_keep_messages {m₀ m₁ m : Memory} {inst₀ inst : CflInst}
    {F : Faults qspi} {events : List (CflCall × CflErr)} (hhistory : FlashHistory m₀)
    (hcreate : Program.Exec qspiFlash F cflCreate m₀ (some (some inst₀)) m₁)
    (hrun : SessionRun CallSafe m₁ inst₀ events m inst) :
    exists q₀ q, ((cflDrainAll inst₀).eval qspiFlash m₁).1 = (.empty, q₀) ∧
      AccountedRun q₀ events q ∧
      ((cflDrainAll inst).eval qspiFlash m).1 = (.empty, q) ∧
      (cflGetOccupancy inst).1 = q.length := by
  obtain ⟨R, hholds⟩ := hhistory.holds
  obtain ⟨rfl, ⟨k, hbooted⟩, hsim⟩ := create_exec hholds hcreate
  have hstart : Contains m₁ inst₀ ((joined R inst₀.headSector k).map Rec.payload) :=
    ⟨R, _, hsim, hbooted.session hsim, rfl⟩
  obtain ⟨q, haccount, hcontains⟩ := hrun.contains hstart
  exact ⟨_, q, hstart.drainAll, haccount, hcontains.drainAll, hcontains.count⟩

variable {inst : CflInst} {m : Memory}

theorem SessionRun.scripted {m' : Memory} {inst₁ inst' : CflInst} {call : CflCall}
    {answer : CflAnswer} {events : List (CflCall × CflErr)} (script : List Outcome)
    (hcall : (Program.run qspiFlash script (cflPerform inst call) m).1 = some (answer, inst₁))
    (hrest : SessionRun AnyFaults
      (Program.run qspiFlash script (cflPerform inst call) m).2 inst₁ events m' inst') :
    SessionRun AnyFaults m inst ((call, answer.err) :: events) m' inst' := by
  have hexec := Program.exec_run qspiFlash (cflPerform inst call) script m
    (Program.allowed_always _ _ _ _)
  rw [hcall] at hexec
  exact .call trivial hexec hrest

/-- The instance `cfl_create` answers on an erased device. -/
def freshInst : CflInst :=
  { cflInstZero with metaSlot := 1 }

/-- The instance with `count` records of one byte and the tail behind them. -/
def smallInst (tailSector tailOffset count : Nat) : CflInst :=
  { freshInst with
    tailSector := tailSector
    tailOffset := tailOffset
    nextSeqNum := count
    entryCount := count
    byteCount := count }

/-- The flash after one call under a script of outcomes. -/
def flashAfter (script : List Outcome) (inst : CflInst) (call : CflCall) (m : Memory) : Memory :=
  (Program.run qspiFlash script (cflPerform inst call) m).2

/-- Only the read of the header at the head may fail. -/
def headerReadFails (inst : CflInst) : Faults qspi where
  fails := fun op _ => op = .read (headAddr inst) 12
  cuts := fun _ _ => False

theorem exec_consume_readFailed {F : Faults qspi} {n : Nat} (hcount : inst.entryCount ≠ 0)
    (hfail : F.fails (.read (headAddr inst) 12) n) :
    Program.Exec qspiFlash F (cflPerform inst .consume) m
      (some (codeOnly .flashRead, inst)) m := by
  show Program.Exec qspiFlash F (cflConsumeOldest inst >>= _) m _ m
  unfold cflConsumeOldest
  rw [if_neg hcount]
  exact .failed hfail (.ret _ _)

/-- A consume whose header read failed, after an append: the record is still delivered. -/
theorem harmless_failures_keep_messages_failedRead :
    exists q₀ q, ((cflDrainAll freshInst).eval qspiFlash erasedFlash).1 = (.empty, q₀) ∧
      AccountedRun q₀ [(.append [1], .ok), (.consume, .flashRead)] q ∧
      ((cflDrainAll (smallInst 0 16 1)).eval qspiFlash
        (flashAfter [] freshInst (.append [1]) erasedFlash)).1 = (.empty, q) ∧
      (cflGetOccupancy (smallInst 0 16 1)).1 = q.length := by
  have hcreate := Program.exec_eval qspiFlash (Faults.never qspi) cflCreate erasedFlash
  obtain ⟨inst, heval, _⟩ := create_erased (m := erasedFlash) (fun _ _ _ => rfl)
  have hinst : (cflCreate.eval qspiFlash erasedFlash).1 = some freshInst := by decide +kernel
  rw [heval] at hinst hcreate
  cases hinst
  have happend : (Program.run qspiFlash [] (cflPerform freshInst (.append [1]))
      erasedFlash).1 = some (codeOnly .ok, smallInst 0 16 1) := by decide +kernel
  have hexec := Program.exec_run qspiFlash (F := Faults.always qspi)
    (cflPerform freshInst (.append [1])) [] erasedFlash trivial
  rw [happend] at hexec
  have hsafe : ConsumeSafe (headerReadFails (smallInst 0 16 1))
      (flashAfter [] freshInst (.append [1]) erasedFlash) (smallInst 0 16 1) := by
    intro n hn
    have hlen : cflRecordSize (headerAt (flashAfter [] freshInst (.append [1]) erasedFlash)
        (headAddr (smallInst 0 16 1))).dataLen = 16 := by decide +kernel
    rw [hlen] at hn
    simp [headerReadFails] at hn
  have hfailed : Program.Exec qspiFlash (headerReadFails (smallInst 0 16 1))
      (cflPerform (smallInst 0 16 1) .consume)
      (flashAfter [] freshInst (.append [1]) erasedFlash)
      (some (codeOnly .flashRead, smallInst 0 16 1))
      (flashAfter [] freshInst (.append [1]) erasedFlash) :=
    exec_consume_readFailed (n := 0) (by decide) rfl
  have hconsume : SessionRun CallSafe (flashAfter [] freshInst (.append [1]) erasedFlash)
      (smallInst 0 16 1) [(.consume, (codeOnly .flashRead).err)]
      (flashAfter [] freshInst (.append [1]) erasedFlash) (smallInst 0 16 1) :=
    .call hsafe hfailed (.done _ _)
  have hrun : SessionRun CallSafe erasedFlash freshInst
      [(.append [1], (codeOnly .ok).err), (.consume, (codeOnly .flashRead).err)]
      (flashAfter [] freshInst (.append [1]) erasedFlash) (smallInst 0 16 1) :=
    .call (fun hne => absurd rfl hne) hexec hconsume
  exact harmless_failures_keep_messages (.erased (fun _ _ _ => rfl)) hcreate hrun

/-- A page program that reports a failure after it wrote the whole header costs the next
message: the record it left is delivered in its place. -/
theorem failed_header_loses_message :
    exists m inst events,
      cflCreate.eval qspiFlash erasedFlash = (some freshInst, erasedFlash) ∧
      SessionRun AnyFaults erasedFlash freshInst events m inst ∧
      events = [(.append [1], .ok), (.append [2], .flashWrite), (.append [3], .ok)] ∧
      ((cflDrainAll inst).eval qspiFlash m).1 = (.empty, [[1], [2]]) ∧
      forall q, AccountedRun [] events q -> ((cflDrainAll inst).eval qspiFlash m).1 ≠ (.empty, q) := by
  obtain ⟨inst, hcreate, _⟩ := create_erased (m := erasedFlash) (fun _ _ _ => rfl)
  have hinst : (cflCreate.eval qspiFlash erasedFlash).1 = some freshInst := by decide +kernel
  rw [hcreate] at hinst
  cases hinst
  have hfirst : (Program.run qspiFlash [] (cflPerform freshInst (.append [1]))
      erasedFlash).1 = some (codeOnly .ok, smallInst 0 16 1) := by decide +kernel
  have hsecond : (Program.run qspiFlash [.completed, .completed, .failed 12]
      (cflPerform (smallInst 0 16 1) (.append [2]))
      (flashAfter [] freshInst (.append [1]) erasedFlash)).1 =
      some (codeOnly .flashWrite, smallInst 0 4096 1) := by decide +kernel
  have hthird : (Program.run qspiFlash [] (cflPerform (smallInst 0 4096 1) (.append [3]))
      (flashAfter [.completed, .completed, .failed 12] (smallInst 0 16 1) (.append [2])
        (flashAfter [] freshInst (.append [1]) erasedFlash))).1 =
      some (codeOnly .ok, smallInst 1 16 2) := by decide +kernel
  have hdrain : ((cflDrainAll (smallInst 1 16 2)).eval qspiFlash
      (flashAfter [] (smallInst 0 4096 1) (.append [3])
        (flashAfter [.completed, .completed, .failed 12] (smallInst 0 16 1) (.append [2])
          (flashAfter [] freshInst (.append [1]) erasedFlash)))).1 =
      (.empty, [[1], [2]]) := by decide +kernel
  refine ⟨_, smallInst 1 16 2, _, hcreate, .scripted [] hfirst (.scripted _ hsecond
    (.scripted [] hthird (.done _ _))), rfl, hdrain, ?_⟩
  rintro q ⟨q₁, hone, q₂, htwo, q₃, hthree, rfl⟩
  rcases hone with ⟨_, rfl⟩ | ⟨herr, _⟩
  · rcases htwo with ⟨herr, _⟩ | ⟨_, rfl⟩
    · simp [codeOnly] at herr
    · rcases hthree with ⟨_, rfl⟩ | ⟨herr, _⟩
      · intro hboth
        have hlost := hdrain.symm.trans hboth
        simp at hlost
      · simp [codeOnly] at herr
  · simp [codeOnly] at herr

end EnvMonitor.Gateway.CircularFlashLog
