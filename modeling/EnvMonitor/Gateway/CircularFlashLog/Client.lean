import EnvMonitor.Device.Client
import EnvMonitor.Gateway.CircularFlashLog.Failures

/-!
# The log as a device

The component above the log sees its handle and its four calls.  Here the log is the device
of that component's programs: a state, and the answers a call may give in it under the
flash failures it may meet.
-/

namespace EnvMonitor.Gateway.CircularFlashLog

open Device Drivers
open Program (wp_bind wp_mono wp_returns wp_seq)

/-- The calls of the circular flash log, as an interface. -/
abbrev cflApi : Interface where
  Op := CflCall
  Resp := fun _ => CflAnswer

def cflCall (call : CflCall) : Program cflApi CflAnswer :=
  Program.perform (I := cflApi) call

def CflCall.Removes (call : CflCall) : Prop :=
  call = .consume ∨ call = .drop

/-- An answered call and the instance it found. -/
structure CflEvent where
  inst : CflInst
  call : CflCall
  err : CflErr
  deriving DecidableEq, Repr

/-- The flash, the handle and, latest first, the calls answered since the client's own
call began. -/
structure CflDevice where
  flash : Memory
  inst : CflInst
  calls : List CflEvent

namespace CflDevice

/-- The device behind an answered call. -/
def answered (s : CflDevice) (call : CflCall) (err : CflErr) (flash : Memory)
    (inst : CflInst) : CflDevice where
  flash := flash
  inst := inst
  calls := ⟨s.inst, call, err⟩ :: s.calls

end CflDevice

/-- The log answers a call, under faults that the condition admits. -/
inductive CflApiStep (Safe : Faults qspi -> CflDevice -> CflCall -> Prop) :
    CflDevice -> CflCall -> CflAnswer -> CflDevice -> Prop where
  | answers {F : Faults qspi} {s : CflDevice} {call : CflCall} {answer : CflAnswer}
      {inst' : CflInst} {m' : Memory} :
      Safe F s call ->
      Program.Exec qspiFlash F (cflPerform s.inst call) s.flash (some (answer, inst')) m' ->
      CflApiStep Safe s call answer (s.answered call answer.err m' inst')

/-- Of the calls inside `cfl_advance_head` none fails: only the read of the oldest
record's own header may. -/
def AdvanceSafe (F : Faults qspi) (inst : CflInst) : Prop :=
  forall op n, F.fails op n -> op = .read (headAddr inst) 12

/-- No earlier call of the client's own call has removed a record. -/
def NoneRemoved (calls : List CflEvent) : Prop :=
  forall e, e ∈ calls -> e.call.Removes -> e.err ≠ .ok

/-- The failures that leave a client's held record alone: those harmless to the ring, and,
while the client holds the oldest record, no failure behind its removal. -/
def HeldSafe (held : Bool) (F : Faults qspi) (s : CflDevice) (call : CflCall) : Prop :=
  CallSafe F s.flash s.inst call ∧
    (held = true -> NoneRemoved s.calls -> call.Removes -> AdvanceSafe F s.inst)

section

variable {F : Faults qspi} {m m' : Memory} {R R' : Ring} {inst inst' : CflInst}
variable {q : List (List UInt8)} {r : Rec} {post : List Rec} {out : CflErr × CflInst}

/-!
## Removals that cannot fail halfway
-/

variable {next : CflInst} {previous : Nat} {data : List UInt8}

theorem AdvanceSafe.meta (hsafe : AdvanceSafe F inst) (h : MetaExit F R next (some out) R') :
    out.1 = .ok := by
  cases h with
  | stored => rfl
  | failed _ _ _ _ hfail =>
      rcases hfail with ⟨op, n, hchanges, hn⟩
      rw [hsafe op n hn] at hchanges
      exact hchanges.elim

theorem AdvanceSafe.persist (hsafe : AdvanceSafe F inst)
    (h : PersistExit F R previous next (some out) R') : out.1 = .ok := by
  cases h with
  | same _ => rfl
  | stores _ _ _ hmeta => exact hsafe.meta hmeta

theorem AdvanceSafe.consume (hsafe : AdvanceSafe F inst)
    (h : ConsumeExit F R inst r post (some out) R') :
    out.1 = .ok ∨ (out = (.flashRead, inst) ∧ R' = R) := by
  cases h with
  | readFailed _ => exact .inr ⟨rfl, rfl⟩
  | advances _ _ hadvance =>
      left
      cases hadvance with
      | drains _ _ _ hpersist => exact hsafe.persist hpersist
      | moreFailed _ hfail =>
          exfalso
          rcases hfail with ⟨n, hn⟩
          have hop := hsafe _ n hn
          have haddr := (QspiOp.read.inj hop).1
          have hmin := r.size_ge
          change cflDataSectorAddr inst.headSector + (inst.headOffset + r.size) =
            cflDataSectorAddr inst.headSector + inst.headOffset at haddr
          omega
      | stays _ _ _ _ hpersist => exact hsafe.persist hpersist
      | next _ _ _ _ hpersist => exact hsafe.persist hpersist

theorem Contains.consume_advanceSafe (h : Contains m inst q) (hsafe : ConsumeSafe F m inst)
    (hadvance : AdvanceSafe F inst) :
    (cflConsumeOldest inst).wp qspiFlash F
      (fun out m' => (out.1 = .ok ∧ Contains m' out.2 q.tail) ∨
        (out.1 ≠ .ok ∧ Contains m' out.2 q))
      (fun _ => True) m := by
  rcases h with ⟨R, rs, hsim, hsession, rfl⟩
  cases rs with
  | nil =>
      unfold cflConsumeOldest
      rw [if_pos (hsession.length_zero_iff.mpr rfl)]
      exact .inr ⟨by simp, R, [], hsim, hsession, rfl⟩
  | cons r rest =>
      rcases hsession.nonempty with ⟨hcount, hfull, d, pre, post, hlay⟩
      apply wp_mono _ (fun _ _ => trivial) (wp_cflConsumeOldest hsim hlay.atHead hcount)
      intro out m' hexit
      rcases hexit with ⟨R', hexit, hsim'⟩
      rcases hadvance.consume hexit with hok | ⟨rfl, rfl⟩
      · rcases hsession.consume hsim hfull hlay hsafe hexit with hafter | ⟨herr, _⟩
        · exact .inl ⟨hok, R', rest, hsim', hafter, rfl⟩
        · exact absurd hok herr
      · exact .inr ⟨by simp, R', r :: rest, hsim', hsession, rfl⟩

/-!
## The full ring
-/

theorem MetaExit.ne_full (h : MetaExit F R next (some out) R') : out.1 ≠ .full := by
  cases h with
  | stored => simp
  | failed _ _ herr _ _ =>
      rcases herr with rfl | rfl
      · simp
      · simp

theorem PersistExit.ne_full (h : PersistExit F R previous next (some out) R') : out.1 ≠ .full := by
  cases h with
  | same _ => simp
  | stores _ _ _ hmeta => exact hmeta.ne_full

theorem WriteExit.ne_full (h : WriteExit F R next data (some out) R') : out.1 ≠ .full := by
  cases h with
  | done _ _ => simp
  | failed _ => simp
  | failedDone _ _ _ => simp

theorem AppendExit.of_full (h : AppendExit F R inst data (some out) R') (hfull : out.1 = .full) :
    NeedsSector inst data ∧ RingFull inst ∧ out.2 = inst := by
  cases h with
  | tooLarge _ => cases hfull
  | here _ _ _ _ hwrite => exact absurd hfull hwrite.ne_full
  | full _ hneeds hring => exact ⟨hneeds, hring, rfl⟩
  | eraseFailed _ _ _ _ _ _ => cases hfull
  | advance _ _ _ _ _ _ hwrite => exact absurd hfull hwrite.ne_full
  | moveFailed _ _ _ _ _ _ _ hmove => exact absurd hfull hmove.ne_full
  | moveDone _ _ _ _ _ _ _ _ hwrite => exact absurd hfull hwrite.ne_full

/-!
## What a client relies on
-/

theorem Contains.length_le (h : Contains m inst q) : q.length <= 254 * 256 := by
  rcases h with ⟨R, rs, hsim, hsession, rfl⟩
  rcases hsession.layout with ⟨hnil, _⟩ | ⟨_, d, pre, r, post, hlay⟩
  · simp [hnil]
  · have hsizes := hlay.sizes_le hsim.holds
    have hlen := length_le_sizes rs
    rw [List.length_map]
    omega

theorem Contains.ne_nil_of_full (h : Contains m inst q) (hfull : RingFull inst) : q ≠ [] := by
  intro hnil
  have hcount := h.count
  rw [hnil, List.length_nil] at hcount
  exact hfull.2 hcount

theorem Contains.remove (h : Contains m inst q) (hsafe : ConsumeSafe F m inst) :
    (cflConsumeOldest inst).wp qspiFlash F
      (fun out m' => (q ≠ [] ∧ Contains m' out.2 q.tail) ∨ (out.1 ≠ .ok ∧ Contains m' out.2 q))
      (fun _ => True) m := by
  cases q with
  | nil =>
      have hcount : inst.entryCount = 0 := h.count
      unfold cflConsumeOldest
      rw [if_pos hcount]
      exact .inr ⟨by simp, h⟩
  | cons front rest =>
      apply wp_mono _ (fun _ _ => trivial) (h.consume hsafe)
      intro out m' hexit
      rcases hexit with hafter | hkept
      · exact .inl ⟨by simp, hafter⟩
      · exact .inr hkept

end

section

variable {held : Bool} {s s' : CflDevice} {q : List (List UInt8)} {answer : CflAnswer}

variable {call : CflCall}

theorem CflApiStep.calls {Safe : Faults qspi -> CflDevice -> CflCall -> Prop}
    (h : CflApiStep Safe s call answer s') : s'.calls = ⟨s.inst, call, answer.err⟩ :: s.calls := by
  cases h with
  | answers _ _ => rfl

theorem CflApiStep.append {raw : List UInt8}
    (h : CflApiStep (HeldSafe held) s (.append raw) answer s')
    (hq : Contains s.flash s.inst q) :
    ((answer.err = .ok ∧ Contains s'.flash s'.inst (q ++ [raw])) ∨
      (answer.err ≠ .ok ∧ Contains s'.flash s'.inst q)) ∧
      (answer.err = .full -> NeedsSector s'.inst raw ∧ RingFull s'.inst) := by
  cases h with
  | @answers F _ _ _ _ _ hsafe hexec =>
      constructor
      · rcases wp_returns (wp_cflPerform_safe hq _ hsafe.1) hexec with
          ⟨q', hstep, hafter⟩
        rcases hstep with ⟨hok, rfl⟩ | ⟨herr, rfl⟩
        · exact .inl ⟨hok, hafter⟩
        · exact .inr ⟨herr, hafter⟩
      · rcases hq with ⟨R, rs, hsim, _, _⟩
        have hwp : (cflPerform s.inst (.append raw)).wp qspiFlash F
            (fun out _ => out.1.err = .full -> NeedsSector out.2 raw ∧ RingFull out.2)
            (fun _ => True) s.flash := by
          refine (wp_bind _ _).mpr
            (wp_mono ?_ (fun _ _ => trivial) (wp_cflAppend hsim raw))
          intro out m' hexit hfull
          rcases hexit with ⟨R', hexit, _⟩
          rcases hexit.of_full hfull with ⟨hneeds, hring, hsame⟩
          rw [hsame]
          exact ⟨hneeds, hring⟩
        exact wp_returns hwp hexec

theorem CflApiStep.peek {maxLen : Nat}
    (h : CflApiStep (HeldSafe held) s (.peek maxLen) answer s')
    (hq : Contains s.flash s.inst q) :
    (exists F, Peeked F maxLen q answer) ∧ Contains s'.flash s'.inst q := by
  cases h with
  | @answers F _ _ _ _ _ _ hexec =>
      have hwp : (cflPerform s.inst (.peek maxLen)).wp qspiFlash F
          (fun out m' => Peeked F maxLen q out.1 ∧ out.2 = s.inst ∧ m' = s.flash)
          (fun _ => True) s.flash := by
        refine (wp_bind _ _).mpr
          (wp_mono ?_ (fun _ _ => trivial) (hq.peek maxLen))
        intro out m' hexit
        exact ⟨hexit.1, rfl, hexit.2⟩
      have hpeek := wp_returns hwp hexec
      rcases hpeek with ⟨hpeek, rfl, rfl⟩
      exact ⟨⟨F, hpeek⟩, hq⟩

/-- A removal takes the oldest record; one that answers an error may have taken it too,
unless the client holds it. -/
theorem CflApiStep.remove (h : CflApiStep (HeldSafe held) s call answer s') (hcall : call.Removes)
    (hq : Contains s.flash s.inst q) :
    ((q ≠ [] ∧ Contains s'.flash s'.inst q.tail) ∨
      (answer.err ≠ .ok ∧ Contains s'.flash s'.inst q)) ∧
      (held = true -> NoneRemoved s.calls -> answer.err ≠ .ok ->
        Contains s'.flash s'.inst q) := by
  cases h with
  | @answers F _ _ _ inst' m' hsafe hexec =>
      have hconsume : CallSafe F s.flash s.inst .consume := by
        rcases hcall with rfl | rfl
        · exact hsafe.1
        · exact hsafe.1
      have hexec' : Program.Exec qspiFlash F (cflPerform s.inst .consume) s.flash
          (some (answer, inst')) m' := by
        rcases hcall with rfl | rfl
        · exact hexec
        · exact hexec
      constructor
      · have hwp : (cflPerform s.inst .consume).wp qspiFlash F
            (fun out m' => (q ≠ [] ∧ Contains m' out.2 q.tail) ∨
              (out.1.err ≠ .ok ∧ Contains m' out.2 q)) (fun _ => True) s.flash :=
          wp_seq (hq.remove hconsume) (fun _ _ hexit => hexit)
        exact wp_returns hwp hexec'
      · intro hheld hnone herr
        have hwp : (cflPerform s.inst .consume).wp qspiFlash F
            (fun out m' => (out.1.err = .ok ∧ Contains m' out.2 q.tail) ∨
              (out.1.err ≠ .ok ∧ Contains m' out.2 q)) (fun _ => True) s.flash :=
          wp_seq (hq.consume_advanceSafe hconsume (hsafe.2 hheld hnone hcall))
            (fun _ _ hexit => hexit)
        have hexit := wp_returns hwp hexec'
        rcases hexit with ⟨hok, _⟩ | ⟨_, hkept⟩
        · exact absurd hok herr
        · exact hkept

end

end EnvMonitor.Gateway.CircularFlashLog
