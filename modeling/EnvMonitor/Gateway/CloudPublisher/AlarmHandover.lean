import Mathlib.Algebra.Order.Group.Multiset
import EnvMonitor.Gateway.CloudPublisher.Tasks

/-!
# What becomes of an alarm event

Two invariants hold in every run: the locks are held by the tasks that are in their sections, and
every event the queue took is in the queue, in the hands of one task, or handed over once.  That
the text handed over is the text of the event needs that no task writes the alarm buffer while the
other has a text in it.
-/

namespace EnvMonitor.Gateway.CloudPublisher

open Concurrency

/-!
## Sections
-/

def GatePc.holdsSaf : GatePc -> Bool
  | .enqueue => true
  | .enqueuing => true
  | .enqueued => true
  | _ => false

/-- The payload has not been read to its end. -/
def GatePc.needsText : GatePc -> Bool
  | .enqueued => false
  | _ => true

/-- On the way through `prv_buffer_to_saf`. -/
def GatePc.buffers : GatePc -> Bool
  | .check => false
  | .publish => false
  | .publishing => false
  | _ => true

def DrainPc.holdsSaf : DrainPc -> Bool
  | .handing _ _ g => g.holdsSaf
  | _ => false

def DrainPc.inMqtt : DrainPc -> Bool
  | .handing _ _ g => g == .publishing
  | _ => false

def DrainPc.inSaf : DrainPc -> Bool
  | .handing _ _ g => g == .enqueuing
  | _ => false

/-- The alarm buffer holds a text that this task still has to hand over. -/
def DrainPc.needsText : DrainPc -> Bool
  | .handing _ _ g => g.needsText
  | _ => false

/-- The next step writes the alarm buffer. -/
def DrainPc.serialises : DrainPc -> Bool
  | .received _ => true
  | _ => false

/-- The event taken from the queue and not handed over. -/
def DrainPc.carried : DrainPc -> Multiset AlarmEvent
  | .receive => 0
  | .received ev => {ev}
  | .handing ev _ g => if g.needsText then {ev} else 0

def AlarmPc.holdsLink : AlarmPc -> Bool
  | .draining linkHeld _ => linkHeld
  | .giveLink => true
  | _ => false

def AlarmPc.drain : AlarmPc -> DrainPc
  | .draining _ pc => pc
  | _ => .receive

/-- The queue will be looked at again before the task waits. -/
def AlarmPc.willDrain : AlarmPc -> Bool
  | .waiting => false
  | .giveLink => false
  | _ => true

def ReplayPoint.holdsSaf : ReplayPoint -> Bool
  | .dequeue => true
  | .dequeuing _ => true
  | .publish => true
  | .publishing => true
  | .failed => true
  | .dropping => true
  | .confirm => true
  | .confirming => true
  | .giveLast => true
  | .giveNext => true
  | _ => false

def ReplayPoint.inSaf : ReplayPoint -> Bool
  | .dequeuing _ => true
  | .dropping => true
  | .confirming => true
  | _ => false

def ReplayPoint.inMqtt : ReplayPoint -> Bool
  | .publishing => true
  | .processing => true
  | _ => false

/-- Between the dequeue that found an entry and its confirm. -/
def ReplayPoint.holdsEntry : ReplayPoint -> Bool
  | .dequeuing found => found
  | .publish => true
  | .publishing => true
  | .failed => true
  | .confirm => true
  | _ => false

def PublisherPc.holdsLink : PublisherPc -> Bool
  | .waiting => false
  | .takeLink _ => false
  | .yieldTake _ => false
  | .replaying pc _ => pc.point != .yieldTake
  | _ => true

def PublisherPc.holdsSaf : PublisherPc -> Bool
  | .gate g _ _ _ => g.holdsSaf
  | .flushing pc _ => pc.holdsSaf
  | .replaying pc _ => pc.point.holdsSaf
  | _ => false

def PublisherPc.inSaf : PublisherPc -> Bool
  | .gate g _ _ _ => g == .enqueuing
  | .flushing pc _ => pc.inSaf
  | .replaying pc _ => pc.point.inSaf
  | _ => false

def PublisherPc.inMqtt : PublisherPc -> Bool
  | .gate g _ _ _ => g == .publishing
  | .calling _ _ _ => true
  | .flushing pc _ => pc.inMqtt
  | .replaying pc _ => pc.point.inMqtt
  | _ => false

def PublisherPc.holdsEntry : PublisherPc -> Bool
  | .replaying pc _ => pc.point.holdsEntry
  | _ => false

def PublisherPc.drain : PublisherPc -> DrainPc
  | .flushing pc _ => pc
  | _ => .receive

namespace System

def holdsLink (s : System) : Task -> Bool
  | .alarm => s.alarm.holdsLink
  | .publisher => s.publisher.holdsLink

def holdsSaf (s : System) : Task -> Bool
  | .alarm => s.alarm.drain.holdsSaf
  | .publisher => s.publisher.holdsSaf

def inMqtt (s : System) : Task -> Bool
  | .alarm => s.alarm.drain.inMqtt
  | .publisher => s.publisher.inMqtt

def inSaf (s : System) : Task -> Bool
  | .alarm => s.alarm.drain.inSaf
  | .publisher => s.publisher.inSaf

def drain (s : System) : Task -> DrainPc
  | .alarm => s.alarm.drain
  | .publisher => s.publisher.drain

end System

/-!
## Steps of the gate and of a drain
-/

section Steps

variable {serial : DeviceSerial} {t : Task} {linkHeld : Bool} {s s' : Shared}

/-- The alarm queue, its buffer and the record of the events are as before. -/
structure AlarmSame (s s' : Shared) : Prop where
  queue : s'.alarmQueue = s.alarmQueue
  buf : s'.alarmBuf = s.alarmBuf
  accepted : s'.accepted = s.accepted
  handed : s'.handed = s.handed

theorem AlarmSame.refl (s : Shared) : AlarmSame s s := ⟨rfl, rfl, rfl, rfl⟩

@[simp] theorem handOver_safLock (s : Shared) (item : Option (AlarmEvent × Nat)) :
    (s.handOver item).safLock = s.safLock := by
  cases item <;> rfl

@[simp] theorem handOver_linkLock (s : Shared) (item : Option (AlarmEvent × Nat)) :
    (s.handOver item).linkLock = s.linkLock := by
  cases item <;> rfl

@[simp] theorem handOver_safCalls (s : Shared) (item : Option (AlarmEvent × Nat)) :
    (s.handOver item).safCalls = s.safCalls := by
  cases item <;> rfl

@[simp] theorem handOver_alarmPending (s : Shared) (item : Option (AlarmEvent × Nat)) :
    (s.handOver item).alarmPending = s.alarmPending := by
  cases item <;> rfl

theorem GateStep.saf {item g g'} (h : GateStep t item s g s' g') :
    Moves t s.safLock g.holdsSaf s'.safLock (g'.elim false GatePc.holdsSaf) := by
  cases h with
  | published => rw [handOver_safLock]; exact .stay _ _
  | takeSaf hfree => rw [hfree]; exact .take
  | enqueued => rw [handOver_safLock]; exact .stay _ _
  | giveSaf => exact .give _
  | _ => exact .stay _ _

theorem GateStep.link {item g g'} (h : GateStep t item s g s' g') :
    s'.linkLock = s.linkLock := by
  cases h with
  | published => exact handOver_linkLock _ _
  | enqueued => exact handOver_linkLock _ _
  | _ => rfl

theorem GateStep.pending {item g g'} (h : GateStep t item s g s' g') :
    s'.alarmPending = s.alarmPending := by
  cases h with
  | published => exact handOver_alarmPending _ _
  | enqueued => exact handOver_alarmPending _ _
  | _ => rfl

theorem GateStep.safCalls {item g g'} (h : GateStep t item s g s' g') :
    s'.safCalls = s.safCalls ∨
      g.holdsSaf = true ∧ s'.safCalls = .enqueue t :: s.safCalls := by
  cases h with
  | published => exact Or.inl (handOver_safCalls _ _)
  | enqueued => exact Or.inl (handOver_safCalls _ _)
  | enqueue => exact Or.inr ⟨rfl, rfl⟩
  | _ => exact Or.inl rfl

theorem GateStep.same {g g'} (h : GateStep t none s g s' g') : AlarmSame s s' := by
  cases h with
  | _ => exact ⟨rfl, rfl, rfl, rfl⟩

theorem GateStep.queue {item g g'} (h : GateStep t item s g s' g') :
    s'.alarmQueue = s.alarmQueue ∧ s'.alarmBuf = s.alarmBuf ∧ s'.accepted = s.accepted := by
  cases h with
  | published => cases item <;> exact ⟨rfl, rfl, rfl⟩
  | enqueued => cases item <;> exact ⟨rfl, rfl, rfl⟩
  | _ => exact ⟨rfl, rfl, rfl⟩

theorem GateStep.buffers {item g g'} (h : GateStep t item s g s' (some g'))
    (hbuffers : g.buffers = true) : g'.buffers = true := by
  cases h with
  | linkUp => cases hbuffers
  | linkDown => cases hbuffers
  | publish => cases hbuffers
  | publishFailed => cases hbuffers
  | takeSaf => rfl
  | enqueue => rfl
  | enqueued => rfl

theorem GateStep.handed {ev n g g'} (h : GateStep t (some (ev, n)) s g s' g') :
    s'.handed = s.handed ∧
        g'.elim false GatePc.needsText = g.needsText ∨
      s'.handed = s.handed ++ [(ev, s.alarmBuf.take n)] ∧ g.needsText = true ∧
        g'.elim false GatePc.needsText = false := by
  cases h with
  | published => exact Or.inr ⟨rfl, rfl, rfl⟩
  | enqueued => exact Or.inr ⟨rfl, rfl, rfl⟩
  | _ => exact Or.inl ⟨rfl, rfl⟩

theorem DrainStep.saf {pc pc'} (h : DrainStep serial t linkHeld s pc s' pc') :
    Moves t s.safLock pc.holdsSaf s'.safLock (pc'.elim false DrainPc.holdsSaf) := by
  cases h with
  | empty => exact .stay _ _
  | receive => exact .stay _ _
  | tooLong => exact .stay _ _
  | serialise =>
      cases linkHeld with
      | false => exact .stay _ _
      | true => exact .stay _ _
  | gate hstep => exact hstep.saf
  | handed hstep => exact hstep.saf

theorem DrainStep.link {pc pc'} (h : DrainStep serial t linkHeld s pc s' pc') :
    s'.linkLock = s.linkLock := by
  cases h with
  | gate hstep => exact hstep.link
  | handed hstep => exact hstep.link
  | _ => rfl

theorem DrainStep.pending {pc pc'} (h : DrainStep serial t linkHeld s pc s' pc') :
    s'.alarmPending = s.alarmPending := by
  cases h with
  | gate hstep => exact hstep.pending
  | handed hstep => exact hstep.pending
  | _ => rfl

theorem DrainStep.safCalls {pc pc'} (h : DrainStep serial t linkHeld s pc s' pc') :
    s'.safCalls = s.safCalls ∨
      pc.holdsSaf = true ∧ s'.safCalls = .enqueue t :: s.safCalls := by
  cases h with
  | gate hstep => exact hstep.safCalls
  | handed hstep => exact hstep.safCalls
  | _ => exact Or.inl rfl

theorem DrainStep.returns {pc} (h : DrainStep serial t linkHeld s pc s' none) :
    pc = .receive ∧ s' = s ∧ s.alarmQueue = [] := by
  cases h with
  | empty hempty => exact ⟨rfl, rfl, hempty⟩

theorem DrainStep.queue_sub {pc pc'} (h : DrainStep serial t linkHeld s pc s' pc')
    (hqueue : s'.alarmQueue ≠ []) : s.alarmQueue ≠ [] := by
  cases h with
  | empty => exact hqueue
  | receive hfirst =>
      rw [hfirst]
      exact List.cons_ne_nil _ _
  | tooLong => exact hqueue
  | serialise => exact hqueue
  | gate hstep =>
      rw [← hstep.queue.1]
      exact hqueue
  | handed hstep =>
      rw [← hstep.queue.1]
      exact hqueue

/-- What one task does to the alarms: nothing, or one step of its drain. -/
inductive DrainMove (serial : DeviceSerial) (t : Task) :
    Shared -> DrainPc -> Shared -> DrainPc -> Prop where
  | same {s s' : Shared} (pc : DrainPc) (h : AlarmSame s s') : DrainMove serial t s pc s' pc
  | drain {s s' : Shared} {pc pc'} (linkHeld : Bool) (h : DrainStep serial t linkHeld s pc s' pc') :
      DrainMove serial t s pc s' (pc'.getD .receive)

/-!
## Every event is accounted for
-/

/-- The events handed over, with their number. -/
def Shared.handedEvents (s : Shared) : Multiset AlarmEvent := (s.handed.map Prod.fst : List _)

theorem cpSerialiseAlarm_ne_zero (serial : DeviceSerial) (ev : AlarmEvent) (buf : List UInt8) :
    (cpSerialiseAlarm serial ev buf).2 ≠ 0 := by
  rw [cpSerialiseAlarm_length]
  exact Nat.pos_iff_ne_zero.mp (alarmText_length_pos serial ev)

theorem GateStep.ledger {ev n g g'} (h : GateStep t (some (ev, n)) s g s' g') :
    s'.handedEvents + (if g'.elim false GatePc.needsText then {ev} else 0) =
      s.handedEvents + (if g.needsText then {ev} else 0) := by
  unfold Shared.handedEvents
  rcases h.handed with ⟨hhanded, hneeds⟩ | ⟨hhanded, hbefore, hafter⟩
  · rw [hhanded, hneeds]
  · rw [hhanded, hbefore, hafter]
    simp only [List.map_append, List.map_cons, List.map_nil, Bool.false_eq_true, if_false,
      if_true, add_zero, ← Multiset.coe_add, Multiset.coe_singleton]

theorem DrainStep.ledger {pc pc'} (h : DrainStep serial t linkHeld s pc s' pc') :
    s'.accepted = s.accepted ∧
      s'.handedEvents + pc'.elim 0 DrainPc.carried + (s'.alarmQueue : Multiset AlarmEvent) =
        s.handedEvents + pc.carried + s.alarmQueue := by
  cases h with
  | empty => exact ⟨rfl, rfl⟩
  | @receive ev rest hqueue =>
      refine ⟨rfl, ?_⟩
      change s.handedEvents + {ev} + (rest : Multiset AlarmEvent) =
        s.handedEvents + 0 + s.alarmQueue
      rw [hqueue, ← Multiset.cons_coe, ← Multiset.singleton_add, add_zero, add_assoc]
  | tooLong hlong => exact absurd hlong (cpSerialiseAlarm_ne_zero _ _ _)
  | serialise =>
      cases linkHeld with
      | false => exact ⟨rfl, rfl⟩
      | true => exact ⟨rfl, rfl⟩
  | gate hstep =>
      refine ⟨hstep.queue.2.2, ?_⟩
      have hledger := hstep.ledger
      rw [hstep.queue.1]
      exact congrArg (· + (s.alarmQueue : Multiset AlarmEvent)) hledger
  | handed hstep =>
      refine ⟨hstep.queue.2.2, ?_⟩
      have hledger := hstep.ledger
      rw [hstep.queue.1]
      exact congrArg (· + (s.alarmQueue : Multiset AlarmEvent)) hledger

theorem DrainMove.ledger {pc pc'} (h : DrainMove serial t s pc s' pc') :
    s'.accepted = s.accepted ∧
      s'.handedEvents + pc'.carried + (s'.alarmQueue : Multiset AlarmEvent) =
        s.handedEvents + pc.carried + s.alarmQueue := by
  cases h with
  | same _ hsame =>
      refine ⟨hsame.accepted, ?_⟩
      unfold Shared.handedEvents
      rw [hsame.handed, hsame.queue]
  | drain linkHeld hstep =>
      rename_i pc'
      cases pc' with
      | none => exact hstep.ledger
      | some pc' => exact hstep.ledger

/-!
## The text in the buffer
-/

/-- The buffer holds the text of the event in hand, as long as that is needed. -/
def DrainPc.TextOk (serial : DeviceSerial) (buf : List UInt8) : DrainPc -> Prop
  | .handing ev n g =>
      n = (alarmText serial ev).length ∧ (g.needsText = true -> buf.take n = alarmText serial ev)
  | _ => True

def HandedOk (serial : DeviceSerial) (s : Shared) : Prop :=
  forall h, h ∈ s.handed -> h.2 = alarmText serial h.1

theorem TextOk.of_not_needed {pc : DrainPc} {buf buf' : List UInt8}
    (h : pc.TextOk serial buf) (hneeds : pc.needsText = false) : pc.TextOk serial buf' := by
  cases pc with
  | receive => trivial
  | received => trivial
  | handing ev n g =>
      refine ⟨h.1, fun hneeded => ?_⟩
      rw [show g.needsText = false from hneeds] at hneeded
      cases hneeded

theorem GateStep.text {ev n g g'} (h : GateStep t (some (ev, n)) s g s' g')
    (htext : (DrainPc.handing ev n g).TextOk serial s.alarmBuf) (hhanded : HandedOk serial s) :
    HandedOk serial s' ∧
      forall g'', g' = some g'' -> (DrainPc.handing ev n g'').TextOk serial s'.alarmBuf := by
  rcases h.handed with ⟨hsame, hneeds⟩ | ⟨hnew, hbefore, hafter⟩
  · constructor
    · unfold HandedOk
      rw [hsame]
      exact hhanded
    · intro g'' hg
      rw [hg] at hneeds
      rw [h.queue.2.1]
      exact ⟨htext.1, fun hneeded => htext.2 (hneeds.symm.trans hneeded)⟩
  · constructor
    · intro entry hentry
      rw [hnew, List.mem_append, List.mem_singleton] at hentry
      cases hentry with
      | inl hold => exact hhanded entry hold
      | inr hlast =>
          rw [hlast]
          exact htext.2 hbefore
    · intro g'' hg
      rw [hg] at hafter
      refine ⟨htext.1, fun hneeded => ?_⟩
      rw [show g''.needsText = false from hafter] at hneeded
      cases hneeded

theorem DrainStep.text {pc pc'} (h : DrainStep serial t linkHeld s pc s' pc')
    (htext : pc.TextOk serial s.alarmBuf) (hhanded : HandedOk serial s) :
    HandedOk serial s' ∧ (pc'.getD .receive).TextOk serial s'.alarmBuf := by
  cases h with
  | empty => exact ⟨hhanded, trivial⟩
  | receive => exact ⟨hhanded, trivial⟩
  | tooLong => exact ⟨hhanded, trivial⟩
  | @serialise ev =>
      refine ⟨hhanded, ?_⟩
      refine ⟨cpSerialiseAlarm_length serial ev s.alarmBuf, fun _ => ?_⟩
      rw [cpSerialiseAlarm_length]
      exact cpSerialiseAlarm_take serial ev s.alarmBuf
  | gate hstep => exact ⟨(hstep.text htext hhanded).1, (hstep.text htext hhanded).2 _ rfl⟩
  | handed hstep => exact ⟨(hstep.text htext hhanded).1, trivial⟩

theorem DrainStep.buf {pc pc'} (h : DrainStep serial t linkHeld s pc s' pc')
    (hnot : pc.serialises = false) : s'.alarmBuf = s.alarmBuf := by
  cases h with
  | empty => rfl
  | receive => rfl
  | tooLong => cases hnot
  | serialise => cases hnot
  | gate hstep => exact hstep.queue.2.1
  | handed hstep => exact hstep.queue.2.1

theorem DrainMove.text {pc pc'} (h : DrainMove serial t s pc s' pc')
    (htext : pc.TextOk serial s.alarmBuf) (hhanded : HandedOk serial s) :
    HandedOk serial s' ∧ pc'.TextOk serial s'.alarmBuf := by
  cases h with
  | same _ hsame =>
      unfold HandedOk
      rw [hsame.handed, hsame.buf]
      exact ⟨hhanded, htext⟩
  | drain linkHeld hstep => exact hstep.text htext hhanded

theorem DrainMove.buf {pc pc'} (h : DrainMove serial t s pc s' pc')
    (hnot : pc.serialises = false) : s'.alarmBuf = s.alarmBuf := by
  cases h with
  | same _ hsame => exact hsame.buf
  | drain linkHeld hstep => exact hstep.buf hnot

/-!
## Steps of the two tasks
-/

theorem ReplayStep.saf {pc pc'} (h : ReplayStep s pc s' pc') :
    Moves .publisher s.safLock pc.point.holdsSaf s'.safLock
      (pc'.elim false fun pc => pc.point.holdsSaf) := by
  cases h with
  | takeSaf hat _ _ hfree => rw [hat, hfree]; exact .take
  | giveLast hat => rw [hat]; exact .give _
  | giveNext hat => rw [hat]; exact .give _
  | _ hat => rw [hat]; exact .stay _ _

theorem ReplayStep.link {pc pc'} (h : ReplayStep s pc s' pc') :
    Moves .publisher s.linkLock (pc.point != .yieldTake) s'.linkLock
      (pc'.elim true fun pc => pc.point != .yieldTake) := by
  cases h with
  | yieldGive hat => rw [hat]; exact .give _
  | yieldTake hat hfree => rw [hat, hfree]; exact .take
  | _ hat => rw [hat]; exact .stay _ _

theorem ReplayStep.same {pc pc'} (h : ReplayStep s pc s' pc') : AlarmSame s s' := by
  cases h with
  | _ => exact ⟨rfl, rfl, rfl, rfl⟩

theorem ReplayStep.pending {pc pc'} (h : ReplayStep s pc s' pc') :
    s'.alarmPending = s.alarmPending := by
  cases h with
  | _ => rfl

theorem AlarmStep.drainMove {pc pc'} (h : AlarmStep serial s pc s' pc') :
    DrainMove serial .alarm s pc.drain s' pc'.drain := by
  cases h with
  | wake => exact .same _ ⟨rfl, rfl, rfl, rfl⟩
  | linkDown => exact .same _ (AlarmSame.refl s)
  | linkUp => exact .same _ (AlarmSame.refl s)
  | takeLink => exact .same _ ⟨rfl, rfl, rfl, rfl⟩
  | drain hstep => exact .drain _ hstep
  | drained hstep => exact .drain _ hstep
  | buffered hstep => exact .drain _ hstep
  | giveLink => exact .same _ ⟨rfl, rfl, rfl, rfl⟩

theorem AlarmStep.link {pc pc'} (h : AlarmStep serial s pc s' pc') :
    Moves .alarm s.linkLock pc.holdsLink s'.linkLock pc'.holdsLink := by
  cases h with
  | wake => exact .stay _ _
  | linkDown => exact .stay _ _
  | linkUp => exact .stay _ _
  | takeLink hfree => rw [hfree]; exact .take
  | drain hstep => rw [hstep.link]; exact .stay _ _
  | drained hstep => rw [hstep.link]; exact .stay _ _
  | buffered hstep => rw [hstep.link]; exact .stay _ _
  | giveLink => exact .give _

theorem AlarmStep.saf {pc pc'} (h : AlarmStep serial s pc s' pc') :
    Moves .alarm s.safLock pc.drain.holdsSaf s'.safLock pc'.drain.holdsSaf := by
  cases h with
  | drain hstep => exact hstep.saf
  | drained hstep => exact hstep.saf
  | buffered hstep => exact hstep.saf
  | _ => exact .stay _ _

theorem AlarmStep.safCalls {pc pc'} (h : AlarmStep serial s pc s' pc') :
    s'.safCalls = s.safCalls ∨
      pc.drain.holdsSaf = true ∧ s'.safCalls = .enqueue .alarm :: s.safCalls := by
  cases h with
  | drain hstep => exact hstep.safCalls
  | drained hstep => exact hstep.safCalls
  | buffered hstep => exact hstep.safCalls
  | _ => exact Or.inl rfl

/-- With the link down the alarm task only buffers. -/
def AlarmPc.Shape : AlarmPc -> Prop
  | .draining false (.handing _ _ g) => g.buffers = true
  | _ => True

theorem AlarmStep.shape {pc pc'} (h : AlarmStep serial s pc s' pc') (hshape : pc.Shape) :
    pc'.Shape := by
  cases h with
  | @drain _ _ _ linkHeld hstep =>
      cases linkHeld with
      | true => trivial
      | false =>
          cases hstep with
          | receive => trivial
          | tooLong => trivial
          | serialise => rfl
          | gate hgate => exact hgate.buffers hshape
          | handed => trivial
  | _ => trivial

theorem AlarmPc.Shape.inMqtt {pc : AlarmPc} (h : pc.Shape) (hin : pc.drain.inMqtt = true) :
    pc.holdsLink = true := by
  cases pc with
  | waiting => cases hin
  | check => cases hin
  | takeLink => cases hin
  | giveLink => cases hin
  | draining linkHeld pc =>
      cases linkHeld with
      | true => rfl
      | false =>
          cases pc with
          | receive => cases hin
          | received => cases hin
          | handing ev n g =>
              rw [beq_iff_eq.mp hin] at h
              cases h

theorem PublisherStep.drainMove {pc pc'} (h : PublisherStep serial s pc s' pc') :
    DrainMove serial .publisher s pc.drain s' pc'.drain := by
  cases h with
  | takeLink => exact .same _ ⟨rfl, rfl, rfl, rfl⟩
  | finish => exact .same _ ⟨rfl, rfl, rfl, rfl⟩
  | yieldGive => exact .same _ ⟨rfl, rfl, rfl, rfl⟩
  | yieldTake => exact .same _ ⟨rfl, rfl, rfl, rfl⟩
  | gateStep hstep => exact .same _ hstep.same
  | gateDone hstep => exact .same _ hstep.same
  | drain hstep => exact .drain _ hstep
  | drained hstep => exact .drain _ hstep
  | replayStep hstep => exact .same _ hstep.same
  | replayDone hstep => exact .same _ hstep.same
  | _ => exact .same _ (AlarmSame.refl s)

theorem PublisherStep.pending {pc pc'} (h : PublisherStep serial s pc s' pc') :
    s'.alarmPending = s.alarmPending := by
  cases h with
  | gateStep hstep => exact hstep.pending
  | gateDone hstep => exact hstep.pending
  | drain hstep => exact hstep.pending
  | drained hstep => exact hstep.pending
  | replayStep hstep => exact hstep.pending
  | replayDone hstep => exact hstep.pending
  | _ => rfl

theorem PublisherStep.link {pc pc'} (h : PublisherStep serial s pc s' pc') :
    Moves .publisher s.linkLock pc.holdsLink s'.linkLock pc'.holdsLink := by
  cases h with
  | takeLink hfree => rw [hfree]; exact .take
  | finish => exact .give _
  | yieldGive => exact .give _
  | yieldTake hfree => rw [hfree]; exact .take
  | gateStep hstep => rw [hstep.link]; exact .stay _ _
  | gateDone hstep => rw [hstep.link]; exact .stay _ _
  | drain hstep => rw [hstep.link]; exact .stay _ _
  | drained hstep => rw [hstep.link]; exact .stay _ _
  | replayStep hstep => exact hstep.link
  | replayDone hstep => exact hstep.link
  | _ => exact .stay _ _

theorem PublisherStep.saf {pc pc'} (h : PublisherStep serial s pc s' pc') :
    Moves .publisher s.safLock pc.holdsSaf s'.safLock pc'.holdsSaf := by
  cases h with
  | gateStep hstep => exact hstep.saf
  | gateDone hstep => exact hstep.saf
  | drain hstep => exact hstep.saf
  | drained hstep => exact hstep.saf
  | replayStep hstep => exact hstep.saf
  | replayDone hstep => exact hstep.saf
  | _ => exact .stay _ _

/-!
## Dequeue and confirm
-/

/-- Every confirm comes right after the dequeue of its entry. -/
def ConfirmsFollow : List SafCall -> Prop
  | [] => True
  | .confirm :: calls => calls.head? = some (.dequeue true) ∧ ConfirmsFollow calls
  | _ :: calls => ConfirmsFollow calls

/-- While an entry is held, its dequeue is the last call. -/
structure Replayed (calls : List SafCall) (holdsEntry : Bool) : Prop where
  confirms : ConfirmsFollow calls
  last : holdsEntry = true -> calls.head? = some (.dequeue true)

theorem Replayed.of_not_held {calls : List SafCall} (h : ConfirmsFollow calls) :
    Replayed calls false :=
  ⟨h, fun hheld => by cases hheld⟩

theorem ReplayStep.replayed {pc pc'} (h : ReplayStep s pc s' pc')
    (hreplayed : Replayed s.safCalls pc.point.holdsEntry) :
    Replayed s'.safCalls (pc'.elim false fun pc => pc.point.holdsEntry) := by
  cases h with
  | dequeue hat found =>
      refine ⟨hreplayed.confirms, fun hheld => ?_⟩
      cases found with
      | true => rfl
      | false => cases hheld
  | dequeued hat => rw [hat] at hreplayed; exact ⟨hreplayed.confirms, fun _ => hreplayed.last rfl⟩
  | publish hat => rw [hat] at hreplayed; exact ⟨hreplayed.confirms, fun _ => hreplayed.last rfl⟩
  | published hat => rw [hat] at hreplayed; exact ⟨hreplayed.confirms, fun _ => hreplayed.last rfl⟩
  | publishFailed hat =>
      rw [hat] at hreplayed
      exact ⟨hreplayed.confirms, fun _ => hreplayed.last rfl⟩
  | drop hat =>
      rw [hat] at hreplayed
      exact .of_not_held ⟨hreplayed.last rfl, hreplayed.confirms⟩
  | confirm hat =>
      rw [hat] at hreplayed
      exact .of_not_held ⟨hreplayed.last rfl, hreplayed.confirms⟩
  | _ => exact .of_not_held hreplayed.confirms

theorem GateStep.confirms {item g g'} (h : GateStep t item s g s' g')
    (hconfirms : ConfirmsFollow s.safCalls) : ConfirmsFollow s'.safCalls := by
  rcases h.safCalls with hsame | ⟨_, hnew⟩
  · rw [hsame]
    exact hconfirms
  · rw [hnew]
    exact hconfirms

theorem DrainStep.confirms {pc pc'} (h : DrainStep serial t linkHeld s pc s' pc')
    (hconfirms : ConfirmsFollow s.safCalls) : ConfirmsFollow s'.safCalls := by
  rcases h.safCalls with hsame | ⟨_, hnew⟩
  · rw [hsame]
    exact hconfirms
  · rw [hnew]
    exact hconfirms

theorem PublisherStep.replayed {pc pc'} (h : PublisherStep serial s pc s' pc')
    (hreplayed : Replayed s.safCalls pc.holdsEntry) : Replayed s'.safCalls pc'.holdsEntry := by
  cases h with
  | gateStep hstep => exact .of_not_held (hstep.confirms hreplayed.confirms)
  | gateDone hstep => exact .of_not_held (hstep.confirms hreplayed.confirms)
  | drain hstep => exact .of_not_held (hstep.confirms hreplayed.confirms)
  | drained hstep => exact .of_not_held (hstep.confirms hreplayed.confirms)
  | replayStep hstep => exact hstep.replayed hreplayed
  | replayDone hstep => exact hstep.replayed hreplayed
  | _ => exact .of_not_held hreplayed.confirms

theorem holdsSaf_of_holdsEntry {pc : PublisherPc} (h : pc.holdsEntry = true) :
    pc.holdsSaf = true := by
  cases pc with
  | replaying pc todo =>
      rcases pc with ⟨point, sent, bytes⟩
      cases point with
      | dequeuing => rfl
      | publish => rfl
      | publishing => rfl
      | failed => rfl
      | confirm => rfl
      | _ => cases h
  | _ => cases h

end Steps

end EnvMonitor.Gateway.CloudPublisher
