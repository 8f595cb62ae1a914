import EnvMonitor.Concurrency.Mailbox
import EnvMonitor.FieldDevice.ConsoleLines
import Mathlib.Order.MinMax

/-!
# Which lines the field device's console reads
-/

namespace EnvMonitor.FieldDevice.Console

open Concurrency (takenFrom mem_takenFrom takenFrom_sorted last_mem_takenFrom takenFrom_put
  takenFrom_take)

/-!
## Interrupts
-/

theorem received_append (typed : List (Option UInt8)) (byte : Option UInt8) :
    received (typed ++ [byte]) = received typed ++ byte.toList := by
  unfold received
  rw [List.filterMap_append]
  cases byte <;> rfl

/-- What the driver keeps of a line. -/
structure Kept (text kept : List UInt8) (cut : Bool) : Prop where
  bytes : kept = text.take debugUartLineMaxLen
  cut_iff : cut = true ↔ debugUartLineMaxLen < text.length

theorem Kept.nil : Kept [] [] false where
  bytes := rfl
  cut_iff := iff_of_false (fun h => nomatch h) (by decide)

variable {cut : Bool} {kept text : List UInt8}

theorem Kept.eq_nil_iff (h : Kept text kept cut) : kept = [] ↔ text = [] := by
  rw [h.bytes, List.take_eq_nil_iff]
  exact or_iff_right (by decide)

theorem Kept.length_lt_iff (h : Kept text kept cut) :
    kept.length < debugUartLineMaxLen ↔ text.length < debugUartLineMaxLen := by
  rw [h.bytes, List.length_take]
  exact min_lt_iff.trans (or_iff_right (lt_irrefl _))

theorem Kept.whole (h : Kept text kept false) :
    text.length ≤ debugUartLineMaxLen ∧ kept = text := by
  have hle : text.length ≤ debugUartLineMaxLen := by
    apply Nat.le_of_not_lt
    intro hlt
    cases h.cut_iff.mpr hlt
  exact ⟨hle, h.bytes.trans (List.take_of_length_le hle)⟩

theorem Kept.answersYes (h : Kept text kept cut) :
    Console.answersYes kept = Console.answersYes text := by
  rw [h.bytes]
  cases text <;> rfl

theorem Kept.append (h : Kept text kept cut) (hlt : kept.length < debugUartLineMaxLen)
    (byte : UInt8) : Kept (text ++ [byte]) (kept ++ [byte]) cut := by
  have hlen := h.length_lt_iff.mp hlt
  have hsnoc : (text ++ [byte]).length = text.length + 1 := List.length_append
  constructor
  · rw [h.bytes, List.take_of_length_le (Nat.le_of_lt hlen),
      List.take_of_length_le (by rw [hsnoc]; exact hlen)]
  · rw [h.cut_iff, hsnoc]
    exact iff_of_false (Nat.not_lt.mpr (Nat.le_of_lt hlen)) (Nat.not_lt.mpr hlen)

theorem Kept.drop (h : Kept text kept cut) (hge : ¬kept.length < debugUartLineMaxLen) (byte : UInt8)
    : Kept (text ++ [byte]) kept true := by
  have hlen : debugUartLineMaxLen ≤ text.length :=
    Nat.le_of_not_lt fun hlt => hge (h.length_lt_iff.mpr hlt)
  constructor
  · rw [h.bytes, List.take_append_of_le_length hlen]
  · rw [List.length_append]
    exact iff_of_true rfl (Nat.lt_succ_of_le hlen)

/-- The driver has the line in progress and, if there is one to read, the last completed line. -/
structure Buffers (s : Recorded) : Prop where
  accum : Kept (received s.typed) s.task.uart.rxAccum s.task.uart.rxOverflow
  ready : s.task.uart.rxReadyFlag = true ->
    exists line, s.lines.getLast? = some line ∧
      Kept line.text s.task.uart.rxReady s.task.uart.rxReadyTruncated

/-!
## Invariant
-/

/-- The task is between a wait and the read behind it. -/
def Reading : LinesAt -> Prop
  | .woken | .notified _ => True
  | _ => False

/-- What a prompt that found no notification can rely on: an unread line was completed after it was
issued, and a notification is about such a line. -/
structure Fresh (p : Prompt) (lines : Nat) (t : ConsoleTask) : Prop where
  le : p.linesBefore ≤ lines
  ready : t.uart.rxReadyFlag = true -> p.linesBefore < lines
  at_ : match t.taskAt with
    | .prompted _ => p.issuedAt ≤ t.now ∧ (t.notification = true -> t.uart.rxReadyFlag = true)
    | .confirming _ since =>
        p.issuedAt ≤ since ∧ (t.notification = true -> t.uart.rxReadyFlag = true)
    | .notified _ => t.uart.rxReadyFlag = true
    | _ => True

structure LinesInv (s : Recorded) : Prop where
  buffers : Buffers s
  numbers : s.numbers = takenFrom (s.lines.map Line.early) s.task.uart.rxReadyFlag
  uses : forall n use, (n, use) ∈ s.taken ->
    exists line, s.lines[n]? = some line ∧ UseOf line.text use
  notified : ¬Reading s.task.taskAt -> s.task.uart.rxReadyFlag = true ->
    s.task.notification = true
  fresh : forall p, s.prompt = some p -> p.leftover = false -> Fresh p s.lines.length s.task
  ended : forall p e, (p, e) ∈ s.ended -> p.leftover = false -> Answered s.taken p e

theorem Answered.append {taken : List (Nat × Use)} {p : Prompt} {e : PromptEnd}
    (h : Answered taken p e) (new : Nat × Use) : Answered (taken ++ [new]) p e := by
  cases e with
  | line number yes => exact ⟨h.1, List.mem_append_left [new] h.2⟩
  | timedOut time => exact h
  | noLine => exact h

theorem LinesInv.start : LinesInv recordedStart where
  buffers := ⟨.nil, fun h => nomatch h⟩
  numbers := rfl
  uses _ _ h := nomatch h
  notified _ h := nomatch h
  fresh _ h := nomatch h
  ended _ _ h := nomatch h

section

variable {s : Recorded}

theorem LinesInv.early_eq (hinv : LinesInv s) :
    decide (s.lines ≠ [] ∧ s.lines.length - 1 ∉ s.numbers) = s.task.uart.rxReadyFlag := by
  rcases List.eq_nil_or_concat' s.lines with hnil | ⟨front, last, hlines⟩
  · have hflag : s.task.uart.rxReadyFlag = false := by
      cases hready : s.task.uart.rxReadyFlag with
      | false => rfl
      | true =>
          rcases hinv.buffers.ready hready with ⟨line, hlast, _⟩
          rw [hnil] at hlast
          cases hlast
    rw [hflag]
    exact decide_eq_false fun h => h.1 hnil
  · have hne : s.lines ≠ [] := by
      rw [hlines]
      exact List.append_ne_nil_of_right_ne_nil front (List.cons_ne_nil last [])
    have hlast := last_mem_takenFrom s.task.uart.rxReadyFlag
      (fun h => hne (List.map_eq_nil_iff.mp h) : s.lines.map Line.early ≠ [])
    rw [List.length_map, ← hinv.numbers] at hlast
    cases hready : s.task.uart.rxReadyFlag with
    | false =>
        rw [hready] at hlast
        exact decide_eq_false fun h => h.2 (hlast.mpr rfl)
    | true =>
        rw [hready] at hlast
        exact decide_eq_true ⟨hne, fun h => Bool.noConfusion (hlast.mp h)⟩

theorem LinesInv.gathers (hinv : LinesInv s) (typed : List (Option UInt8)) (u : DebugUart)
    (hbuffers : Kept (received typed) u.rxAccum u.rxOverflow)
    (hready : u.rxReady = s.task.uart.rxReady)
    (htruncated : u.rxReadyTruncated = s.task.uart.rxReadyTruncated)
    (hflag : u.rxReadyFlag = s.task.uart.rxReadyFlag) :
    LinesInv { s with typed := typed, task := { s.task with uart := u } } where
  buffers := by
    refine ⟨hbuffers, ?_⟩
    change u.rxReadyFlag = true -> exists line, _ ∧ Kept _ u.rxReady u.rxReadyTruncated
    rw [hready, htruncated, hflag]
    exact hinv.buffers.ready
  numbers := by
    change s.numbers = takenFrom _ u.rxReadyFlag
    rw [hflag]
    exact hinv.numbers
  uses := hinv.uses
  notified hat hu := hinv.notified hat (hflag.symm.trans hu)
  fresh p hp hleft := by
    have h := hinv.fresh p hp hleft
    have hat := h.at_
    refine ⟨h.le, fun hu => h.ready (hflag.symm.trans hu), ?_⟩
    change match s.task.taskAt with
      | .prompted _ =>
          p.issuedAt ≤ s.task.now ∧ (s.task.notification = true -> u.rxReadyFlag = true)
      | .confirming _ since =>
          p.issuedAt ≤ since ∧ (s.task.notification = true -> u.rxReadyFlag = true)
      | .notified _ => u.rxReadyFlag = true
      | _ => True
    rw [hflag]
    exact hat
  ended := hinv.ended

theorem LinesInv.completes (hinv : LinesInv s) :
    LinesInv { s with
      typed := []
      lines := s.lines ++ [⟨s.typed, decide (s.lines ≠ [] ∧ s.lines.length - 1 ∉ s.numbers)⟩]
      task := { s.task with
        uart :=
          { rxReady := s.task.uart.rxAccum
            rxReadyTruncated := s.task.uart.rxOverflow
            rxReadyFlag := true
            rxAccum := []
            rxOverflow := false }
        notification := true } } where
  buffers := ⟨.nil, fun _ => ⟨_, List.getLast?_concat, hinv.buffers.accum⟩⟩
  numbers := by
    change s.numbers = takenFrom (List.map Line.early (s.lines ++ [_])) true
    rw [hinv.early_eq, List.map_append]
    exact hinv.numbers.trans takenFrom_put.symm
  uses n use hmem := by
    rcases hinv.uses n use hmem with ⟨line, hget, huse⟩
    exact ⟨line, List.getElem?_append_left (List.getElem?_eq_some_iff.mp hget).1 ▸ hget, huse⟩
  notified _ _ := rfl
  fresh p hp hleft := by
    have h := hinv.fresh p hp hleft
    have hlt (line : Line) : p.linesBefore < (s.lines ++ [line]).length := by
      rw [List.length_append]
      exact Nat.lt_succ_of_le h.le
    refine ⟨Nat.le_of_lt (hlt _), fun _ => hlt _, ?_⟩
    have hat := h.at_
    change match s.task.taskAt with
      | .prompted _ => p.issuedAt ≤ s.task.now ∧ (true = true -> true = true)
      | .confirming _ since => p.issuedAt ≤ since ∧ (true = true -> true = true)
      | .notified _ => true = true
      | _ => True
    split
    · next heq =>
        rw [heq] at hat
        exact ⟨hat.1, fun _ => rfl⟩
    · next heq =>
        rw [heq] at hat
        exact ⟨hat.1, fun _ => rfl⟩
    · rfl
    · trivial
  ended := hinv.ended

theorem LinesInv.isr_step (hinv : LinesInv s) (sr : Usart3Status) :
    LinesInv (s.step (.isr sr)) := by
  have haccum := hinv.buffers.accum
  cases sr with
  | error =>
      change LinesInv { s with
        typed := s.typed ++ [none]
        task := { s.task with notification := s.task.notification || false } }
      rw [Bool.or_false]
      refine hinv.gathers (s.typed ++ [none]) s.task.uart ?_ rfl rfl rfl
      rw [received_append]
      exact (List.append_nil _).symm ▸ haccum
  | spurious =>
      change LinesInv { s with
        task := { s.task with notification := s.task.notification || false } }
      rw [Bool.or_false]
      exact hinv
  | rxne byte =>
      change LinesInv { s.type (.rxne byte) with
        task := { s.task with
          uart := (usart3IrqHandler (.rxne byte) s.task.uart).2
          notification :=
            s.task.notification || (usart3IrqHandler (.rxne byte) s.task.uart).1 } }
      unfold Recorded.type usart3IrqHandler
      dsimp only
      split
      · by_cases hnil : received s.typed = []
        · have hkept := haccum.eq_nil_iff.mpr hnil
          rw [if_pos hnil, if_neg (by rw [hkept]; exact Nat.lt_irrefl 0), Bool.or_false]
          rw [hnil] at haccum
          exact hinv.gathers [] s.task.uart haccum rfl rfl rfl
        · have hkept : 0 < s.task.uart.rxAccum.length :=
            List.length_pos_iff.mpr fun h => hnil (haccum.eq_nil_iff.mp h)
          rw [if_neg hnil, if_pos hkept, Bool.or_true]
          exact hinv.completes
      · by_cases hlt : s.task.uart.rxAccum.length < debugUartLineMaxLen
        · rw [if_pos hlt, Bool.or_false]
          refine hinv.gathers (s.typed ++ [some byte])
            { s.task.uart with rxAccum := s.task.uart.rxAccum ++ [byte] } ?_ rfl rfl rfl
          rw [received_append]
          exact haccum.append hlt byte
        · rw [if_neg hlt, Bool.or_false]
          refine hinv.gathers (s.typed ++ [some byte])
            { s.task.uart with rxOverflow := true } ?_ rfl rfl rfl
          rw [received_append]
          exact haccum.drop hlt byte

theorem LinesInv.tick_step (hinv : LinesInv s) : LinesInv (s.step .tick) where
  buffers := ⟨hinv.buffers.accum, hinv.buffers.ready⟩
  numbers := hinv.numbers
  uses := hinv.uses
  notified := hinv.notified
  fresh p hp hleft := by
    have h := hinv.fresh p hp hleft
    refine ⟨h.le, h.ready, ?_⟩
    have hat := h.at_
    change match s.task.taskAt with
      | .prompted _ =>
          p.issuedAt ≤ s.task.now + 1 ∧
            (s.task.notification = true -> s.task.uart.rxReadyFlag = true)
      | .confirming _ since =>
          p.issuedAt ≤ since ∧
            (s.task.notification = true -> s.task.uart.rxReadyFlag = true)
      | .notified _ => s.task.uart.rxReadyFlag = true
      | _ => True
    cases heq : s.task.taskAt with
    | prompted =>
        rw [heq] at hat
        exact ⟨Nat.le_succ_of_le hat.1, hat.2⟩
    | confirming | notified =>
        rw [heq] at hat
        exact hat
    | waiting | woken | executing | applying => trivial
  ended := hinv.ended

/-!
## Task
-/

variable {ok : Bool} {p : Pending}

theorem step_quiet (huse : usedFor s.task = none) (hissues : issues s.task = false)
    (hend : promptEnd (s.lines.length - 1) s.task = none) :
    s.step (.task ok) = { s with task := taskStep ok s.task } := by
  unfold Recorded.step
  dsimp only
  rw [huse, hissues, hend]
  cases s.prompt <;> rfl

theorem LinesInv.moves (hinv : LinesInv s) (t : ConsoleTask) (prompt : Option Prompt)
    (ended : List (Prompt × PromptEnd)) (huart : t.uart = s.task.uart)
    (hnotified : ¬Reading t.taskAt -> s.task.uart.rxReadyFlag = true -> t.notification = true)
    (hfresh : forall p, prompt = some p -> p.leftover = false -> Fresh p s.lines.length t)
    (hended : forall p e, (p, e) ∈ ended -> p.leftover = false -> Answered s.taken p e) :
    LinesInv { s with task := t, prompt := prompt, ended := ended } where
  buffers := by
    refine ⟨?_, ?_⟩
    · change Kept _ t.uart.rxAccum t.uart.rxOverflow
      rw [huart]
      exact hinv.buffers.accum
    · change t.uart.rxReadyFlag = true ->
        exists line, _ ∧ Kept _ t.uart.rxReady t.uart.rxReadyTruncated
      rw [huart]
      exact hinv.buffers.ready
  numbers := by
    change s.numbers = takenFrom _ t.uart.rxReadyFlag
    rw [huart]
    exact hinv.numbers
  uses := hinv.uses
  notified hat hu := hnotified hat (huart ▸ hu)
  fresh := hfresh
  ended := hended

theorem LinesInv.reads (hinv : LinesInv s) (hflag : s.task.uart.rxReadyFlag = true)
    (t : ConsoleTask) (use : Use) (prompt : Option Prompt) (ended : List (Prompt × PromptEnd))
    (huart : t.uart = (debugUartReadLine s.task.uart).2)
    (huse : forall line, s.lines.getLast? = some line ->
      Kept line.text s.task.uart.rxReady s.task.uart.rxReadyTruncated -> UseOf line.text use)
    (hfresh : forall p, prompt = some p -> p.leftover = false -> Fresh p s.lines.length t)
    (hended : forall p e, (p, e) ∈ ended -> p.leftover = false ->
      Answered (s.taken ++ [(s.lines.length - 1, use)]) p e) :
    LinesInv { s with
      task := t
      taken := s.taken ++ [(s.lines.length - 1, use)]
      prompt := prompt
      ended := ended } := by
  have hread : t.uart =
      { s.task.uart with rxReadyFlag := false, rxReadyTruncated := false } := by
    rw [huart]
    unfold debugUartReadLine
    rw [if_pos hflag]
  have hcleared : t.uart.rxReadyFlag = false := by
    rw [hread]
  rcases hinv.buffers.ready hflag with ⟨line, hlast, hkept⟩
  have hget : s.lines[s.lines.length - 1]? = some line :=
    List.getLast?_eq_getElem?.symm.trans hlast
  constructor
  · constructor
    · change Kept _ t.uart.rxAccum t.uart.rxOverflow
      rw [hread]
      exact hinv.buffers.accum
    · intro h
      rw [hcleared] at h
      cases h
  · change List.map Prod.fst (s.taken ++ [_]) = takenFrom _ t.uart.rxReadyFlag
    have hne : s.lines.map Line.early ≠ [] := by
      intro h
      rw [List.map_eq_nil_iff.mp h] at hlast
      cases hlast
    have hnumbers := hinv.numbers
    rw [hflag] at hnumbers
    rw [hcleared, takenFrom_take hne, List.length_map, List.map_append, ← hnumbers]
    rfl
  · intro n use' hmem
    rcases List.mem_append.mp hmem with hold | hnew
    · exact hinv.uses n use' hold
    · cases List.mem_singleton.mp hnew
      exact ⟨line, hget, huse line hlast hkept⟩
  · intro _ h
    rw [hcleared] at h
    cases h
  · exact hfresh
  · exact hended

theorem LinesInv.moves_on (hinv : LinesInv s) (huse : usedFor s.task = none)
    (hissues : issues s.task = false) (hend : promptEnd (s.lines.length - 1) s.task = none)
    (huart : (taskStep ok s.task).uart = s.task.uart)
    (hnotified : ¬Reading (taskStep ok s.task).taskAt -> s.task.uart.rxReadyFlag = true ->
      (taskStep ok s.task).notification = true) (hat : forall p, Fresh p s.lines.length s.task ->
      match (taskStep ok s.task).taskAt with
      | .prompted _ | .confirming _ _ | .notified _ =>
          Fresh p s.lines.length (taskStep ok s.task)
      | _ => True) : LinesInv (s.step (.task ok)) := by
  rw [step_quiet huse hissues hend]
  refine hinv.moves (taskStep ok s.task) s.prompt s.ended huart hnotified ?_ hinv.ended
  intro p hp hleft
  have h := hinv.fresh p hp hleft
  have hgoal := hat p h
  have hready : (taskStep ok s.task).uart.rxReadyFlag = true -> p.linesBefore < s.lines.length :=
    fun hu => h.ready (huart ▸ hu)
  cases heq : (taskStep ok s.task).taskAt with
  | prompted | confirming | notified =>
      rw [heq] at hgoal
      exact hgoal
  | waiting | woken | executing | applying =>
      refine ⟨h.le, hready, ?_⟩
      rw [heq]
      trivial

theorem LinesInv.waiting_step (hinv : LinesInv s) (ok : Bool) (hat : s.task.taskAt = .waiting) :
    LinesInv (s.step (.task ok)) := by
  have hstep : taskStep ok s.task =
      if s.task.notification then { s.task with notification := false, taskAt := .woken }
      else s.task := by
    unfold taskStep
    rw [hat]
  have hquiet : usedFor s.task = none ∧ issues s.task = false ∧
      promptEnd (s.lines.length - 1) s.task = none := by
    unfold usedFor issues promptEnd
    rw [hat]
    exact ⟨rfl, rfl, rfl⟩
  rcases hquiet with ⟨huse, hissues, hend⟩
  by_cases hnotification : s.task.notification = true
  · rw [if_pos hnotification] at hstep
    apply hinv.moves_on huse hissues hend <;> rw [hstep]
    · exact fun h => absurd trivial h
    · exact fun _ _ => trivial
  · rw [if_neg hnotification] at hstep
    apply hinv.moves_on huse hissues hend <;> rw [hstep]
    · exact hinv.notified
    · intro p _
      rw [hat]
      trivial

theorem LinesInv.executing_step (hinv : LinesInv s) (ok : Bool) {argv : List (List UInt8)}
    (hat : s.task.taskAt = .executing argv) : LinesInv (s.step (.task ok)) := by
  have hnotified := hinv.notified (by rw [hat]; exact id)
  by_cases hissues : issues s.task = true
  · -- the prompt of a commit
    have hcommit : exists p, dispatch argv = .commit p ∧ s.task.dirty p = true := by
      unfold issues at hissues
      rw [hat] at hissues
      dsimp only at hissues
      split at hissues
      · next p hp => exact ⟨p, hp, hissues⟩
      · cases hissues
    rcases hcommit with ⟨p, hp, hdirty⟩
    have hstep : taskStep ok s.task = { s.task with taskAt := .prompted p } := by
      unfold taskStep
      rw [hat]
      dsimp only
      rw [hp]
      dsimp only
      rw [if_pos hdirty]
    have huse : usedFor s.task = none ∧ promptEnd (s.lines.length - 1) s.task = none := by
      unfold usedFor promptEnd
      rw [hat]
      exact ⟨rfl, rfl⟩
    have hrecord : s.step (.task ok) =
        { s with
          task := { s.task with taskAt := .prompted p }
          prompt := some ⟨s.task.now, s.lines.length, s.task.notification⟩ } := by
      unfold Recorded.step
      dsimp only
      rw [huse.1, huse.2, if_pos hissues, hstep]
      cases s.prompt <;> rfl
    rw [hrecord]
    refine hinv.moves _ _ s.ended rfl (fun _ => hnotified) ?_ hinv.ended
    intro q hq hleft
    cases hq
    change s.task.notification = false at hleft
    have hflag : ¬s.task.uart.rxReadyFlag = true := by
      intro h
      rw [hnotified h] at hleft
      cases hleft
    refine ⟨Nat.le_refl _, fun h => absurd h hflag, Nat.le_refl _, fun h => ?_⟩
    change s.task.notification = true at h
    rw [hleft] at h
    cases h
  · have hquiet : usedFor s.task = none ∧ promptEnd (s.lines.length - 1) s.task = none := by
      unfold usedFor promptEnd
      rw [hat]
      exact ⟨rfl, rfl⟩
    have hwaits : (taskStep ok s.task).uart = s.task.uart ∧
        (taskStep ok s.task).notification = s.task.notification ∧
        (taskStep ok s.task).taskAt = .waiting := by
      unfold issues at hissues
      rw [hat] at hissues
      dsimp only at hissues
      unfold taskStep
      rw [hat]
      dsimp only
      cases hdispatch : dispatch argv with
      | commit p =>
          rw [hdispatch] at hissues
          dsimp only at hissues ⊢
          rw [if_neg hissues]
          exact ⟨rfl, rfl, rfl⟩
      | set | discard | other => exact ⟨rfl, rfl, rfl⟩
    rcases hwaits with ⟨huart, hnotification, hwaiting⟩
    apply hinv.moves_on hquiet.1 (Bool.eq_false_iff.mpr hissues) hquiet.2 huart
    · rw [hnotification]
      exact fun _ => hnotified
    · intro p _
      rw [hwaiting]
      trivial

theorem LinesInv.prompted_step (hinv : LinesInv s) (ok : Bool) (hat : s.task.taskAt = .prompted p) :
    LinesInv (s.step (.task ok)) := by
  have hstep : taskStep ok s.task = { s.task with taskAt := .confirming p s.task.now } := by
    unfold taskStep
    rw [hat]
  have hquiet : usedFor s.task = none ∧ issues s.task = false ∧
      promptEnd (s.lines.length - 1) s.task = none := by
    unfold usedFor issues promptEnd
    rw [hat]
    exact ⟨rfl, rfl, rfl⟩
  rcases hquiet with ⟨huse, hissues, hend⟩
  apply hinv.moves_on huse hissues hend <;> rw [hstep]
  · exact fun _ => hinv.notified (by rw [hat]; exact id)
  · intro q hq
    have hat' := hq.at_
    rw [hat] at hat'
    exact ⟨hq.le, hq.ready, hat'⟩

theorem LinesInv.confirming_step (hinv : LinesInv s) (ok : Bool) {since : Nat}
    (hat : s.task.taskAt = .confirming p since) : LinesInv (s.step (.task ok)) := by
  have hnotified := hinv.notified (by rw [hat]; exact id)
  have hquiet : usedFor s.task = none ∧ issues s.task = false := by
    unfold usedFor issues
    rw [hat]
    exact ⟨rfl, rfl⟩
  have hend : promptEnd (s.lines.length - 1) s.task =
      if s.task.notification then none
      else if since + csConfirmMs ≤ s.task.now then some (.timedOut s.task.now)
      else none := by
    unfold promptEnd
    rw [hat]
  have hstep : taskStep ok s.task =
      if s.task.notification then
        { s.task with notification := false, taskAt := .notified p }
      else if since + csConfirmMs ≤ s.task.now then s.task.clear p
      else s.task := by
    unfold taskStep
    rw [hat]
  by_cases hnotification : s.task.notification = true
  · rw [if_pos hnotification] at hend hstep
    apply hinv.moves_on hquiet.1 hquiet.2 hend <;> rw [hstep]
    · exact fun h => absurd trivial h
    · intro q hq
      have hat' := hq.at_
      rw [hat] at hat'
      exact ⟨hq.le, hq.ready, hat'.2 hnotification⟩
  · rw [if_neg hnotification] at hend hstep
    by_cases hlate : since + csConfirmMs ≤ s.task.now
    · -- the time-out
      rw [if_pos hlate] at hend hstep
      have hrecord : s.step (.task ok) =
          { s with
            task := s.task.clear p
            prompt := none
            ended :=
              match s.prompt with
              | some q => s.ended ++ [(q, .timedOut s.task.now)]
              | none => s.ended } := by
        unfold Recorded.step
        dsimp only
        rw [hquiet.1, hquiet.2, hend, hstep]
        cases s.prompt <;> rfl
      rw [hrecord]
      refine hinv.moves _ none _ rfl (fun _ => hnotified) (fun _ h => nomatch h) ?_
      intro q e hmem hleft
      cases hprompt : s.prompt with
      | none =>
          rw [hprompt] at hmem
          exact hinv.ended q e hmem hleft
      | some open_ =>
          rw [hprompt] at hmem
          rcases List.mem_append.mp hmem with hold | hnew
          · exact hinv.ended q e hold hleft
          · cases List.mem_singleton.mp hnew
            have hat' := (hinv.fresh q hprompt hleft).at_
            rw [hat] at hat'
            exact Nat.le_trans (Nat.add_le_add_right hat'.1 csConfirmMs) hlate
    · rw [if_neg hlate] at hend hstep
      apply hinv.moves_on hquiet.1 hquiet.2 hend <;> rw [hstep]
      · exact fun _ => hnotified
      · intro q hq
        rw [hat]
        exact hq

theorem LinesInv.applying_step (hinv : LinesInv s) (ok : Bool) (hat : s.task.taskAt = .applying p) :
    LinesInv (s.step (.task ok)) := by
  have hstep : taskStep ok s.task =
      if ok then s.task.clear p else { s.task with taskAt := .waiting } := by
    unfold taskStep
    rw [hat]
  have hquiet : usedFor s.task = none ∧ issues s.task = false ∧
      promptEnd (s.lines.length - 1) s.task = none := by
    unfold usedFor issues promptEnd
    rw [hat]
    exact ⟨rfl, rfl, rfl⟩
  rcases hquiet with ⟨huse, hissues, hend⟩
  have hnotified := hinv.notified (by rw [hat]; exact id)
  apply hinv.moves_on huse hissues hend <;> rw [hstep]
  · cases ok <;> rfl
  · cases ok <;> exact fun _ => hnotified
  · intro q _
    cases ok <;> trivial

theorem readLine_cases (u : DebugUart) :
    (u.rxReadyFlag = false ∧ debugUartReadLine u = (none, u)) ∨
      (u.rxReadyFlag = true ∧
        debugUartReadLine u =
          (some (u.rxReady, if u.rxReadyTruncated then .truncated else .ok),
            { u with rxReadyFlag := false, rxReadyTruncated := false })) := by
  unfold debugUartReadLine
  cases hflag : u.rxReadyFlag with
  | false => exact Or.inl ⟨rfl, rfl⟩
  | true => exact Or.inr ⟨rfl, rfl⟩

theorem LinesInv.woken_step (hinv : LinesInv s) (ok : Bool) (hat : s.task.taskAt = .woken) :
    LinesInv (s.step (.task ok)) := by
  have hquiet : issues s.task = false ∧ promptEnd (s.lines.length - 1) s.task = none := by
    unfold issues promptEnd
    rw [hat]
    exact ⟨rfl, rfl⟩
  rcases readLine_cases s.task.uart with ⟨hflag, hread⟩ | ⟨hflag, hread⟩
  · have hstep : taskStep ok s.task = { s.task with taskAt := .waiting } := by
      unfold taskStep
      rw [hat, hread]
    have huse : usedFor s.task = none := by
      unfold usedFor
      rw [hat, hread]
      rfl
    apply hinv.moves_on huse hquiet.1 hquiet.2 <;> rw [hstep]
    · intro _ h
      rw [hflag] at h
      cases h
    · exact fun _ _ => trivial
  · have hfresh (t : ConsoleTask)
        (ht : t.uart = { s.task.uart with rxReadyFlag := false, rxReadyTruncated := false })
        (hwhere : t.taskAt = .waiting ∨ exists argv, t.taskAt = .executing argv) (p : Prompt)
        (hp : s.prompt = some p) (hleft : p.leftover = false) : Fresh p s.lines.length t := by
      refine ⟨(hinv.fresh p hp hleft).le, fun h => ?_, ?_⟩
      · rw [ht] at h
        cases h
      · rcases hwhere with heq | ⟨argv, heq⟩ <;> rw [heq] <;> trivial
    have hrecord (t : ConsoleTask) (use : Use) (hstep : taskStep ok s.task = t)
        (huse : usedFor s.task = some use) :
        s.step (.task ok) =
          { s with task := t, taken := s.taken ++ [(s.lines.length - 1, use)] } := by
      unfold Recorded.step
      dsimp only
      rw [huse, hquiet.1, hquiet.2, hstep]
      cases s.prompt <;> rfl
    cases hcut : s.task.uart.rxReadyTruncated with
    | false =>
        rw [hcut] at hread
        rw [hrecord { s.task with
            uart := { s.task.uart with rxReadyFlag := false, rxReadyTruncated := false }
            taskAt := .executing (argvOf (cString s.task.uart.rxReady)) }
          (.ran (argvOf (cString s.task.uart.rxReady)))
          (by unfold taskStep; rw [hat, hread]; rfl)
          (by unfold usedFor; rw [hat, hread]; rfl)]
        refine hinv.reads hflag _ _ s.prompt s.ended ?_ ?_
          (hfresh _ rfl (Or.inr ⟨_, rfl⟩))
          (fun p e hmem hleft => (hinv.ended p e hmem hleft).append _)
        · rw [hread]
        · intro line _ hkept
          rw [hcut] at hkept
          have hwhole := hkept.whole
          refine ⟨hwhole.1, ?_⟩
          rw [hwhole.2]
    | true =>
        rw [hcut] at hread
        rw [hrecord { s.task with
            uart := { s.task.uart with rxReadyFlag := false, rxReadyTruncated := false }
            taskAt := .waiting } .refused
          (by unfold taskStep; rw [hat, hread]; rfl)
          (by unfold usedFor; rw [hat, hread]; rfl)]
        refine hinv.reads hflag _ _ s.prompt s.ended ?_ ?_ (hfresh _ rfl (Or.inl rfl))
          (fun p e hmem hleft => (hinv.ended p e hmem hleft).append _)
        · rw [hread]
        · exact fun line _ hkept => hkept.cut_iff.mp hcut

theorem LinesInv.notified_step (hinv : LinesInv s) (ok : Bool) (hat : s.task.taskAt = .notified p) :
    LinesInv (s.step (.task ok)) := by
  have hissues : issues s.task = false := by
    unfold issues
    rw [hat]
  -- however it ends, the prompt is closed
  have hended (e : PromptEnd) (taken : List (Nat × Use))
      (hold : forall q e', (q, e') ∈ s.ended -> q.leftover = false -> Answered taken q e')
      (hanswered : forall q, s.prompt = some q -> q.leftover = false -> Answered taken q e) :
      forall q e', (q, e') ∈ (match s.prompt with
          | some q => s.ended ++ [(q, e)]
          | none => s.ended) ->
        q.leftover = false -> Answered taken q e' := by
    intro q e' hmem hleft
    cases hprompt : s.prompt with
    | none =>
        rw [hprompt] at hmem
        exact hold q e' hmem hleft
    | some open_ =>
        rw [hprompt] at hmem
        rcases List.mem_append.mp hmem with hbefore | hnew
        · exact hold q e' hbefore hleft
        · cases List.mem_singleton.mp hnew
          exact hanswered q hprompt hleft
  rcases readLine_cases s.task.uart with ⟨hflag, hread⟩ | ⟨hflag, hread⟩
  · have hstep : taskStep ok s.task = s.task.clear p := by
      unfold taskStep
      rw [hat, hread]
      rfl
    have hrecord : s.step (.task ok) =
        { s with
          task := s.task.clear p
          prompt := none
          ended :=
            match s.prompt with
            | some q => s.ended ++ [(q, .noLine)]
            | none => s.ended } := by
      have huse : usedFor s.task = none := by
        unfold usedFor
        rw [hat, hread]
        rfl
      have hend : promptEnd (s.lines.length - 1) s.task = some .noLine := by
        unfold promptEnd
        rw [hat, hread]
      unfold Recorded.step
      dsimp only
      rw [huse, hissues, hend, hstep]
      cases s.prompt <;> rfl
    rw [hrecord]
    refine hinv.moves _ none _ rfl ?_ (fun _ h => nomatch h)
      (hended .noLine s.taken hinv.ended ?_)
    · intro _ h
      rw [hflag] at h
      cases h
    · -- the notification was about a line
      intro q hq hleft
      have hat' := (hinv.fresh q hq hleft).at_
      rw [hat] at hat'
      rw [hflag] at hat'
      cases hat'
  · have hrecord : s.step (.task ok) =
        { s with
          task := taskStep ok s.task
          taken := s.taken ++ [(s.lines.length - 1, .answered (answersYes s.task.uart.rxReady))]
          prompt := none
          ended :=
            match s.prompt with
            | some q =>
                s.ended ++ [(q, .line (s.lines.length - 1) (answersYes s.task.uart.rxReady))]
            | none => s.ended } := by
      have huse : usedFor s.task = some (.answered (answersYes s.task.uart.rxReady)) := by
        unfold usedFor
        rw [hat, hread]
        rfl
      have hend : promptEnd (s.lines.length - 1) s.task =
          some (.line (s.lines.length - 1) (answersYes s.task.uart.rxReady)) := by
        unfold promptEnd
        rw [hat, hread]
      unfold Recorded.step
      dsimp only
      rw [huse, hissues, hend]
      cases s.prompt <;> rfl
    rw [hrecord]
    refine hinv.reads hflag _ _ none _ ?_ ?_ (fun _ h => nomatch h)
      (hended _ _ (fun q e hmem hleft => (hinv.ended q e hmem hleft).append _) ?_)
    · unfold taskStep
      rw [hat, hread]
      dsimp only
      split <;> rfl
    · exact fun line _ hkept => hkept.answersYes
    · exact fun q hq hleft =>
        ⟨Nat.le_sub_one_of_lt ((hinv.fresh q hq hleft).ready hflag),
          List.mem_append_right s.taken (List.mem_singleton_self _)⟩

theorem LinesInv.step (hinv : LinesInv s) (step : ConsoleStep) : LinesInv (s.step step) := by
  cases step with
  | isr sr => exact hinv.isr_step sr
  | tick => exact hinv.tick_step
  | task ok =>
      cases hat : s.task.taskAt with
      | waiting => exact hinv.waiting_step ok hat
      | woken => exact hinv.woken_step ok hat
      | executing => exact hinv.executing_step ok hat
      | prompted => exact hinv.prompted_step ok hat
      | confirming => exact hinv.confirming_step ok hat
      | notified => exact hinv.notified_step ok hat
      | applying => exact hinv.applying_step ok hat

theorem LinesRun.inv (run : LinesRun s) : LinesInv s := by
  induction run with
  | start => exact .start
  | step _ step ih => exact ih.step step

theorem LinesRun.steps (run : LinesRun s) (steps : List ConsoleStep) :
    LinesRun (steps.foldl Recorded.step s) := by
  induction steps generalizing s with
  | nil => exact run
  | cons step _ ih => exact ih (run.step step)

end

/-!
## Results
-/

/-- Whatever arrives between whichever accesses of the task, a line is read once, in its turn and
for what was received of it, unless the next one is completed first; and a prompt that found no
notification ends by a later line or by its time-out. -/
theorem latest_line_in_turn {s : Recorded} (run : LinesRun s) : LatestInTurn s where
  inOrder := run.inv.numbers.symm ▸ takenFrom_sorted
  uses := run.inv.uses
  replaced n next hnext := by
    have hlt := (List.getElem?_eq_some_iff.mp hnext).1
    rw [run.inv.numbers, mem_takenFrom, List.length_map, List.getElem?_map, hnext]
    exact and_iff_right (Nat.lt_of_succ_lt hlt)
  prompts := run.inv.ended

/-- The interrupts of a text. -/
def keys (text : String) : List ConsoleStep := (token text).map fun byte => .isr (.rxne byte)

def confirmedCommit : List ConsoleStep :=
  keys "prov set modbus-addr 5\r" ++ [.task true, .task true, .task true] ++
    keys "prov commit\r" ++ [.task true, .task true, .task true, .task true] ++
    keys "y\r" ++ [.task true, .task true, .task true]

/-- A commit whose prompt is answered. -/
theorem latest_line_in_turn_confirmed :
    LatestInTurn (confirmedCommit.foldl Recorded.step recordedStart) ∧
      (confirmedCommit.foldl Recorded.step recordedStart).ended.map Prod.snd = [.line 2 true] :=
  ⟨latest_line_in_turn (LinesRun.start.steps _), by decide +kernel⟩

/-- The second line is completed between the notification for the first and the read. -/
theorem line_replaced_before_it_is_read :
    ¬forall s, LinesRun s -> InTurn s := by
  intro hclaim
  have h := (hclaim _ (.step (.step (.step (.step (.step (.step .start (.isr (.rxne 97)))
    (.isr (.rxne 10))) (.task true)) (.isr (.rxne 98))) (.isr (.rxne 10))) (.task true))).kept 0 1
    Nat.one_pos (by decide)
  revert h
  decide

end EnvMonitor.FieldDevice.Console
