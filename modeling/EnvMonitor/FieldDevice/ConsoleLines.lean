import EnvMonitor.FieldDevice.ConsoleNumbers

/-!
# Lines of the field device's console

`USART3_IRQHandler` gathers a line and freezes it for ConsoleTask, which comes to read it after a
notification: in `do_run_once`, or for the answer to the prompt of a commit.  The interrupt comes
between any two accesses of the task to what both use; `debug_uart_read_line` masks it.
-/

namespace EnvMonitor.FieldDevice.Console

/-!
## Driver
-/

abbrev debugUartLineMaxLen : Nat := 128

def debugUartCr : UInt8 := 13

def debugUartLf : UInt8 := 10

/-- `debug_uart_driver_t`, the buffers up to their lengths. -/
structure DebugUart where
  rxAccum : List UInt8
  rxOverflow : Bool
  rxReady : List UInt8
  rxReadyTruncated : Bool
  rxReadyFlag : Bool

/-- What the status register says. -/
inductive Usart3Status where
  | error
  | spurious
  | rxne (byte : UInt8)
  deriving DecidableEq

def isTerminator (byte : UInt8) : Bool := byte = debugUartCr || byte = debugUartLf

/-- With it, whether the callback is called. -/
def usart3IrqHandler (sr : Usart3Status) (u : DebugUart) : Bool × DebugUart :=
  match sr with
  | .error => (false, u)
  | .spurious => (false, u)
  | .rxne byte =>
      if isTerminator byte then
        if 0 < u.rxAccum.length then
          (true,
            { rxReady := u.rxAccum
              rxReadyTruncated := u.rxOverflow
              rxReadyFlag := true
              rxAccum := []
              rxOverflow := false })
        else (false, u)
      else if u.rxAccum.length < debugUartLineMaxLen then
        (false, { u with rxAccum := u.rxAccum ++ [byte] })
      else (false, { u with rxOverflow := true })

inductive LineFlag where
  | ok
  | truncated
  deriving DecidableEq

/-- `none` is `DEBUG_UART_ERR_NO_LINE_AVAILABLE`. -/
def debugUartReadLine (u : DebugUart) : Option (List UInt8 × LineFlag) × DebugUart :=
  if u.rxReadyFlag then
    (some (u.rxReady, if u.rxReadyTruncated then .truncated else .ok),
      { u with rxReadyFlag := false, rxReadyTruncated := false })
  else (none, u)

/-!
## Lines
-/

abbrev csMaxArgv : Nat := 8

abbrev csConfirmMs : Nat := 30000

/-- The bytes up to the first zero. -/
def cString (line : List UInt8) : List UInt8 := line.takeWhile (· ≠ 0)

/-- The words of a line, `argv` of its command. -/
def argvOf (line : List UInt8) : List (List UInt8) := (tokenise csMaxArgv line).map Token.bytes

def token (s : String) : List UInt8 := s.toList.map fun c => UInt8.ofNat c.toNat

/-- `s_cfg_pending` or `s_prov_pending` -/
inductive Pending where
  | cfg
  | prov
  deriving DecidableEq

/-- What a line does to the staged changes. -/
inductive Action where
  | set (p : Pending)
  | commit (p : Pending)
  | discard (p : Pending)
  | other
  deriving DecidableEq

/-- `cmd_config` and `cmd_prov` from the word after the command's name on. -/
def stagedCommand (p : Pending) (sub : List UInt8) (rest : List (List UInt8)) : Action :=
  if sub = token "set" then if rest.length < 2 then .other else .set p
  else if sub = token "commit" then .commit p
  else if sub = token "discard" then .discard p
  else .other

def dispatch (argv : List (List UInt8)) : Action :=
  match argv with
  | command :: sub :: rest =>
      -- both entries of `s_cmd_table` allow three words after the name
      if 2 < rest.length then .other
      else if command = token "config" then stagedCommand .cfg sub rest
      else if command = token "prov" then stagedCommand .prov sub rest
      else .other
  | _ => .other

/-- What `read_confirm_with_timeout` makes of the line that it read. -/
def answersYes (line : List UInt8) : Bool :=
  match line with
  | c :: _ => c = 121 || c = 89
  | [] => false

/-!
## Task
-/

/-- Where ConsoleTask is, by its next access to what others use. -/
inductive LinesAt where
  /-- In the wait of `console_task_body`, or on the way back to it. -/
  | waiting
  /-- Before the read in `do_run_once`. -/
  | woken
  | executing (argv : List (List UInt8))
  /-- The prompt of a commit is written. -/
  | prompted (p : Pending)
  /-- In the wait of `read_confirm_with_timeout`. -/
  | confirming (p : Pending) (since : Nat)
  /-- Before the read in `read_confirm_with_timeout`. -/
  | notified (p : Pending)
  | applying (p : Pending)
  deriving DecidableEq

/-- `notification` is that of ConsoleTask, `dirty` of each of the pending structures; `now` counts
milliseconds. -/
structure ConsoleTask where
  uart : DebugUart
  notification : Bool
  taskAt : LinesAt
  dirty : Pending -> Bool
  now : Nat

/-- The `memset` of a pending structure and the end of the command. -/
def ConsoleTask.clear (t : ConsoleTask) (p : Pending) : ConsoleTask :=
  { t with dirty := Function.update t.dirty p false, taskAt := .waiting }

/-- The next access of ConsoleTask; `ok`: ConfigService accepts what the command gives it. -/
def taskStep (ok : Bool) (t : ConsoleTask) : ConsoleTask :=
  match t.taskAt with
  | .waiting => if t.notification then { t with notification := false, taskAt := .woken } else t
  | .woken =>
      match debugUartReadLine t.uart with
      | (none, uart) => { t with uart := uart, taskAt := .waiting }
      | (some (_, .truncated), uart) => { t with uart := uart, taskAt := .waiting }
      | (some (line, .ok), uart) =>
          { t with uart := uart, taskAt := .executing (argvOf (cString line)) }
  | .executing argv =>
      match dispatch argv with
      | .set p =>
          { t with
            dirty := if ok then Function.update t.dirty p true else t.dirty
            taskAt := .waiting }
      | .commit p => { t with taskAt := if t.dirty p then .prompted p else .waiting }
      | .discard p => t.clear p
      | .other => { t with taskAt := .waiting }
  | .prompted p => { t with taskAt := .confirming p t.now }
  | .confirming p since =>
      if t.notification then { t with notification := false, taskAt := .notified p }
      else if since + csConfirmMs ≤ t.now then t.clear p
      else t
  | .notified p =>
      match debugUartReadLine t.uart with
      | (none, uart) => ConsoleTask.clear { t with uart := uart } p
      | (some (line, _), uart) =>
          if answersYes line then { t with uart := uart, taskAt := .applying p }
          else ConsoleTask.clear { t with uart := uart } p
  | .applying p => if ok then t.clear p else { t with taskAt := .waiting }

/-- As `attach_rx` leaves it. -/
def consoleTaskStart : ConsoleTask where
  uart := ⟨[], false, [], false, false⟩
  notification := false
  taskAt := .waiting
  dirty := fun _ => false
  now := 0

/-!
## Runs
-/

/-- A completed line. -/
structure Line where
  /-- What arrived, `none` for a byte with a receive error. -/
  typed : List (Option UInt8)
  /-- The line before it was not yet read when it was completed. -/
  early : Bool

/-- The bytes that arrived without an error. -/
def received (typed : List (Option UInt8)) : List UInt8 := typed.filterMap id

def Line.text (line : Line) : List UInt8 := received line.typed

/-- What a line was read for. -/
inductive Use where
  | ran (argv : List (List UInt8))
  /-- "line overflow" -/
  | refused
  | answered (yes : Bool)
  deriving DecidableEq

structure Prompt where
  issuedAt : Nat
  /-- So many lines were completed before it was issued. -/
  linesBefore : Nat
  /-- A notification was pending when it was issued. -/
  leftover : Bool

inductive PromptEnd where
  | line (number : Nat) (yes : Bool)
  | timedOut (time : Nat)
  /-- By a notification without a line. -/
  | noLine
  deriving DecidableEq

/-- ConsoleTask with a record of its input and output. -/
structure Recorded where
  task : ConsoleTask
  /-- Since the last terminator. -/
  typed : List (Option UInt8)
  lines : List Line
  taken : List (Nat × Use)
  prompt : Option Prompt
  ended : List (Prompt × PromptEnd)

/-- The numbers of the lines that were read. -/
def Recorded.numbers (s : Recorded) : List Nat := s.taken.map Prod.fst

/-- What the next step of the task reads a line for. -/
def usedFor (t : ConsoleTask) : Option Use :=
  match t.taskAt with
  | .woken =>
      (debugUartReadLine t.uart).1.map fun (line, flag) =>
        match flag with
        | .truncated => .refused
        | .ok => .ran (argvOf (cString line))
  | .notified _ => (debugUartReadLine t.uart).1.map fun (line, _) => .answered (answersYes line)
  | _ => none

/-- The next step of the task writes a prompt. -/
def issues (t : ConsoleTask) : Bool :=
  match t.taskAt with
  | .executing argv =>
      match dispatch argv with
      | .commit p => t.dirty p
      | _ => false
  | _ => false

/-- The end that the next step of the task puts to a prompt; `last` is the last line's number. -/
def promptEnd (last : Nat) (t : ConsoleTask) : Option PromptEnd :=
  match t.taskAt with
  | .confirming _ since =>
      if t.notification then none
      else if since + csConfirmMs ≤ t.now then some (.timedOut t.now)
      else none
  | .notified _ =>
      match (debugUartReadLine t.uart).1 with
      | none => some .noLine
      | some (line, _) => some (.line last (answersYes line))
  | _ => none

inductive ConsoleStep where
  | isr (sr : Usart3Status)
  | task (ok : Bool)
  | tick
  deriving DecidableEq

/-- The line in progress and the completed lines after an interrupt. -/
def Recorded.type (s : Recorded) (sr : Usart3Status) : Recorded :=
  match sr with
  | .error => { s with typed := s.typed ++ [none] }
  | .spurious => s
  | .rxne byte =>
      if isTerminator byte then
        if received s.typed = [] then { s with typed := [] }
        else
          { s with
            typed := []
            lines := s.lines ++
              [⟨s.typed, decide (s.lines ≠ [] ∧ s.lines.length - 1 ∉ s.numbers)⟩] }
      else { s with typed := s.typed ++ [some byte] }

/-- `on_line_ready_isr` is the callback. -/
def ConsoleTask.isr (t : ConsoleTask) (sr : Usart3Status) : ConsoleTask :=
  { t with
    uart := (usart3IrqHandler sr t.uart).2
    notification := t.notification || (usart3IrqHandler sr t.uart).1 }

def Recorded.step (s : Recorded) : ConsoleStep -> Recorded
  | .isr sr => { s.type sr with task := s.task.isr sr }
  | .task ok =>
      { s with
        task := taskStep ok s.task
        taken :=
          match usedFor s.task with
          | some use => s.taken ++ [(s.lines.length - 1, use)]
          | none => s.taken
        prompt :=
          if issues s.task then
            some ⟨s.task.now, s.lines.length, s.task.notification⟩
          else if (promptEnd (s.lines.length - 1) s.task).isSome then none
          else s.prompt
        ended :=
          match s.prompt, promptEnd (s.lines.length - 1) s.task with
          | some p, some e => s.ended ++ [(p, e)]
          | _, _ => s.ended }
  | .tick => { s with task := { s.task with now := s.task.now + 1 } }

def recordedStart : Recorded := ⟨consoleTaskStart, [], [], [], none, []⟩

inductive LinesRun : Recorded -> Prop
  | start : LinesRun recordedStart
  | step {s : Recorded} (run : LinesRun s) (step : ConsoleStep) : LinesRun (s.step step)

/-!
## What is claimed and what holds
-/

/-- The prompt ended by a line that was completed after it was issued and read for it, or by its
time-out. -/
def Answered (taken : List (Nat × Use)) (p : Prompt) : PromptEnd -> Prop
  | .line number yes => p.linesBefore ≤ number ∧ (number, .answered yes) ∈ taken
  | .timedOut time => p.issuedAt + csConfirmMs ≤ time
  | .noLine => False

/-- Every line is read in its turn and executed whole, and only the lines behind it end a prompt. -/
structure InTurn (s : Recorded) : Prop where
  inOrder : s.numbers.Pairwise (· < ·)
  whole : forall n argv, (n, .ran argv) ∈ s.taken ->
    exists line text, s.lines[n]? = some line ∧ line.typed = text.map some ∧
      argv = argvOf text
  kept : forall n m, n < m -> m ∈ s.numbers -> n ∈ s.numbers
  prompts : forall p e, (p, e) ∈ s.ended -> Answered s.taken p e

/-- What a line with this text can be read for. -/
def UseOf (text : List UInt8) : Use -> Prop
  | .ran argv => text.length ≤ debugUartLineMaxLen ∧ argv = argvOf (cString text)
  | .refused => debugUartLineMaxLen < text.length
  | .answered yes => yes = answersYes text

/-- Every line is read once and in its turn unless the next one is completed before it is read. -/
structure LatestInTurn (s : Recorded) : Prop where
  inOrder : s.numbers.Pairwise (· < ·)
  uses : forall n use, (n, use) ∈ s.taken ->
    exists line, s.lines[n]? = some line ∧ UseOf line.text use
  replaced : forall n next, s.lines[n + 1]? = some next ->
    (n ∈ s.numbers ↔ next.early = false)
  prompts : forall p e, (p, e) ∈ s.ended -> p.leftover = false -> Answered s.taken p e

end EnvMonitor.FieldDevice.Console
