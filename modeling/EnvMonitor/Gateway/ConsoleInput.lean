import Mathlib.Data.List.Basic

/-!
# Keys and lines of the gateway console

The escape-sequence decoder and the line editor, and what `prv_handle_key` does with a decoded key.
-/

namespace EnvMonitor.Gateway.Console

/-!
## Decoder
-/

def escByte : UInt8 := 0x1B

def formFeed : UInt8 := 0x0C

abbrev csiMaxLen : Nat := 12

abbrev inputEscTimeoutMs : Nat := 10

/-- `key_event_t`: the kind, with the fields that mean something for it. -/
inductive KeyEvent where
  | up
  | down
  | right
  | left
  | enter
  | backspace
  | tab
  | escape
  | digit (value : UInt8)
  | printable (ch : UInt8)
  | pgUp
  | pgDn
  | redraw
  | sizeReport (rows cols : Nat)
  deriving DecidableEq, Repr

inductive DecoderState where
  | idle
  | esc
  | csi
  | ss3
  deriving DecidableEq, Repr

/-- `csi` has the bytes that were kept of a sequence, `stash` the byte after a lone Escape. -/
structure Decoder where
  state : DecoderState
  escAtMs : UInt32
  csi : List UInt8
  stash : Option UInt8
  deriving Repr

def inputReset : Decoder := ⟨.idle, 0, [], none⟩

def arrowFor (final : UInt8) : Option KeyEvent :=
  if final = 65 then some .up
  else if final = 66 then some .down
  else if final = 67 then some .right
  else if final = 68 then some .left
  else none

/-- The loop of `parse_size_report`: the finished numbers and the current one. -/
def sizeReportNumbers : List UInt8 -> List Nat -> Nat -> Option (List Nat)
  | [], done, current => some (done ++ [current])
  | c :: rest, done, current =>
      if 48 ≤ c ∧ c ≤ 57 then
        let value := current * 10 + (c.toNat - 48)
        if 9999 < value then none else sizeReportNumbers rest done value
      else if c = 59 ∧ done.length + 1 < 3 then sizeReportNumbers rest (done ++ [current]) 0
      else none

def parseSizeReport (csi : List UInt8) : Option KeyEvent :=
  match sizeReportNumbers csi [] 0 with
  | some [8, rows, cols] => some (.sizeReport rows cols)
  | _ => none

def plainByte (b : UInt8) : Option KeyEvent :=
  if b = escByte then none
  else if b = 13 ∨ b = 10 then some .enter
  else if b = 0x7F ∨ b = 0x08 then some .backspace
  else if b = 9 then some .tab
  else if b = formFeed then some .redraw
  else if 49 ≤ b ∧ b ≤ 55 then some (.digit (b - 48))
  else if 0x20 ≤ b ∧ b ≤ 0x7E then some (.printable b)
  else none

/-- The bytes that end a CSI sequence. -/
def isFinal (byte : UInt8) : Bool := 0x40 ≤ byte && byte ≤ 0x7E

def csiKey (csi : List UInt8) (final : UInt8) : Option KeyEvent :=
  if csi.length = 0 then arrowFor final
  else if final = 116 then parseSizeReport csi
  else if final = 126 ∧ csi.length = 1 then
    if csi[0]? = some 53 then some .pgUp
    else if csi[0]? = some 54 then some .pgDn
    else none
  else none

def inputFeed (byte : UInt8) (nowMs : UInt32) (d : Decoder) : Option KeyEvent × Decoder :=
  match d.state with
  | .idle =>
      if byte = escByte then (none, { d with state := .esc, escAtMs := nowMs })
      else (plainByte byte, d)
  | .esc =>
      if byte = 91 then (none, { d with state := .csi, csi := [] })
      else if byte = 79 then (none, { d with state := .ss3 })
      else if byte = escByte then (some .escape, { d with state := .esc, escAtMs := nowMs })
      else (some .escape, { d with state := .idle, stash := some byte })
  | .ss3 => (arrowFor byte, { d with state := .idle })
  | .csi =>
      if isFinal byte then (csiKey d.csi byte, { d with state := .idle })
      else if d.csi.length < csiMaxLen then (none, { d with csi := d.csi ++ [byte] })
      else (none, { d with state := .idle })

def inputTakePending (d : Decoder) : Option KeyEvent × Decoder :=
  match d.stash with
  | none => (none, d)
  | some byte => (plainByte byte, { d with stash := none })

def inputPollTimeout (nowMs : UInt32) (d : Decoder) : Option KeyEvent × Decoder :=
  if d.state = .esc ∧ inputEscTimeoutMs ≤ (nowMs - d.escAtMs).toNat then
    (some .escape, { d with state := .idle })
  else (none, d)

/-!
## Editor
-/

abbrev editorLineMax : Nat := 120

/-- `editor_t`, the buffers up to their terminators. -/
structure Editor where
  line : List UInt8
  last : List UInt8
  deriving DecidableEq, Repr

inductive EditorAction where
  | none
  | changed
  | runLine
  | lineOverflow
  | redraw
  | confirmYes
  | confirmNo
  deriving DecidableEq, Repr

def editorInit : Editor := ⟨[], []⟩

def editorClear (ed : Editor) : Editor := { ed with line := [] }

def prvAdd (c : UInt8) (ed : Editor) : EditorAction × Editor :=
  if editorLineMax ≤ ed.line.length + 1 then (.lineOverflow, editorClear ed)
  else (.changed, { ed with line := ed.line ++ [c] })

def prvAnswer : KeyEvent -> EditorAction
  | .printable ch => if ch = 121 ∨ ch = 89 then .confirmYes else .confirmNo
  | .digit _ | .enter | .escape => .confirmNo
  | .redraw => .redraw
  | _ => .none

def editorKey (key : KeyEvent) (confirm : Bool) (ed : Editor) : EditorAction × Editor :=
  if confirm then (prvAnswer key, ed)
  else
    match key with
    | .printable ch => prvAdd ch ed
    | .digit value => prvAdd (48 + value) ed
    | .backspace =>
        if ed.line = [] then (.none, ed) else (.changed, { ed with line := ed.line.dropLast })
    | .escape => if ed.line = [] then (.none, ed) else (.changed, editorClear ed)
    | .up => if ed.last = [] then (.none, ed) else (.changed, { ed with line := ed.last })
    | .enter => (.runLine, if ed.line = [] then ed else { ed with last := ed.line })
    | .redraw => (.redraw, ed)
    | _ => (.none, ed)

/-!
## Handling of keys
-/

/-- What the console acts on: a line given to `repl_execute`, or an answer to a prompt. -/
inductive Output where
  | ran (line : List UInt8)
  | answered (yes : Bool)
  deriving DecidableEq, Repr

/-- ConsoleTask's own state behind the ring; `confirming` is `commands_confirm_active`. -/
structure Keys where
  decoder : Decoder
  editor : Editor
  confirming : Bool

def keysInit : Keys := ⟨inputReset, editorInit, false⟩

/-- `prv_run_line` and the answers; `opens`: the line opens a prompt. -/
def prvApplyAction (opens : Bool) (act : EditorAction) (k : Keys) : List Output × Keys :=
  match act with
  | .runLine =>
      ([.ran k.editor.line], { k with editor := editorClear k.editor, confirming := opens })
  | .confirmYes => ([.answered true], { k with confirming := false })
  | .confirmNo => ([.answered false], { k with confirming := false })
  | _ => ([], k)

def prvHandleKey (opens : Bool) (key : KeyEvent) (k : Keys) : List Output × Keys :=
  match key with
  | .sizeReport _ _ => ([], k)
  | _ =>
      let (act, editor) := editorKey key k.confirming k.editor
      prvApplyAction opens act { k with editor := editor }

/-- The body of the loop of `prv_drain_input`: its output, and the keys that it handled. -/
def feedByte (opens : Bool) (byte : UInt8) (nowMs : UInt32) (k : Keys) :
    List Output × List KeyEvent × Keys :=
  match inputFeed byte nowMs k.decoder with
  | (none, decoder) => ([], [], { k with decoder := decoder })
  | (some key, decoder) =>
      let (out, k) := prvHandleKey opens key { k with decoder := decoder }
      match inputTakePending k.decoder with
      | (none, decoder) => (out, [key], { k with decoder := decoder })
      | (some pending, decoder) =>
          let (out', k) := prvHandleKey opens pending { k with decoder := decoder }
          (out ++ out', [key, pending], k)

/-- The end of `prv_drain_input`. -/
def pollTimeout (opens : Bool) (nowMs : UInt32) (k : Keys) : List Output × Keys :=
  match inputPollTimeout nowMs k.decoder with
  | (none, decoder) => ([], { k with decoder := decoder })
  | (some key, decoder) => prvHandleKey opens key { k with decoder := decoder }

end EnvMonitor.Gateway.Console
