import EnvMonitor.Gateway.ConsoleInput
import EnvMonitor.Gateway.ConsoleRx

/-!
# What was typed at the gateway console

The received bytes are read beside the console, as keys and escape sequences of any length that edit a
line of any length.  What the console runs is compared with that line.
-/

namespace EnvMonitor.Gateway.Console

/-!
## The line as it was typed
-/

/-- Where the received bytes are in an escape sequence. -/
inductive Sequence where
  | none
  /-- An Escape that arrived at this time. -/
  | esc (arrived : Nat)
  | csi (params : List UInt8)
  | ss3
  deriving DecidableEq, Repr

structure Typed where
  sequence : Sequence
  line : List UInt8
  last : List UInt8
  deriving DecidableEq, Repr

/-- A key that is typed; in a prompt it is an answer at most. -/
def Typed.key (confirm : Bool) (key : KeyEvent) (t : Typed) : List Output × Typed :=
  if confirm then
    (match prvAnswer key with
      | .confirmYes => [.answered true]
      | .confirmNo => [.answered false]
      | _ => [], t)
  else
    match key with
    | .printable ch => ([], { t with line := t.line ++ [ch] })
    | .digit value => ([], { t with line := t.line ++ [48 + value] })
    | .backspace => ([], { t with line := t.line.dropLast })
    | .escape => ([], { t with line := [] })
    | .up => ([], if t.last = [] then t else { t with line := t.last })
    | .enter => ([.ran t.line], { t with line := [], last := if t.line = [] then t.last else t.line })
    | _ => ([], t)

def Typed.keys (confirm : Bool) (key : Option KeyEvent) (t : Typed) : List Output × Typed :=
  match key with
  | none => ([], t)
  | some key => t.key confirm key

/-- The byte belongs to an `ESC [` or `ESC O` sequence. -/
def Typed.inSequence (byte : UInt8) (t : Typed) : Bool :=
  match t.sequence with
  | .none => false
  | .esc _ => byte = 91 || byte = 79
  | .csi _ | .ss3 => true

/-- A byte that arrived at `arrived`.  An Escape that begins no sequence is a key and ends a prompt. -/
def Typed.byte (confirm : Bool) (byte : UInt8) (arrived : Nat) (t : Typed) : List Output × Typed :=
  match t.sequence with
  | .none =>
      if byte = escByte then ([], { t with sequence := .esc arrived })
      else t.keys confirm (plainByte byte)
  | .esc _ =>
      if byte = 91 then ([], { t with sequence := .csi [] })
      else if byte = 79 then ([], { t with sequence := .ss3 })
      else
        let (out, t) := Typed.key confirm .escape { t with sequence := .none }
        if byte = escByte then (out, { t with sequence := .esc arrived })
        else
          let (out', t) := t.keys false (plainByte byte)
          (out ++ out', t)
  | .csi params =>
      if isFinal byte then
        Typed.keys confirm (if params = [] then arrowFor byte else none) { t with sequence := .none }
      else ([], { t with sequence := .csi (params ++ [byte]) })
  | .ss3 => Typed.keys confirm (arrowFor byte) { t with sequence := .none }

/-- The time-out makes a lone Escape a key once it has waited for its time. -/
def Typed.expire (confirm : Bool) (now : Nat) (t : Typed) : List Output × Typed :=
  match t.sequence with
  | .esc arrived =>
      if arrived + inputEscTimeoutMs ≤ now then
        Typed.key confirm .escape { t with sequence := .none }
      else ([], t)
  | _ => ([], t)

/-!
## The console and the record of it
-/

/-- A received byte that the task has not come to. -/
structure Coming where
  byte : UInt8
  arrived : Nat
  stored : Bool
  deriving DecidableEq, Repr

/-- What the console did at a byte or at a time-out. -/
structure Record where
  /-- The byte belongs to an escape sequence. -/
  inSequence : Bool
  /-- The console took it for text or for an answer. -/
  typedText : Bool
  did : List Output
  should : List Output
  deriving DecidableEq, Repr

structure Session where
  rx : Received
  keys : Keys
  /-- Milliseconds since the start of the scheduler. -/
  clock : Nat
  /-- `now` of `prv_drain_input`. -/
  now : Nat
  coming : List Coming
  typed : Typed
  records : List Record

inductive SessionStep where
  | isr (byte : UInt8)
  /-- `opens`: a line that is run opens a prompt. -/
  | task (opens : Bool)
  | escTimeout
  | tick
  | passTime (ms : Nat)
  /-- `commands_tick` ends a prompt. -/
  | promptTimeout
  deriving DecidableEq

def isText : KeyEvent -> Bool
  | .printable _ | .digit _ => true
  | _ => false

def isAnswer : Output -> Bool
  | .answered _ => true
  | _ => false

/-- The reading of bytes that were dropped. -/
def Typed.lost (confirm : Bool) : List Coming -> Typed -> Typed
  | [], t => t
  | c :: rest, t => Typed.lost confirm rest (t.byte confirm c.byte c.arrived).2

/-- The task feeds the byte that it has taken to the decoder. -/
def Session.take (opens : Bool) (byte : UInt8) (s : Session) : Session :=
  let typed := s.typed.lost s.keys.confirming (s.coming.takeWhile (! ·.stored))
  match s.coming.dropWhile (! ·.stored) with
  | [] => s
  | c :: rest =>
      let (did, keys, k) := feedByte opens byte (UInt32.ofNat s.now) s.keys
      let (should, typed') := typed.byte s.keys.confirming c.byte c.arrived
      { s with
        keys := k
        coming := rest
        typed := typed'
        records := s.records ++
          [⟨typed.inSequence c.byte, keys.any isText || did.any isAnswer, did, should⟩] }

def Session.poll (opens : Bool) (s : Session) : Session :=
  let (did, k) := pollTimeout opens (UInt32.ofNat s.now) s.keys
  -- a decoder that still waits leaves what was typed as it is
  let (should, typed) :=
    if (inputPollTimeout (UInt32.ofNat s.now) s.keys.decoder).1.isSome then
      s.typed.expire s.keys.confirming s.now
    else ([], s.typed)
  { s with
    keys := k
    typed := typed
    records := s.records ++ [⟨false, did.any isAnswer, did, should⟩] }

/-- The input that the task handles at a step, beside its access to the ring. -/
def Session.handle (opens : Bool) (s : Session) : Session :=
  match s.rx.rx.taskAt with
  | .woken => { s with now := s.clock }
  | .advancing byte => s.take opens byte
  | .checking => if s.rx.rx.ringTail = s.rx.rx.ringHead then s.poll opens else s
  | _ => s

def Session.perform (s : Session) : SessionStep -> Session
  | .isr byte =>
      { s with
        rx := s.rx.perform (.isr byte)
        coming := s.coming ++
          [⟨byte, s.clock, decide ((prvRxIsr byte s.rx.rx).ringHead ≠ s.rx.rx.ringHead)⟩] }
  | .task opens => { s.handle opens with rx := s.rx.perform .task }
  | .escTimeout => { s with rx := s.rx.perform .escTimeout }
  | .tick => { s with rx := s.rx.perform .tick }
  | .passTime ms => { s with clock := s.clock + ms }
  | .promptTimeout => { s with keys := { s.keys with confirming := false } }

def sessionStart (ring : Nat -> UInt8) : Session :=
  ⟨⟨consoleServiceInit ring, [], [], false⟩, keysInit, 0, 0, [], ⟨.none, [], []⟩, []⟩

inductive SessionRun (allowed : Session -> SessionStep -> Prop) : Session -> Prop
  | start (ring : Nat -> UInt8) : SessionRun allowed (sessionStart ring)
  | step {s : Session} (run : SessionRun allowed s) (step : SessionStep) (ok : allowed s step) :
      SessionRun allowed (s.perform step)

/-!
## The promise and its condition
-/

/-- The console runs lines and takes answers only as they were typed, and no byte of an escape
sequence is text or an answer. -/
def OnlyTyped (s : Session) : Prop :=
  forall r, r ∈ s.records ->
    (r.inSequence = true -> r.typedText = false) ∧ forall out, out ∈ r.did -> out ∈ r.should

/-- The byte finds room: in the editor, if it is text of a line, and among the bytes kept of an escape
sequence. -/
structure Fits (byte : UInt8) (k : Keys) : Prop where
  editor : k.decoder.state = .idle -> k.confirming = false -> (plainByte byte).any isText = true ->
    k.editor.line.length + 1 < editorLineMax
  csi : k.decoder.state = .csi -> isFinal byte = false -> k.decoder.csi.length < csiMaxLen

/-- No input is discarded, and no Escape becomes a key before its time. -/
def NothingLost (s : Session) : SessionStep -> Prop
  | .isr _ => masked (s.rx.rx.ringHead + 1) ≠ s.rx.rx.ringTail
  | .task _ =>
      (forall byte, s.rx.rx.taskAt = .advancing byte -> Fits byte s.keys) ∧
      (s.rx.rx.taskAt = .checking -> s.rx.rx.ringTail = s.rx.rx.ringHead ->
        s.keys.decoder.state = .esc ->
        inputEscTimeoutMs ≤ (UInt32.ofNat s.now - s.keys.decoder.escAtMs).toNat ->
        forall arrived, s.typed.sequence = .esc arrived -> arrived + inputEscTimeoutMs ≤ s.now)
  | _ => True

/-!
## Editor and line
-/

/-- The editor has the line that was typed; in a prompt that is empty. -/
structure SameLine (k : Keys) (t : Typed) : Prop where
  line : t.line = k.editor.line
  last : t.last = k.editor.last
  prompt : k.confirming = true -> k.editor.line = []

/-- A key that is handled as it was typed. -/
structure HandledAs (k' : Keys) (did : List Output) (k : Keys) (typed : List Output × Typed)
    (t : Typed) : Prop where
  out : did = typed.1
  same : SameLine k' typed.2
  decoder : k'.decoder = k.decoder
  sequence : typed.2.sequence = t.sequence

variable {k : Keys} {t : Typed} {final : UInt8} {s : Session}

theorem prvHandleKey_confirm (hprompt : k.confirming = true) (opens : Bool) (key : KeyEvent) :
    prvHandleKey opens key k = prvApplyAction opens (prvAnswer key) k := by
  cases k with
  | mk decoder editor confirming =>
      cases hprompt
      cases key <;> rfl

theorem prvAnswer_ne_runLine (key : KeyEvent) : prvAnswer key ≠ .runLine := by
  cases key with
  | printable ch =>
      unfold prvAnswer
      dsimp only
      split <;> exact fun h => nomatch h
  | _ => exact fun h => nomatch h

theorem prvHandleKey_prompt (h : SameLine k t) (hprompt : k.confirming = true) (opens : Bool)
    (key : KeyEvent) :
    HandledAs (prvHandleKey opens key k).2 (prvHandleKey opens key k).1 k (t.key true key) t := by
  rw [prvHandleKey_confirm hprompt]
  have hyes : forall yes, HandledAs { k with confirming := false } [.answered yes] k
      ([.answered yes], t) t := by
    intro yes
    exact ⟨rfl, ⟨h.line, h.last, fun hfalse => nomatch hfalse⟩, rfl, rfl⟩
  have hquiet : HandledAs k [] k ([], t) t := ⟨rfl, h, rfl, rfl⟩
  unfold Typed.key
  rw [if_pos rfl]
  have hrun := prvAnswer_ne_runLine key
  cases hact : prvAnswer key with
  | confirmYes => exact hyes true
  | confirmNo => exact hyes false
  | runLine => exact absurd hact hrun
  | none | changed | lineOverflow | redraw => exact hquiet

theorem prvHandleKey_edit (opens : Bool) (key : KeyEvent) (decoder : Decoder) (editor : Editor) :
    prvHandleKey opens key ⟨decoder, editor, false⟩ =
      match key with
      | .sizeReport _ _ => ([], ⟨decoder, editor, false⟩)
      | _ => prvApplyAction opens (editorKey key false editor).1
          ⟨decoder, (editorKey key false editor).2, false⟩ := by
  cases key <;> rfl

theorem prvHandleKey_line {decoder : Decoder} {editor : Editor}
    (h : SameLine ⟨decoder, editor, false⟩ t) (opens : Bool) (key : KeyEvent)
    (hroom : isText key = true -> editor.line.length + 1 < editorLineMax) :
    HandledAs (prvHandleKey opens key ⟨decoder, editor, false⟩).2
      (prvHandleKey opens key ⟨decoder, editor, false⟩).1 ⟨decoder, editor, false⟩
      (t.key false key) t := by
  have hline : t.line = editor.line := h.line
  have hlast : t.last = editor.last := h.last
  have hquiet : HandledAs ⟨decoder, editor, false⟩ [] ⟨decoder, editor, false⟩ ([], t) t :=
    ⟨rfl, h, rfl, rfl⟩
  have hedit : forall line, HandledAs ⟨decoder, { editor with line := line }, false⟩ []
      ⟨decoder, editor, false⟩ ([], { t with line := line }) t :=
    fun _ => ⟨rfl, ⟨rfl, hlast, fun hfalse => nomatch hfalse⟩, rfl, rfl⟩
  have hprvAdd : forall c, isText key = true ->
      prvAdd c editor = (.changed, { editor with line := editor.line ++ [c] }) :=
    fun c htext => if_neg (Nat.not_le_of_lt (hroom htext))
  rw [prvHandleKey_edit]
  cases key with
  | printable ch =>
      change HandledAs (prvApplyAction opens (prvAdd ch editor).1 ⟨decoder, (prvAdd ch editor).2, false⟩).2
        (prvApplyAction opens (prvAdd ch editor).1 ⟨decoder, (prvAdd ch editor).2, false⟩).1 _
        ([], { t with line := t.line ++ [ch] }) t
      rw [hprvAdd ch rfl, hline]
      exact hedit (editor.line ++ [ch])
  | digit value =>
      change HandledAs (prvApplyAction opens (prvAdd (48 + value) editor).1
          ⟨decoder, (prvAdd (48 + value) editor).2, false⟩).2
        (prvApplyAction opens (prvAdd (48 + value) editor).1
          ⟨decoder, (prvAdd (48 + value) editor).2, false⟩).1 _
        ([], { t with line := t.line ++ [48 + value] }) t
      rw [hprvAdd (48 + value) rfl, hline]
      exact hedit (editor.line ++ [48 + value])
  | backspace =>
      unfold editorKey Typed.key
      dsimp only
      rw [if_neg Bool.false_ne_true, if_neg Bool.false_ne_true, hline]
      split
      · next hempty =>
          rw [hempty]
          refine ⟨rfl, ⟨hempty.symm, hlast, fun hfalse => nomatch hfalse⟩, rfl, rfl⟩
      · exact hedit editor.line.dropLast
  | escape =>
      unfold editorKey Typed.key
      dsimp only
      rw [if_neg Bool.false_ne_true, if_neg Bool.false_ne_true]
      split
      · next hempty => exact ⟨rfl, ⟨hempty.symm, hlast, fun hfalse => nomatch hfalse⟩, rfl, rfl⟩
      · exact hedit []
  | up =>
      unfold editorKey Typed.key
      dsimp only
      rw [if_neg Bool.false_ne_true, if_neg Bool.false_ne_true, hlast]
      split
      · exact hquiet
      · have hrecalled := hedit editor.last
        rw [hlast] at hrecalled
        exact hrecalled
  | enter =>
      unfold editorKey Typed.key
      dsimp only
      rw [if_neg Bool.false_ne_true, if_neg Bool.false_ne_true, hline, hlast]
      split
      · next hempty => exact ⟨rfl, ⟨rfl, rfl, fun _ => rfl⟩, rfl, rfl⟩
      · exact ⟨rfl, ⟨rfl, rfl, fun _ => rfl⟩, rfl, rfl⟩
  | sizeReport rows cols => exact hquiet
  | redraw | tab | pgUp | pgDn | down | right | left => exact hquiet

theorem prvHandleKey_same (h : SameLine k t) (opens : Bool) (key : KeyEvent)
    (hroom : k.confirming = false -> isText key = true ->
      k.editor.line.length + 1 < editorLineMax) :
    HandledAs (prvHandleKey opens key k).2 (prvHandleKey opens key k).1 k
      (t.key k.confirming key) t := by
  rcases k with ⟨decoder, editor, confirming⟩
  cases confirming with
  | true => exact prvHandleKey_prompt h rfl opens key
  | false => exact prvHandleKey_line h opens key (hroom rfl)

theorem prvHandleKey_escape (h : SameLine k t) (opens : Bool) :
    (prvHandleKey opens .escape k).2.confirming = false ∧
      (prvHandleKey opens .escape k).2.editor.line = [] := by
  rcases k with ⟨decoder, editor, confirming⟩
  cases confirming with
  | true =>
      rw [prvHandleKey_confirm rfl]
      exact ⟨rfl, h.prompt rfl⟩
  | false =>
      rw [prvHandleKey_edit]
      unfold editorKey
      dsimp only
      rw [if_neg Bool.false_ne_true]
      split
      · next hempty => exact ⟨rfl, hempty⟩
      · exact ⟨rfl, rfl⟩

/-!
## Decoder and sequence
-/

/-- The decoder is in the sequence that the bytes are in. -/
def SameSequence : Sequence -> Decoder -> Prop
  | .none, d => d.state = .idle
  | .esc _, d => d.state = .esc
  | .csi params, d => d.state = .csi ∧ d.csi = params
  | .ss3, d => d.state = .ss3

/-- The keys of escape sequences. -/
def inert (key : KeyEvent) : Prop := isText key = false ∧ prvAnswer key = .none

theorem arrowFor_inert {key : KeyEvent} (h : arrowFor final = some key) : inert key := by
  unfold arrowFor at h
  repeat' split at h
  all_goals cases h
  all_goals exact ⟨rfl, rfl⟩

theorem csiKey_inert {csi : List UInt8} {key : KeyEvent} (h : csiKey csi final = some key) :
    inert key := by
  unfold csiKey at h
  split at h
  · exact arrowFor_inert h
  · split at h
    · unfold parseSizeReport at h
      split at h
      · cases h
        exact ⟨rfl, rfl⟩
      · cases h
    · repeat' split at h
      all_goals cases h
      all_goals exact ⟨rfl, rfl⟩

theorem keys_csiKey (confirm : Bool) (csi : List UInt8) (final : UInt8) (t : Typed) :
    t.keys confirm (csiKey csi final) = t.keys confirm (if csi = [] then arrowFor final else none) := by
  by_cases hempty : csi = []
  · rw [if_pos hempty, hempty]
    rfl
  · rw [if_neg hempty]
    have hlength : csi.length ≠ 0 := fun h => hempty (List.eq_nil_of_length_eq_zero h)
    unfold csiKey
    rw [if_neg hlength]
    have hquiet : forall key, prvAnswer key = .none ->
        (match key with
          | .pgUp | .pgDn | .sizeReport _ _ => True
          | _ => False) -> t.keys confirm (some key) = ([], t) := by
      intro key _ hkey
      cases key <;> first | exact hkey.elim | (cases confirm <;> rfl)
    split
    · unfold parseSizeReport
      split
      · exact hquiet _ rfl trivial
      · rfl
    · repeat' split
      · exact hquiet .pgUp rfl trivial
      · exact hquiet .pgDn rfl trivial
      · rfl
      · rfl

theorem prvHandleKey_decoder (opens : Bool) (key : KeyEvent) (k : Keys) :
    (prvHandleKey opens key k).2.decoder = k.decoder := by
  have happly : forall act (k : Keys), (prvApplyAction opens act k).2.decoder = k.decoder := by
    intro act k
    cases act <;> rfl
  cases key with
  | sizeReport rows cols => rfl
  | _ => exact happly _ _

theorem prvHandleKey_inert {key : KeyEvent} (h : inert key) (hline : SameLine k t) (opens : Bool) :
    (prvHandleKey opens key k).1.any isAnswer = false := by
  have hout := (prvHandleKey_same hline opens key (fun _ htext => nomatch h.1.symm.trans htext)).out
  rw [hout]
  unfold Typed.key
  cases k.confirming with
  | true =>
      rw [if_pos rfl, h.2]
      rfl
  | false =>
      rw [if_neg Bool.false_ne_true]
      cases key <;> rfl

/-- A byte that is fed to the decoder as it was typed. -/
structure FedAs (fed : List Output × List KeyEvent × Keys) (typed : List Output × Typed)
    (inSequence : Bool) : Prop where
  out : fed.1 = typed.1
  line : SameLine fed.2.2 typed.2
  sequence : SameSequence typed.2.sequence fed.2.2.decoder
  stash : fed.2.2.decoder.stash = none
  quiet : inSequence = true -> (fed.2.1.any isText || fed.1.any isAnswer) = false

section

variable {k : Keys} {t : Typed} {byte : UInt8} {nowMs : UInt32}

theorem SameLine.withDecoder (h : SameLine k t) (decoder : Decoder) (sequence : Sequence) :
    SameLine { k with decoder := decoder } { t with sequence := sequence } :=
  ⟨h.line, h.last, h.prompt⟩

theorem fedAs_key (opens : Bool) (sequence : Sequence) (key : Option KeyEvent) (decoder : Decoder)
    (hfeed : inputFeed byte nowMs k.decoder = (key, decoder)) (hstash : decoder.stash = none)
    (hline : SameLine k t) (hsequence : SameSequence sequence decoder)
    (hroom : k.confirming = false -> key.any isText = true ->
      k.editor.line.length + 1 < editorLineMax)
    (hquiet : t.inSequence byte = true -> forall key', key = some key' -> inert key') :
    FedAs (feedByte opens byte nowMs k)
      (Typed.keys k.confirming key { t with sequence := sequence }) (t.inSequence byte) := by
  have hwith := hline.withDecoder decoder sequence
  unfold feedByte
  rw [hfeed]
  cases key with
  | none => exact ⟨rfl, hwith, hsequence, hstash, fun _ => rfl⟩
  | some key =>
      have hhandled := prvHandleKey_same hwith opens key hroom
      have hpending : inputTakePending (prvHandleKey opens key { k with decoder := decoder }).2.decoder =
          (none, decoder) := by
        rw [prvHandleKey_decoder]
        unfold inputTakePending
        rw [hstash]
      dsimp only
      rw [hpending]
      refine ⟨hhandled.out, ⟨hhandled.same.line, hhandled.same.last, hhandled.same.prompt⟩, ?_,
        hstash, ?_⟩
      · change SameSequence (Typed.key _ key _).2.sequence decoder
        rw [hhandled.sequence]
        exact hsequence
      · intro hin
        have hinert := hquiet hin key rfl
        rw [prvHandleKey_inert hinert hwith opens]
        change ((isText key || false) || false) = false
        rw [hinert.1]
        rfl

theorem Typed.key_withSequence (confirm : Bool) (key : KeyEvent) (t : Typed) (sequence : Sequence) :
    Typed.key confirm key { t with sequence := sequence } =
      ((t.key confirm key).1, { (t.key confirm key).2 with sequence := sequence }) := by
  unfold Typed.key
  cases confirm with
  | true => rfl
  | false =>
      cases key with
      | up =>
          rw [if_neg Bool.false_ne_true, if_neg Bool.false_ne_true]
          dsimp only
          split <;> rfl
      | _ => rfl

theorem Typed.key_sequence (confirm : Bool) (key : KeyEvent) (t : Typed) :
    (t.key confirm key).2.sequence = t.sequence :=
  congrArg (fun p : List Output × Typed => p.2.sequence)
    (Typed.key_withSequence confirm key t t.sequence)

theorem fedAs_escape (opens : Bool) (hstate : k.decoder.state = .esc) (hcsi : byte ≠ 91)
    (hss3 : byte ≠ 79) (hesc : byte ≠ escByte) (hline : SameLine k t) (arrived a : Nat)
    (hsequence : t.sequence = .esc a) :
    FedAs (feedByte opens byte nowMs k) (t.byte k.confirming byte arrived) (t.inSequence byte) := by
  have hin : t.inSequence byte = false := by
    unfold Typed.inSequence
    rw [hsequence]
    change (decide (byte = 91) || decide (byte = 79)) = false
    rw [decide_eq_false hcsi, decide_eq_false hss3]
    rfl
  have hfeed : inputFeed byte nowMs k.decoder =
      (some .escape, { k.decoder with state := .idle, stash := some byte }) := by
    unfold inputFeed
    rw [hstate]
    dsimp only
    rw [if_neg hcsi, if_neg hss3, if_neg hesc]
  have hwith := hline.withDecoder { k.decoder with state := .idle, stash := some byte } .none
  have hfirst := prvHandleKey_same hwith opens .escape (fun _ h => nomatch h)
  have hcleared := prvHandleKey_escape hwith opens
  have hdecoder := prvHandleKey_decoder opens .escape
    { k with decoder := { k.decoder with state := .idle, stash := some byte } }
  have htyped : t.byte k.confirming byte arrived =
      ((Typed.key k.confirming .escape { t with sequence := .none }).1 ++
          ((Typed.key k.confirming .escape { t with sequence := .none }).2.keys false
            (plainByte byte)).1,
        ((Typed.key k.confirming .escape { t with sequence := .none }).2.keys false
          (plainByte byte)).2) := by
    unfold Typed.byte
    rw [hsequence]
    dsimp only
    rw [if_neg hcsi, if_neg hss3, if_neg hesc]
  rw [htyped, hin]
  unfold feedByte
  rw [hfeed]
  dsimp only
  generalize hkeys : prvHandleKey opens .escape
    { k with decoder := { k.decoder with state := .idle, stash := some byte } } = handled at *
  generalize htypedKey : Typed.key k.confirming .escape { t with sequence := .none } = typed at *
  have htypedSequence : typed.2.sequence = .none := by
    rw [← htypedKey]
    exact Typed.key_sequence _ _ _
  have hpending : inputTakePending handled.2.decoder =
      (plainByte byte, { k.decoder with state := .idle, stash := none }) := by
    rw [hdecoder]
    rfl
  rw [hpending]
  cases hplain : plainByte byte with
  | none =>
      refine ⟨?_, ⟨hfirst.same.line, hfirst.same.last, hfirst.same.prompt⟩, ?_, rfl,
        fun h => nomatch h⟩
      · exact hfirst.out.trans (List.append_nil _).symm
      · change SameSequence typed.2.sequence _
        rw [htypedSequence]
        rfl
  | some key =>
      have hwith' : SameLine
          { handled.2 with decoder := { k.decoder with state := .idle, stash := none } } typed.2 :=
        ⟨hfirst.same.line, hfirst.same.last, hfirst.same.prompt⟩
      have hsecond := prvHandleKey_same hwith' opens key (fun _ _ => by
        change handled.2.editor.line.length + 1 < _
        rw [hcleared.2]
        decide)
      have hconfirm : ({ handled.2 with
          decoder := { k.decoder with state := .idle, stash := none } } : Keys).confirming = false :=
        hcleared.1
      rw [hconfirm] at hsecond
      refine ⟨?_, ⟨hsecond.same.line, hsecond.same.last, hsecond.same.prompt⟩, ?_, ?_,
        fun h => nomatch h⟩
      · change handled.1 ++ _ = typed.1 ++ _
        rw [hfirst.out, hsecond.out]
        rfl
      · change SameSequence (Typed.key false key typed.2).2.sequence _
        rw [hsecond.sequence, htypedSequence]
        exact congrArg Decoder.state hsecond.decoder
      · exact congrArg Decoder.stash hsecond.decoder

theorem feedByte_same (nowMs : UInt32) (opens : Bool) (hline : SameLine k t)
    (hsequence : SameSequence t.sequence k.decoder) (hstash : k.decoder.stash = none)
    (hfits : Fits byte k) (arrived : Nat) :
    FedAs (feedByte opens byte nowMs k) (t.byte k.confirming byte arrived) (t.inSequence byte) := by
  cases hcase : t.sequence with
  | none =>
      rw [hcase] at hsequence
      have hstate : k.decoder.state = .idle := hsequence
      have hin : t.inSequence byte = false := by
        unfold Typed.inSequence
        rw [hcase]
      have htyped : t.byte k.confirming byte arrived =
          if byte = escByte then ([], { t with sequence := .esc arrived })
          else Typed.keys k.confirming (plainByte byte) { t with sequence := .none } := by
        rcases t with ⟨sequence, line, last⟩
        cases hcase
        rfl
      rw [htyped]
      have hquiet : forall {P : Prop}, t.inSequence byte = true -> P := by
        intro P htrue
        cases hin.symm.trans htrue
      by_cases hesc : byte = escByte
      · rw [if_pos hesc]
        refine fedAs_key opens (.esc arrived) none
          { k.decoder with state := .esc, escAtMs := nowMs } ?_ hstash hline rfl
          (fun _ h => nomatch h) hquiet
        unfold inputFeed
        rw [hstate]
        exact if_pos hesc
      · rw [if_neg hesc]
        refine fedAs_key opens .none (plainByte byte) k.decoder ?_ hstash hline hstate
          (fun hprompt htext => hfits.editor hstate hprompt htext) hquiet
        unfold inputFeed
        rw [hstate]
        exact if_neg hesc
  | esc a =>
      rw [hcase] at hsequence
      have hstate : k.decoder.state = .esc := hsequence
      have hnone : forall (sequence : Sequence) (decoder : Decoder),
          inputFeed byte nowMs k.decoder = (none, decoder) -> decoder.stash = none ->
          SameSequence sequence decoder ->
          t.byte k.confirming byte arrived = ([], { t with sequence := sequence }) ->
          FedAs (feedByte opens byte nowMs k) (t.byte k.confirming byte arrived)
            (t.inSequence byte) := by
        intro sequence decoder hfeed hkept hsame htyped
        rw [htyped]
        exact fedAs_key opens sequence none decoder hfeed hkept hline hsame
          (fun _ h => nomatch h) (fun _ _ h => nomatch h)
      by_cases hcsi : byte = 91
      · refine hnone (.csi []) { k.decoder with state := .csi, csi := [] } ?_ hstash ⟨rfl, rfl⟩ ?_
        · unfold inputFeed
          rw [hstate]
          exact if_pos hcsi
        · unfold Typed.byte
          rw [hcase]
          exact if_pos hcsi
      · by_cases hss3 : byte = 79
        · refine hnone .ss3 { k.decoder with state := .ss3 } ?_ hstash rfl ?_
          · unfold inputFeed
            rw [hstate]
            dsimp only
            rw [if_neg hcsi, if_pos hss3]
          · unfold Typed.byte
            rw [hcase]
            dsimp only
            rw [if_neg hcsi, if_pos hss3]
        · by_cases hesc : byte = escByte
          · have hin : t.inSequence byte = false := by
              unfold Typed.inSequence
              rw [hcase, hesc]
              rfl
            have htyped : t.byte k.confirming byte arrived =
                Typed.keys k.confirming (some .escape) { t with sequence := .esc arrived } := by
              unfold Typed.byte Typed.keys
              rw [hcase]
              dsimp only
              rw [if_neg hcsi, if_neg hss3, if_pos hesc, Typed.key_withSequence _ _ t .none,
                Typed.key_withSequence _ _ t (.esc arrived)]
            rw [htyped]
            refine fedAs_key opens (.esc arrived) (some .escape)
              { k.decoder with state := .esc, escAtMs := nowMs } ?_ hstash hline rfl
              (fun _ h => nomatch h) (fun h => nomatch hin.symm.trans h)
            unfold inputFeed
            rw [hstate]
            dsimp only
            rw [if_neg hcsi, if_neg hss3, if_pos hesc]
          · exact fedAs_escape opens hstate hcsi hss3 hesc hline arrived a hcase
  | csi params =>
      rw [hcase] at hsequence
      rcases hsequence with ⟨hstate, hparams⟩
      by_cases hfinal : isFinal byte = true
      · have htyped : t.byte k.confirming byte arrived =
            Typed.keys k.confirming (csiKey k.decoder.csi byte) { t with sequence := .none } := by
          rw [keys_csiKey, hparams]
          unfold Typed.byte
          rw [hcase]
          exact if_pos hfinal
        rw [htyped]
        refine fedAs_key opens .none (csiKey k.decoder.csi byte) { k.decoder with state := .idle } ?_
          hstash hline rfl ?_ (fun _ key' hkey => csiKey_inert hkey)
        · unfold inputFeed
          rw [hstate]
          exact if_pos hfinal
        · intro _ htext
          cases hkey : csiKey k.decoder.csi byte with
          | none => rw [hkey] at htext; cases htext
          | some key =>
              rw [hkey] at htext
              cases (csiKey_inert hkey).1.symm.trans htext
      · have htyped : t.byte k.confirming byte arrived =
            Typed.keys k.confirming none { t with sequence := .csi (params ++ [byte]) } := by
          unfold Typed.byte
          rw [hcase]
          exact if_neg hfinal
        rw [htyped]
        refine fedAs_key opens (.csi (params ++ [byte])) none
          { k.decoder with csi := k.decoder.csi ++ [byte] } ?_ hstash hline
          ⟨hstate, congrArg (· ++ [byte]) hparams⟩ (fun _ h => nomatch h) (fun _ _ h => nomatch h)
        unfold inputFeed
        rw [hstate]
        dsimp only
        rw [if_neg hfinal, if_pos (hfits.csi hstate (Bool.eq_false_iff.mpr hfinal)), hstate]
  | ss3 =>
      rw [hcase] at hsequence
      have hstate : k.decoder.state = .ss3 := hsequence
      have htyped : t.byte k.confirming byte arrived =
          Typed.keys k.confirming (arrowFor byte) { t with sequence := .none } := by
        unfold Typed.byte
        rw [hcase]
      rw [htyped]
      refine fedAs_key opens .none (arrowFor byte) { k.decoder with state := .idle } ?_ hstash
        hline rfl ?_ (fun _ key' hkey => arrowFor_inert hkey)
      · unfold inputFeed
        rw [hstate]
      · intro _ htext
        cases hkey : arrowFor byte with
        | none => rw [hkey] at htext; cases htext
        | some key =>
            rw [hkey] at htext
            cases (arrowFor_inert hkey).1.symm.trans htext

end

/-!
## Runs
-/

theorem SessionRun.rx {allowed : Session -> SessionStep -> Prop} (run : SessionRun allowed s) :
    RxRun s.rx := by
  have hhandle : forall opens (s : Session), (s.handle opens).rx = s.rx := by
    intro opens s
    unfold Session.handle
    cases s.rx.rx.taskAt with
    | advancing byte =>
        change (s.take opens byte).rx = s.rx
        unfold Session.take
        dsimp only
        split <;> rfl
    | checking =>
        dsimp only
        split <;> rfl
    | _ => rfl
  induction run with
  | start ring => exact .start ring
  | step _ step _ ih =>
      cases step with
      | isr byte => exact .step ih (.isr byte)
      | task opens => exact .step ih .task
      | escTimeout => exact .step ih .escTimeout
      | tick => exact .step ih .tick
      | passTime ms => exact ih
      | promptTimeout => exact ih

/-- The console has the line and the sequence that were typed, and the ring what is coming. -/
structure Synced (s : Session) : Prop where
  line : SameLine s.keys s.typed
  sequence : SameSequence s.typed.sequence s.keys.decoder
  stash : s.keys.decoder.stash = none
  stored : forall c, c ∈ s.coming -> c.stored = true
  coming : storedBytes s.rx.fates = s.rx.taken ++ s.coming.map Coming.byte
  only : OnlyTyped s

section

variable {s : Session}

theorem OnlyTyped.append {records : List Record} (h : OnlyTyped s) (r : Record)
    (hrecords : records = s.records ++ [r])
    (hr : (r.inSequence = true -> r.typedText = false) ∧ forall out, out ∈ r.did -> out ∈ r.should)
    {s' : Session} (hs' : s'.records = records) : OnlyTyped s' := by
  intro r' hmem
  rw [hs', hrecords] at hmem
  rcases List.mem_append.mp hmem with hold | hnew
  · exact h r' hold
  · rw [List.mem_singleton.mp hnew]
    exact hr

theorem Synced.start (ring : Nat -> UInt8) : Synced (sessionStart ring) where
  line := ⟨rfl, rfl, fun h => nomatch h⟩
  sequence := rfl
  stash := rfl
  stored _ h := nomatch h
  coming := rfl
  only _ h := nomatch h

theorem Synced.isr (h : Synced s) {byte : UInt8} (hrx : RxInv s.rx)
    (hroom : masked (s.rx.rx.ringHead + 1) ≠ s.rx.rx.ringTail) :
    Synced (s.perform (.isr byte)) := by
  have hmoved : (prvRxIsr byte s.rx.rx).ringHead ≠ s.rx.rx.ringHead := by
    rcases hrx.kept.order with ⟨unread, _, hring⟩
    rw [prvRxIsr_room byte hroom]
    apply masked_ne_self
    rw [hring.head_eq]
    exact Nat.mod_lt _ (Nat.zero_lt_of_lt hring.tail_lt)
  have hrxStep : s.rx.perform (.isr byte) =
      { s.rx with rx := prvRxIsr byte s.rx.rx, fates := s.rx.fates ++ [(byte, .stored)] } :=
    if_neg hmoved
  change Synced { s with
    rx := s.rx.perform (.isr byte)
    coming := s.coming ++
      [⟨byte, s.clock, decide ((prvRxIsr byte s.rx.rx).ringHead ≠ s.rx.rx.ringHead)⟩] }
  rw [hrxStep, decide_eq_true hmoved]
  refine ⟨h.line, h.sequence, h.stash, ?_, ?_, h.only⟩
  · intro c hc
    rcases List.mem_append.mp hc with hold | hnew
    · exact h.stored c hold
    · rw [List.mem_singleton.mp hnew]
  · change storedBytes (s.rx.fates ++ _) = s.rx.taken ++ (s.coming ++ [_]).map _
    rw [storedBytes_append, h.coming, List.map_append, List.append_assoc]
    rfl

theorem Synced.next (h : Synced s) (hrx : RxInv s.rx) {byte : UInt8}
    (hat : s.rx.rx.taskAt = .advancing byte) :
    exists c rest, s.coming = c :: rest ∧ c.byte = byte := by
  rcases hrx.kept.order with ⟨unread, hstored, hring⟩
  rcases hrx.advancing byte hat with ⟨hne, hcell⟩
  rw [h.coming] at hstored
  have hunread := List.append_cancel_left hstored
  cases hcoming : s.coming with
  | nil =>
      rw [hcoming] at hunread
      exact absurd (hring.empty_iff.mpr hunread.symm) hne
  | cons c rest =>
      rw [hcoming] at hunread
      rw [← hunread] at hring
      exact ⟨c, rest, rfl, hring.front.symm.trans hcell⟩

variable {opens : Bool}

theorem Synced.take (h : Synced s) (hrx : RxInv s.rx) {byte : UInt8}
    (hat : s.rx.rx.taskAt = .advancing byte) (hfits : Fits byte s.keys) :
    Synced (s.perform (.task opens)) := by
  rcases h.next hrx hat with ⟨c, rest, hcoming, hbyte⟩
  have hstored : c.stored = true := h.stored c (by rw [hcoming]; exact List.mem_cons_self)
  have htake : s.coming.takeWhile (! ·.stored) = [] := by
    rw [hcoming, List.takeWhile_cons_of_neg (by rw [hstored]; exact Bool.false_ne_true)]
  have hdrop : s.coming.dropWhile (! ·.stored) = c :: rest := by
    rw [hcoming, List.dropWhile_cons_of_neg (by rw [hstored]; exact Bool.false_ne_true)]
  have hfed := feedByte_same (UInt32.ofNat s.now) opens h.line h.sequence h.stash hfits
    c.arrived
  have hhandle : s.handle opens =
      { s with
        keys := (feedByte opens byte (UInt32.ofNat s.now) s.keys).2.2
        coming := rest
        typed := (s.typed.byte s.keys.confirming byte c.arrived).2
        records := s.records ++ [⟨s.typed.inSequence byte,
          (feedByte opens byte (UInt32.ofNat s.now) s.keys).2.1.any isText ||
            (feedByte opens byte (UInt32.ofNat s.now) s.keys).1.any isAnswer,
          (feedByte opens byte (UInt32.ofNat s.now) s.keys).1,
          (s.typed.byte s.keys.confirming byte c.arrived).1⟩] } := by
    unfold Session.handle
    rw [hat]
    change s.take opens byte = _
    unfold Session.take
    rw [htake, hdrop]
    dsimp only [Typed.lost]
    rw [hbyte]
  change Synced { s.handle opens with rx := s.rx.perform .task }
  rw [hhandle]
  refine ⟨hfed.line, hfed.sequence, hfed.stash, ?_, ?_, ?_⟩
  · intro c' hc'
    apply h.stored c'
    rw [hcoming]
    exact List.mem_cons_of_mem c hc'
  · change storedBytes s.rx.fates = (s.rx.perform .task).taken ++ rest.map _
    have htaken : (s.rx.perform .task).taken = s.rx.taken ++ [byte] := by
      unfold Received.perform
      rw [hat]
    rw [htaken, h.coming, hcoming, List.append_assoc, ← hbyte]
    rfl
  · refine h.only.append _ rfl ⟨hfed.quiet, ?_⟩ rfl
    intro out hout
    rw [← hfed.out]
    exact hout

theorem Synced.poll (h : Synced s) (hwaited : s.keys.decoder.state = .esc ->
      inputEscTimeoutMs ≤ (UInt32.ofNat s.now - s.keys.decoder.escAtMs).toNat ->
      forall arrived, s.typed.sequence = .esc arrived -> arrived + inputEscTimeoutMs ≤ s.now) :
    Synced (s.poll opens) := by
  unfold Session.poll
  by_cases hexpires : s.keys.decoder.state = .esc ∧
      inputEscTimeoutMs ≤ (UInt32.ofNat s.now - s.keys.decoder.escAtMs).toNat
  · have hpoll : inputPollTimeout (UInt32.ofNat s.now) s.keys.decoder =
        (some .escape, { s.keys.decoder with state := .idle }) := if_pos hexpires
    have harrived : exists arrived, s.typed.sequence = .esc arrived := by
      have hsame := h.sequence
      cases hcase : s.typed.sequence with
      | esc arrived => exact ⟨arrived, rfl⟩
      | none => rw [hcase] at hsame; cases hexpires.1.symm.trans hsame
      | csi params => rw [hcase] at hsame; cases hexpires.1.symm.trans hsame.1
      | ss3 => rw [hcase] at hsame; cases hexpires.1.symm.trans hsame
    rcases harrived with ⟨arrived, hsequence⟩
    have htyped : s.typed.expire s.keys.confirming s.now =
        Typed.key s.keys.confirming .escape { s.typed with sequence := .none } := by
      unfold Typed.expire
      rw [hsequence]
      exact if_pos (hwaited hexpires.1 hexpires.2 arrived hsequence)
    have hwith := h.line.withDecoder { s.keys.decoder with state := .idle } .none
    have hhandled := prvHandleKey_same hwith opens .escape (fun _ htext => nomatch htext)
    unfold pollTimeout
    rw [hpoll, htyped]
    refine ⟨hhandled.same, ?_, ?_, h.stored, h.coming, ?_⟩
    · change SameSequence (Typed.key _ .escape _).2.sequence (prvHandleKey opens .escape _).2.decoder
      rw [hhandled.sequence, hhandled.decoder]
      rfl
    · change (prvHandleKey opens .escape _).2.decoder.stash = none
      rw [hhandled.decoder]
      exact h.stash
    · refine h.only.append _ rfl ?_ rfl
      refine ⟨(fun hin => nomatch hin), ?_⟩
      intro out hout
      change out ∈ (Typed.key _ .escape _).1
      rw [← hhandled.out]
      exact hout
  · have hpoll : inputPollTimeout (UInt32.ofNat s.now) s.keys.decoder = (none, s.keys.decoder) :=
      if_neg hexpires
    unfold pollTimeout
    rw [hpoll]
    refine ⟨h.line, h.sequence, h.stash, h.stored, h.coming, ?_⟩
    refine h.only.append _ rfl ?_ rfl
    exact ⟨(fun hin => nomatch hin), fun out hout => nomatch hout⟩

theorem Synced.quiet (h : Synced s) {rx : Received} (hfates : rx.fates = s.rx.fates)
    (htaken : rx.taken = s.rx.taken) : Synced { s with rx := rx } where
  line := h.line
  sequence := h.sequence
  stash := h.stash
  stored := h.stored
  coming := by
    rw [hfates, htaken]
    exact h.coming
  only := h.only

theorem Synced.task (h : Synced s) (hrx : RxInv s.rx) (hok : NothingLost s (.task opens)) :
    Synced (s.perform (.task opens)) := by
  cases hat : s.rx.rx.taskAt with
  | advancing byte => exact h.take hrx hat (hok.1 byte hat)
  | checking =>
      have htaken : (s.rx.perform .task).taken = s.rx.taken := by
        unfold Received.perform
        rw [hat]
      change Synced { s.handle opens with rx := s.rx.perform .task }
      unfold Session.handle
      rw [hat]
      dsimp only
      split
      · next hempty => exact (h.poll (hok.2 hat hempty)).quiet rfl htaken
      · exact h.quiet rfl htaken
  | woken =>
      have htaken : (s.rx.perform .task).taken = s.rx.taken := by
        unfold Received.perform
        rw [hat]
      change Synced { s.handle opens with rx := s.rx.perform .task }
      unfold Session.handle
      rw [hat]
      have hnow : Synced { s with now := s.clock } :=
        ⟨h.line, h.sequence, h.stash, h.stored, h.coming, h.only⟩
      exact hnow.quiet rfl htaken
  | absent | waiting | reading | overflowCheck | clearing | warning =>
      have htaken : (s.rx.perform .task).taken = s.rx.taken := by
        unfold Received.perform
        rw [hat]
      change Synced { s.handle opens with rx := s.rx.perform .task }
      unfold Session.handle
      rw [hat]
      exact h.quiet rfl htaken

theorem Synced.perform {step : SessionStep} (h : Synced s) (hrx : RxInv s.rx)
    (hok : NothingLost s step) : Synced (s.perform step) := by
  cases step with
  | isr byte => exact h.isr hrx hok
  | task opens => exact h.task hrx hok
  | escTimeout => exact h.quiet rfl rfl
  | tick => exact h.quiet rfl rfl
  | passTime ms => exact ⟨h.line, h.sequence, h.stash, h.stored, h.coming, h.only⟩
  | promptTimeout =>
      exact ⟨⟨h.line.line, h.line.last, fun hfalse => nomatch hfalse⟩, h.sequence, h.stash,
        h.stored, h.coming, h.only⟩

end

/-- Where every byte finds room, in the ring, in the line and in its escape sequence, and no Escape
becomes a key before its time, the console runs and answers only what was typed. -/
theorem console_runs_what_was_typed {s : Session} (run : SessionRun NothingLost s) :
    OnlyTyped s := by
  have hsynced : Synced s := by
    induction run with
    | start ring => exact .start ring
    | step run step ok ih => exact ih.perform run.rx.inv ok
  exact hsynced.only

/-- A burst, and then the task until it waits again. -/
def burst (bytes : List UInt8) : List SessionStep :=
  .task false :: .task false :: bytes.map .isr ++
    List.replicate (3 * bytes.length + 2) (.task false)

theorem SessionRun.steps (run : SessionRun (fun _ _ => True) s) (steps : List SessionStep) :
    SessionRun (fun _ _ => True) (steps.foldl Session.perform s) := by
  induction steps generalizing s with
  | nil => exact run
  | cons step steps ih => exact ih (.step run step trivial)

/-- Room for a byte, for a character and for a byte of an escape sequence, and no Escape that is
due. -/
def roomFor (s : Session) : SessionStep -> Bool
  | .isr _ => masked (s.rx.rx.ringHead + 1) != s.rx.rx.ringTail
  | .task _ =>
      s.keys.editor.line.length + 1 < editorLineMax && s.keys.decoder.csi.length < csiMaxLen &&
        (UInt32.ofNat s.now - s.keys.decoder.escAtMs).toNat < inputEscTimeoutMs
  | _ => true

def roomForAll (s : Session) : List SessionStep -> Bool
  | [] => true
  | step :: steps => roomFor s step && roomForAll (s.perform step) steps

theorem nothingLost_of_roomFor {step : SessionStep} (h : roomFor s step = true) :
    NothingLost s step := by
  cases step with
  | isr byte => exact bne_iff_ne.mp h
  | task opens =>
      simp only [roomFor, Bool.and_eq_true, decide_eq_true_eq] at h
      rcases h with ⟨⟨hline, hkept⟩, hsoon⟩
      exact ⟨fun byte _ => ⟨fun _ _ _ => hline, fun _ _ => hkept⟩,
        fun _ _ _ hdue => absurd hsoon (Nat.not_lt.mpr hdue)⟩
  | escTimeout | tick | passTime _ | promptTimeout => trivial

theorem SessionRun.of_room (run : SessionRun NothingLost s) {steps : List SessionStep}
    (h : roomForAll s steps = true) : SessionRun NothingLost (steps.foldl Session.perform s) := by
  induction steps generalizing s with
  | nil => exact run
  | cons step steps ih =>
      rcases Bool.and_eq_true_iff.mp h with ⟨hfirst, hrest⟩
      exact ih (.step run step (nothingLost_of_roomFor hfirst)) hrest

/-- A line, and then a character that is taken back, the recall of that line with ESC [ A, and
Enter. -/
def recalledLine : Session :=
  (burst [97, 13, 98, 8, 27, 91, 65, 13]).foldl Session.perform (sessionStart fun _ => 0)

/-- The line is run twice, and nothing else is run. -/
theorem console_runs_what_was_typed_recalled :
    OnlyTyped recalledLine ∧
      (recalledLine.records.flatMap Record.did) = [.ran [97], .ran [97]] :=
  ⟨console_runs_what_was_typed ((SessionRun.start fun _ => 0).of_room (by decide +kernel)),
    by decide +kernel⟩

/-- The line is full at its 120th character and is cleared; the character after that is run as a
line of its own. -/
theorem rest_of_a_full_line_is_run :
    ¬forall s, SessionRun (fun _ _ => True) s -> OnlyTyped s := by
  intro hclaim
  have hrun := hclaim _ ((SessionRun.start fun _ => 0).steps
    (burst (List.replicate 120 97 ++ [98, 13])))
  have hran : exists r, r ∈ ((burst (List.replicate 120 97 ++ [98, 13])).foldl Session.perform
      (sessionStart fun _ => 0)).records ∧ .ran [98] ∈ r.did ∧ .ran [98] ∉ r.should := by
    decide +kernel
  rcases hran with ⟨r, hr, hdid, hshould⟩
  exact hshould ((hrun r hr).2 _ hdid)

end EnvMonitor.Gateway.Console
