import EnvMonitor.Gateway.CloudPublisher.PublishedMessages
import EnvMonitor.Gateway.CloudPublisher.PublishedText

/-!
# Members from calls

A row of calls is described by the members it adds to the object.  Behind the common block, such a
row makes a message that is complete or not there at all.
-/

namespace EnvMonitor.Gateway.CloudPublisher.Published

open FlatJson JsonText LifecycleController Numerics

/-- What a serialiser returns is 0 or the length of one complete object, ended by a zero; what
lies beyond the size is as it was. -/
structure Complete (serial : DeviceSerial) (p : Payload) (size : Nat) (start buf : List UInt8)
    (n : Nat) : Prop extends Kept size start buf where
  fits : n ≠ 0 -> n + 1 ≤ size
  ended : n ≠ 0 -> buf[n]? = some 0
  decodes : n ≠ 0 -> decode (buf.take n) = some (.obj (p.message serial))
  encoded : n ≠ 0 -> Utf8 p.echo -> Utf8 (buf.take n)
  enough : p.bufSize ≤ size -> n ≠ 0

/-!
## Rows of calls
-/

/-- No content is longer, apart from arrays and objects. -/
abbrev contentMax : Nat := 34

/-- These calls add the members of the message, in at most `room` bytes. -/
def Spells (echo : List UInt8) (room : Nat) (calls : List AppendCall)
    (message : List (List UInt8 × Json)) : Prop :=
  exists ms : List Member, ms.map Member.meaning = message ∧
    (exists texts : List (List UInt8), calls = texts.map some ∧ texts.flatten = moreMembers ms) ∧
    (moreMembers ms).length ≤ room ∧
    (Utf8 echo -> forall m, m ∈ ms -> Utf8 m.key ∧ Utf8 m.text)

section Rows

variable {echo : List UInt8} {room room' : Nat} {calls calls' : List AppendCall}
variable {message message' : List (List UInt8 × Json)}

theorem Spells.nil : Spells echo room [] [] :=
  ⟨[], rfl, ⟨[], rfl, rfl⟩, Nat.zero_le _, fun _ _ h => (by cases h)⟩

theorem Spells.append (h : Spells echo room calls message)
    (h' : Spells echo room' calls' message') :
    Spells echo (room + room') (calls ++ calls') (message ++ message') := by
  rcases h with ⟨ms, hmeaning, ⟨texts, hcalls, hflat⟩, hroom, hutf8⟩
  rcases h' with ⟨ms', hmeaning', ⟨texts', hcalls', hflat'⟩, hroom', hutf8'⟩
  refine ⟨ms ++ ms', ?_, ⟨texts ++ texts', ?_, ?_⟩, ?_, ?_⟩
  · rw [List.map_append, hmeaning, hmeaning']
  · rw [List.map_append, hcalls, hcalls']
  · rw [List.flatten_append, moreMembers_append, hflat, hflat']
  · rw [moreMembers_append, List.length_append]
    exact Nat.add_le_add hroom hroom'
  · intro hecho m hm
    rcases List.mem_append.mp hm with hm | hm
    · exact hutf8 hecho m hm
    · exact hutf8' hecho m hm

theorem Spells.cons {call : AppendCall} {member : List UInt8 × Json}
    (h : Spells echo room [call] [member]) (h' : Spells echo room' calls' message') :
    Spells echo (room + room') (call :: calls') (member :: message') :=
  h.append h'

theorem Spells.mono (h : Spells echo room calls message) (hle : room ≤ room') :
    Spells echo room' calls message := by
  rcases h with ⟨ms, hmeaning, htexts, hroom, hutf8⟩
  exact ⟨ms, hmeaning, htexts, le_trans hroom hle, hutf8⟩

theorem forall_mem_one {P : Field -> Prop} {f : Field} (h : P f) :
    forall g, g ∈ [f] -> P g := by
  intro g hg
  rw [List.mem_singleton.mp hg]
  exact h

/-- The bytes that members with these keys take at most. -/
def keysRoom (keys : List String) : Nat :=
  (keys.map fun key => key.toList.length).sum + keys.length * (contentMax + 4)

def fieldsMeaning (fs : List Field) : List (List UInt8 × Json) :=
  fs.map fun f => (bytesOf f.key.toList, f.content.value)

theorem fieldsMeaning_eq (fs : List Field) :
    (fs.map Field.member).map Member.meaning = fieldsMeaning fs := List.map_map

variable {fs : List Field} {args : List Arg} {fmt : String}

theorem moreMembers_fields (h : forall f, f ∈ fs -> f.content.text.length ≤ contentMax) :
    (moreMembers (fs.map Field.member)).length ≤ keysRoom (fs.map Field.key) := by
  have hlength := @moreMembers_length_le (fs.map Field.member) contentMax (by
    intro m hm
    rcases List.mem_map.mp hm with ⟨f, hf, hmember⟩
    rw [← hmember]
    exact h f hf)
  have hkeys : (fs.map Field.member).map (fun m => m.key.length) =
      (fs.map Field.key).map fun key => key.toList.length := by
    rw [List.map_map, List.map_map]
    apply List.map_congr_left
    intro f _
    exact List.length_map _
  unfold keysRoom
  rw [hkeys, List.length_map] at hlength
  rw [List.length_map]
  exact hlength

theorem utf8_fields (h : forall f, f ∈ fs -> Utf8 f.content.text) :
    forall m, m ∈ fs.map Field.member -> Utf8 m.key ∧ Utf8 m.text := by
  intro m hm
  rcases List.mem_map.mp hm with ⟨f, hf, hmember⟩
  rw [← hmember]
  exact ⟨f.utf8_key, h f hf⟩

theorem format_of_fields {fmt : List Char} (hfmt : fieldsFmt fs = fmt)
    (hargs : fieldsArgs fs = args) : format fmt args = moreMembers (fs.map Field.member) := by
  have h := format_fields fs [] []
  rw [List.append_nil, List.append_nil, hfmt, hargs] at h
  rw [h]
  exact List.append_nil _

theorem spells_shapes (fs : List Field) (shapes : List (String × List Char))
    (hshapes : fs.map Field.shape = shapes) (hargs : fieldsArgs fs = args)
    (hmessage : fieldsMeaning fs = message) (hfmt : shapesFmt shapes = fmt.toList)
    (hroom : keysRoom (shapes.map Prod.fst) ≤ room)
    (hshort : forall f, f ∈ fs -> f.content.text.length ≤ contentMax)
    (hutf8 : Utf8 echo -> forall f, f ∈ fs -> Utf8 f.content.text) :
    Spells echo room [prvPrint fmt args] message := by
  have htext := format_of_fields (fieldsFmt_eq fs) hargs
  rw [hshapes, hfmt] at htext
  have hlength := moreMembers_fields hshort
  have hkeys : fs.map Field.key = shapes.map Prod.fst := by
    rw [← hshapes, List.map_map]
    rfl
  rw [hkeys] at hlength
  refine ⟨fs.map Field.member, ?_, ⟨[format fmt.toList args], rfl, ?_⟩,
    le_trans hlength hroom, fun hecho => utf8_fields (hutf8 hecho)⟩
  · rw [fieldsMeaning_eq, hmessage]
  · rw [List.flatten_singleton, htext]

theorem spells_fields (fs : List Field) (shapes : List (String × List Char))
    (hshapes : fs.map Field.shape = shapes) (hargs : fieldsArgs fs = args)
    (hmessage : fieldsMeaning fs = message) (hfmt : shapesFmt shapes = fmt.toList)
    (hroom : keysRoom (shapes.map Prod.fst) ≤ room)
    (h : forall f, f ∈ fs -> f.content.Fits contentMax) :
    Spells echo room [prvPrint fmt args] message :=
  spells_shapes fs shapes hshapes hargs hmessage hfmt hroom (fun f hf => (h f hf).short)
    fun _ f hf => (h f hf).utf8

end Rows

/-!
## Conversions
-/

def convText : List Char := ['"', '%', 's', '"']

def convFlag : List Char := ['%', 's']

def convU : List Char := ['%', 'u']

def convLu : List Char := ['%', 'l', 'u']

def convLd : List Char := ['%', 'l', 'd']

def convVersion : List Char := ['"', '%', 'u', '.', '%', 'u', '.', '%', 'u', '"']

/-!
## Words
-/

theorem texts_isWord :
    (forall state : LifecycleState, isWord 32 (prvLifecycleStr state) = true) ∧
    (forall cause : LifecycleResetCause, isWord 32 (prvResetCauseStr cause) = true) ∧
    (forall type : CpAlarmType, isWord 32 (prvAlarmTypeStr type) = true) ∧
    (forall source : CpAlarmSource, isWord 32 (prvAlarmSourceStr source) = true) ∧
    (forall status : CpCfgStatus, isWord 32 (cpCfgReasonString status) = true) ∧
    (forall cmd : CpControlCmd, isWord 32 (cpControlName cmd) = true) ∧
    (forall reason : ControlReason, isWord 32 (controlReasonText reason) = true) ∧
    (forall result : UsResult, isWord 32 (prvResultStr result) = true) ∧
    (forall reason : UsReason, isWord 32 (updateServiceReasonString reason) = true) ∧
    (forall sync : TimeSyncState, isWord 32 (syncText sync) = true) ∧
    (forall accepted : Bool, isWord 32 (acceptedText accepted) = true) := by
  refine ⟨?_, ?_, ?_, ?_, ?_, ?_, ?_, ?_, ?_, ?_, ?_⟩
  all_goals
    intro x
    cases x <;> decide +kernel

theorem lifecycleStr_word (state : LifecycleState) : Word 32 (prvLifecycleStr state) :=
  word_of_isWord (texts_isWord.1 state)

theorem resetCauseStr_word (cause : LifecycleResetCause) : Word 32 (prvResetCauseStr cause) :=
  word_of_isWord (texts_isWord.2.1 cause)

theorem alarmTypeStr_word (type : CpAlarmType) : Word 32 (prvAlarmTypeStr type) :=
  word_of_isWord (texts_isWord.2.2.1 type)

theorem alarmSourceStr_word (source : CpAlarmSource) : Word 32 (prvAlarmSourceStr source) :=
  word_of_isWord (texts_isWord.2.2.2.1 source)

theorem cfgReasonString_word (status : CpCfgStatus) : Word 32 (cpCfgReasonString status) :=
  word_of_isWord (texts_isWord.2.2.2.2.1 status)

theorem controlName_word (cmd : CpControlCmd) : Word 32 (cpControlName cmd) :=
  word_of_isWord (texts_isWord.2.2.2.2.2.1 cmd)

theorem controlReasonText_word (reason : ControlReason) : Word 32 (controlReasonText reason) :=
  word_of_isWord (texts_isWord.2.2.2.2.2.2.1 reason)

theorem resultStr_word (result : UsResult) : Word 32 (prvResultStr result) :=
  word_of_isWord (texts_isWord.2.2.2.2.2.2.2.1 result)

theorem reasonString_word (reason : UsReason) : Word 32 (updateServiceReasonString reason) :=
  word_of_isWord (texts_isWord.2.2.2.2.2.2.2.2.1 reason)

theorem syncText_word (sync : TimeSyncState) : Word 32 (syncText sync) :=
  word_of_isWord (texts_isWord.2.2.2.2.2.2.2.2.2.1 sync)

theorem acceptedText_word (accepted : Bool) : Word 32 (acceptedText accepted) :=
  word_of_isWord (texts_isWord.2.2.2.2.2.2.2.2.2.2 accepted)

/-!
## Contents
-/

theorem word_fits {chars : List UInt8} (h : Word 32 chars) : h.content.Fits contentMax :=
  h.fits le_rfl

theorem uint32_fits (n : UInt32) : (Content.lu n.toNat).Fits contentMax :=
  fits_lu (Nat.lt_trans n.toNat_lt (by decide)) (by decide)

theorem int32_fits (n : Int32) : (Content.ld n.toInt).Fits contentMax := by
  have hlow := n.le_toInt
  have hhigh := n.toInt_lt
  exact fits_ld (by omega) (by decide)

theorem flag_fits (b : Bool) : (Content.flag b).Fits contentMax := fits_flag b (by decide)

def versionContent (v : UInt32) : Content :=
  .version (versionMajor v) (versionMinor v) (versionPatch v)

theorem version_fits (v : UInt32) : (versionContent v).Fits contentMax := by
  have hbound : forall w : UInt32, w.toNat < 10 ^ 10 := fun w =>
    Nat.lt_trans w.toNat_lt (by decide)
  exact fits_version (hbound _) (hbound _) (hbound _) le_rfl

/-!
## The common block
-/

def commonFirst : Field :=
  ⟨"schema_version", .fixed ['1', '.', '1'] (by decide), by decide +kernel⟩

def commonMembers {serial : DeviceSerial} (hserial : Word 32 serial.text) (ts : TimeProviderTs) :
    List Field :=
  [⟨"device_id", hserial.content, by decide +kernel⟩,
    ⟨"timestamp", .lu (ts.epoch % 2 ^ 32), by decide +kernel⟩,
    ⟨"sync_state", (syncText_word ts.syncState).content, by decide +kernel⟩]

section Common

variable {serial : DeviceSerial}

theorem prvCommon_eq (hserial : Word 32 serial.text) (ts : TimeProviderTs) :
    prvCommon serial ts = some (0x7B :: (commonFirst.member.written ++
      moreMembers ((commonMembers hserial ts).map Field.member))) := by
  have hfmt : ("\x7b\"schema_version\":\"1.1\",\"device_id\":\"%s\"," ++
      "\"timestamp\":%lu,\"sync_state\":\"%s\"").toList =
      '{' :: (commonFirst.fmt ++ shapesFmt [("device_id", convText), ("timestamp", convLu),
        ("sync_state", convText)]) := by
    simp only [String.toList_append]
    decide +kernel
  have hrest := format_fields (commonMembers hserial ts) [] []
  rw [List.append_nil, List.append_nil, fieldsFmt_eq] at hrest
  change format (shapesFmt [("device_id", convText), ("timestamp", convLu),
    ("sync_state", convText)]) _ = _ ++ [] at hrest
  rw [List.append_nil] at hrest
  unfold prvCommon
  rw [hfmt, format_char (by decide)]
  change some (_ :: format (commonFirst.fmt ++ _) (commonFirst.content.args ++
    fieldsArgs (commonMembers hserial ts))) = _
  rw [commonFirst.format_fmt, hrest]
  rfl

theorem commonMembers_fit (hserial : Word 32 serial.text) (ts : TimeProviderTs) :
    forall f, f ∈ commonMembers hserial ts -> f.content.Fits contentMax := by
  have hepoch : ts.epoch % 2 ^ 32 < 10 ^ 10 :=
    Nat.lt_trans (Nat.mod_lt _ (by decide)) (by decide)
  unfold commonMembers
  simp only [List.forall_mem_cons]
  exact ⟨word_fits _, fits_lu hepoch (by decide), word_fits _, fun _ h => (by cases h)⟩

theorem common_length (hserial : Word 32 serial.text) (ts : TimeProviderTs) :
    (0x7B :: (commonFirst.member.written ++
      moreMembers ((commonMembers hserial ts).map Field.member))).length ≤ 165 := by
  have hcommon := moreMembers_fields fun f hf => (commonMembers_fit hserial ts f hf).short
  have hcommonRoom : keysRoom ((commonMembers hserial ts).map Field.key) = 142 := by
    change keysRoom ["device_id", "timestamp", "sync_state"] = 142
    decide +kernel
  have hfirst : commonFirst.member.written.length = 22 := by decide +kernel
  rw [List.length_cons, List.length_append]
  omega

variable {start : List UInt8} {message : List (List UInt8 × Json)} {room size : Nat}
variable {calls : List AppendCall}

theorem complete_of_spells (hserial : Word 32 serial.text) (ts : TimeProviderTs) {p : Payload}
    (hcalls : p.serialise size start serial = serialise size start (prvCommon serial ts :: calls))
    (hmessage : p.message serial = commonMessage serial ts ++ message)
    (hspells : Spells p.echo room calls message) (hbuf : room + 166 < p.bufSize) (hsize : 1 ≤ size)
    (hroom : size ≤ start.length) :
    exists buf n, p.serialise size start serial = some (buf, n) ∧
      Complete serial p size start buf n := by
  rcases hspells with ⟨ms, hmeaning, ⟨texts, htexts, hflat⟩, hlength, hutf8⟩
  have hall : ((commonMembers hserial ts).map Field.member ++ ms).map Member.meaning =
      (commonMessage serial ts ++ message).tail := by
    rw [List.map_append, hmeaning, fieldsMeaning_eq]
    rfl
  have htext : (prvCommon serial ts :: calls) =
      ((0x7B :: (commonFirst.member.written ++
        moreMembers ((commonMembers hserial ts).map Field.member))) :: texts).map some := by
    rw [prvCommon_eq hserial, htexts, List.map_cons]
  have hwhole : ((0x7B :: (commonFirst.member.written ++
      moreMembers ((commonMembers hserial ts).map Field.member))) :: texts).flatten ++ [0x7D] =
      objectText commonFirst.member ((commonMembers hserial ts).map Field.member ++ ms) := by
    unfold objectText
    rw [List.flatten_cons, hflat, moreMembers_append, List.cons_append, List.cons_append,
      List.append_assoc, List.append_assoc, List.append_assoc]
  have hshort : (objectText commonFirst.member
      ((commonMembers hserial ts).map Field.member ++ ms)).length ≤ room + 166 := by
    have hcommon := common_length hserial ts
    rw [List.length_cons, List.length_append] at hcommon
    unfold objectText
    rw [moreMembers_append]
    simp only [List.length_cons, List.length_append, List.length_nil]
    omega
  have hencoded : Utf8 p.echo -> Utf8 (objectText commonFirst.member
      ((commonMembers hserial ts).map Field.member ++ ms)) := by
    intro hecho
    have hmore : Utf8 (moreMembers ((commonMembers hserial ts).map Field.member ++ ms)) := by
      apply utf8_moreMembers
      intro m hm
      rcases List.mem_append.mp hm with hm | hm
      · exact utf8_fields (fun f hf => (commonMembers_fit hserial ts f hf).utf8) m hm
      · exact hutf8 hecho m hm
    have hopen : Utf8 (0x7B :: commonFirst.member.written) := utf8_of_all (by decide +kernel)
    have hclose : Utf8 [0x7D] := utf8_of_all (by decide)
    exact hopen.append (hmore.append hclose)
  rw [hcalls, htext]
  rcases serialise_texts _ hsize hroom with ⟨buf, n, hrun, hreturned⟩
  rw [hwhole] at hreturned
  refine ⟨buf, n, hrun, hreturned.toKept, ?_, hreturned.ended, ?_, ?_, ?_⟩
  · intro hn
    have hlen := hreturned.length_eq
    split at hlen
    · omega
    · exact absurd hlen hn
  · intro hn
    rw [hreturned.text_eq hn, (reads_object _ _).decode, List.map_cons, hall, hmessage]
    rfl
  · intro hn hecho
    rw [hreturned.text_eq hn]
    exact hencoded hecho
  · intro henough
    have hlen := hreturned.length_eq
    rw [if_pos (by omega)] at hlen
    rw [hlen]
    unfold objectText
    exact Nat.succ_ne_zero _

theorem undefined_of_spells (hserial : Word 32 serial.text) (ts : TimeProviderTs)
    {echo : List UInt8} (hspells : Spells echo room calls message) (hsize : room + 166 < size)
    (hroom : size ≤ start.length) (rest : List AppendCall) :
    serialise size start (prvCommon serial ts :: (calls ++ none :: rest)) = none := by
  rcases hspells with ⟨ms, _, ⟨texts, htexts, hflat⟩, hlength, _⟩
  have hcommon := common_length hserial ts
  rw [prvCommon_eq hserial, htexts]
  refine @serialise_undefined size start ((0x7B :: (commonFirst.member.written ++
    moreMembers ((commonMembers hserial ts).map Field.member))) :: texts) rest hroom ?_
  rw [List.flatten_cons, hflat, List.length_append]
  omega

end Common

end EnvMonitor.Gateway.CloudPublisher.Published
