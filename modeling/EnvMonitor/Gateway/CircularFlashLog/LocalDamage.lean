import EnvMonitor.Gateway.CircularFlashLog.Damage
import EnvMonitor.Gateway.CircularFlashLog.Failures

/-!
# How far the damage of one record reaches

A log on failure-free flash, filled and emptied at will; then the bytes of one stored record
change, and the consumer goes on with its loop: peek, and on `CFL_ERR_OK` or
`CFL_ERR_CORRUPT` consume, with appends in between.  Damage stays with its record as long as
the header read there still steps to where the next record begins.
-/

namespace EnvMonitor.Gateway.CircularFlashLog

open Device Drivers

/-!
## Runs of the loop
-/

/-- Bytes changed in place, whatever they were. -/
def overwritten (m : Memory) (a : Nat) (bytes : List UInt8) : Memory :=
  fun x => if a <= x ∧ x < a + bytes.length then bytes.getD (x - a) erasedByte else m x

theorem overwritten_sameOutside (m : Memory) (a : Nat) (bytes : List UInt8) :
    Memory.SameOutside m (overwritten m a bytes) a bytes.length := by
  intro x hx
  unfold overwritten
  rw [if_neg (by omega)]

/-- The log with its consumer: the records that stand on the flash, the one whose bytes were
changed, and the answer to the last peek since the last removal. -/
structure Bench where
  flash : Memory
  inst : CflInst
  stored : List Standing
  damaged : Option Standing
  peeked : Option CflAnswer

inductive Action where
  | append (data : List UInt8)
  | peek (maxLen : Nat)
  | consume
  | damage (x : Standing) (bytes : List UInt8)
  deriving DecidableEq, Repr

/-- What an action comes to. -/
inductive Event where
  | appended (x : Standing)
  | refused
  | peeked
  | delivered (data : List UInt8)
  | skipped
  | removed
  | damaged (x : Standing)
  deriving DecidableEq, Repr

/-- A removal delivers the payload the peek before it returned, or skips the record it found
corrupt. -/
def consumed : Option CflAnswer -> Event
  | some ⟨.ok, some data, _⟩ => .delivered data
  | some ⟨.corrupt, _, _⟩ => .skipped
  | _ => .removed

def Bench.perform (s : Bench) : Action -> Event × Bench
  | .append data =>
      let done := (cflAppend s.inst data).eval qspiFlash s.flash
      if done.1.1 = .ok then
        (.appended (lastWritten done.1.2 data),
          { s with
            flash := done.2
            inst := done.1.2
            stored := storedAfter s.inst done.1.2 s.stored ++ [lastWritten done.1.2 data] })
      else
        (.refused, { s with flash := done.2, inst := done.1.2 })
  | .peek maxLen =>
      let done := (cflPeekOldest s.inst maxLen).eval qspiFlash s.flash
      (.peeked, { s with flash := done.2, peeked := some done.1 })
  | .consume =>
      let done := (cflConsumeOldest s.inst).eval qspiFlash s.flash
      (if done.1.1 = .ok then consumed s.peeked else .refused,
        { s with flash := done.2, inst := done.1.2, peeked := none })
  | .damage x bytes =>
      (.damaged x, { s with flash := overwritten s.flash x.addr bytes, damaged := some x })

/-- One record is damaged, and from then on a removal follows a peek.  The caller's buffer
takes any record. -/
def Bench.Allows (s : Bench) : Action -> Prop
  | .append _ => True
  | .peek maxLen => cflMaxRecordBytes <= maxLen
  | .consume => s.damaged = none ∨
      exists answer, s.peeked = some answer ∧ (answer.err = .ok ∨ answer.err = .corrupt)
  | .damage x bytes => s.damaged = none ∧ x ∈ s.stored ∧ bytes.length = x.bytesLength

/-- The runs from an erased partition whose steps all meet `C`. -/
inductive BenchRun (C : Bench -> Action -> Prop) : List Event -> Bench -> Prop where
  | start {m : Memory} {inst : CflInst} :
      PartitionErased m -> cflCreate.eval qspiFlash m = (some inst, m) ->
      BenchRun C [] ⟨m, inst, [], none, none⟩
  | step {events : List Event} {s : Bench} {action : Action} :
      BenchRun C events s -> s.Allows action -> C s action ->
      BenchRun C (events ++ [(s.perform action).1]) (s.perform action).2

/-!
## What stays local
-/

/-- `Accounts events damaged unread`: the records appended and neither delivered, removed nor
lost, oldest first.  Only records in the sector of the damaged one may be lost. -/
inductive Accounts : List Event -> Option Standing -> List Standing -> Prop where
  | start : Accounts [] none []
  | appended {events : List Event} {damaged : Option Standing} {unread : List Standing}
      (x : Standing) : Accounts events damaged unread ->
      Accounts (events ++ [.appended x]) damaged (unread ++ [x])
  | refused {events : List Event} {damaged : Option Standing} {unread : List Standing} :
      Accounts events damaged unread -> Accounts (events ++ [.refused]) damaged unread
  | peeked {events : List Event} {damaged : Option Standing} {unread : List Standing} :
      Accounts events damaged unread -> Accounts (events ++ [.peeked]) damaged unread
  | delivered {events : List Event} {damaged : Option Standing} {unread : List Standing}
      {x : Standing} : Accounts events damaged (x :: unread) ->
      Accounts (events ++ [.delivered x.data]) damaged unread
  | removed {events : List Event} {unread : List Standing} {x : Standing} :
      Accounts events none (x :: unread) -> Accounts (events ++ [.removed]) none unread
  | skipped {events : List Event} {damaged : Option Standing} {unread : List Standing} :
      Accounts events damaged unread -> Accounts (events ++ [.skipped]) damaged unread
  | damaged {events : List Event} {unread : List Standing} (x : Standing) :
      Accounts events none unread -> Accounts (events ++ [.damaged x]) (some x) unread
  | lost {events : List Event} {unread : List Standing} {x y : Standing} :
      Accounts events (some y) (x :: unread) -> x.sector = y.sector ->
      Accounts events (some y) unread

/-- What the loop gets from its next peek. -/
def Bench.next (s : Bench) : CflErr :=
  ((cflPeekOldest s.inst cflMaxRecordBytes).eval qspiFlash s.flash).1.err

/-- Every record of another sector has been delivered or is still to come, in order; the loop
finds the log empty exactly when nothing is left, with both counts at zero; it never gets
another error, and every removal takes one entry and leaves the head at or before the tail. -/
structure StaysLocal (C : Bench -> Action -> Prop) (events : List Event) (s : Bench) : Prop where
  accounts : exists unread, Accounts events s.damaged unread ∧
    (s.next = .empty ↔ unread = []) ∧
    (unread = [] -> s.inst.entryCount = 0 ∧ s.inst.byteCount = 0)
  answers : s.next = .ok ∨ s.next = .corrupt ∨ s.next = .empty
  removal : s.Allows .consume -> C s .consume ->
    ¬ PastTail s.inst (s.perform .consume).2.inst ∧
      (s.perform .consume).2.inst.entryCount = s.inst.entryCount - 1

/-!
## When it does
-/

/-- The header the reader finds at the place of a record. -/
def Bench.hdrAt (s : Bench) (x : Standing) : CflRecordHdr :=
  headerOn s.flash x.sector x.offset

/-- The head stands on the record. -/
def HeadOn (inst : CflInst) (x : Standing) : Prop :=
  inst.entryCount ≠ 0 ∧ inst.headSector = x.sector ∧ inst.headOffset = x.offset

/-- The record at the head ends where `x` begins. -/
def Bench.HeadBefore (s : Bench) (x : Standing) : Prop :=
  s.inst.headSector = x.sector ∧
    s.inst.headOffset +
      cflRecordSize (headerOn s.flash s.inst.headSector s.inst.headOffset).dataLen = x.offset

/-- The bytes at the place of the record do not pass for another record. -/
def Bench.NoForgery (s : Bench) (x : Standing) : Prop :=
  cflHeaderPlausible (s.hdrAt x) x.offset ->
    CrcMatches s.flash x.sector x.offset (s.hdrAt x) ->
    payloadOn s.flash x.sector x.offset (s.hdrAt x).dataLen = x.data

/-- The header at the place of the record steps to where the next record begins: by its
length, or because it is the last entry, or the last record of a sector that is not the
tail's and nothing plausible stands where the step ends. -/
def Bench.StepsOver (s : Bench) (x : Standing) : Prop :=
  cflHeaderPlausible (s.hdrAt x) x.offset ∧ x.data.length <= (s.hdrAt x).dataLen ∧
    (s.inst.entryCount = 1 ∨ cflRecordSize (s.hdrAt x).dataLen = x.size ∨
      (x.sector ≠ s.inst.tailSector ∧
        (forall y, y ∈ s.stored -> y.sector = x.sector -> y.offset <= x.offset) ∧
        ¬ ReaderGoesOn s.flash x.sector (x.offset + cflRecordSize (s.hdrAt x).dataLen)))

/-- The condition on a step: a peek at the damaged record does not read a forged one, the
record before it finds a plausible header behind itself, and the header of the damaged record
steps over it. -/
def Legible (s : Bench) : Action -> Prop
  | .append _ => True
  | .damage _ _ => True
  | .peek _ => forall x, s.damaged = some x -> x ∈ s.stored -> HeadOn s.inst x -> s.NoForgery x
  | .consume => forall x, s.damaged = some x -> x ∈ s.stored ->
      (s.HeadBefore x -> cflHeaderPlausible (s.hdrAt x) x.offset) ∧
        (HeadOn s.inst x -> s.StepsOver x)

/-!
## The loop beside the sound log
-/

/-- The answer to the last peek belongs to the oldest unread record: its payload, or corrupt
because it is the damaged one. -/
def PeekedFront (damaged : Option Standing) (unread : List Standing) (answer : CflAnswer) :
    Prop :=
  (answer.err = .ok -> exists x rest, unread = x :: rest ∧ answer.data = some x.data) ∧
    (answer.err = .corrupt -> exists x rest, unread = x :: rest ∧ damaged = some x)

/-- There is a sound log with these unread records beside the one of the bench. -/
structure Steady (s : Bench) (unread : List Standing) : Prop where
  log : exists sm sound R q, Kept sm R sound q unread s.stored ∧
    Beside sm s.flash sound s.inst s.damaged s.stored
  peeked : forall answer, s.peeked = some answer -> PeekedFront s.damaged unread answer

section Steady

variable {s : Bench} {u unread : List Standing} {sm m : Memory} {sound inst : CflInst}
variable {damaged : Option Standing} {R : Ring} {q : List Rec} {st : List Standing} {r : Rec}
variable {x : Standing} {maxLen : Nat}

theorem Kept.front_eq (hk : Kept sm R sound (r :: q) u st) (hx : x ∈ st)
    (hsector : sound.headSector = x.sector) (hoffset : sound.headOffset = x.offset) :
    x = ⟨sound.headSector, sound.headOffset, r.payload⟩ := by
  rcases hk.splitHead with ⟨pre, post, hsplit, hhead⟩
  have hmem := ((hk.held.stores x).mp hx).2
  have hfront : (⟨sound.headSector, 0 + sizes pre, r.payload⟩ : Standing) ∈
      placesFrom sound.headSector 0 (pre ++ r :: post) := mem_placesFrom
  rw [← hsector, hsplit] at hmem
  rw [Nat.zero_add, ← hhead] at hfront
  have hsize : x.data.length + 14 <= x.size := x.bytesLength_le
  have hmin := r.size_ge
  rcases placesFrom_apart hmem hfront with heq | hbefore | hbehind
  · exact heq
  · change x.offset + x.size <= sound.headOffset at hbefore
    omega
  · change sound.headOffset + r.size <= x.offset at hbehind
    omega

theorem Beside.fields (h : Beside sm m sound inst damaged st) :
    inst.headSector = sound.headSector ∧ inst.headOffset = sound.headOffset ∧
      inst.tailSector = sound.tailSector ∧ inst.entryCount = sound.entryCount := by
  rw [h.lags.fields]
  exact ⟨rfl, rfl, rfl, rfl⟩

theorem Beside.peek (h : Beside sm m sound inst damaged st) (hk : Kept sm R sound q u st)
    (hmax : cflMaxRecordBytes <= maxLen) :
    exists answer, (cflPeekOldest inst maxLen).eval qspiFlash m = (answer, m) ∧
      ((u = [] ∧ answer = ⟨.empty, none, none⟩) ∨
        (u ≠ [] ∧ (answer.err = .ok ∨ answer.err = .corrupt))) := by
  rcases h.fields with ⟨hsector, hoffset, _, hcount⟩
  cases q with
  | nil =>
      have hzero : inst.entryCount = 0 := by
        rw [hcount, hk.held.count]
        rfl
      refine ⟨⟨.empty, none, none⟩, ?_, .inl ⟨hk.held.places.nil_iff.mpr rfl, rfl⟩⟩
      unfold cflPeekOldest
      rw [if_pos hzero]
      rfl
  | cons r q =>
      rcases hk.atHead with ⟨hlt, hroom, _, _, hne, rest, hu⟩
      rcases eval_cflPeekOldest_cases (m := m) hmax (by rw [hcount]; exact hne)
        (by rw [hsector]; exact hlt) (by rw [hoffset]; exact hroom) with
        ⟨answer, heval, ⟨_, _, hanswer⟩ | ⟨_, hcorrupt⟩⟩
      · refine ⟨answer, heval, .inr ⟨?_, .inl (by rw [hanswer])⟩⟩
        rw [hu]
        exact List.cons_ne_nil _ _
      · refine ⟨answer, heval, .inr ⟨?_, .inr hcorrupt⟩⟩
        rw [hu]
        exact List.cons_ne_nil _ _

theorem Steady.peek (h : Steady s unread) (hmax : cflMaxRecordBytes <= maxLen)
    (hlegible : Legible s (.peek maxLen)) :
    exists answer, (cflPeekOldest s.inst maxLen).eval qspiFlash s.flash = (answer, s.flash) ∧
      PeekedFront s.damaged unread answer := by
  rcases h.log with ⟨sm, sound, R, q, hk, hbeside⟩
  rcases hbeside.fields with ⟨hsector, hoffset, _, hcount⟩
  cases q with
  | nil =>
      rcases hbeside.peek hk hmax with ⟨answer, heval, ⟨_, hempty⟩ | ⟨hne, _⟩⟩
      · refine ⟨answer, heval, ?_, ?_⟩ <;> rw [hempty] <;> intro herr <;> cases herr
      · exact absurd (hk.held.places.nil_iff.mpr rfl) hne
  | cons r q =>
      rcases hk.atHead with ⟨hlt, hroom, _, _, hne, rest, hu⟩
      rcases eval_cflPeekOldest_cases (m := s.flash) hmax (by rw [hcount]; exact hne)
        (by rw [hsector]; exact hlt) (by rw [hoffset]; exact hroom) with ⟨answer, heval, hcase⟩
      refine ⟨answer, heval, ?_⟩
      rw [hsector, hoffset] at hcase
      by_cases hhit : exists x, s.damaged = some x ∧ x ∈ s.stored ∧
          sound.headSector = x.sector ∧ sound.headOffset = x.offset
      · -- the damaged record is at the head
        rcases hhit with ⟨x, hdamaged, hstored, hxs, hxo⟩
        have hx := hk.front_eq hstored hxs hxo
        rcases hcase with ⟨ hplausible, hcrc, hanswer⟩ | ⟨_, hcorrupt⟩
        · have hforged := hlegible x hdamaged hstored
            ⟨by rw [hcount]; exact hne, hsector.trans hxs, hoffset.trans hxo⟩
          unfold Bench.NoForgery Bench.hdrAt at hforged
          rw [← hxs, ← hxo] at hforged
          have hdata := hforged hplausible hcrc
          refine ⟨fun _ => ⟨_, rest, hu, ?_⟩, fun herr => ?_⟩
          · rw [hanswer, ← hx, ← hdata]
          · rw [hanswer] at herr
            cases herr
        · refine ⟨fun herr => ?_, fun _ => ⟨_, rest, hu, ?_⟩⟩
          · rw [hcorrupt] at herr
            cases herr
          · rw [hdamaged, ← hx]
      · have hat := hbeside.recAt_head hk
          (fun x hdamaged hstored hxs hxo => hhit ⟨x, hdamaged, hstored, hxs.symm, hxo.symm⟩)
        rcases hat.checks with ⟨hheader, hcrc, hpayload⟩
        rw [hheader] at hcase
        rcases hcase with ⟨_, _, hanswer⟩ | ⟨hbad, _⟩
        · refine ⟨fun _ => ⟨_, rest, hu, ?_⟩, fun herr => ?_⟩
          · rw [hanswer]
            exact congrArg some hpayload
          · rw [hanswer] at herr
            cases herr
        · exact absurd ⟨ r.plausible (by omega), hcrc⟩ hbad

theorem Steady.consume (h : Steady s unread) (hlegible : Legible s .consume)
    (hne : unread ≠ []) :
    exists after m', (cflConsumeOldest s.inst).eval qspiFlash s.flash = ((.ok, after), m') ∧
      ¬ PastTail s.inst after ∧ after.entryCount = s.inst.entryCount - 1 ∧
      exists sm sound R q, Kept sm R sound q unread.tail s.stored ∧
        Beside sm m' sound after s.damaged s.stored := by
  rcases h.log with ⟨sm, sound, R, q, hk, hbeside⟩
  rcases hbeside.fields with ⟨hsector, hoffset, htail, hcount⟩
  cases q with
  | nil => exact absurd (hk.held.places.nil_iff.mpr rfl) hne
  | cons r q =>
      rcases hk.atHead with ⟨hlt, hroom, _, hfits, hentries, rest, hu⟩
      -- the header behind the head: the damaged record's must be plausible
      have hnext : forall x, s.damaged = some x -> x ∈ s.stored ->
          x.sector = sound.headSector -> x.offset = sound.headOffset + r.size ->
          RecAt s.flash (headAddr sound) r ->
          cflHeaderPlausible (headerOn s.flash x.sector x.offset) x.offset := by
        intro x hdamaged hstored hxs hxo hat
        apply (hlegible x hdamaged hstored).1
        refine ⟨hsector.trans hxs.symm, ?_⟩
        rw [hsector, hoffset, (RecAt.checks hat).1, hxo]
        rfl
      have hdone : exists hdr, headerOn s.flash sound.headSector sound.headOffset = hdr ∧
          cflHeaderPlausible hdr sound.headOffset ∧ r.payload.length <= hdr.dataLen ∧
          (sound.entryCount - 1 = 0 ∨
            (cflRecordSize hdr.dataLen = r.size ∧
              (GoesOnBehind s.flash sound r.size ↔ GoesOnBehind sm sound r.size)) ∨
            (¬ GoesOnBehind sm sound r.size ∧
              ¬ GoesOnBehind s.flash sound (cflRecordSize hdr.dataLen))) := by
        by_cases hhit : exists x, s.damaged = some x ∧ x ∈ s.stored ∧
            sound.headSector = x.sector ∧ sound.headOffset = x.offset
        · rcases hhit with ⟨x, hdamaged, hstored, hxs, hxo⟩
          have hx := hk.front_eq hstored hxs hxo
          rcases (hlegible x hdamaged hstored).2
            ⟨by rw [hcount]; exact hentries, hsector.trans hxs, hoffset.trans hxo⟩ with
            ⟨ hplausible, hcovers, hsteps⟩
          have hdata : x.data = r.payload := by
            rw [hx]
          refine ⟨s.hdrAt x, ?_, ?_, ?_, ?_⟩
          · rw [hxs, hxo]
            rfl
          · rw [hxo]
            exact hplausible
          · rw [← hdata]
            exact hcovers
          rcases hsteps with hlast | hsame | ⟨hother, hlast, hstops⟩
          · left
            rw [← hcount, hlast]
          · right
            left
            have hsize : x.size = r.size := by
              unfold Standing.size
              rw [hdata]
              rfl
            refine ⟨hsame.trans hsize, hbeside.goesOn_iff hk ?_⟩
            intro y hy _ _ hyo
            rw [hdamaged] at hy
            cases hy
            have hmin := r.size_ge
            omega
          · right
            right
            constructor
            · apply hk.last_stops
              intro y hy hys
              rw [hxo]
              exact hlast y hy (hys.trans hxs)
            · rintro ⟨_, hgoes⟩
              rw [hxs, hxo] at hgoes
              exact hstops hgoes
        · have hat := hbeside.recAt_head hk
            (fun x hdamaged hstored hxs hxo => hhit ⟨x, hdamaged, hstored, hxs.symm, hxo.symm⟩)
          refine ⟨r.hdr, (RecAt.checks hat).1, r.plausible hfits, Nat.le_refl _,
            .inr (.inl ⟨rfl, ?_⟩)⟩
          exact hbeside.goesOn_iff hk fun x hdamaged hstored hxs hxo =>
            hnext x hdamaged hstored hxs hxo hat
      rcases hdone with ⟨hdr, hhdr, hplausible, hcovers, hsettle⟩
      rcases hbeside.consume hk hdr hhdr hplausible hcovers hsettle with
        ⟨after, m', heval, hnot, sm', sound', R', hbeside', hk'⟩
      refine ⟨after, m', heval, hnot, ?_, sm', sound', R', q, hk', hbeside'⟩
      rw [hbeside'.fields.2.2.2, hk'.held.count, hcount, hk.held.count]
      rfl

theorem Steady.consume_empty (h : Steady s []) :
    (cflConsumeOldest s.inst).eval qspiFlash s.flash = ((.empty, s.inst), s.flash) := by
  rcases h.log with ⟨sm, sound, R, q, hk, hbeside⟩
  have hq := hk.held.places.nil_iff.mp rfl
  subst hq
  have hzero : s.inst.entryCount = 0 := by
    rw [hbeside.fields.2.2.2, hk.held.count]
    rfl
  unfold cflConsumeOldest
  rw [if_pos hzero]
  rfl

theorem PeekedFront.append {answer : CflAnswer} (h : PeekedFront damaged unread answer)
    (x : Standing) : PeekedFront damaged (unread ++ [x]) answer := by
  constructor
  · intro herr
    rcases h.1 herr with ⟨y, rest, hunread, hdata⟩
    exact ⟨y, rest ++ [x], by rw [hunread]; rfl, hdata⟩
  · intro herr
    rcases h.2 herr with ⟨y, rest, hunread, hdamaged⟩
    exact ⟨y, rest ++ [x], by rw [hunread]; rfl, hdamaged⟩

variable {events : List Event}

theorem Accounts.consumed {answer : Option CflAnswer} (h : Accounts events damaged unread)
    (hpeeked : forall a, answer = some a -> PeekedFront damaged unread a)
    (hallows : damaged = none ∨
      exists a, answer = some a ∧ (a.err = .ok ∨ a.err = .corrupt)) (hne : unread ≠ []) :
    Accounts (events ++ [CircularFlashLog.consumed answer]) damaged unread.tail := by
  rcases List.exists_cons_of_ne_nil hne with ⟨x, rest, rfl⟩
  have hintact : damaged = none -> Accounts (events ++ [.removed]) damaged rest := by
    intro hnone
    subst hnone
    exact h.removed
  cases answer with
  | none =>
      rcases hallows with hnone | ⟨a, ha, _⟩
      · exact hintact hnone
      · cases ha
  | some a =>
      rcases a with ⟨err, data, len⟩
      by_cases hok : err = .ok
      · subst hok
        rcases (hpeeked _ rfl).1 rfl with ⟨y, rest', hunread, hdata⟩
        cases hunread
        cases hdata
        exact h.delivered
      by_cases hcorrupt : err = .corrupt
      · subst hcorrupt
        rcases (hpeeked _ rfl).2 rfl with ⟨y, rest', hunread, rfl⟩
        cases hunread
        exact (h.lost rfl).skipped
      have hremoved : CircularFlashLog.consumed (some ⟨err, data, len⟩) = .removed := by
        cases err <;> first | rfl | exact absurd rfl hok | exact absurd rfl hcorrupt
      rw [hremoved]
      rcases hallows with hnone | ⟨a, ha, herr⟩
      · exact hintact hnone
      · cases ha
        exact (herr.elim hok hcorrupt).elim

/-!
## One step
-/

theorem Steady.step {action : Action} (h : Steady s unread)
    (haccounts : Accounts events s.damaged unread) (hallows : s.Allows action)
    (hlegible : Legible s action) :
    exists after, Steady (s.perform action).2 after ∧
      Accounts (events ++ [(s.perform action).1]) (s.perform action).2.damaged after := by
  cases action with
  | append data =>
      rcases h.log with ⟨sm, sound, R, q, hk, hbeside⟩
      rcases hbeside.append hk data with ⟨out, m', heval, hcase⟩
      rcases hcase with ⟨hne, sound', hafter, hkept⟩ | ⟨hok, sm', sound', R', q', hafter, hkept⟩
      · have hstep : s.perform (.append data) =
            (.refused, { s with flash := m', inst := out.2 }) := by
          simp only [Bench.perform, heval]
          exact if_neg hne
        rw [hstep]
        exact ⟨unread, ⟨⟨sm, sound', R, q, hkept, hafter⟩, h.peeked⟩, haccounts.refused⟩
      · have hstep : s.perform (.append data) =
            (.appended (lastWritten out.2 data),
              { s with
                flash := m'
                inst := out.2
                stored := storedAfter s.inst out.2 s.stored ++ [lastWritten out.2 data] }) := by
          simp only [Bench.perform, heval]
          exact if_pos hok
        rw [hstep]
        refine ⟨_, ⟨⟨sm', sound', R', q', hkept, hafter⟩, ?_⟩, haccounts.appended _⟩
        intro answer hpeeked
        exact (h.peeked answer hpeeked).append _
  | peek maxLen =>
      rcases h.peek hallows hlegible with ⟨answer, heval, hfront⟩
      have hstep : s.perform (.peek maxLen) = (.peeked, { s with peeked := some answer }) := by
        simp only [Bench.perform, heval]
      rw [hstep]
      refine ⟨unread, ⟨h.log, ?_⟩, haccounts.peeked⟩
      intro other hother
      cases hother
      exact hfront
  | consume =>
      by_cases hnone : unread = []
      · subst hnone
        have hstep : s.perform .consume = (.refused, { s with peeked := none }) := by
          simp only [Bench.perform, h.consume_empty]
          rfl
        rw [hstep]
        refine ⟨[], ⟨h.log, ?_⟩, haccounts.refused⟩
        intro answer hpeeked
        cases hpeeked
      · rcases h.consume hlegible hnone with ⟨after, m', heval, _, _, hlog⟩
        have hstep : s.perform .consume = (consumed s.peeked,
            { s with flash := m', inst := after, peeked := none }) := by
          simp only [Bench.perform, heval, if_true]
        rw [hstep]
        refine ⟨unread.tail, ⟨hlog, ?_⟩, haccounts.consumed h.peeked hallows hnone⟩
        intro answer hpeeked
        cases hpeeked
  | damage x bytes =>
      rcases hallows with ⟨hintact, hstored, hlen⟩
      rcases h.log with ⟨sm, sound, R, q, hk, hbeside⟩
      rcases hbeside.flash with ⟨a, n, hsame, hnone | ⟨y, hdamaged, _⟩⟩
      · have hflash : s.flash = sm := by
          funext z
          exact hsame z (by omega)
        have hchanged := overwritten_sameOutside s.flash x.addr bytes
        rw [hflash, hlen] at hchanged
        refine ⟨unread,
          ⟨⟨sm, sound, R, q, hk, hbeside.lags, x.addr, x.bytesLength, ?_, ?_⟩, ?_⟩, ?_⟩
        · change Memory.SameOutside sm (overwritten s.flash x.addr bytes) _ _
          rw [hflash]
          exact hchanged
        · exact .inr ⟨x, rfl, hstored, rfl, rfl⟩
        · intro answer hpeeked
          rcases h.peeked answer hpeeked with ⟨hok, hcorrupt⟩
          refine ⟨hok, fun herr => ?_⟩
          rcases hcorrupt herr with ⟨_, _, _, hdamaged⟩
          rw [hintact] at hdamaged
          cases hdamaged
        · rw [hintact] at haccounts
          exact haccounts.damaged x
      · rw [hintact] at hdamaged
        cases hdamaged

theorem BenchRun.steady (h : BenchRun Legible events s) :
    exists unread, Steady s unread ∧ Accounts events s.damaged unread := by
  induction h with
  | start herased hcreate =>
      rcases kept_create herased with ⟨inst, heval, hkept⟩
      rw [hcreate] at heval
      cases heval
      refine ⟨[], ⟨⟨_, _, _, [], hkept, ⟨rfl, Nat.le_refl _, rfl⟩, 0, 0, ?_, .inl rfl⟩, ?_⟩,
        .start⟩
      · exact Memory.SameOutside.refl _ _ _
      · intro answer hpeeked
        cases hpeeked
  | step _ hallows hlegible ih =>
      rcases ih with ⟨unread, hsteady, haccounts⟩
      exact hsteady.step haccounts hallows hlegible

theorem Steady.drained (h : Steady s []) : s.inst.entryCount = 0 ∧ s.inst.byteCount = 0 := by
  rcases h.log with ⟨sm, sound, R, q, hk, hbeside⟩
  have hq := hk.held.places.nil_iff.mp rfl
  subst hq
  have hbytes := hbeside.lags.bytes_le
  have hzero : sound.byteCount = 0 := hk.held.bytes
  constructor
  · rw [hbeside.fields.2.2.2, hk.held.count]
    rfl
  · omega

theorem Steady.not_pastTail (h : Steady s unread) : ¬ PastTail s.inst s.inst := by
  rcases h.log with ⟨sm, sound, R, q, hk, hbeside⟩
  rintro (hlt | ⟨hsame, hlt⟩)
  · exact Nat.lt_irrefl _ hlt
  · rw [hbeside.lags.fields] at hsame hlt
    exact absurd (hk.head_le hsame) (Nat.not_le_of_gt hlt)

theorem Steady.next (h : Steady s unread) :
    (s.next = .empty ↔ unread = []) ∧ (s.next = .ok ∨ s.next = .corrupt ∨ s.next = .empty) := by
  rcases h.log with ⟨sm, sound, R, q, hk, hbeside⟩
  rcases hbeside.peek hk (Nat.le_refl _) with ⟨answer, heval, hcase⟩
  have hnext : s.next = answer.err := by
    unfold Bench.next
    rw [heval]
  rw [hnext]
  rcases hcase with ⟨hnone, hempty⟩ | ⟨hne, hok | hcorrupt⟩
  · rw [hempty]
    exact ⟨⟨fun _ => hnone, fun _ => rfl⟩, .inr (.inr rfl)⟩
  · rw [hok]
    exact ⟨⟨fun h => (CflErr.noConfusion h), fun h => absurd h hne⟩, .inl rfl⟩
  · rw [hcorrupt]
    exact ⟨⟨fun h => (CflErr.noConfusion h), fun h => absurd h hne⟩, .inr (.inl rfl)⟩

end Steady

/-!
## Two records
-/

/-- A fresh log on an erased device. -/
def freshBench : Bench := ⟨erasedFlash, freshInst, [], none, none⟩

/-- Two records of three bytes in the first sector. -/
def twoStored : Bench :=
  ((freshBench.perform (.append [1, 2, 3])).2.perform (.append [4, 5, 6])).2

/-- The first of them. -/
def firstStored : Standing := ⟨0, 0, [1, 2, 3]⟩

/-- The consumer's next round behind a change of the first record's bytes. -/
def roundOn (bytes : List UInt8) : Bench :=
  (((twoStored.perform (.damage firstStored bytes)).2.perform (.peek cflMaxRecordBytes)).2.perform
    .consume).2

section TwoStored

variable {C : Bench -> Action -> Prop}

theorem twoStored_run (hC : forall s data, C s (.append data)) :
    BenchRun C [.appended firstStored, .appended ⟨0, 20, [4, 5, 6]⟩] twoStored := by
  have hcreate : cflCreate.eval qspiFlash erasedFlash = (some freshInst, erasedFlash) := by
    rcases kept_create (m := erasedFlash) (fun _ _ _ => rfl) with ⟨inst, heval, _⟩
    have hinst : (cflCreate.eval qspiFlash erasedFlash).1 = some freshInst := by decide +kernel
    rw [heval] at hinst
    injection hinst with hinst
    rw [heval, hinst]
  have hfirst : (freshBench.perform (.append [1, 2, 3])).1 = .appended firstStored := by
    decide +kernel
  have hsecond : ((freshBench.perform (.append [1, 2, 3])).2.perform (.append [4, 5, 6])).1 =
      .appended ⟨0, 20, [4, 5, 6]⟩ := by decide +kernel
  have hstart := BenchRun.start (C := C) (fun _ _ _ => rfl) hcreate
  have hone := @BenchRun.step C _ _ (.append [1, 2, 3]) hstart trivial (hC _ _)
  have hrun := @BenchRun.step C _ _ (.append [4, 5, 6]) hone trivial (hC _ _)
  change BenchRun C [(freshBench.perform (.append [1, 2, 3])).1,
    ((freshBench.perform (.append [1, 2, 3])).2.perform (.append [4, 5, 6])).1] twoStored at hrun
  rw [hfirst, hsecond] at hrun
  exact hrun

end TwoStored

/-!
## The result
-/

/-- Corruption stays local in every run whose steps meet the condition. -/
theorem damage_stays_local {events : List Event} {s : Bench} (h : BenchRun Legible events s) :
    StaysLocal Legible events s := by
  rcases h.steady with ⟨unread, hsteady, haccounts⟩
  refine ⟨⟨unread, haccounts, hsteady.next.1, ?_⟩, hsteady.next.2, ?_⟩
  · intro hnone
    subst hnone
    exact hsteady.drained
  · intro _ hlegible
    by_cases hnone : unread = []
    · subst hnone
      have hafter : (s.perform .consume).2.inst = s.inst := by
        simp only [Bench.perform, hsteady.consume_empty]
      rw [hafter, hsteady.drained.1]
      exact ⟨hsteady.not_pastTail, rfl⟩
    · rcases hsteady.consume hlegible hnone with ⟨after, m', heval, hnot, hcount, _⟩
      have hafter : (s.perform .consume).2.inst = after := by
        simp only [Bench.perform, heval]
      rw [hafter]
      exact ⟨hnot, hcount⟩

/-- Without it the damage spreads: behind a record whose magic is gone the consumer leaves the
sector with the head in front of the tail, and one record is still counted. -/
theorem damage_spreads :
    ¬ forall events s, BenchRun (fun _ _ => True) events s ->
      StaysLocal (fun _ _ => True) events s := by
  intro hclaim
  have hrun := @BenchRun.step (fun _ _ => True) _ _
    (.damage firstStored (List.replicate 17 0)) (twoStored_run fun _ _ => trivial)
    ⟨rfl, by decide +kernel, rfl⟩ trivial
  have hpeek := @BenchRun.step (fun _ _ => True) _ _ (.peek cflMaxRecordBytes) hrun
    (Nat.le_refl _) trivial
  have hallows : Bench.Allows ((twoStored.perform (.damage firstStored
      (List.replicate 17 0))).2.perform (.peek cflMaxRecordBytes)).2 .consume :=
    .inr ⟨⟨.corrupt, none, none⟩, by decide +kernel, .inr rfl⟩
  have hnot := ((hclaim _ _ hpeek).removal hallows trivial).1
  apply hnot
  decide +kernel

/-- One byte of the first payload changes: the record is skipped, and the next one is still to
come. -/
theorem damage_stays_local_payload :
    BenchRun Legible [.appended firstStored, .appended ⟨0, 20, [4, 5, 6]⟩, .damaged firstStored,
      .peeked, .skipped] (roundOn [90, 90, 239, 190, 0, 0, 0, 0, 3, 0, 0, 0, 1, 7, 3, 98, 71]) ∧
    StaysLocal Legible [.appended firstStored, .appended ⟨0, 20, [4, 5, 6]⟩,
      .damaged firstStored, .peeked, .skipped]
      (roundOn [90, 90, 239, 190, 0, 0, 0, 0, 3, 0, 0, 0, 1, 7, 3, 98, 71]) := by
  have hdamage := @BenchRun.step Legible _ _
    (.damage firstStored [90, 90, 239, 190, 0, 0, 0, 0, 3, 0, 0, 0, 1, 7, 3, 98, 71])
    (twoStored_run fun _ _ => trivial) ⟨rfl, by decide +kernel, rfl⟩ trivial
  have hpeek := @BenchRun.step Legible _ _ (.peek cflMaxRecordBytes) hdamage (Nat.le_refl _) (by
    intro x hx _ _ _ hcrc
    cases hx
    exact absurd hcrc (by decide +kernel))
  have hconsume := @BenchRun.step Legible _ _ .consume hpeek
    (.inr ⟨⟨.corrupt, some [1, 7, 3], none⟩, by decide +kernel, .inr rfl⟩) (by
      intro x hx _
      cases hx
      refine ⟨fun _ => by decide +kernel, fun _ => ?_⟩
      exact ⟨by decide +kernel, by decide +kernel, .inr (.inl (by decide +kernel))⟩)
  have hskipped : ((((twoStored.perform (.damage firstStored
      [90, 90, 239, 190, 0, 0, 0, 0, 3, 0, 0, 0, 1, 7, 3, 98, 71])).2.perform
        (.peek cflMaxRecordBytes)).2.perform .consume)).1 = .skipped := by decide +kernel
  rw [hskipped] at hconsume
  exact ⟨hconsume, damage_stays_local hconsume⟩

end EnvMonitor.Gateway.CircularFlashLog
