import EnvMonitor.Gateway.CircularFlashLog.Boot

/-!
# The queue of a session

What the instance holds between two calls: the unconsumed records, oldest first,
as they lie in the sectors from the head to the tail.
-/

namespace EnvMonitor.Gateway.CircularFlashLog

open Device Drivers

/-- A ring that is not empty: the head is on `r`, and the queue goes on in the `d`
sectors behind the head's, the last of which is the tail. -/
structure Layout (R : Ring) (inst : CflInst) (q : List Rec) (d : Nat)
    (pre : List Rec) (r : Rec) (post : List Rec) : Prop where
  head_lt : inst.headSector < 254
  dist_lt : d < 254
  tail : inst.tailSector = (inst.headSector + d) % 254
  atHead : AtHead R inst pre r post
  full : forall j, j ∈ ringFrom (cflNextSector inst.headSector) d ->
    j ≠ inst.tailSector -> R.recs j ≠ []
  queue : q = r :: post ++ joined R (cflNextSector inst.headSector) d

/-- The ring is empty and the next record will be written where the head is. -/
structure Parked (inst : CflInst) : Prop where
  sector : inst.headSector = inst.tailSector
  offset : cflRoomForRecord inst.tailOffset -> inst.headOffset = inst.tailOffset

/-- The instance holds the queue `q`. -/
structure Session (R : Ring) (inst : CflInst) (q : List Rec) : Prop where
  count : inst.entryCount = q.length
  bytes : inst.byteCount = payloadBytes q
  layout : (q = [] ∧ Parked inst) ∨
    (R.recs inst.tailSector ≠ [] ∧ exists d pre r post, Layout R inst q d pre r post)

section

variable {F : Faults qspi} {m m' : Memory} {R R' : Ring} {inst inst' : CflInst}
variable {q : List Rec} {d : Nat} {pre post : List Rec} {r new : Rec}
variable {data : List UInt8}

/-!
## Sizes
-/

theorem Layout.sizes_le (h : Layout R inst q d pre r post) (hm : Holds m R) :
    sizes q <= 4096 * 254 := by
  have hfits := (hm.sectors _ h.head_lt).fits
  rw [h.atHead.split, sizes_append, sizes_cons] at hfits
  have hrest := hm.sizes_joined (cflNextSector_lt inst.headSector) d
  have hd := h.dist_lt
  rw [h.queue, sizes_append, sizes_cons]
  omega

theorem u32_length (h : sizes q <= 4096 * 254) : u32 q.length = q.length := by
  have := length_le_sizes q
  exact Nat.mod_eq_of_lt (by omega)

theorem u32_payloadBytes (h : sizes q <= 4096 * 254) : u32 (payloadBytes q) = payloadBytes q := by
  have := payloadBytes_le_sizes q
  exact Nat.mod_eq_of_lt (by omega)

/-!
## Metadata does not matter to the queue
-/

theorem Session.congr (h : Session R inst q) (hrecs : R'.recs = R.recs)
    (hhead : inst'.headSector = inst.headSector) (hoffset : inst'.headOffset = inst.headOffset)
    (htail : inst'.tailSector = inst.tailSector) (htailOffset : inst'.tailOffset = inst.tailOffset)
    (hcount : inst'.entryCount = inst.entryCount) (hbytes : inst'.byteCount = inst.byteCount) :
    Session R' inst' q where
  count := by rw [hcount]; exact h.count
  bytes := by rw [hbytes]; exact h.bytes
  layout := by
    rcases h.layout with ⟨hq, hparked⟩ | ⟨hfull, d, pre, r, post, hlay⟩
    · left
      refine ⟨hq, ⟨?_, ?_⟩⟩
      · rw [hhead, htail]
        exact hparked.sector
      · rw [hoffset, htailOffset]
        exact hparked.offset
    · right
      rw [htail, hrecs]
      refine ⟨hfull, d, pre, r, post, ?_, hlay.dist_lt, ?_, ⟨?_, ?_⟩, ?_, ?_⟩
      · rw [hhead]
        exact hlay.head_lt
      · rw [hhead, htail]
        exact hlay.tail
      · rw [hhead, hrecs]
        exact hlay.atHead.split
      · rw [hoffset]
        exact hlay.atHead.offset
      · rw [hhead, htail, hrecs]
        exact hlay.full
      · rw [hhead]
        unfold joined
        rw [hrecs]
        exact hlay.queue

theorem Session.persist {previous : Nat} {err : CflErr} (h : Session R inst q)
    (hexit : PersistExit F R previous inst (some (err, inst')) R') : Session R' inst' q := by
  cases hexit with
  | same _ => exact h
  | stores _ _ _ hmeta =>
      cases hmeta with
      | stored => exact h.congr rfl rfl rfl rfl rfl rfl rfl
      | failed _ _ _ _ _ => exact h.congr rfl rfl rfl rfl rfl rfl rfl

/-!
## Appending
-/

theorem ringFrom_ne_last {h i : Nat} (hd : d < 254) (hi : i ∈ ringFrom (cflNextSector h) d) :
    i ≠ (h + (d + 1)) % 254 := by
  obtain ⟨k, hk, rfl⟩ := (mem_ringFrom (cflNextSector_lt h)).mp hi
  rw [cflNextSector_eq]
  omega

theorem Layout.write (h : Layout R inst q d pre r post) (new : Rec) (data : List UInt8) :
    exists post', Layout (withNext R inst new) (appended inst data.length) (q ++ [new]) d
      pre r post' := by
  have hhead := h.head_lt
  have htail := h.tail
  cases d with
  | zero =>
      have hsame : inst.tailSector = inst.headSector := by omega
      refine ⟨post ++ [new], hhead, h.dist_lt, htail, ⟨?_, h.atHead.offset⟩, ?_, ?_⟩
      · show (withNext R inst new).recs inst.headSector = _
        rw [withNext, hsame, Ring.setRecs_same, h.atHead.split]
        simp
      · intro j hj
        simp [ringFrom] at hj
      · rw [h.queue]
        simp [joined, ringFrom]
  | succ d =>
      have hd := h.dist_lt
      have hne : inst.headSector ≠ inst.tailSector := by omega
      have hlast : (cflNextSector inst.headSector + d) % 254 = inst.tailSector := by
        rw [htail, cflNextSector_eq]
        omega
      have hothers : forall j, j ∈ ringFrom (cflNextSector inst.headSector) d ->
          (withNext R inst new).recs j = R.recs j := by
        intro j hj
        have hjne := ringFrom_ne_last (by omega) hj
        rw [← htail] at hjne
        exact Ring.setRecs_other hjne
      refine ⟨post, hhead, hd, htail, ⟨?_, h.atHead.offset⟩, ?_, ?_⟩
      · rw [← h.atHead.split]
        exact Ring.setRecs_other hne
      · intro j hj hjne
        have hsame : (withNext R inst new).recs j = R.recs j := Ring.setRecs_other hjne
        rw [hsame]
        exact h.full j hj hjne
      · have hqueue := h.queue
        rw [joined_snoc R (cflNextSector_lt _), hlast] at hqueue
        show q ++ [new] = r :: post ++ joined (withNext R inst new) (cflNextSector inst.headSector) (d + 1)
        have hnew : (withNext R inst new).recs inst.tailSector =
            R.recs inst.tailSector ++ [new] := Ring.setRecs_same
        rw [joined_snoc _ (cflNextSector_lt _), hlast, joined_congr hothers, hnew, hqueue]
        simp

theorem Layout.advance (h : Layout R inst q d pre r post)
    (hfull : R.recs inst.tailSector ≠ [])
    (hroom : cflNextSector inst.tailSector ≠ inst.headSector) :
    Layout (nextErased R inst) (advanced inst) q (d + 1) pre r post := by
  have hhead := h.head_lt
  have htail := h.tail
  have hdist := h.dist_lt
  rw [cflNextSector_eq, htail] at hroom
  have hd : d + 1 < 254 := by omega
  have hnext : cflNextSector inst.tailSector = (inst.headSector + (d + 1)) % 254 := by
    rw [cflNextSector_eq, htail]
    omega
  have hothers : forall j, j ∈ ringFrom (cflNextSector inst.headSector) d ->
      (nextErased R inst).recs j = R.recs j := by
    intro j hj
    have hjne := ringFrom_ne_last hdist hj
    rw [← hnext] at hjne
    exact Ring.setRecs_other hjne
  have hlast : (cflNextSector inst.headSector + d) % 254 = cflNextSector inst.tailSector := by
    rw [hnext, cflNextSector_eq]
    omega
  refine ⟨hhead, hd, hnext, ⟨?_, h.atHead.offset⟩, ?_, ?_⟩
  · rw [← h.atHead.split]
    refine Ring.setRecs_other ?_
    rw [hnext]
    show inst.headSector ≠ _
    omega
  · intro j hj hjne
    show (nextErased R inst).recs j ≠ []
    rw [show ringFrom (cflNextSector (advanced inst).headSector) (d + 1) =
      ringFrom (cflNextSector inst.headSector) (d + 1) from rfl,
      ringFrom_snoc (cflNextSector_lt _), hlast, List.mem_append, List.mem_singleton] at hj
    rcases hj with hold | hlastj
    · rw [hothers j hold]
      by_cases hjt : j = inst.tailSector
      · rw [hjt]
        exact hfull
      · exact h.full j hold hjt
    · exact absurd hlastj hjne
  · show q = r :: post ++ joined (nextErased R inst) (cflNextSector inst.headSector) (d + 1)
    have hempty : (nextErased R inst).recs (cflNextSector inst.tailSector) = [] :=
      Ring.setRecs_same
    rw [joined_snoc _ (cflNextSector_lt _), hlast, hempty, List.append_nil,
      joined_congr hothers]
    exact h.queue

theorem Session.write_behind (hcount : inst.entryCount = q.length)
    (hbytes : inst.byteCount = payloadBytes q) (h : Layout R inst q d pre r post)
    (hnext : IsNext inst data new) (hm : Holds m (withNext R inst new)) :
    Session (withNext R inst new) (appended inst data.length) (q ++ [new]) := by
  obtain ⟨post', hlay⟩ := h.write new data
  have hsizes := hlay.sizes_le hm
  refine ⟨?_, ?_, .inr ⟨?_, d, pre, r, post', hlay⟩⟩
  · show u32 (inst.entryCount + 1) = _
    rw [hcount, show q.length + 1 = (q ++ [new]).length by simp]
    exact u32_length hsizes
  · show u32 (inst.byteCount + data.length) = _
    rw [hbytes, ← hnext.2, show payloadBytes q + new.payload.length = payloadBytes (q ++ [new])
      by simp]
    exact u32_payloadBytes hsizes
  · show (withNext R inst new).recs inst.tailSector ≠ []
    rw [withNext, Ring.setRecs_same]
    simp

theorem Layout.first (htail : inst.tailSector < 254) (hsector : inst.headSector = inst.tailSector)
    (hoffset : inst.headOffset = inst.tailOffset)
    (hend : inst.tailOffset = sizes (R.recs inst.tailSector)) (new : Rec) (data : List UInt8) :
    Layout (withNext R inst new) (appended inst data.length) [new] 0
      (R.recs inst.tailSector) new [] := by
  have hnew : (withNext R inst new).recs inst.tailSector =
      R.recs inst.tailSector ++ [new] := Ring.setRecs_same
  refine ⟨?_, by omega, ?_, ⟨?_, ?_⟩, ?_, ?_⟩
  · show inst.headSector < 254
    omega
  · show inst.tailSector = (inst.headSector + 0) % 254
    omega
  · show (withNext R inst new).recs inst.headSector = _
    rw [hsector, hnew]
  · show inst.headOffset = _
    rw [hoffset, hend]
  · intro j hj
    simp [ringFrom] at hj
  · simp [joined, ringFrom]

theorem Session.write_first (htail : inst.tailSector < 254) (hcount : inst.entryCount = 0)
    (hbytes : inst.byteCount = 0) (hsector : inst.headSector = inst.tailSector)
    (hoffset : inst.headOffset = inst.tailOffset)
    (hend : inst.tailOffset = sizes (R.recs inst.tailSector))
    (hnext : IsNext inst data new) :
    Session (withNext R inst new) (appended inst data.length) [new] := by
  have hnew : (withNext R inst new).recs inst.tailSector =
      R.recs inst.tailSector ++ [new] := Ring.setRecs_same
  refine ⟨?_, ?_, .inr ⟨?_, 0, R.recs inst.tailSector, new, [],
    Layout.first htail hsector hoffset hend new data⟩⟩
  · show u32 (inst.entryCount + 1) = 1
    rw [hcount]
    rfl
  · have hlen := new.payload_le
    show u32 (inst.byteCount + data.length) = _
    rw [hbytes, ← hnext.2, payloadBytes_cons, payloadBytes_nil, Nat.zero_add, Nat.add_zero]
    exact Nat.mod_eq_of_lt (by omega)
  · show (withNext R inst new).recs inst.tailSector ≠ []
    rw [hnew]
    simp

theorem Session.length_zero_iff (h : Session R inst q) : inst.entryCount = 0 ↔ q = [] := by
  rw [h.count]
  exact List.length_eq_zero_iff

theorem Session.retire_empty (h : Session R inst []) : Session R' (retired inst) [] where
  count := h.count
  bytes := h.bytes
  layout := by
    rcases h.layout with ⟨_, hparked⟩ | ⟨_, d, pre, r, post, hlay⟩
    · exact .inl ⟨rfl, hparked.sector, fun hroom => (not_room_of_retired inst hroom).elim⟩
    · have hqueue := hlay.queue
      simp at hqueue

theorem Session.retire (h : Session R inst q) : Session R (retired inst) q where
  count := h.count
  bytes := h.bytes
  layout := by
    rcases h.layout with ⟨hq, hparked⟩ | ⟨hfull, d, pre, r, post, hlay⟩
    · exact .inl ⟨hq, hparked.sector, fun hroom => (not_room_of_retired inst hroom).elim⟩
    · exact .inr ⟨hfull, d, pre, r, post, hlay.head_lt, hlay.dist_lt, hlay.tail,
        ⟨hlay.atHead.split, hlay.atHead.offset⟩, hlay.full, hlay.queue⟩

/-- The page programs that may fail in `cfl_append` without harm: all of them while the
ring is empty; otherwise none in a new sector, and none that completes the header. -/
def AppendSafe (F : Faults qspi) (inst : CflInst) (data : List UInt8) : Prop :=
  inst.entryCount ≠ 0 -> forall addr page w, F.fails (.writePage addr page) w ->
    ¬ NeedsSector inst data ∧ ¬ EndsHeader (tailAddr inst) addr page w

/-- What an append leaves of the queue. -/
def Appended (R' : Ring) (q : List Rec) (data : List UInt8) (out : CflErr × CflInst) : Prop :=
  (out.1 = .ok ∧ exists new, new.payload = data ∧ Session R' out.2 (q ++ [new])) ∨
    (out.1 ≠ .ok ∧ Session R' out.2 q)

variable {out : CflErr × CflInst} {rest : List Rec}

theorem Session.write_empty (htail : inst.tailSector < 254)
    (hend : inst.tailOffset = sizes (R.recs inst.tailSector)) (h : Session R inst [])
    (hroom : cflRoomForRecord inst.tailOffset) (hexit : WriteExit F R inst data (some out) R') :
    Appended R' [] data out := by
  rcases h.layout with ⟨_, hparked⟩ | ⟨_, d, pre, r, post, hlay⟩
  · cases hexit with
    | done new hnext =>
        exact .inl ⟨rfl, new, hnext.2, Session.write_first htail h.count h.bytes
          hparked.sector (hparked.offset hroom) hend hnext⟩
    | failed _ => exact .inr ⟨by simp, h.retire_empty⟩
    | failedDone new hnext _ => exact .inr ⟨by simp, h.retire_empty⟩
  · have hqueue := hlay.queue
    simp at hqueue

theorem PersistExit.onNext
    (h : PersistExit F (nextErased R inst) inst.headSector
      (headOnTail (advanced inst)) (some (.ok, inst')) R') :
    inst'.tailSector = cflNextSector inst.tailSector ∧ inst'.tailOffset = 0 ∧
      R'.recs (cflNextSector inst.tailSector) = [] := by
  have hempty : (nextErased R inst).recs (cflNextSector inst.tailSector) = [] :=
    Ring.setRecs_same
  cases h with
  | same _ => exact ⟨rfl, rfl, hempty⟩
  | stores _ _ _ hmeta =>
      cases hmeta with
      | stored => exact ⟨rfl, rfl, hempty⟩
      | failed _ _ herr _ _ => rcases herr with herr | herr <;> cases herr

theorem Session.append (hsim : Sim m R inst) (h : Session R inst q) (hsafe : AppendSafe F inst data)
    (hexit : AppendExit F R inst data (some out) R') (hm : Holds m' R') :
    Appended R' q data out := by
  cases hexit with
  | tooLarge _ => exact .inr ⟨by simp, h⟩
  | full _ _ _ => exact .inr ⟨by simp, h⟩
  | here _ _ hlen hneeds hwrite =>
      have hfit : inst.tailOffset + cflRecordSize data.length <= 4096 := Nat.le_of_not_lt hneeds
      have hmin := cflRecordSize_ge_min hlen.1
      have hroom : cflRoomForRecord inst.tailOffset := cflRoomForRecord_iff.mpr (by omega)
      rcases h.layout with ⟨rfl, hparked⟩ | ⟨hfull, d, pre, r, post, hlay⟩
      · exact Session.write_empty hsim.tail_lt (hsim.tail_end hroom) h hroom hwrite
      · have hne : inst.entryCount ≠ 0 := by
          rw [h.count, hlay.queue]
          simp
        cases hwrite with
        | done new hnext =>
            exact .inl ⟨rfl, new, hnext.2, Session.write_behind h.count h.bytes hlay hnext hm⟩
        | failed _ => exact .inr ⟨by simp, h.retire⟩
        | failedDone new hnext hfail =>
            obtain ⟨addr, page, w, hw, hends⟩ := hfail
            exact absurd hends (hsafe hne addr page w hw).2
  | eraseFailed rs _ hneeds hfull hrs _ =>
      refine .inr ⟨by simp, ?_⟩
      rcases h.layout with ⟨rfl, hparked⟩ | ⟨htail, d, pre, r, post, hlay⟩
      · exact ⟨h.count, h.bytes, .inl ⟨rfl, hparked⟩⟩
      · have hne : inst.entryCount ≠ 0 := by
          rw [h.count, hlay.queue]
          simp
        have hroom : cflNextSector inst.tailSector ≠ inst.headSector := fun heq => hfull ⟨heq, hne⟩
        have hhead := hlay.head_lt
        have hdist := hlay.dist_lt
        have hlt := hsim.tail_lt
        have hpos := hlay.tail
        have hnext : cflNextSector inst.tailSector = (inst.headSector + (d + 1)) % 254 := by
          rw [cflNextSector_eq, hpos]
          omega
        have hothers : forall j, j ∈ ringFrom (cflNextSector inst.headSector) d ->
            (R.setRecs (cflNextSector inst.tailSector) rs).recs j = R.recs j := by
          intro j hj
          have hjne := ringFrom_ne_last hdist hj
          rw [← hnext] at hjne
          exact Ring.setRecs_other hjne
        refine ⟨h.count, h.bytes, .inr ⟨?_, d, pre, r, post, hhead, hdist, hpos,
          ⟨?_, hlay.atHead.offset⟩, ?_, ?_⟩⟩
        · show (R.setRecs (cflNextSector inst.tailSector) rs).recs inst.tailSector ≠ []
          rw [Ring.setRecs_other (cflNextSector_ne hlt)]
          exact htail
        · show (R.setRecs (cflNextSector inst.tailSector) rs).recs inst.headSector = _
          rw [Ring.setRecs_other hroom.symm]
          exact hlay.atHead.split
        · intro j hj hjne
          rw [hothers j hj]
          exact hlay.full j hj hjne
        · rw [joined_congr hothers]
          exact hlay.queue
  | advance _ _ hlen hneeds hfull hne hwrite =>
      rcases h.layout with ⟨hq, _⟩ | ⟨htail, d, pre, r, post, hlay⟩
      · exact absurd (h.length_zero_iff.mpr hq) hne
      · have hadv := hlay.advance htail (fun heq => hfull ⟨heq, hne⟩)
        cases hwrite with
        | done new hnext =>
            have hcount : (advanced inst).entryCount = q.length := h.count
            exact .inl ⟨rfl, new, hnext.2, Session.write_behind hcount h.bytes hadv hnext hm⟩
        | failed hfail =>
            obtain ⟨addr, page, w, hw⟩ := hfail
            exact absurd hneeds (hsafe hne addr page w hw).1
        | failedDone new hnext hfail =>
            obtain ⟨addr, page, w, hw, _⟩ := hfail
            exact absurd hneeds (hsafe hne addr page w hw).1
  | moveFailed err inst₁ _ _ _ hempty herr hmove =>
      have hq := h.length_zero_iff.mp hempty
      subst hq
      have hmoved : Session (nextErased R inst) (headOnTail (advanced inst)) [] :=
        ⟨h.count, h.bytes, .inl ⟨rfl, rfl, fun _ => rfl⟩⟩
      exact .inr ⟨herr, hmoved.persist hmove⟩
  | moveDone inst₁ R₁ _ _ hlen _ hempty hmove hwrite =>
      have hq := h.length_zero_iff.mp hempty
      subst hq
      have hmoved : Session (nextErased R inst) (headOnTail (advanced inst)) [] :=
        ⟨h.count, h.bytes, .inl ⟨rfl, rfl, fun _ => rfl⟩⟩
      have hsession := hmoved.persist hmove
      have hnextLt := cflNextSector_lt inst.tailSector
      rcases hmove.onNext with ⟨hsector, hoffset, hrecs⟩
      apply Session.write_empty _ _ hsession _ hwrite
      · rw [hsector]
        exact hnextLt
      · rw [hoffset, hsector, hrecs]
        rfl
      · rw [hoffset]
        exact cflRoomForRecord_iff.mpr (by omega)

/-!
## Consuming
-/

/-- The failures of `cfl_consume_oldest` that do no harm: the header behind the oldest
record may fail to be read only if a record begins there. -/
def ConsumeSafe (F : Faults qspi) (m : Memory) (inst : CflInst) : Prop :=
  forall n, F.fails (.read (headAddr inst +
      cflRecordSize (headerAt m (headAddr inst)).dataLen) 12) n ->
    cflHeaderPlausible
      (headerAt m (headAddr inst + cflRecordSize (headerAt m (headAddr inst)).dataLen))
      (inst.headOffset + cflRecordSize (headerAt m (headAddr inst)).dataLen)

/-- What removing the oldest record leaves of the queue: a failed call may or may not
have removed it. -/
def Consumed (R' : Ring) (r : Rec) (rest : List Rec) (out : CflErr × CflInst) : Prop :=
  Session R' out.2 rest ∨ (out.1 ≠ .ok ∧ Session R' out.2 (r :: rest))

theorem Layout.passed_more {s : Rec} (h : Layout R inst (r :: rest) d pre r (s :: post))
    (payloadLen : Nat) : Layout R (passed inst r.size payloadLen) rest d (pre ++ [r]) s post where
  head_lt := h.head_lt
  dist_lt := h.dist_lt
  tail := h.tail
  atHead := ⟨by rw [show (passed inst r.size payloadLen).headSector = inst.headSector from rfl,
      h.atHead.split]; simp,
    by show inst.headOffset + r.size = _; rw [h.atHead.offset]; simp⟩
  full := h.full
  queue := by
    have hqueue := h.queue
    simp only [List.cons_append, List.cons.injEq, true_and] at hqueue
    exact hqueue

theorem Layout.passed_next (h : Layout R inst (r :: rest) d pre r [])
    (hfull : R.recs inst.tailSector ≠ []) (hrest : rest ≠ []) (payloadLen : Nat) :
    exists s post', Layout R (headOnNext (passed inst r.size payloadLen)) rest (d - 1) [] s post' := by
  have hhead := h.head_lt
  have htail := h.tail
  have hdist := h.dist_lt
  have hqueue := h.queue
  cases d with
  | zero =>
      simp [joined, ringFrom] at hqueue
      exact absurd hqueue hrest
  | succ d =>
      have hnext : R.recs (cflNextSector inst.headSector) ≠ [] := by
        by_cases hlast : cflNextSector inst.headSector = inst.tailSector
        · rw [hlast]
          exact hfull
        · exact h.full _ (List.mem_cons_self ..) hlast
      cases hrecs : R.recs (cflNextSector inst.headSector) with
      | nil => exact absurd hrecs hnext
      | cons s post' =>
          refine ⟨s, post', cflNextSector_lt _, by omega, ?_, ⟨hrecs, rfl⟩, ?_, ?_⟩
          · show inst.tailSector = (cflNextSector inst.headSector + d) % 254
            rw [htail, cflNextSector_eq]
            omega
          · intro j hj hjne
            exact h.full j (List.mem_cons_of_mem _ hj) hjne
          · rw [joined_succ, hrecs] at hqueue
            simp only [List.cons_append, List.nil_append, List.cons.injEq, true_and] at hqueue
            exact hqueue

theorem recAt_head (hsim : Sim m R inst) (hhead : AtHead R inst pre r post) :
    RecAt m (headAddr inst) r := by
  have hrecs := (hsim.holds.sectors _ hsim.head_lt).recs
  rw [hhead.split] at hrecs
  unfold headAddr
  rw [hhead.offset]
  exact hrecs.at

theorem ConsumeSafe.more (hsim : Sim m R inst) (hhead : AtHead R inst pre r post)
    (hsafe : ConsumeSafe F m inst) {payloadLen : Nat}
    (hfail : exists n, F.fails (.read (headAddr (passed inst r.size payloadLen)) 12) n) :
    post ≠ [] := by
  obtain ⟨n, hn⟩ := hfail
  have hsize : cflRecordSize (headerAt m (headAddr inst)).dataLen = r.size := by
    rw [(recAt_head hsim hhead).header]
    rfl
  have haddr : headAddr (passed inst r.size payloadLen) = headAddr inst + r.size :=
    (Nat.add_assoc _ _ _).symm
  rw [haddr] at hn
  have hplausible := hsafe n (by rw [hsize]; exact hn)
  have hoffset : inst.headOffset + r.size = sizes (pre ++ [r]) := by
    rw [hhead.offset, sizes_append, sizes_cons, sizes_nil]
    omega
  have haddr' : headAddr inst + r.size =
      cflDataSectorAddr inst.headSector + sizes (pre ++ [r]) := by
    rw [← hoffset]
    exact Nat.add_assoc _ _ _
  rw [hsize, hoffset, haddr'] at hplausible
  have hroom : cflRoomForRecord (sizes (pre ++ [r])) := by
    obtain ⟨_, hlen, _, hfits⟩ := hplausible
    have hmin := cflRecordSize_ge_min (Nat.pos_of_ne_zero hlen)
    exact cflRoomForRecord_iff.mpr (Nat.le_trans (Nat.add_le_add_left hmin _) hfits)
  have hsplit : R.recs inst.headSector = (pre ++ [r]) ++ post := by
    rw [hhead.split]
    simp
  exact ((hsim.holds.sectors _ hsim.head_lt).plausible_iff hsplit hroom).mp hplausible

theorem Session.consume (hsim : Sim m R inst) (h : Session R inst (r :: rest))
    (hfull : R.recs inst.tailSector ≠ []) (hlay : Layout R inst (r :: rest) d pre r post)
    (hsafe : ConsumeSafe F m inst) (hexit : ConsumeExit F R inst r post (some out) R') :
    Consumed R' r rest out := by
  have hcount := h.count
  have hbytes := h.bytes
  rw [payloadBytes_cons] at hbytes
  rw [List.length_cons] at hcount
  have hmin : min r.payload.length inst.byteCount = r.payload.length := by omega
  have hpassedCount : (passed inst r.size r.payload.length).entryCount = rest.length := by
    show inst.entryCount - 1 = _
    omega
  have hpassedBytes : (passed inst r.size r.payload.length).byteCount = payloadBytes rest := by
    show inst.byteCount - r.payload.length = _
    omega
  -- another record in the sector
  have hmore : post ≠ [] -> Session R (passed inst r.size r.payload.length) rest := by
    intro hne
    cases post with
    | nil => exact absurd rfl hne
    | cons s post =>
        exact ⟨hpassedCount, hpassedBytes,
          .inr ⟨hfull, d, pre ++ [r], s, post, hlay.passed_more _⟩⟩
  cases hexit with
  | readFailed _ => exact .inr ⟨by simp, h⟩
  | advances _ _ hadvance =>
      rw [hmin] at hadvance
      obtain ⟨err, inst'⟩ := out
      cases hadvance with
      | drains _ _ hzero hpersist =>
          rw [hpassedCount] at hzero
          have hrest : rest = [] := List.length_eq_zero_iff.mp hzero
          subst hrest
          have hparked : Session R (parked (passed inst r.size r.payload.length)) [] :=
            ⟨hpassedCount, hpassedBytes, .inl ⟨rfl, rfl, fun _ => rfl⟩⟩
          exact .inl (hparked.persist hpersist)
      | moreFailed _ hfail => exact .inl (hmore (hsafe.more hsim hlay.atHead hfail))
      | stays _ _ _ hne hpersist => exact .inl ((hmore hne).persist hpersist)
      | next _ _ hpos hlast hpersist =>
          have hpost : post = [] := by simpa using hlast
          subst hpost
          rw [hpassedCount] at hpos
          have hrest : rest ≠ [] := fun hnil => hpos (List.length_eq_zero_iff.mpr hnil)
          obtain ⟨s, post', hnext⟩ := hlay.passed_next hfull hrest r.payload.length
          have hsession : Session R (headOnNext (passed inst r.size r.payload.length)) rest :=
            ⟨hpassedCount, hpassedBytes, .inr ⟨hfull, d - 1, [], s, post', hnext⟩⟩
          exact .inl (hsession.persist hpersist)

theorem Booted.session {k : Nat} (hsim : Sim m R inst) (h : Booted R inst k) :
    Session R inst (joined R inst.headSector k) := by
  have hlt := hsim.head_lt
  refine ⟨h.entryCount, h.byteCount, ?_⟩
  cases k with
  | zero =>
      left
      have htail : inst.tailSector = inst.headSector := h.tailSector
      refine ⟨rfl, htail.symm, fun hroom => ?_⟩
      have hempty : R.recs inst.headSector = [] := by
        rcases h.ends with hall | hnil | hbreak
        · omega
        · rwa [Nat.add_zero, Nat.mod_eq_of_lt hlt] at hnil
        · omega
      rw [h.headOffset, hsim.tail_end hroom, htail, hempty]
      rfl
  | succ k =>
      right
      have hk := h.sectors_le
      have htail : inst.tailSector = (inst.headSector + k) % 254 := by
        rw [h.tailSector]
        rfl
      have hmem : inst.tailSector ∈ ringFrom inst.headSector (k + 1) :=
        (mem_ringFrom hlt).mpr ⟨k, by omega, htail⟩
      have hfirst := h.joins.nonempty inst.headSector (List.mem_cons_self ..)
      refine ⟨h.joins.nonempty _ hmem, ?_⟩
      cases hrecs : R.recs inst.headSector with
      | nil => exact absurd hrecs hfirst
      | cons r post =>
          refine ⟨k, [], r, post, hlt, by omega, htail, ⟨hrecs, h.headOffset⟩, ?_, ?_⟩
          · intro j hj _
            exact h.joins.nonempty j (List.mem_cons_of_mem _ hj)
          · rw [joined_succ, hrecs]

end

end EnvMonitor.Gateway.CircularFlashLog
