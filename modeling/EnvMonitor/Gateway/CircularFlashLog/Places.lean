import EnvMonitor.Gateway.CircularFlashLog.Fifo

/-!
# The places of the records

Beside the queue of a session, where each of its records stands, and all records that stand
on the flash.  An append adds one place behind both; a removal takes the first unread one.
-/

namespace EnvMonitor.Gateway.CircularFlashLog

open Device Drivers

/-- A record on the flash: where it was written, and its payload. -/
structure Standing where
  sector : Nat
  offset : Nat
  data : List UInt8
  deriving DecidableEq, Repr

namespace Standing

def size (x : Standing) : Nat :=
  cflRecordSize x.data.length

def addr (x : Standing) : Nat :=
  cflDataSectorAddr x.sector + x.offset

/-- Header, payload and check sum. -/
def bytesLength (x : Standing) : Nat :=
  x.data.length + 14

theorem bytesLength_le (x : Standing) : x.bytesLength <= x.size :=
  (cflRecordSize_bounds _).1

end Standing

/-- The places of records that stand one behind the other. -/
def placesFrom (sector : Nat) : Nat -> List Rec -> List Standing
  | _, [] => []
  | offset, r :: rs => ⟨sector, offset, r.payload⟩ :: placesFrom sector (offset + r.size) rs

/-- The places from the record number `k` of the head sector on, and those in the `d`
sectors behind. -/
def unreadAt (R : Ring) (sector offset k d : Nat) : List Standing :=
  placesFrom sector offset ((R.recs sector).drop k) ++
    (ringFrom (cflNextSector sector) d).flatMap fun j => placesFrom j 0 (R.recs j)

/-- The list names every record on the flash. -/
def Stores (R : Ring) (st : List Standing) : Prop :=
  forall x, x ∈ st ↔ x.sector < 254 ∧ x ∈ placesFrom x.sector 0 (R.recs x.sector)

section Places

variable {sector offset : Nat} {rs ss : List Rec} {x y : Standing}

theorem placesFrom_append :
    placesFrom sector offset (rs ++ ss) =
      placesFrom sector offset rs ++ placesFrom sector (offset + sizes rs) ss := by
  induction rs generalizing offset with
  | nil => rfl
  | cons r rs ih =>
      change _ :: placesFrom sector (offset + r.size) (rs ++ ss) = _ :: (_ ++ _)
      rw [ih, sizes_cons, Nat.add_assoc]

theorem placesFrom_bounds (hx : x ∈ placesFrom sector offset rs) :
    offset <= x.offset ∧ x.offset + x.size <= offset + sizes rs := by
  induction rs generalizing offset with
  | nil => cases hx
  | cons r rs ih =>
      rw [sizes_cons]
      rcases List.mem_cons.mp hx with rfl | hrest
      · change offset <= offset ∧ offset + r.size <= _
        constructor <;> omega
      · have hbounds := ih hrest
        constructor <;> omega

theorem placesFrom_apart (hx : x ∈ placesFrom sector offset rs)
    (hy : y ∈ placesFrom sector offset rs) :
    x = y ∨ x.offset + x.size <= y.offset ∨ y.offset + y.size <= x.offset := by
  induction rs generalizing offset with
  | nil => cases hx
  | cons r rs ih =>
      rcases List.mem_cons.mp hx with rfl | hxrest
      · rcases List.mem_cons.mp hy with rfl | hyrest
        · exact .inl rfl
        · exact .inr (.inl (placesFrom_bounds hyrest).1)
      · rcases List.mem_cons.mp hy with rfl | hyrest
        · exact .inr (.inr (placesFrom_bounds hxrest).1)
        · exact ih hxrest hyrest

theorem placesFrom_split (hx : x ∈ placesFrom sector offset rs) :
    exists pre r post, rs = pre ++ r :: post ∧ x.offset = offset + sizes pre ∧
      x.data = r.payload := by
  induction rs generalizing offset with
  | nil => cases hx
  | cons r rs ih =>
      rcases List.mem_cons.mp hx with rfl | hrest
      · exact ⟨[], r, rs, rfl, rfl, rfl⟩
      · rcases ih hrest with ⟨pre, s, post, hsplit, hoffset, hdata⟩
        refine ⟨r :: pre, s, post, by rw [hsplit]; rfl, ?_, hdata⟩
        rw [hoffset, sizes_cons, Nat.add_assoc]

theorem mem_placesFrom {pre post : List Rec} {r : Rec} :
    ⟨sector, offset + sizes pre, r.payload⟩ ∈ placesFrom sector offset (pre ++ r :: post) := by
  rw [placesFrom_append]
  exact List.mem_append_right _ (List.mem_cons_self ..)

end Places

/-!
## The stored records along a session
-/

section Stores

variable {R R' : Ring} {st : List Standing} {i : Nat} {new : Rec}

theorem Stores.congr (h : Stores R st) (hrecs : R'.recs = R.recs) : Stores R' st := by
  intro x
  rw [hrecs]
  exact h x

theorem stores_erased : Stores Ring.erased [] := by
  intro x
  constructor
  · intro hx
    cases hx
  · rintro ⟨_, hx⟩
    cases hx

theorem Stores.erase (h : Stores R st) (i : Nat) :
    Stores (R.setRecs i []) (st.filter fun x => x.sector ≠ i) := by
  intro x
  rw [List.mem_filter, h x]
  by_cases hx : x.sector = i
  · rw [hx, Ring.setRecs_same]
    constructor
    · rintro ⟨_, hne⟩
      exact absurd rfl (of_decide_eq_true hne)
    · rintro ⟨_, hmem⟩
      cases hmem
  · rw [Ring.setRecs_other hx]
    exact ⟨fun hboth => hboth.1, fun hmem => ⟨hmem, decide_eq_true hx⟩⟩

theorem Stores.write (h : Stores R st) (new : Rec) (hi : i < 254) :
    Stores (R.setRecs i (R.recs i ++ [new]))
      (st ++ [⟨i, sizes (R.recs i), new.payload⟩]) := by
  intro x
  rw [List.mem_append, List.mem_singleton, h x]
  by_cases hx : x.sector = i
  · rw [hx, Ring.setRecs_same, placesFrom_append, List.mem_append, Nat.zero_add]
    change _ ↔ i < 254 ∧ (_ ∨ x ∈ [⟨i, sizes (R.recs i), new.payload⟩])
    rw [List.mem_singleton]
    constructor
    · rintro (⟨_, hold⟩ | hnew)
      · exact ⟨hi, .inl hold⟩
      · exact ⟨hi, .inr hnew⟩
    · rintro ⟨_, hold | hnew⟩
      · exact .inl ⟨hi, hold⟩
      · exact .inr hnew
  · rw [Ring.setRecs_other hx]
    constructor
    · rintro (hold | rfl)
      · exact hold
      · exact absurd rfl hx
    · exact .inl

end Stores

/-!
## The unread records along a session
-/

/-- The unread places of an instance that holds the queue `q`. -/
inductive UnreadPlaces (R : Ring) (inst : CflInst) : List Rec -> List Standing -> Prop where
  | empty : Parked inst -> inst.headOffset <= inst.tailOffset -> UnreadPlaces R inst [] []
  | holds {q : List Rec} {d : Nat} {pre : List Rec} {r : Rec} {post : List Rec} :
      R.recs inst.tailSector ≠ [] -> Layout R inst q d pre r post ->
      UnreadPlaces R inst q (unreadAt R inst.headSector inst.headOffset pre.length d)

/-- A session with the places of its records: the unread ones `u`, and all that stand on
the flash. -/
structure Held (R : Ring) (inst : CflInst) (q : List Rec) (u st : List Standing) : Prop where
  count : inst.entryCount = q.length
  bytes : inst.byteCount = payloadBytes q
  places : UnreadPlaces R inst q u
  stores : Stores R st

section Held

variable {F : Faults qspi} {m m' : Memory} {R R' : Ring} {inst inst' : CflInst}
variable {q : List Rec} {u st : List Standing} {d : Nat} {pre post : List Rec} {r new : Rec}
variable {data : List UInt8}

theorem Held.session (h : Held R inst q u st) : Session R inst q where
  count := h.count
  bytes := h.bytes
  layout := by
    cases h.places with
    | empty hparked _ => exact .inl ⟨rfl, hparked⟩
    | holds hfull hlay => exact .inr ⟨hfull, _, _, _, _, hlay⟩

theorem Layout.unread_head (h : Layout R inst q d pre r post) :
    unreadAt R inst.headSector inst.headOffset pre.length d =
      ⟨inst.headSector, inst.headOffset, r.payload⟩ ::
        (placesFrom inst.headSector (inst.headOffset + r.size) post ++
          (ringFrom (cflNextSector inst.headSector) d).flatMap
            fun j => placesFrom j 0 (R.recs j)) := by
  unfold unreadAt
  rw [h.atHead.split, List.drop_left]
  rfl

theorem placesFrom_length (sector offset : Nat) (rs : List Rec) :
    (placesFrom sector offset rs).length = rs.length := by
  induction rs generalizing offset with
  | nil => rfl
  | cons r rs ih => exact congrArg (· + 1) (ih (offset + r.size))

theorem UnreadPlaces.length_eq (h : UnreadPlaces R inst q u) : u.length = q.length := by
  cases h with
  | empty _ _ => rfl
  | holds _ hlay =>
      rw [hlay.unread_head, hlay.queue, List.length_cons, List.length_append, placesFrom_length]
      unfold joined
      rw [List.length_append, List.length_cons, List.length_flatMap, List.length_flatMap]
      simp only [placesFrom_length]
      omega

theorem UnreadPlaces.nil_iff (h : UnreadPlaces R inst q u) : u = [] ↔ q = [] := by
  rw [← List.length_eq_zero_iff, h.length_eq, List.length_eq_zero_iff]

theorem Held.persist {previous : Nat} (h : Held R inst q u st)
    (hexit : PersistExit F R previous inst (some (.ok, inst')) R') : Held R' inst' q u st := by
  have hkept : forall s x, Held (R.setSlot s x) (stored inst) q u st := by
    intro s x
    refine ⟨h.count, h.bytes, ?_, h.stores.congr rfl⟩
    cases h.places with
    | empty hparked hle => exact .empty ⟨hparked.sector, hparked.offset⟩ hle
    | holds hfull hlay =>
        exact @UnreadPlaces.holds (R.setSlot s x) (stored inst) _ _ _ _ _ hfull
          ⟨hlay.head_lt, hlay.dist_lt, hlay.tail, ⟨hlay.atHead.split, hlay.atHead.offset⟩,
            hlay.full, hlay.queue⟩
  cases hexit with
  | same _ => exact h
  | stores _ _ _ hmeta =>
      cases hmeta with
      | stored => exact hkept _ _
      | failed _ _ herr _ _ => rcases herr with herr | herr <;> cases herr

/-!
## Appending
-/

theorem Layout.unread_write (h : Layout R inst q d pre r post) (new : Rec)
    (hend : inst.tailOffset = sizes (R.recs inst.tailSector)) :
    unreadAt (withNext R inst new) inst.headSector inst.headOffset pre.length d =
      unreadAt R inst.headSector inst.headOffset pre.length d ++
        [⟨inst.tailSector, inst.tailOffset, new.payload⟩] := by
  have hhead := h.head_lt
  have hdist := h.dist_lt
  have htail := h.tail
  have hnew : (withNext R inst new).recs inst.tailSector = R.recs inst.tailSector ++ [new] :=
    Ring.setRecs_same
  unfold unreadAt
  cases d with
  | zero =>
      have hsame : inst.tailSector = inst.headSector := by
        rw [htail, Nat.add_zero, Nat.mod_eq_of_lt hhead]
      rw [hsame] at hnew hend
      rw [hnew, h.atHead.split, List.append_assoc, List.drop_left, List.drop_left,
        placesFrom_append]
      change _ ++ [_] ++ [] = _ ++ [] ++ [_]
      rw [List.append_nil, List.append_nil, hsame, hend, h.atHead.split, sizes_append,
        h.atHead.offset]
  | succ d =>
      have hne : inst.headSector ≠ inst.tailSector := by
        rw [htail]
        omega
      have hlast : (cflNextSector inst.headSector + d) % 254 = inst.tailSector := by
        rw [htail, cflNextSector_eq]
        omega
      have hhere : (withNext R inst new).recs inst.headSector = R.recs inst.headSector :=
        Ring.setRecs_other hne
      have hothers : (ringFrom (cflNextSector inst.headSector) d).flatMap
            (fun j => placesFrom j 0 ((withNext R inst new).recs j)) =
          (ringFrom (cflNextSector inst.headSector) d).flatMap
            (fun j => placesFrom j 0 (R.recs j)) := by
        apply List.flatMap_congr
        intro j hj
        have hjne := ringFrom_ne_last (by omega) hj
        rw [← htail] at hjne
        have hsame : (withNext R inst new).recs j = R.recs j := Ring.setRecs_other hjne
        rw [hsame]
      rw [hhere, ringFrom_snoc (cflNextSector_lt _), hlast, List.flatMap_append,
        List.flatMap_append, hothers, List.flatMap_singleton, List.flatMap_singleton, hnew,
        placesFrom_append, Nat.zero_add, hend, List.append_assoc, List.append_assoc]
      rfl

theorem Layout.unread_advance (h : Layout R inst q d pre r post)
    (hroom : cflNextSector inst.tailSector ≠ inst.headSector) :
    unreadAt (nextErased R inst) inst.headSector inst.headOffset pre.length (d + 1) =
      unreadAt R inst.headSector inst.headOffset pre.length d := by
  have hhead := h.head_lt
  have hdist := h.dist_lt
  have htail := h.tail
  have hnext : cflNextSector inst.tailSector = (inst.headSector + (d + 1)) % 254 := by
    rw [cflNextSector_eq, htail]
    omega
  have hlast : (cflNextSector inst.headSector + d) % 254 = cflNextSector inst.tailSector := by
    rw [hnext, cflNextSector_eq]
    omega
  have hhere : (nextErased R inst).recs inst.headSector = R.recs inst.headSector :=
    Ring.setRecs_other hroom.symm
  have hempty : (nextErased R inst).recs (cflNextSector inst.tailSector) = [] :=
    Ring.setRecs_same
  have hothers : (ringFrom (cflNextSector inst.headSector) d).flatMap
        (fun j => placesFrom j 0 ((nextErased R inst).recs j)) =
      (ringFrom (cflNextSector inst.headSector) d).flatMap
        (fun j => placesFrom j 0 (R.recs j)) := by
    apply List.flatMap_congr
    intro j hj
    have hjne := ringFrom_ne_last hdist hj
    rw [← hnext] at hjne
    have hsame : (nextErased R inst).recs j = R.recs j := Ring.setRecs_other hjne
    rw [hsame]
  unfold unreadAt
  rw [hhere, ringFrom_snoc (cflNextSector_lt _), hlast, List.flatMap_append, hothers,
    List.flatMap_singleton, hempty]
  exact congrArg _ (List.append_nil _)

/-- Where a record goes that is written at the tail. -/
def atTail (inst : CflInst) (data : List UInt8) : Standing :=
  ⟨inst.tailSector, inst.tailOffset, data⟩

theorem Layout.held_write (hlay : Layout R inst q d pre r post)
    (hcount : inst.entryCount = q.length) (hbytes : inst.byteCount = payloadBytes q)
    (hstores : Stores R st) (htail : inst.tailSector < 254)
    (hend : inst.tailOffset = sizes (R.recs inst.tailSector)) (hnext : IsNext inst data new)
    (hm : Holds m (withNext R inst new)) :
    Held (withNext R inst new) (appended inst data.length) (q ++ [new])
      (unreadAt R inst.headSector inst.headOffset pre.length d ++ [atTail inst data])
      (st ++ [atTail inst data]) := by
  have hsession := Session.write_behind hcount hbytes hlay hnext hm
  rcases hlay.write new data with ⟨post', hafter⟩
  have hunread := hlay.unread_write new hend
  have hwritten := hstores.write new htail
  rw [hnext.2] at hunread
  rw [← hend, hnext.2] at hwritten
  refine ⟨hsession.count, hsession.bytes, ?_, hwritten⟩
  have hplaces := @UnreadPlaces.holds (withNext R inst new) (appended inst data.length)
    _ _ _ _ _ (by rw [withNext]; simp [appended]) hafter
  change UnreadPlaces _ _ _ (unreadAt (withNext R inst new) inst.headSector inst.headOffset
    pre.length d) at hplaces
  rw [hunread] at hplaces
  exact hplaces

theorem Held.write_first (h : Held R inst [] u st) (htail : inst.tailSector < 254)
    (hroom : cflRoomForRecord inst.tailOffset)
    (hend : inst.tailOffset = sizes (R.recs inst.tailSector)) (hnext : IsNext inst data new) :
    Held (withNext R inst new) (appended inst data.length) [new]
      (u ++ [atTail inst data]) (st ++ [atTail inst data]) := by
  have hstores := h.stores.write new htail
  rw [← hend, hnext.2] at hstores
  cases h.places with
  | holds _ hlay =>
      have hqueue := hlay.queue
      cases hqueue
  | empty hparked _ =>
      have hoffset := hparked.offset hroom
      have hsession := Session.write_first htail h.count h.bytes hparked.sector hoffset hend hnext
      have hlay := Layout.first htail hparked.sector hoffset hend new data
      refine ⟨hsession.count, hsession.bytes, ?_, hstores⟩
      have hplaces := @UnreadPlaces.holds (withNext R inst new) (appended inst data.length)
        _ _ _ _ _ (by rw [withNext]; simp [appended]) hlay
      have hrecs : (withNext R inst new).recs inst.headSector =
          R.recs inst.tailSector ++ [new] := by
        rw [hparked.sector]
        exact Ring.setRecs_same
      change UnreadPlaces _ _ _ (placesFrom inst.headSector inst.headOffset
        (((withNext R inst new).recs inst.headSector).drop (R.recs inst.tailSector).length) ++
          []) at hplaces
      rw [hrecs, List.drop_left, hparked.sector, hoffset, ← hnext.2] at hplaces
      rw [← hnext.2]
      exact hplaces

theorem Held.write (h : Held R inst q u st) (htail : inst.tailSector < 254)
    (hroom : cflRoomForRecord inst.tailOffset)
    (hend : inst.tailOffset = sizes (R.recs inst.tailSector)) (hnext : IsNext inst data new)
    (hm : Holds m (withNext R inst new)) :
    Held (withNext R inst new) (appended inst data.length) (q ++ [new])
      (u ++ [atTail inst data]) (st ++ [atTail inst data]) := by
  cases h.places with
  | empty _ _ => exact h.write_first htail hroom hend hnext
  | holds _ hlay => exact hlay.held_write h.count h.bytes h.stores htail hend hnext hm

theorem Held.write_next (h : Held R inst q u st) (hne : inst.entryCount ≠ 0)
    (hfull : ¬ RingFull inst) (hnext : IsNext (advanced inst) data new)
    (hm : Holds m (withNext (nextErased R inst) (advanced inst) new)) :
    Held (withNext (nextErased R inst) (advanced inst) new)
      (appended (advanced inst) data.length) (q ++ [new])
      (u ++ [atTail (advanced inst) data])
      ((st.filter fun x => x.sector ≠ cflNextSector inst.tailSector) ++
        [atTail (advanced inst) data]) := by
  have hroom : cflNextSector inst.tailSector ≠ inst.headSector := fun heq => hfull ⟨heq, hne⟩
  have hend : (advanced inst).tailOffset =
      sizes ((nextErased R inst).recs (advanced inst).tailSector) := by
    change 0 = sizes ((nextErased R inst).recs (cflNextSector inst.tailSector))
    rw [nextErased, Ring.setRecs_same]
    rfl
  cases h.places with
  | empty _ _ => exact absurd h.count hne
  | @holds _ d pre _ _ htail hlay =>
      have hwritten := (hlay.advance htail hroom).held_write h.count h.bytes
        (h.stores.erase (cflNextSector inst.tailSector)) (cflNextSector_lt _) hend hnext hm
      change Held _ _ _ (unreadAt (nextErased R inst) inst.headSector inst.headOffset
        pre.length (d + 1) ++ _) _ at hwritten
      rw [hlay.unread_advance hroom] at hwritten
      exact hwritten

theorem Held.headOnTail (h : Held R inst [] u st) :
    Held (nextErased R inst) (headOnTail (advanced inst)) [] u
      (st.filter fun x => x.sector ≠ cflNextSector inst.tailSector) := by
  have hnil := h.places.nil_iff.mpr rfl
  rw [hnil]
  exact ⟨h.count, h.bytes, .empty ⟨rfl, fun _ => rfl⟩ (Nat.le_refl 0),
    h.stores.erase (cflNextSector inst.tailSector)⟩

/-- The places on the flash once the tail has moved to another sector. -/
def storedAfter (inst after : CflInst) (st : List Standing) : List Standing :=
  if after.tailSector = inst.tailSector then st
  else st.filter fun x => x.sector ≠ after.tailSector

/-- The place of the record written last. -/
def lastWritten (after : CflInst) (data : List UInt8) : Standing :=
  ⟨after.tailSector, after.tailOffset - cflRecordSize data.length, data⟩

theorem lastWritten_appended (inst : CflInst) (data : List UInt8) :
    lastWritten (appended inst data.length) data = atTail inst data := by
  unfold lastWritten atTail appended
  rw [Nat.add_sub_cancel]

theorem WriteExit.done_of_never {out : CflErr × CflInst}
    (h : WriteExit (Faults.never qspi) R inst data (some out) R') :
    exists new, IsNext inst data new ∧ out = (.ok, appended inst data.length) ∧
      R' = withNext R inst new := by
  cases h with
  | done new hnext => exact ⟨new, hnext, rfl, rfl⟩
  | failed hfail =>
      rcases hfail with ⟨_, _, _, hn⟩
      exact hn.elim
  | failedDone _ _ hfail =>
      rcases hfail with ⟨_, _, _, hn, _⟩
      exact hn.elim

end Held

/-!
## The log and the places of its records
-/

/-- The flash and the instance hold the queue; the places are those of its records and of
all records on the flash. -/
structure Kept (m : Memory) (R : Ring) (inst : CflInst) (q : List Rec) (u st : List Standing) :
    Prop where
  sim : Sim m R inst
  held : Held R inst q u st

/-- The tail is `sectorsAhead` sectors before the head. -/
def sectorsAhead (inst : CflInst) : Nat :=
  (inst.tailSector + cflDataSectorCount - inst.headSector) % cflDataSectorCount

/-- A step has moved the head past the tail: out of the tail's sector, or behind the tail
within it. -/
def PastTail (before after : CflInst) : Prop :=
  sectorsAhead before < sectorsAhead after ∨
    (after.headSector = after.tailSector ∧ after.tailOffset < after.headOffset)

instance (before after : CflInst) : Decidable (PastTail before after) := by
  unfold PastTail
  infer_instance

section Kept

variable {m : Memory} {R R' : Ring} {inst inst' : CflInst} {q : List Rec} {u st : List Standing}
variable {data : List UInt8} {d : Nat} {pre post : List Rec} {r : Rec}

theorem cflAppend_tooLarge (hlen : ¬ LengthOk data) :
    cflAppend inst data = pure (.tooLarge, inst) := by
  have hrefused : data.length = 0 ∨ data.length > cflMaxRecordBytes := by
    unfold LengthOk at hlen
    simp only [cflMaxRecordBytes]
    omega
  unfold cflAppend
  rw [if_pos hrefused]

/-- What an append does to the places: nothing, or one more at the end.  The tail leaves its
sector only for the next one, erased for the record. -/
theorem Kept.append (h : Kept m R inst q u st) (data : List UInt8) :
    exists out m', (cflAppend inst data).eval qspiFlash m = (out, m') ∧
      ((out.1 ≠ .ok ∧ out.2 = inst ∧ m' = m) ∨
        (out.1 = .ok ∧
          (exists R' q', Kept m' R' out.2 q' (u ++ [lastWritten out.2 data])
            (storedAfter inst out.2 st ++ [lastWritten out.2 data])) ∧
          (out.2.tailSector = inst.tailSector ∨
            (NeedsSector inst data ∧ ¬ RingFull inst ∧
              out.2.tailSector = cflNextSector inst.tailSector)))) := by
  rcases Program.wp_never_iff.mp (wp_cflAppend (F := Faults.never qspi) h.sim data) with
    ⟨R', hexit, hsim⟩
  refine ⟨_, _, rfl, ?_⟩
  generalize hout : (cflAppend inst data).eval qspiFlash m = done at hexit hsim ⊢
  rcases done with ⟨⟨err, after⟩, m'⟩
  change AppendExit _ R inst data (some (err, after)) R' at hexit
  have hheld := h.held
  cases hexit with
  | tooLarge hlen =>
      rw [cflAppend_tooLarge hlen] at hout
      cases hout
      exact .inl ⟨by simp, rfl, rfl⟩
  | full hlen hneeds hfull =>
      rw [cflAppend_full hlen hneeds hfull] at hout
      cases hout
      exact .inl ⟨by simp, rfl, rfl⟩
  | here _ _ hlen hneeds hwrite =>
      rcases hwrite.done_of_never with ⟨new, hnext, hdone, rfl⟩
      cases hdone
      have hfit : inst.tailOffset + cflRecordSize data.length <= 4096 := Nat.le_of_not_lt hneeds
      have hmin := cflRecordSize_ge_min hlen.1
      have hroom : cflRoomForRecord inst.tailOffset := cflRoomForRecord_iff.mpr (by omega)
      have hafter := hheld.write h.sim.tail_lt hroom (h.sim.tail_end hroom) hnext hsim.holds
      rw [← lastWritten_appended] at hafter
      have hstays : storedAfter inst (appended inst data.length) st = st := if_pos rfl
      rw [← hstays] at hafter
      exact .inr ⟨rfl, ⟨_, _, hsim, hafter⟩, .inl rfl⟩
  | eraseFailed _ _ _ _ _ hfail =>
      rcases hfail with ⟨_, _, hn⟩
      exact hn.elim
  | advance _ _ hlen hneeds hfull hne hwrite =>
      rcases hwrite.done_of_never with ⟨new, hnext, hdone, rfl⟩
      cases hdone
      have hafter := hheld.write_next hne hfull hnext hsim.holds
      rw [← lastWritten_appended] at hafter
      have hmoved : storedAfter inst (appended (advanced inst) data.length) st =
          st.filter fun x => x.sector ≠ cflNextSector inst.tailSector :=
        if_neg (cflNextSector_ne h.sim.tail_lt).symm
      rw [← hmoved] at hafter
      exact .inr ⟨rfl, ⟨_, _, hsim, hafter⟩, .inr ⟨hneeds, hfull, rfl⟩⟩
  | moveFailed _ _ _ _ _ _ herr hmove =>
      exact absurd (hmove.ok_of_neverFails Faults.never_neverFails) herr
  | moveDone inst₁ R₁ _ _ hlen hneeds hzero hmove hwrite =>
      rcases hwrite.done_of_never with ⟨new, hnext, hdone, rfl⟩
      cases hdone
      have hq := hheld.session.length_zero_iff.mp hzero
      subst hq
      have hempty := hheld.headOnTail.persist hmove
      have hplace := hmove.onNext
      have hafter := hempty.write (by rw [hplace.1]; exact cflNextSector_lt _)
        (cflRoomForRecord_iff.mpr (by rw [hplace.2.1]; decide))
        (by rw [hplace.2.1, hplace.1, hplace.2.2]; rfl) hnext hsim.holds
      rw [← lastWritten_appended] at hafter
      have hmoved : storedAfter inst (appended inst₁ data.length) st =
          st.filter fun x => x.sector ≠ cflNextSector inst.tailSector := by
        rw [← hplace.1]
        refine if_neg ?_
        change inst₁.tailSector ≠ _
        rw [hplace.1]
        exact (cflNextSector_ne h.sim.tail_lt).symm
      rw [← hmoved] at hafter
      exact .inr ⟨rfl, ⟨_, _, hsim, hafter⟩,
        .inr ⟨hneeds, fun hfull => hfull.2 hzero, hplace.1⟩⟩

/-!
## Removing
-/

theorem Kept.head_le (h : Kept m R inst q u st) (hsame : inst.headSector = inst.tailSector) :
    inst.headOffset <= inst.tailOffset := by
  cases h.held.places with
  | empty _ hle => exact hle
  | holds _ hlay =>
      have hge := h.sim.tail_ge
      rw [← hsame, hlay.atHead.split, sizes_append] at hge
      rw [hlay.atHead.offset]
      omega

theorem Layout.ahead (h : Layout R inst q d pre r post) : sectorsAhead inst = d := by
  have hhead := h.head_lt
  have hdist := h.dist_lt
  have htail := h.tail
  unfold sectorsAhead
  simp only [cflDataSectorCount]
  omega

theorem sectorsAhead_parked (h : inst.headSector = inst.tailSector) : sectorsAhead inst = 0 := by
  unfold sectorsAhead
  rw [h]
  simp only [cflDataSectorCount]
  omega

theorem Layout.unread_tail (h : Layout R inst (r :: q) d pre r post) :
    (unreadAt R inst.headSector inst.headOffset pre.length d).tail =
      placesFrom inst.headSector (inst.headOffset + r.size) post ++
        (ringFrom (cflNextSector inst.headSector) d).flatMap
          fun j => placesFrom j 0 (R.recs j) := by
  rw [h.unread_head]
  rfl

theorem Layout.unread_more {s : Rec} (h : Layout R inst (r :: q) d pre r (s :: post))
    (payloadLen : Nat) :
    unreadAt R (passed inst r.size payloadLen).headSector
        (passed inst r.size payloadLen).headOffset (pre ++ [r]).length d =
      (unreadAt R inst.headSector inst.headOffset pre.length d).tail := by
  have hsplit : R.recs inst.headSector = (pre ++ [r]) ++ s :: post := by
    rw [h.atHead.split, List.append_assoc]
    rfl
  rw [h.unread_tail]
  change placesFrom inst.headSector (inst.headOffset + r.size)
    ((R.recs inst.headSector).drop (pre ++ [r]).length) ++ _ = _
  rw [hsplit, List.drop_left]
  rfl

theorem Layout.unread_next (h : Layout R inst (r :: q) (d + 1) pre r []) (payloadLen : Nat) :
    unreadAt R (headOnNext (passed inst r.size payloadLen)).headSector
        (headOnNext (passed inst r.size payloadLen)).headOffset ([] : List Rec).length d =
      (unreadAt R inst.headSector inst.headOffset pre.length (d + 1)).tail := by
  rw [h.unread_tail]
  change placesFrom (cflNextSector inst.headSector) 0
    ((R.recs (cflNextSector inst.headSector)).drop 0) ++ _ = [] ++ _
  rw [List.drop_zero]
  rfl

theorem PersistExit.ahead {F : Faults qspi} {previous : Nat} {out : CflErr × CflInst}
    (h : PersistExit F R previous inst (some out) R') :
    sectorsAhead out.2 = sectorsAhead inst := by
  cases h with
  | same _ => rfl
  | stores _ _ _ hmeta => cases hmeta <;> rfl

theorem Held.removed {after : CflErr × CflInst} (h : Held R inst (r :: q) u st)
    (hlay : Layout R inst (r :: q) d pre r post) (htail : R.recs inst.tailSector ≠ [])
    (hu : u = unreadAt R inst.headSector inst.headOffset pre.length d)
    (hexit : AdvanceExit (Faults.never qspi) R inst.headSector
      (passed inst r.size (min r.payload.length inst.byteCount)) (post ≠ []) (some after) R') :
    exists moved, PersistExit (Faults.never qspi) R inst.headSector moved (some after) R' ∧
      Held R moved q u.tail st ∧ sectorsAhead moved <= sectorsAhead inst := by
  have hcount := h.count
  have hbytes := h.bytes
  rw [payloadBytes_cons] at hbytes
  rw [List.length_cons] at hcount
  have hmin : min r.payload.length inst.byteCount = r.payload.length := by omega
  rw [hmin] at hexit
  have hleft : (passed inst r.size r.payload.length).entryCount = q.length := by
    change inst.entryCount - 1 = _
    omega
  have hleftBytes : (passed inst r.size r.payload.length).byteCount = payloadBytes q := by
    change inst.byteCount - r.payload.length = _
    omega
  cases hexit with
  | drains _ _ hzero hpersist =>
      rw [hleft] at hzero
      have hq : q = [] := List.length_eq_zero_iff.mp hzero
      subst hq
      have hlen := h.places.length_eq
      have hnil : u.tail = [] := by
        rw [← List.length_eq_zero_iff, List.length_tail, hlen]
        rfl
      rw [hnil]
      refine ⟨_, hpersist, ⟨hleft, hleftBytes, .empty ⟨rfl, fun _ => rfl⟩ (Nat.le_refl _),
        h.stores⟩, ?_⟩
      have hparked : sectorsAhead (parked (passed inst r.size r.payload.length)) = 0 :=
        sectorsAhead_parked rfl
      rw [hparked]
      exact Nat.zero_le _
  | moreFailed _ hfail =>
      rcases hfail with ⟨_, hn⟩
      exact hn.elim
  | stays _ _ _ hne hpersist =>
      cases post with
      | nil => exact absurd rfl hne
      | cons s post =>
          have hplaces := @UnreadPlaces.holds R (passed inst r.size r.payload.length)
            _ _ _ _ _ htail (hlay.passed_more _)
          rw [hlay.unread_more, ← hu] at hplaces
          exact ⟨_, hpersist, ⟨hleft, hleftBytes, hplaces, h.stores⟩, Nat.le_refl _⟩
  | next _ _ hpos hlast hpersist =>
      have hpost : post = [] := by simpa using hlast
      subst hpost
      rw [hleft] at hpos
      have hrest : q ≠ [] := fun hnil => hpos (List.length_eq_zero_iff.mpr hnil)
      rcases hlay.passed_next htail hrest r.payload.length with ⟨s, post', hnext⟩
      cases d with
      | zero =>
          have hqueue := hlay.queue
          injection hqueue with _ hempty
          exact absurd hempty hrest
      | succ d =>
          have hplaces := @UnreadPlaces.holds R
            (headOnNext (passed inst r.size r.payload.length)) _ _ _ _ _ htail hnext
          rw [Nat.add_sub_cancel, hlay.unread_next, ← hu] at hplaces
          refine ⟨_, hpersist, ⟨hleft, hleftBytes, hplaces, h.stores⟩, ?_⟩
          rw [hnext.ahead, hlay.ahead]
          omega

/-- A removal takes the oldest record, whose place is the first unread one, and leaves the
head at the next record, or parked on the tail. -/
theorem Kept.consume (h : Kept m R inst (r :: q) u st) :
    exists after m' R', (cflConsumeOldest inst).eval qspiFlash m = ((.ok, after), m') ∧
      Kept m' R' after q u.tail st ∧ ¬ PastTail inst after := by
  have hheld := h.held
  cases hheld.places with
  | @holds _ d pre s post htail hlay =>
      have hcount : inst.entryCount ≠ 0 := by
        rw [hheld.count]
        exact Nat.succ_ne_zero _
      have hqueue := hlay.queue
      injection hqueue with hrs _
      subst hrs
      rcases Program.wp_never_iff.mp (wp_cflConsumeOldest (F := Faults.never qspi) h.sim
        hlay.atHead hcount) with ⟨R', hexit, hsim⟩
      have hok := hexit.ok_of_neverFails Faults.never_neverFails
      generalize (cflConsumeOldest inst).eval qspiFlash m = done at hexit hsim hok
      rcases done with ⟨⟨err, after⟩, m'⟩
      change err = .ok at hok
      subst hok
      refine ⟨after, m', R', rfl, ?_⟩
      cases hexit with
      | advances _ _ hadvance =>
          rcases hheld.removed hlay htail rfl hadvance with ⟨moved, hpersist, hmoved, hahead⟩
          have hkept : Kept m' R' after q _ st := ⟨hsim, hmoved.persist hpersist⟩
          refine ⟨hkept, ?_⟩
          rintro (hfarther | ⟨hsame, hbehind⟩)
          · rw [hpersist.ahead] at hfarther
            omega
          · have hle := hkept.head_le hsame
            omega

end Kept

theorem kept_create {m : Memory} (h : PartitionErased m) :
    exists inst, cflCreate.eval qspiFlash m = (some inst, m) ∧
      Kept m Ring.erased inst [] [] [] := by
  rcases reads_cflCreate (Faults.never qspi) (holds_erased h) with
    ⟨inst, k, hreads, hbooted, hsim, _⟩
  have hnone : joined Ring.erased inst.headSector k = [] := by
    unfold joined
    rw [List.flatMap_eq_nil_iff]
    intro _ _
    rfl
  have hsession := hbooted.session hsim
  rw [hnone] at hsession
  refine ⟨inst, hreads.eval_eq, hsim, hsession.count, hsession.bytes, ?_, stores_erased⟩
  rcases hsession.layout with ⟨_, hparked⟩ | ⟨hfull, _⟩
  · refine .empty hparked ?_
    rw [hbooted.headOffset]
    exact Nat.zero_le _
  · exact absurd rfl hfull

end EnvMonitor.Gateway.CircularFlashLog
