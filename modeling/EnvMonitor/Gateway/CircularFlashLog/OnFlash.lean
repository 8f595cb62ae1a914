import EnvMonitor.Gateway.CircularFlashLog.Fifo

/-!
# The ring across power cuts

What the flash alone says about the ring: which sector the persisted head names, which
records lie from there to the tail, and why the sectors behind the tail cannot be taken
for a continuation of them.
-/

namespace EnvMonitor.Gateway.CircularFlashLog

open Device Drivers

/-!
## The persisted head
-/

/-- The metadata slots name the head of `inst`, and the slot written next is older. -/
inductive HeadStored (R : Ring) (inst : CflInst) : Prop where
  | fresh :
      inst.metaSlotValid = false -> inst.metaSlot = 1 -> inst.metaSeqNum = 0 ->
      inst.headSector = 0 -> R.slot 0 = none -> R.slot 1 = none -> HeadStored R inst
  | valid :
      inst.metaSlotValid = true -> inst.metaSlot < 2 ->
      R.slot inst.metaSlot = some (inst.metaSeqNum, inst.headSector) ->
      (forall seq head, R.slot (targetSlot inst) = some (seq, head) ->
        seq < inst.metaSeqNum) -> HeadStored R inst

section HeadStored

variable {m : Memory} {R R' : Ring} {inst inst' : CflInst} {F : Faults qspi}

theorem HeadStored.congr (h : HeadStored R inst) (hslot : R'.slot = R.slot)
    (hmetaSlot : inst'.metaSlot = inst.metaSlot) (hseq : inst'.metaSeqNum = inst.metaSeqNum)
    (hvalid : inst'.metaSlotValid = inst.metaSlotValid)
    (hhead : inst'.headSector = inst.headSector) : HeadStored R' inst' := by
  have htarget : targetSlot inst' = targetSlot inst := by
    unfold targetSlot
    rw [hmetaSlot]
  cases h with
  | fresh hfalse hone hzero hstart hnone hnone' =>
      apply HeadStored.fresh
      · rw [hvalid, hfalse]
      · rw [hmetaSlot, hone]
      · rw [hseq, hzero]
      · rw [hhead, hstart]
      · rw [hslot, hnone]
      · rw [hslot, hnone']
  | valid htrue hlt hentry holder =>
      apply HeadStored.valid
      · rw [hvalid, htrue]
      · rw [hmetaSlot]
        exact hlt
      · rw [hslot, hmetaSlot, hentry, hseq, hhead]
      · rw [hslot, htarget, hseq]
        exact holder

theorem HeadStored.appended (h : HeadStored R inst) (r : Rec) (len : Nat) :
    HeadStored (withNext R inst r) (CircularFlashLog.appended inst len) :=
  h.congr rfl rfl rfl rfl rfl

theorem targetSlot_eq (inst : CflInst) : targetSlot inst = (inst.metaSlot + 1) % 2 := rfl

variable {head seq slot : Nat}

theorem cflMetaTake_newer (h : inst.metaSlotValid = false ∨ seq > inst.metaSeqNum) :
    cflMetaTake inst slot seq head =
      { inst with
        metaSlotValid := true
        metaSlot := slot
        metaSeqNum := seq
        headSector := head } :=
  if_pos h

theorem cflMetaTake_older (hvalid : inst.metaSlotValid = true) (hseq : seq < inst.metaSeqNum) :
    cflMetaTake inst slot seq head = inst := by
  apply if_neg
  intro htake
  cases htake with
  | inl hinvalid => simp [hvalid] at hinvalid
  | inr hnewer => omega

theorem HeadStored.loaded (h : HeadStored R inst) :
    (metaLoaded R).headSector = inst.headSector ∧
      (metaLoaded R).metaSlot = inst.metaSlot ∧
      (metaLoaded R).metaSeqNum = inst.metaSeqNum ∧
      (metaLoaded R).metaSlotValid = inst.metaSlotValid := by
  have hload : metaLoaded R = takeSlot R (takeSlot R metaStart 0) 1 := rfl
  cases h with
  | fresh hfalse hone hzero hstart hnone hnone' =>
      rw [hload, takeSlot_none hnone, takeSlot_none hnone', hfalse, hone, hzero, hstart]
      exact ⟨rfl, rfl, rfl, rfl⟩
  | valid htrue hlt hentry holder =>
      have htarget := targetSlot_eq inst
      have hcases : inst.metaSlot = 0 ∨ inst.metaSlot = 1 := by omega
      cases hcases with
      | inl hzero =>
          rw [hzero] at hentry htarget
          rw [htarget] at holder
          have hfirst := takeSlot_some hentry metaStart
          rw [cflMetaTake_newer (.inl rfl)] at hfirst
          cases hother : R.slot 1 with
          | none =>
              rw [hload, hfirst, takeSlot_none hother, htrue, hzero]
              exact ⟨rfl, rfl, rfl, rfl⟩
          | some entry =>
              have hsecond := takeSlot_some hother
              rw [hload, hfirst, hsecond, cflMetaTake_older, htrue, hzero]
              · exact ⟨rfl, rfl, rfl, rfl⟩
              · rfl
              · exact holder _ _ hother
      | inr hone =>
          rw [hone] at hentry htarget
          rw [htarget] at holder
          have hsecond := takeSlot_some hentry
          cases hother : R.slot 0 with
          | none =>
              rw [hload, takeSlot_none hother, hsecond, cflMetaTake_newer (.inl rfl), htrue, hone]
              exact ⟨rfl, rfl, rfl, rfl⟩
          | some entry =>
              have hfirst := takeSlot_some hother metaStart
              rw [cflMetaTake_newer (.inl rfl)] at hfirst
              rw [hload, hfirst, hsecond, cflMetaTake_newer (.inr (holder _ _ hother)), htrue, hone]
              exact ⟨rfl, rfl, rfl, rfl⟩

/-- The head that was stored before `inst` moved its head. -/
def withHead (inst : CflInst) (head : Nat) : CflInst :=
  { inst with headSector := head }

theorem targetSlot_ne (inst : CflInst) : inst.metaSlot ≠ targetSlot inst := by
  rw [targetSlot_eq]
  omega

theorem targetSlot_stored (inst : CflInst) :
    targetSlot (stored inst) = ((inst.metaSlot + 1) % 2 + 1) % 2 := rfl

theorem HeadStored.stored (h : HeadStored R (withHead inst head))
    (hseq : inst.metaSeqNum + 1 < 2 ^ 32) :
    HeadStored (R.setSlot (targetSlot inst) (some (headEntry inst))) (stored inst) := by
  have hnew : u32 (inst.metaSeqNum + 1) = inst.metaSeqNum + 1 := Nat.mod_eq_of_lt hseq
  apply HeadStored.valid
  · rfl
  · exact Nat.mod_lt _ (by decide)
  · exact Ring.setSlot_same
  · intro seq entryHead hentry
    have htarget := targetSlot_stored inst
    have hback : targetSlot (CircularFlashLog.stored inst) ≠ targetSlot inst := by
      rw [htarget, targetSlot_eq]
      omega
    rw [Ring.setSlot_other hback] at hentry
    change seq < u32 (inst.metaSeqNum + 1)
    rw [hnew]
    cases h with
    | fresh _ hone _ _ hnone hnone' =>
        have hone' : inst.metaSlot = 1 := hone
        rw [hone'] at htarget
        rw [htarget, hnone'] at hentry
        cases hentry
    | valid _ hlt hold _ =>
        have hlt' : inst.metaSlot < 2 := hlt
        have hsame : ((inst.metaSlot + 1) % 2 + 1) % 2 = inst.metaSlot := by omega
        have hold' : R.slot inst.metaSlot = some (inst.metaSeqNum, head) := hold
        rw [htarget, hsame, hold'] at hentry
        cases hentry
        exact Nat.lt_succ_self _

theorem HeadStored.torn {x : Option (Nat × Nat)} (h : HeadStored R (withHead inst head))
    (hseq : inst.metaSeqNum + 1 < 2 ^ 32) (hx : SlotLeft R inst x) :
    HeadStored (R.setSlot (targetSlot inst) x) (withHead inst head) ∨
      HeadStored (R.setSlot (targetSlot inst) x) (CircularFlashLog.stored inst) := by
  rcases hx with hold | hnone | hnew
  · left
    rw [hold, Ring.setSlot_self]
    exact h
  · left
    rw [hnone]
    cases h with
    | fresh hfalse hone hzero hstart h0 h1 =>
        apply HeadStored.fresh hfalse hone hzero hstart
        · by_cases hslot : 0 = targetSlot inst
          · rw [hslot, Ring.setSlot_same]
          · rw [Ring.setSlot_other hslot, h0]
        · by_cases hslot : 1 = targetSlot inst
          · rw [hslot, Ring.setSlot_same]
          · rw [Ring.setSlot_other hslot, h1]
    | valid htrue hlt hentry _ =>
        apply HeadStored.valid htrue hlt
        · exact (Ring.setSlot_other (targetSlot_ne inst)).trans hentry
        · intro seq entryHead hsome
          have hsame : (R.setSlot (targetSlot inst) none).slot (targetSlot inst) = none :=
            Ring.setSlot_same
          cases hsame.symm.trans hsome
  · right
    rw [hnew]
    exact h.stored hseq

end HeadStored

/-!
## Records in the order of the ring
-/

/-- A payload and the sector its record was written to. -/
structure LogEntry where
  payload : List UInt8
  sector : Nat
  deriving DecidableEq, Repr

def sectorEntries (R : Ring) (i : Nat) : List LogEntry :=
  (R.recs i).map fun r => ⟨r.payload, i⟩

/-- The entries of `k` sectors from `h` on. -/
def entries (R : Ring) (h k : Nat) : List LogEntry :=
  (ringFrom h k).flatMap (sectorEntries R)

section Entries

variable {R R' : Ring} {h k t d : Nat} {new : Rec} {log : List LogEntry} {left nextSeq : Nat}

theorem entries_snoc (R : Ring) (hlt : h < 254) (k : Nat) :
    entries R h (k + 1) = entries R h k ++ sectorEntries R ((h + k) % 254) := by
  unfold entries
  rw [ringFrom_snoc hlt, List.flatMap_append, List.flatMap_singleton]

theorem entries_succ (R : Ring) (h k : Nat) :
    entries R h (k + 1) = sectorEntries R h ++ entries R (cflNextSector h) k := rfl

theorem entries_congr (hsame : forall j, j ∈ ringFrom h k -> R'.recs j = R.recs j) :
    entries R' h k = entries R h k := by
  unfold entries
  apply List.flatMap_congr
  intro j hj
  unfold sectorEntries
  rw [hsame j hj]

theorem entries_payload (R : Ring) (h k : Nat) :
    (entries R h k).map LogEntry.payload = (joined R h k).map Rec.payload := by
  induction k generalizing h with
  | zero => rfl
  | succ k ih =>
      rw [entries_succ, joined_succ, List.map_append, List.map_append, ih]
      congr 1
      unfold sectorEntries
      rw [List.map_map]
      rfl

theorem sectorEntries_length (R : Ring) (i : Nat) :
    (sectorEntries R i).length = (R.recs i).length := by
  simp [sectorEntries]

/-!
## The chain of sequence numbers
-/

/-- Read once round the ring, from the sector behind `t` to `t`, the records are
consecutive, and `nextSeq` continues them. -/
structure Chain (R : Ring) (t nextSeq : Nat) : Prop where
  consecutive : Consecutive (joined R (cflNextSector t) 254)
  next : joined R (cflNextSector t) 254 ≠ [] ->
    nextSeq = u32 (lastSeq 0 (joined R (cflNextSector t) 254) + 1)

theorem joined_round (R : Ring) (ht : t < 254) :
    joined R (cflNextSector t) 254 = joined R (cflNextSector t) 253 ++ R.recs t := by
  have hlast : (cflNextSector t + 253) % 254 = t := by
    rw [cflNextSector_eq]
    omega
  rw [joined_snoc R (cflNextSector_lt t), hlast]

theorem joined_add (R : Ring) (hlt : h < 254) (j k : Nat) :
    joined R h (j + k) = joined R h j ++ joined R ((h + j) % 254) k := by
  induction k with
  | zero => simp [joined, ringFrom]
  | succ k ih =>
      have hlast : (h + (j + k)) % 254 = ((h + j) % 254 + k) % 254 := by omega
      rw [← Nat.add_assoc, joined_snoc R hlt, ih, joined_snoc R (Nat.mod_lt _ (by decide)),
        List.append_assoc, hlast]

theorem not_mem_round (t : Nat) : t ∉ ringFrom (cflNextSector t) 253 := by
  intro hmem
  rcases (mem_ringFrom (cflNextSector_lt t)).mp hmem with ⟨i, hi, heq⟩
  rw [cflNextSector_eq] at heq
  omega

variable {rs : List Rec} {r : Rec}

theorem joined_setRecs (hnot : t ∉ ringFrom h k) : joined (R.setRecs t rs) h k = joined R h k := by
  apply joined_congr
  intro j hj
  apply Ring.setRecs_other
  intro heq
  rw [heq] at hj
  exact hnot hj

theorem entries_setRecs (hnot : t ∉ ringFrom h k) :
    entries (R.setRecs t rs) h k = entries R h k := by
  apply entries_congr
  intro j hj
  apply Ring.setRecs_other
  intro heq
  rw [heq] at hj
  exact hnot hj

theorem Chain.write (hchain : Chain R t nextSeq) (ht : t < 254) (hseq : new.seq = nextSeq) :
    Chain (R.setRecs t (R.recs t ++ [new])) t (u32 (nextSeq + 1)) := by
  have hround : joined (R.setRecs t (R.recs t ++ [new])) (cflNextSector t) 254 =
      joined R (cflNextSector t) 254 ++ [new] := by
    rw [joined_round _ ht, joined_setRecs (not_mem_round t), Ring.setRecs_same,
      joined_round R ht, List.append_assoc]
  constructor
  · rw [hround]
    apply Consecutive.append 0 hchain.consecutive (List.isChain_singleton new)
    intro hne s hs
    have hnew : new = s := by simpa using hs
    rw [← hnew, hseq]
    exact hchain.next hne
  · intro _
    rw [hround, lastSeq_append]
    change u32 (nextSeq + 1) = u32 (new.seq + 1)
    rw [hseq]

theorem lastSeq_suffix {ss : List Rec} (hne : ss ≠ []) : lastSeq 0 (rs ++ ss) = lastSeq 0 ss := by
  rw [lastSeq_append]
  exact lastSeq_ignore hne _ _

theorem Chain.erase (hchain : Chain R t nextSeq) :
    Chain (R.setRecs (cflNextSector t) []) t nextSeq := by
  have hold : joined R (cflNextSector t) 254 =
      R.recs (cflNextSector t) ++ joined R (cflNextSector (cflNextSector t)) 253 := rfl
  have hnew : joined (R.setRecs (cflNextSector t) []) (cflNextSector t) 254 =
      joined R (cflNextSector (cflNextSector t)) 253 := by
    rw [joined_succ, Ring.setRecs_same, joined_setRecs (not_mem_round _), List.nil_append]
  constructor
  · have hall := hchain.consecutive
    rw [hold] at hall
    rw [hnew]
    exact (List.isChain_append.mp hall).2.1
  · rw [hnew]
    intro hne
    have hboth := hchain.next (by rw [hold]; simp [hne])
    rw [hold, lastSeq_suffix hne] at hboth
    exact hboth

theorem Chain.rotate (hchain : Chain R t nextSeq) (hempty : R.recs (cflNextSector t) = []) :
    Chain R (cflNextSector t) nextSeq := by
  have hfirst : joined R (cflNextSector t) 254 =
      R.recs (cflNextSector t) ++ joined R (cflNextSector (cflNextSector t)) 253 := rfl
  have hsame : joined R (cflNextSector (cflNextSector t)) 254 = joined R (cflNextSector t) 254 := by
    rw [joined_round R (cflNextSector_lt t), hfirst, hempty, List.append_nil, List.nil_append]
  constructor
  · rw [hsame]
    exact hchain.consecutive
  · rw [hsame]
    exact hchain.next

theorem Chain.congr (hchain : Chain R t nextSeq) (hrecs : R'.recs = R.recs) :
    Chain R' t nextSeq := by
  have hsame : joined R' (cflNextSector t) 254 = joined R (cflNextSector t) 254 :=
    joined_congr fun j _ => by rw [hrecs]
  constructor
  · rw [hsame]
    exact hchain.consecutive
  · rw [hsame]
    exact hchain.next

theorem Consecutive.lastSeq_eq {maxSeq : Nat} (hrun : Consecutive (r :: rs)) :
    lastSeq maxSeq (r :: rs) = u32 (r.seq + rs.length) := by
  induction rs generalizing r maxSeq with
  | nil => exact (Nat.mod_eq_of_lt r.seq_lt).symm
  | cons s rs ih =>
      have hpair := List.isChain_cons_cons.mp hrun
      have hnext : s.seq = u32 (r.seq + 1) := hpair.1
      change lastSeq r.seq (s :: rs) = _
      rw [ih hpair.2, hnext, List.length_cons]
      simp only [u32]
      omega

theorem Chain.breaks {m : Memory} (hchain : Chain R t nextSeq) (hm : Holds m R)
    (hfirst : r ∈ (R.recs (cflNextSector t)).head?) : r.seq ≠ nextSeq := by
  have hround : joined R (cflNextSector t) 254 =
      R.recs (cflNextSector t) ++ joined R (cflNextSector (cflNextSector t)) 253 := rfl
  have hbound := hm.sizes_joined (cflNextSector_lt t) 254
  have hlen := length_le_sizes (joined R (cflNextSector t) 254)
  cases hrecs : R.recs (cflNextSector t) with
  | nil =>
      rw [hrecs] at hfirst
      simp at hfirst
  | cons s rs =>
      rw [hrecs] at hfirst hround
      have hrs : s = r := by simpa using hfirst
      subst hrs
      have hrun := hchain.consecutive
      have hnext := hchain.next (by rw [hround]; simp)
      rw [hround, List.cons_append] at hrun hnext hlen hbound
      rw [hrun.lastSeq_eq] at hnext
      have hlt := s.seq_lt
      rw [List.length_cons] at hlen
      simp only [u32] at hnext
      omega

end Entries

/-!
## From the persisted head to the tail
-/

/-- The records of `d + 1` sectors from the head on are the log from entry `left` on, and
the sectors before the last are not empty. -/
structure Spans (R : Ring) (head d : Nat) (log : List LogEntry) (left nextSeq : Nat) :
    Prop where
  head_lt : head < 254
  dist_lt : d < 254
  covers : entries R head (d + 1) = log.drop left
  left_le : left <= log.length
  full : forall j, j ∈ ringFrom head d -> R.recs j ≠ []
  chain : Chain R ((head + d) % 254) nextSeq

/-- The last sector may be empty only if it is the head. -/
structure OnFlash (R : Ring) (head d : Nat) (log : List LogEntry) (left nextSeq : Nat) :
    Prop where
  spans : Spans R head d log left nextSeq
  tail : d ≠ 0 -> R.recs ((head + d) % 254) ≠ []

section OnFlash

variable {R R' : Ring} {head d : Nat} {log : List LogEntry} {left nextSeq : Nat} {new : Rec}

theorem next_of_tail (head d : Nat) :
    cflNextSector ((head + d) % 254) = (head + (d + 1)) % 254 := by
  rw [cflNextSector_eq]
  omega

variable {k : Nat} {rs ss : List Rec}

theorem not_mem_ringFrom (hlt : head < 254) (hd : d < 254) (hk : k <= d) :
    (head + d) % 254 ∉ ringFrom head k := by
  intro hmem
  rcases (mem_ringFrom hlt).mp hmem with ⟨i, hi, heq⟩
  omega

theorem Spans.congr (h : Spans R head d log left nextSeq) (hrecs : R'.recs = R.recs) :
    Spans R' head d log left nextSeq where
  head_lt := h.head_lt
  dist_lt := h.dist_lt
  covers := by
    rw [← h.covers]
    exact entries_congr fun j _ => by rw [hrecs]
  left_le := h.left_le
  full := by
    rw [hrecs]
    exact h.full
  chain := h.chain.congr hrecs

theorem OnFlash.congr (h : OnFlash R head d log left nextSeq) (hrecs : R'.recs = R.recs) :
    OnFlash R' head d log left nextSeq where
  spans := h.spans.congr hrecs
  tail := by
    rw [hrecs]
    exact h.tail

theorem Spans.write (h : Spans R head d log left nextSeq) (hseq : new.seq = nextSeq) :
    OnFlash (R.setRecs ((head + d) % 254) (R.recs ((head + d) % 254) ++ [new])) head d
      (log ++ [⟨new.payload, (head + d) % 254⟩]) left (u32 (nextSeq + 1)) := by
  have hlt := h.head_lt
  have hd := h.dist_lt
  have hnot := not_mem_ringFrom hlt hd (Nat.le_refl d)
  have hnew : sectorEntries
      (R.setRecs ((head + d) % 254) (R.recs ((head + d) % 254) ++ [new])) ((head + d) % 254) =
      sectorEntries R ((head + d) % 254) ++ [⟨new.payload, (head + d) % 254⟩] := by
    unfold sectorEntries
    rw [Ring.setRecs_same, List.map_append]
    rfl
  constructor
  · constructor
    · exact hlt
    · exact hd
    · rw [entries_snoc _ hlt, entries_setRecs hnot, hnew, ← List.append_assoc,
        ← entries_snoc R hlt, h.covers, List.drop_append_of_le_length h.left_le]
    · rw [List.length_append]
      exact Nat.le_add_right_of_le h.left_le
    · intro j hj
      have hne : j ≠ (head + d) % 254 := by
        intro heq
        rw [heq] at hj
        exact hnot hj
      rw [Ring.setRecs_other hne]
      exact h.full j hj
    · exact h.chain.write (by omega) hseq
  · intro _
    rw [Ring.setRecs_same]
    simp

theorem OnFlash.erase (h : OnFlash R head d log left nextSeq) (hroom : d + 1 < 254) :
    OnFlash (R.setRecs ((head + (d + 1)) % 254) []) head d log left nextSeq := by
  have hlt := h.spans.head_lt
  have hnot := not_mem_ringFrom hlt hroom (Nat.le_refl (d + 1))
  have hnot' := not_mem_ringFrom hlt hroom (Nat.le_succ d)
  constructor
  · constructor
    · exact hlt
    · exact h.spans.dist_lt
    · rw [entries_setRecs hnot]
      exact h.spans.covers
    · exact h.spans.left_le
    · intro j hj
      have hne : j ≠ (head + (d + 1)) % 254 := by
        intro heq
        rw [heq] at hj
        exact hnot' hj
      rw [Ring.setRecs_other hne]
      exact h.spans.full j hj
    · rw [← next_of_tail]
      exact h.spans.chain.erase
  · intro hd
    rw [Ring.setRecs_other (by omega)]
    exact h.tail hd

theorem OnFlash.advance (h : OnFlash R head d log left nextSeq) (hroom : d + 1 < 254)
    (hne : R.recs ((head + d) % 254) ≠ []) :
    Spans (R.setRecs ((head + (d + 1)) % 254) []) head (d + 1) log left nextSeq := by
  have herased := h.erase hroom
  have hlt := h.spans.head_lt
  have hempty : sectorEntries (R.setRecs ((head + (d + 1)) % 254) []) ((head + (d + 1)) % 254) =
      [] := by
    unfold sectorEntries
    rw [Ring.setRecs_same]
    rfl
  constructor
  · exact hlt
  · exact hroom
  · rw [entries_snoc _ hlt, hempty, List.append_nil]
    exact herased.spans.covers
  · exact h.spans.left_le
  · intro j hj
    rw [ringFrom_snoc hlt, List.mem_append, List.mem_singleton] at hj
    cases hj with
    | inl hold => exact herased.spans.full j hold
    | inr hlast =>
        rw [hlast, Ring.setRecs_other (by omega)]
        exact hne
  · rw [← next_of_tail]
    apply Chain.rotate
    · rw [next_of_tail]
      exact herased.spans.chain
    · rw [Ring.setRecs_same]

theorem OnFlash.restart (h : OnFlash R head d log left nextSeq) (hroom : d + 1 < 254) :
    OnFlash (R.setRecs ((head + (d + 1)) % 254) []) ((head + (d + 1)) % 254) 0 log log.length
      nextSeq := by
  have herased := h.erase hroom
  have htail : ((head + (d + 1)) % 254 + 0) % 254 = cflNextSector ((head + d) % 254) := by
    rw [next_of_tail]
    omega
  constructor
  · constructor
    · omega
    · omega
    · rw [entries_succ]
      unfold sectorEntries
      rw [Ring.setRecs_same, List.drop_length]
      rfl
    · exact Nat.le_refl _
    · intro j hj
      cases hj
    · rw [htail]
      apply Chain.rotate
      · exact herased.spans.chain
      · rw [next_of_tail, Ring.setRecs_same]
  · intro hd
    exact absurd rfl hd

theorem OnFlash.leave (h : OnFlash R head (d + 1) log left nextSeq) :
    OnFlash R (cflNextSector head) d log (left + (R.recs head).length) nextSeq := by
  have hlt := h.spans.head_lt
  have htail : (cflNextSector head + d) % 254 = (head + (d + 1)) % 254 := by
    rw [cflNextSector_eq]
    omega
  have hcovers := h.spans.covers
  rw [entries_succ] at hcovers
  have hdrop : (log.drop left).drop (R.recs head).length = entries R (cflNextSector head) (d + 1) := by
    rw [← hcovers, ← sectorEntries_length R head, List.drop_left]
  have hlen : (R.recs head).length <= (log.drop left).length := by
    rw [← hcovers, List.length_append, sectorEntries_length]
    omega
  rw [List.length_drop] at hlen
  constructor
  · constructor
    · exact cflNextSector_lt head
    · have := h.spans.dist_lt
      omega
    · rw [← hdrop, List.drop_drop]
    · have := h.spans.left_le
      omega
    · intro j hj
      exact h.spans.full j (List.mem_cons_of_mem _ hj)
    · rw [htail]
      exact h.spans.chain
  · intro _
    rw [htail]
    exact h.tail (by omega)

/-!
## What the boot scan finds
-/

theorem Consecutive.init (h : Consecutive (rs ++ ss)) : Consecutive rs :=
  (List.isChain_append.mp h).1

theorem Consecutive.joint {s : Rec} (h : Consecutive (rs ++ ss)) (hne : rs ≠ []) (hs : s ∈ ss.head?)
    : s.seq = u32 (lastSeq 0 rs + 1) := by
  have hpair := (List.isChain_append.mp h).2.2
  cases hlast : rs.getLast? with
  | none => exact absurd (List.getLast?_eq_none_iff.mp hlast) hne
  | some l =>
      rw [lastSeq_of_getLast hlast]
      exact hpair l hlast s hs

theorem OnFlash.suffix (h : OnFlash R head d log left nextSeq) :
    exists before, joined R (cflNextSector ((head + d) % 254)) 254 =
      before ++ joined R head (d + 1) := by
  have hlt := h.spans.head_lt
  have hd := h.spans.dist_lt
  -- the round has `253 - d` sectors before the head
  have hwhole := joined_add R (cflNextSector_lt ((head + d) % 254)) (253 - d) (d + 1)
  have hcount : 253 - d + (d + 1) = 254 := by omega
  have hhead : (cflNextSector ((head + d) % 254) + (253 - d)) % 254 = head := by
    rw [next_of_tail]
    omega
  rw [hcount, hhead] at hwhole
  exact ⟨_, hwhole⟩

theorem OnFlash.booted {m : Memory} {inst : CflInst}
    (h : OnFlash R inst.headSector d log left nextSeq) (hm : Holds m R) (hbooted : Booted R inst k)
    (hne : R.recs inst.headSector ≠ []) : k = d + 1 := by
  have hlt := h.spans.head_lt
  have hd := h.spans.dist_lt
  have hk := hbooted.sectors_le
  rcases h.suffix with ⟨before, hround⟩
  have hrun := h.spans.chain.consecutive
  rw [hround] at hrun
  have hspan : Consecutive (joined R inst.headSector (d + 1)) :=
    (List.isChain_append.mp hrun).2.1
  have hnonempty : forall j, j ∈ ringFrom inst.headSector (d + 1) -> R.recs j ≠ [] := by
    intro j hj
    rw [ringFrom_snoc hlt, List.mem_append, List.mem_singleton] at hj
    cases hj with
    | inl hold => exact h.spans.full j hold
    | inr hlast =>
        rw [hlast]
        by_cases hzero : d = 0
        · rw [hzero, Nat.add_zero, Nat.mod_eq_of_lt hlt]
          exact hne
        · exact h.tail hzero
  -- the scan does not end before the tail
  have hge : d + 1 <= k := by
    by_contra hshort
    have hmem : (inst.headSector + k) % 254 ∈ ringFrom inst.headSector (d + 1) :=
      (mem_ringFrom hlt).mpr ⟨k, by omega, rfl⟩
    rcases hbooted.ends with hall | hnil | ⟨hpos, hbreak⟩
    · omega
    · exact hnonempty _ hmem hnil
    · have hpart : Consecutive (joined R inst.headSector (k + 1)) := by
        have hsplit := joined_add R hlt (k + 1) (d - k)
        have hcount : k + 1 + (d - k) = d + 1 := by omega
        rw [hcount] at hsplit
        rw [hsplit] at hspan
        exact hspan.init
      rw [joined_snoc R hlt] at hpart
      cases hfirst : (R.recs ((inst.headSector + k) % 254)).head? with
      | none => exact hnonempty _ hmem (List.head?_eq_none_iff.mp hfirst)
      | some r => exact hbreak r hfirst (hpart.joint (hbooted.joins.ne_nil hpos) hfirst)
  -- and not behind it
  have hle : k <= d + 1 := by
    by_contra hlong
    have hmem : (inst.headSector + (d + 1)) % 254 ∈ ringFrom inst.headSector k :=
      (mem_ringFrom hlt).mpr ⟨d + 1, by omega, rfl⟩
    have hsplit := joined_add R hlt (d + 2) (k - (d + 2))
    have hcount : d + 2 + (k - (d + 2)) = k := by omega
    have hall := hbooted.joins.consecutive
    rw [hcount] at hsplit
    rw [hsplit] at hall
    have hpart := hall.init
    rw [joined_snoc R hlt] at hpart
    have hrest : joined R inst.headSector (d + 1) ≠ [] := by
      rw [joined_succ]
      exact fun hnil => hne (List.append_eq_nil_iff.mp hnil).1
    cases hfirst : (R.recs ((inst.headSector + (d + 1)) % 254)).head? with
    | none => exact hbooted.joins.nonempty _ hmem (List.head?_eq_none_iff.mp hfirst)
    | some r =>
        have hseq := hpart.joint hrest hfirst
        have hnext := h.spans.chain.next (by rw [hround]; simp [hrest])
        rw [hround, lastSeq_suffix hrest, ← hseq] at hnext
        rw [← next_of_tail] at hfirst
        exact h.spans.chain.breaks hm hfirst hnext.symm
  omega

end OnFlash

end EnvMonitor.Gateway.CircularFlashLog
