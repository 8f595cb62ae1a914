import EnvMonitor.ConfigStore.Slot

/-!
# Probing the two slots

Every operation of a configuration store first probes both slots and goes on with what it
learnt.  A probe that a read error disturbs may miss the copy in its slot.
-/

namespace EnvMonitor.ConfigStore

open Device Drivers
open Config (Side Copy Copies)

/-- The faults during one operation: while each slot is probed, and afterwards. -/
structure OperationFaults where
  probing : Side -> Faults qspi
  rest : Faults qspi

/-- Every call of the operation may fail or be cut off. -/
def OperationFaults.always : OperationFaults where
  probing := fun _ => Faults.always qspi
  rest := Faults.always qspi

/-- No call of the operation fails. -/
def OperationFaults.never : OperationFaults where
  probing := fun _ => Faults.never qspi
  rest := Faults.never qspi

variable {ν : Type} {α : Type}

/-- The two probes of an operation, slot A first; `none` when power was lost. -/
inductive Probed (probe : Side -> Qspi ν) (E : OperationFaults) :
    Memory -> Option (ν × ν) -> Memory -> Prop where
  | cutA {m m' : Memory} :
      Program.Exec qspiFlash (E.probing .a) (probe .a) m none m' -> Probed probe E m none m'
  | cutB {m m₁ m' : Memory} {a : ν} :
      Program.Exec qspiFlash (E.probing .a) (probe .a) m (some a) m₁ ->
      Program.Exec qspiFlash (E.probing .b) (probe .b) m₁ none m' -> Probed probe E m none m'
  | done {m m₁ m' : Memory} {a b : ν} :
      Program.Exec qspiFlash (E.probing .a) (probe .a) m (some a) m₁ ->
      Program.Exec qspiFlash (E.probing .b) (probe .b) m₁ (some b) m' ->
      Probed probe E m (some (a, b)) m'

/-- A whole operation: the probes, then the rest with what they learnt. -/
def ProbedExec (probe : Side -> Qspi ν) (rest : ν -> ν -> Qspi α) (E : OperationFaults)
    (m : Memory) (r : Option α) (m' : Memory) : Prop :=
  (r = none ∧ Probed probe E m none m') ∨
    exists a b m₁, Probed probe E m (some (a, b)) m₁ ∧
      Program.Exec qspiFlash E.rest (rest a b) m₁ r m'

theorem probedExec_always (probe : Side -> Qspi ν) (rest : ν -> ν -> Qspi α) (m : Memory)
    (r : Option α) (m' : Memory) :
    ProbedExec probe rest OperationFaults.always m r m' ↔
      Program.Exec qspiFlash (Faults.always qspi)
        (probe .a >>= fun a => probe .b >>= fun b => rest a b) m r m' := by
  constructor
  · intro h
    rcases h with ⟨rfl, hprobed⟩ | ⟨a, b, m₁, hprobed, hrest⟩
    · cases hprobed with
      | cutA ha => exact ha.bind_cut
      | cutB ha hb => exact ha.bind hb.bind_cut
    · cases hprobed with
      | done ha hb => exact ha.bind (hb.bind hrest)
  · intro h
    rcases h.of_bind with ⟨rfl, ha⟩ | ⟨a, m₁, ha, h⟩
    · exact .inl ⟨rfl, .cutA ha⟩
    · rcases h.of_bind with ⟨rfl, hb⟩ | ⟨b, m₂, hb, hrest⟩
      · exact .inl ⟨rfl, .cutB ha hb⟩
      · exact .inr ⟨a, b, m₂, .done ha hb, hrest⟩

/-- The number of the copy that a probe reports, if it found a valid one. -/
def SeesSlots (fmt : SlotFormat) (probe : Side -> Qspi ν) (seen : ν -> Option Nat) : Prop :=
  forall (F : Faults qspi) (m : Memory) (s : Side),
    (probe s).wp qspiFlash F
      (fun v m' => m' = m ∧ (seen v = (copies fmt m s).map Copy.seq ∨
        (seen v = none ∧ exists op n, F.fails op n)))
      (fun m' => m' = m) m

section Probes

variable {fmt : SlotFormat} {probe : Side -> Qspi ν} {seen : ν -> Option Nat}
variable {E : OperationFaults} {m m' : Memory} {a b : ν}

theorem Probed.flash_eq (hsees : SeesSlots fmt probe seen) {r : Option (ν × ν)}
    (hprobed : Probed probe E m r m') : m' = m := by
  cases hprobed with
  | cutA ha => exact Program.wp_crash (hsees _ _ _) ha
  | cutB ha hb =>
      have hm₁ := (Program.wp_returns (hsees _ _ _) ha).1
      subst hm₁
      exact Program.wp_crash (hsees _ _ _) hb
  | done ha hb =>
      have hm₁ := (Program.wp_returns (hsees _ _ _) ha).1
      subst hm₁
      exact (Program.wp_returns (hsees _ _ _) hb).1

theorem Probed.reports (hsees : SeesSlots fmt probe seen)
    (hprobed : Probed probe E m (some (a, b)) m') (s : Side) :
    seen (s.pick a b) = (copies fmt m s).map Copy.seq ∨
      (seen (s.pick a b) = none ∧ ¬ (E.probing s).NeverFails) := by
  have hfails : forall F : Faults qspi, (exists op n, F.fails op n) -> ¬ F.NeverFails := by
    intro F hfails hnever
    rcases hfails with ⟨op, n, hn⟩
    exact hnever op n hn
  cases hprobed with
  | done ha hb =>
      rcases Program.wp_returns (hsees _ _ _) ha with ⟨rfl, hseenA⟩
      have hseenB := (Program.wp_returns (hsees _ _ _) hb).2
      cases s with
      | a => exact hseenA.imp id fun h => ⟨h.1, hfails _ h.2⟩
      | b => exact hseenB.imp id fun h => ⟨h.1, hfails _ h.2⟩

/-- The newest copy is probed without a read error. -/
def Undisturbed (E : OperationFaults) (c : Copies (List UInt8)) : Prop :=
  forall s, Copies.newest c = some s -> (E.probing s).NeverFails

/-- The same, unless the newest copy is the only one. -/
def UndisturbedPair (E : OperationFaults) (c : Copies (List UInt8)) : Prop :=
  forall s, Copies.newest c = some s -> c s.other ≠ none -> (E.probing s).NeverFails

theorem Probed.sees (hsees : SeesSlots fmt probe seen)
    (hprobed : Probed probe E m (some (a, b)) m') (hquiet : Undisturbed E (copies fmt m)) :
    Copies.Seen (copies fmt m) fun s => seen (s.pick a b) := by
  constructor
  · exact fun s => (hprobed.reports hsees s).imp id fun h => h.1
  · intro s hs
    rcases hprobed.reports hsees s with hseen | ⟨_, hfails⟩
    · exact hseen
    · exact absurd (hquiet s hs) hfails

theorem Probed.sees_pair (hsees : SeesSlots fmt probe seen)
    (hprobed : Probed probe E m (some (a, b)) m') (hquiet : UndisturbedPair E (copies fmt m))
    (hfound : Copies.newestOf (seen a) (seen b) ≠ none) :
    Copies.Seen (copies fmt m) fun s => seen (s.pick a b) := by
  have hreports := hprobed.reports hsees
  constructor
  · exact fun s => (hreports s).imp id fun h => h.1
  · intro s hs
    rcases hreports s with hseen | ⟨hmissed, hfails⟩
    · exact hseen
    · cases hother : copies fmt m s.other with
      | some y =>
          have hne : copies fmt m s.other ≠ none := by
            rw [hother]
            exact fun h => nomatch h
          exact absurd (hquiet s hs hne) hfails
      | none =>
          have hblind : seen (s.other.pick a b) = none := by
            rcases hreports s.other with hseen | ⟨hnone, _⟩
            · rw [hseen, hother]
              rfl
            · exact hnone
          -- both probes came back empty
          apply absurd _ hfound
          cases s with
          | a =>
              change seen a = none at hmissed
              change seen b = none at hblind
              rw [hmissed, hblind]
              rfl
          | b =>
              change seen b = none at hmissed
              change seen a = none at hblind
              rw [hmissed, hblind]
              rfl

end Probes

end EnvMonitor.ConfigStore
