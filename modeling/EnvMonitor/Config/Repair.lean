import Mathlib.Data.List.Nodup
import Mathlib.Logic.Function.Basic

/-!
# Repairing the fields of a record one after another

A record is a value for each field.  A field that a check finds bad beside the others gets its
default, and the next field is checked in the record so repaired.
-/

namespace EnvMonitor.Config

section Repair

variable {field : Type} [DecidableEq field] {value : field -> Type}

def repairField (bad : field -> ((i : field) -> value i) -> Bool) (default : (i : field) -> value i)
    (p : (i : field) -> value i) (i : field) : (i : field) -> value i :=
  if bad i p then Function.update p i (default i) else p

def repairAll (bad : field -> ((i : field) -> value i) -> Bool) (default : (i : field) -> value i)
    (order : List field) (p : (i : field) -> value i) : (i : field) -> value i :=
  order.foldl (repairField bad default) p

variable {bad : field -> ((i : field) -> value i) -> Bool} {default : (i : field) -> value i}

theorem repairField_other {p : (i : field) -> value i} {i j : field} (hne : j ≠ i) :
    repairField bad default p i j = p j := by
  unfold repairField
  split
  · exact Function.update_of_ne hne (default i) p
  · rfl

theorem repairField_self_eq {p : (i : field) -> value i} {i : field} :
    repairField bad default p i = p ↔ (bad i p = true -> p i = default i) := by
  unfold repairField
  by_cases hbad : bad i p = true
  · rw [if_pos hbad]
    constructor
    · intro h _
      have hi := congrFun h i
      rw [Function.update_self] at hi
      exact hi.symm
    · intro h
      rw [← h hbad]
      exact Function.update_eq_self i p
  · rw [if_neg hbad]
    exact ⟨fun _ h => absurd h hbad, fun _ => rfl⟩

theorem repairAll_other (order : List field) {p : (i : field) -> value i} {j : field}
    (hnot : j ∉ order) : repairAll bad default order p j = p j := by
  induction order generalizing p with
  | nil => rfl
  | cons i order ih =>
      have hne : j ≠ i := fun h => hnot (h ▸ List.mem_cons_self)
      have hrest := ih (p := repairField bad default p i) fun h => hnot (List.mem_cons_of_mem i h)
      exact hrest.trans (repairField_other hne)

/-- Nothing is repaired exactly when no field is bad, except one that already has its default. -/
theorem repairAll_eq_self_iff {order : List field} (hnodup : order.Nodup)
    {p : (i : field) -> value i} :
    repairAll bad default order p = p ↔ forall i, i ∈ order -> bad i p = true -> p i = default i := by
  induction order generalizing p with
  | nil => exact ⟨fun _ i hi => absurd hi List.not_mem_nil, fun _ => rfl⟩
  | cons i order ih =>
      rw [List.nodup_cons] at hnodup
      have hcons : repairAll bad default (i :: order) p =
          repairAll bad default order (repairField bad default p i) := rfl
      constructor
      · intro h
        -- later checks leave field `i` alone, so its check has left it too
        have hfirst : repairField bad default p i = p := by
          funext j
          by_cases hj : j = i
          · subst hj
            have hkept : repairAll bad default order (repairField bad default p j) j =
                repairField bad default p j j := repairAll_other order hnodup.1
            rw [← hkept, ← hcons, h]
          · exact repairField_other hj
        rw [hcons, hfirst] at h
        intro j hj
        rcases List.mem_cons.mp hj with rfl | hj
        · exact repairField_self_eq.mp hfirst
        · exact (ih hnodup.2).mp h j hj
      · intro h
        have hfirst := repairField_self_eq.mpr (h i List.mem_cons_self)
        rw [hcons, hfirst]
        exact (ih hnodup.2).mpr fun j hj => h j (List.mem_cons_of_mem i hj)

/-- A property that the check of a field ensures and its default has holds of the repaired
field. -/
theorem repairAll_field {order : List field} (hnodup : order.Nodup) {i : field} (hi : i ∈ order)
    {good : value i -> Prop} (hgood : forall p, bad i p = false -> good (p i))
    (hdefault : good (default i)) (p : (i : field) -> value i) :
    good (repairAll bad default order p i) := by
  induction order generalizing p with
  | nil => exact absurd hi List.not_mem_nil
  | cons j order ih =>
      rw [List.nodup_cons] at hnodup
      change good (repairAll bad default order (repairField bad default p j) i)
      rcases List.mem_cons.mp hi with rfl | hi
      · rw [repairAll_other order hnodup.1]
        unfold repairField
        by_cases hbad : bad i p = true
        · rw [if_pos hbad, Function.update_self]
          exact hdefault
        · rw [if_neg hbad]
          exact hgood p (Bool.eq_false_iff.mpr hbad)
      · exact ih hnodup.2 hi _

theorem repairAll_append (pre post : List field) (p : (i : field) -> value i) :
    repairAll bad default (pre ++ post) p =
      repairAll bad default post (repairAll bad default pre p) :=
  List.foldl_append

theorem repairAll_at {pre post : List field} {i : field} (hnodup : (pre ++ i :: post).Nodup)
    (p : (i : field) -> value i) :
    repairAll bad default (pre ++ i :: post) p i =
      if bad i (fun j => if j ∈ pre then repairAll bad default (pre ++ i :: post) p j else p j) then
        default i
      else p i := by
  have hparts := List.nodup_append'.mp hnodup
  have hself : i ∉ pre := fun hi => hparts.2.2 hi List.mem_cons_self
  have hpost : i ∉ post := (List.nodup_cons.mp hparts.2.1).1
  have hseen : (fun j => if j ∈ pre then repairAll bad default (pre ++ i :: post) p j else p j) =
      repairAll bad default pre p := by
    funext j
    by_cases hj : j ∈ pre
    · rw [if_pos hj, repairAll_append]
      exact repairAll_other (i :: post) fun hlater => hparts.2.2 hj hlater
    · rw [if_neg hj, repairAll_other pre hj]
  rw [hseen, repairAll_append]
  change repairAll bad default post (repairField bad default (repairAll bad default pre p) i) i = _
  rw [repairAll_other post hpost]
  unfold repairField
  by_cases hbad : bad i (repairAll bad default pre p) = true
  · rw [if_pos hbad, if_pos hbad, Function.update_self]
  · rw [if_neg hbad, if_neg hbad, repairAll_other pre hself]

end Repair

end EnvMonitor.Config
