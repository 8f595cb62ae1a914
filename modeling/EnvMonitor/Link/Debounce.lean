import EnvMonitor.Histories
import Mathlib.Data.List.Induction

/-!
# A debounced link

Single exchanges succeed or fail.  A link comes up after a number of successes in a row and goes
down after as many failures in a row, or at once when the partner is rejected.
-/

namespace EnvMonitor.Debounce

structure Link where
  successes : Nat
  failures : Nat
  online : Bool
  deriving DecidableEq, Repr

/-- What happens to a link: outcomes, and the events it reports. -/
inductive Happening where
  | success
  | failure
  | rejected
  | up
  | down
  deriving DecidableEq, Repr

def Link.idle : Link := ⟨0, 0, false⟩

/-- A counter that stops at the threshold. -/
def tally (threshold n : Nat) : Nat :=
  if n < threshold then n + 1 else n

def Link.succeed (threshold : Nat) (link : Link) : Link :=
  let successes := tally threshold link.successes
  ⟨successes, 0, link.online || successes = threshold⟩

def Link.fail (threshold : Nat) (link : Link) : Link :=
  let failures := tally threshold link.failures
  ⟨0, failures, link.online && failures ≠ threshold⟩

def Link.reject (link : Link) : Link :=
  ⟨0, link.failures, false⟩

/-- The event that reports a change. -/
def report (before after : Bool) : List Happening :=
  match before, after with
  | false, true => [.up]
  | true, false => [.down]
  | _, _ => []

/-!
## Histories
-/

def successesSince (history : List Happening) : Nat :=
  history.foldl (fun n happening =>
    match happening with
    | .success => n + 1
    | .failure => 0
    | _ => n) 0

def failuresSince (history : List Happening) : Nat :=
  history.foldl (fun n happening =>
    match happening with
    | .failure => n + 1
    | .success => 0
    | _ => n) 0

/-- The last event was an up. -/
def isUp (history : List Happening) : Bool :=
  history.foldl (fun up happening =>
    match happening with
    | .up => true
    | .down => false
    | _ => up) false

/-- Ups and downs take turns, an up rests on successes since the last failure, a down on failures
since the last success or on a rejection just before it. -/
def Justified (threshold : Nat) (pre : List Happening) : Happening -> Prop
  | .up => isUp pre = false ∧ threshold ≤ successesSince pre
  | .down => isUp pre = true ∧
      (threshold ≤ failuresSince pre ∨ pre.getLast? = some .rejected)
  | _ => True

def Lawful (threshold : Nat) (history : List Happening) : Prop :=
  Throughout (Justified threshold) history

/-- The events of a history. -/
def events (history : List Happening) : List Bool :=
  history.filterMap fun happening =>
    match happening with
    | .up => some true
    | .down => some false
    | _ => none

/-- The link is where its history has led it. -/
structure Follows (threshold : Nat) (history : List Happening) (link : Link) : Prop where
  lawful : Lawful threshold history
  successes : link.successes ≤ successesSince history
  failures : link.failures ≤ failuresSince history
  online : link.online = isUp history

section

variable {threshold : Nat} {history : List Happening} {happening : Happening} {link link' : Link}

@[simp] theorem successesSince_snoc :
    successesSince (history ++ [happening]) =
      match happening with
      | .success => successesSince history + 1
      | .failure => 0
      | _ => successesSince history := by
  unfold successesSince
  rw [List.foldl_append]
  rfl

@[simp] theorem failuresSince_snoc :
    failuresSince (history ++ [happening]) =
      match happening with
      | .failure => failuresSince history + 1
      | .success => 0
      | _ => failuresSince history := by
  unfold failuresSince
  rw [List.foldl_append]
  rfl

@[simp] theorem isUp_snoc :
    isUp (history ++ [happening]) =
      match happening with
      | .up => true
      | .down => false
      | _ => isUp history := by
  unfold isUp
  rw [List.foldl_append]
  rfl

theorem tally_le (threshold n : Nat) : tally threshold n ≤ n + 1 := by
  unfold tally
  split
  · exact Nat.le_refl _
  · exact Nat.le_succ n

theorem Follows.idle : Follows threshold [] Link.idle where
  lawful := Throughout.nil
  successes := Nat.le_refl 0
  failures := Nat.le_refl 0
  online := rfl

theorem Follows.report (h : Follows threshold history link) (link' : Link)
    (hsuccesses : link'.successes ≤ link.successes)
    (hfailures : link'.failures ≤ link.failures)
    (hup : link.online = false -> link'.online = true -> threshold ≤ successesSince history)
    (hdown : link.online = true -> link'.online = false ->
      threshold ≤ failuresSince history ∨ history.getLast? = some .rejected) :
    Follows threshold (history ++ report link.online link'.online) link' := by
  have hs := Nat.le_trans hsuccesses h.successes
  have hf := Nat.le_trans hfailures h.failures
  have hon := h.online
  unfold Debounce.report
  cases hbefore : link.online with
  | false =>
      rw [hbefore] at hon
      cases hafter : link'.online with
      | false =>
          simp only [List.append_nil]
          exact ⟨h.lawful, hs, hf, by rw [hafter, ← hon]⟩
      | true =>
          have hjustified : Justified threshold history .up :=
            ⟨hon.symm, hup hbefore hafter⟩
          constructor
          · exact h.lawful.snoc hjustified
          · rw [successesSince_snoc]
            exact hs
          · rw [failuresSince_snoc]
            exact hf
          · rw [isUp_snoc]
            exact hafter
  | true =>
      rw [hbefore] at hon
      cases hafter : link'.online with
      | false =>
          have hjustified : Justified threshold history .down :=
            ⟨hon.symm, hdown hbefore hafter⟩
          constructor
          · exact h.lawful.snoc hjustified
          · rw [successesSince_snoc]
            exact hs
          · rw [failuresSince_snoc]
            exact hf
          · rw [isUp_snoc]
            exact hafter
      | true =>
          simp only [List.append_nil]
          exact ⟨h.lawful, hs, hf, by rw [hafter, ← hon]⟩

theorem Follows.succeed (h : Follows threshold history link) :
    Follows threshold
      (history ++ .success :: Debounce.report link.online (link.succeed threshold).online)
      (link.succeed threshold) := by
  have hcounted : Follows threshold (history ++ [.success])
      ⟨tally threshold link.successes, 0, link.online⟩ := by
    constructor
    · exact h.lawful.snoc trivial
    · rw [successesSince_snoc]
      exact Nat.le_trans (tally_le _ _) (Nat.succ_le_succ h.successes)
    · exact Nat.zero_le _
    · rw [isUp_snoc]
      exact h.online
  rw [List.append_cons]
  apply hcounted.report (link.succeed threshold) (Nat.le_refl _) (Nat.le_refl _)
  · intro hoff hon
    have hreached : tally threshold link.successes = threshold := by
      change (link.online || decide (tally threshold link.successes = threshold)) = true at hon
      change link.online = false at hoff
      rw [hoff, Bool.false_or] at hon
      exact of_decide_eq_true hon
    have hcount := hcounted.successes
    change tally threshold link.successes ≤ _ at hcount
    rw [hreached] at hcount
    exact hcount
  · intro hon hoff
    change (link.online || decide (tally threshold link.successes = threshold)) = false at hoff
    change link.online = true at hon
    rw [hon, Bool.true_or] at hoff
    cases hoff

theorem Follows.fail (h : Follows threshold history link) :
    Follows threshold
      (history ++ .failure :: Debounce.report link.online (link.fail threshold).online)
      (link.fail threshold) := by
  have hcounted : Follows threshold (history ++ [.failure])
      ⟨0, tally threshold link.failures, link.online⟩ := by
    constructor
    · exact h.lawful.snoc trivial
    · exact Nat.zero_le _
    · rw [failuresSince_snoc]
      exact Nat.le_trans (tally_le _ _) (Nat.succ_le_succ h.failures)
    · rw [isUp_snoc]
      exact h.online
  rw [List.append_cons]
  apply hcounted.report (link.fail threshold) (Nat.le_refl _) (Nat.le_refl _)
  · intro hoff hon
    change (link.online && decide (tally threshold link.failures ≠ threshold)) = true at hon
    change link.online = false at hoff
    rw [hoff, Bool.false_and] at hon
    cases hon
  · intro hon hoff
    have hreached : tally threshold link.failures = threshold := by
      change (link.online && decide (tally threshold link.failures ≠ threshold)) = false at hoff
      change link.online = true at hon
      rw [hon, Bool.true_and] at hoff
      exact Decidable.not_not.mp (of_decide_eq_false hoff)
    have hcount := hcounted.failures
    change tally threshold link.failures ≤ _ at hcount
    rw [hreached] at hcount
    exact .inl hcount

theorem Follows.rejected (h : Follows threshold history link) :
    Follows threshold (history ++ [.rejected]) link := by
  constructor
  · exact h.lawful.snoc trivial
  · rw [successesSince_snoc]
    exact h.successes
  · rw [failuresSince_snoc]
    exact h.failures
  · rw [isUp_snoc]
    exact h.online

theorem Follows.reject (h : Follows threshold history link) :
    Follows threshold
      (history ++ .rejected :: Debounce.report link.online link.reject.online) link.reject := by
  rw [List.append_cons]
  apply h.rejected.report link.reject (Nat.zero_le _) (Nat.le_refl _)
  · intro _ hon
    cases hon
  · intro _ _
    exact .inr List.getLast?_concat

/-!
## Ups and downs take turns
-/

theorem events_append (history later : List Happening) :
    events (history ++ later) = events history ++ events later :=
  List.filterMap_append

/-- `up, down, up, …`, of this length. -/
def turns : Nat -> List Bool
  | 0 => []
  | n + 1 => turns n ++ [decide (n % 2 = 0)]

/-- In a lawful history the first event is an up, and every event differs from the one before. -/
theorem Lawful.alternates (h : Lawful threshold history) :
    exists n, events history = turns n ∧ isUp history = decide (n % 2 = 1) := by
  induction history using List.reverseRecOn with
  | nil => exact ⟨0, rfl, rfl⟩
  | append_singleton history happening ih =>
      rcases ih h.init with ⟨n, hevents, hup⟩
      have hnew : Justified threshold history happening := h.last
      rw [events_append, isUp_snoc, hevents]
      cases happening with
      | success => exact ⟨n, List.append_nil _, hup⟩
      | failure => exact ⟨n, List.append_nil _, hup⟩
      | rejected => exact ⟨n, List.append_nil _, hup⟩
      | up =>
          have heven : n % 2 = 0 := by
            have hoff : decide (n % 2 = 1) = false := hup.symm.trans hnew.1
            have := of_decide_eq_false hoff
            omega
          exists n + 1
          constructor
          · change turns n ++ [true] = turns n ++ [decide (n % 2 = 0)]
            rw [heven]
            rfl
          · exact (decide_eq_true (by omega)).symm
      | down =>
          have hodd : n % 2 = 1 := of_decide_eq_true (hup.symm.trans hnew.1)
          exists n + 1
          constructor
          · change turns n ++ [false] = turns n ++ [decide (n % 2 = 0)]
            rw [hodd]
            rfl
          · exact (decide_eq_false (by omega)).symm

end

end EnvMonitor.Debounce
