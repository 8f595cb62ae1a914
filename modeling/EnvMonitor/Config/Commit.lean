import Mathlib.Tactic.Common

/-!
# Commits of several changes

What it means that a commit of several changes is all or nothing: a commit that reports a failure
has left the live configuration and the stored one as they were, and one whose changes make a
valid configuration together applies all of them.
-/

namespace EnvMonitor.Config

section

variable {P S : Type}

/-- `merged` is the live configuration with every change in it. -/
structure AllOrNothing (valid : P -> Prop) (merged : P) (before after : P × S) (failed : Prop) :
    Prop where
  nothing : failed -> after = before
  all : valid merged -> ¬ failed ∧ after.1 = merged

variable {valid : P -> Prop} {merged : P} {before after : P × S} {failed : Prop}

theorem AllOrNothing.of_done (hok : ¬ failed) (hlive : after.1 = merged) :
    AllOrNothing valid merged before after failed where
  nothing := fun hfailed => absurd hfailed hok
  all := fun _ => ⟨hok, hlive⟩

/-- A commit that fails keeps the promise if it changes nothing and could not have succeeded. -/
theorem AllOrNothing.failed_iff (hfailed : failed) :
    AllOrNothing valid merged before after failed ↔ after = before ∧ ¬ valid merged := by
  constructor
  · intro h
    exact ⟨h.nothing hfailed, fun hvalid => (h.all hvalid).1 hfailed⟩
  · intro h
    exact ⟨fun _ => h.1, fun hvalid => absurd hvalid h.2⟩

end

end EnvMonitor.Config
