import Mathlib.Data.List.Basic

/-!
# Histories

A history is a list, oldest entry first.  What is asked of an entry may depend on the entries
before it, so it still holds when the history grows.
-/

namespace EnvMonitor

/-- Every entry is justified by the entries before it. -/
def Throughout {entry : Type} (justified : List entry -> entry -> Prop) (history : List entry) :
    Prop :=
  forall pre e post, history = pre ++ e :: post -> justified pre e

section

variable {entry : Type} {justified : List entry -> entry -> Prop} {history : List entry}

theorem Throughout.nil : Throughout justified [] := by
  intro pre e post h
  cases pre <;> cases h

theorem Throughout.snoc (h : Throughout justified history) {e : entry}
    (hnew : justified history e) : Throughout justified (history ++ [e]) := by
  intro pre e' post hsplit
  rcases List.eq_nil_or_concat' post with hnil | ⟨post', last, hpost⟩
  · rw [hnil] at hsplit
    rcases List.append_inj' hsplit rfl with ⟨hpre, hlast⟩
    rw [← hpre, ← List.singleton_inj.mp hlast]
    exact hnew
  · rw [hpost, ← List.cons_append, ← List.append_assoc] at hsplit
    rcases List.append_inj' hsplit rfl with ⟨hhistory, _⟩
    exact h pre e' post' hhistory

theorem Throughout.init {e : entry} (h : Throughout justified (history ++ [e])) :
    Throughout justified history := by
  intro pre e' post hsplit
  apply h pre e' (post ++ [e])
  rw [hsplit, List.append_assoc, List.cons_append]

theorem Throughout.last {e : entry} (h : Throughout justified (history ++ [e])) :
    justified history e :=
  h history e [] rfl

end

end EnvMonitor
