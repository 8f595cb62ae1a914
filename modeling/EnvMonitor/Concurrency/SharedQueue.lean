import Mathlib.Data.List.Basic

/-!
# Sessions that messages of a shared queue end

Whoever runs a session handles the messages of one queue in their order.  The first message that
ends sessions ends the one that runs, whoever posted it and when.
-/

namespace EnvMonitor.Concurrency

universe u v

variable {message : Type u} {ends : message -> Bool} {good : message -> Prop}
  {queue : List message} {m : message}

/-- If a message of the queue ends sessions, the first one that does is good. -/
def FirstEnd (ends : message -> Bool) (good : message -> Prop) (queue : List message) : Prop :=
  forall m, queue.find? ends = some m -> good m

theorem FirstEnd.nil : FirstEnd ends good [] := by
  intro m hm
  cases hm

theorem FirstEnd.head (h : FirstEnd ends good (m :: queue)) (hends : ends m = true) : good m :=
  h m (List.find?_cons_of_pos hends)

theorem FirstEnd.tail (h : FirstEnd ends good (m :: queue)) (hgoes : ends m = false) :
    FirstEnd ends good queue := by
  intro m' hm'
  apply h
  rw [List.find?_cons_of_neg (by rw [hgoes]; exact Bool.false_ne_true)]
  exact hm'

theorem FirstEnd.append {more : List message} (h : FirstEnd ends good queue)
    (hmore : (forall m, m ∈ queue -> ends m = false) -> FirstEnd ends good more) :
    FirstEnd ends good (queue ++ more) := by
  intro m hm
  rw [List.find?_append] at hm
  cases hfirst : queue.find? ends with
  | some first =>
      rw [hfirst] at hm
      rw [← Option.some.inj hm]
      exact h first hfirst
  | none =>
      rw [hfirst] at hm
      apply hmore _ m hm
      intro m' hm'
      exact Bool.eq_false_iff.mpr (List.find?_eq_none.mp hfirst m' hm')

theorem FirstEnd.of_forall (h : forall m, m ∈ queue -> good m) : FirstEnd ends good queue :=
  fun m hm => h m (List.mem_of_find?_eq_some hm)

theorem FirstEnd.snoc (h : FirstEnd ends good queue)
    (hnew : ends m = true -> (forall m', m' ∈ queue -> ends m' = false) -> good m) :
    FirstEnd ends good (queue ++ [m]) := by
  apply h.append
  intro hquiet m' hm'
  have heq : m' = m := List.mem_singleton.mp (List.mem_of_find?_eq_some hm')
  rw [heq]
  rw [heq] at hm'
  exact hnew (List.find?_some hm') hquiet

theorem FirstEnd.of_map {carrier : Type v} {content : carrier -> message} {l : List carrier}
    (h : FirstEnd ends good (l.map content)) :
    FirstEnd (ends ∘ content) (good ∘ content) l := by
  intro c hc
  apply h
  rw [List.find?_map, hc]
  rfl

end EnvMonitor.Concurrency
