import Mathlib.Data.List.Basic
import Mathlib.Data.List.Induction

/-!
# An alarm with hysteresis

A watched value raises an alarm when it leaves a band, and the alarm is over when the value has
come back past the same limit by more than the hysteresis.  Whoever watches it sees signals; an
acknowledgement ends an alarm without one.
-/

namespace EnvMonitor.Hysteresis

inductive Side where
  | high
  | low
  deriving DecidableEq, Repr

structure Band where
  high : Int
  low : Int
  hysteresis : Int
  deriving DecidableEq, Repr

inductive Signal where
  | raised (side : Side)
  | cleared
  deriving DecidableEq, Repr

/-- The alarm that is on after a signal. -/
def Signal.level : Signal -> Option Side
  | .raised side => some side
  | .cleared => none

/-- The signal a value gives rise to, by the alarm that is on. -/
def react (band : Band) (value : Int) : Option Side -> Option Signal
  | none =>
      if band.high < value then some (.raised .high)
      else if value < band.low then some (.raised .low)
      else none
  | some .high => if value < band.high - band.hysteresis then some .cleared else none
  | some .low => if band.low + band.hysteresis < value then some .cleared else none

/-- What happens to an alarm: a signal, with the band and the value it was given for, or an
acknowledgement. -/
inductive Happening where
  | signal (band : Band) (value : Int) (signal : Signal)
  | acknowledged
  deriving DecidableEq, Repr

def Happening.level : Happening -> Option Side
  | .signal _ _ given => given.level
  | .acknowledged => none

def Happening.isSignal : Happening -> Bool
  | .signal _ _ _ => true
  | .acknowledged => false

/-- The alarm that is on after a history: the last happening decides. -/
def replay (history : List Happening) : Option Side :=
  match history.getLast? with
  | none => none
  | some last => last.level

/-- A signal that the alarm on at the time, the band and the value call for. -/
def Justified (level : Option Side) : Happening -> Prop
  | .signal band value (.raised .high) => level = none ∧ band.high < value
  | .signal band value (.raised .low) => level = none ∧ value < band.low
  | .signal band value .cleared =>
      (level = some .high ∧ value < band.high - band.hysteresis) ∨
        (level = some .low ∧ band.low + band.hysteresis < value)
  | .acknowledged => True

def Lawful (history : List Happening) : Prop :=
  forall pre happening post, history = pre ++ happening :: post ->
    Justified (replay pre) happening

section

variable {history pre mid post : List Happening} {happening : Happening} {band band' : Band}
  {value value' : Int} {side side' : Side}

theorem replay_snoc (history : List Happening) (happening : Happening) :
    replay (history ++ [happening]) = happening.level := by
  unfold replay
  rw [List.getLast?_append_of_ne_nil _ (List.cons_ne_nil _ _)]
  rfl

theorem react_justified {level : Option Side} {signal : Signal}
    (h : react band value level = some signal) : Justified level (.signal band value signal) := by
  rcases level with _ | side
  case none =>
    simp only [react] at h
    split at h
    · rename_i hhigh
      cases h
      exact ⟨rfl, hhigh⟩
    · split at h
      · rename_i hlow
        cases h
        exact ⟨rfl, hlow⟩
      · cases h
  case some =>
    cases side
    case high =>
      simp only [react] at h
      split at h
      · rename_i hback
        cases h
        exact .inl ⟨rfl, hback⟩
      · cases h
    case low =>
      simp only [react] at h
      split at h
      · rename_i hback
        cases h
        exact .inr ⟨rfl, hback⟩
      · cases h

theorem Lawful.nil : Lawful [] := by
  intro pre happening post h
  cases pre <;> cases h

theorem Lawful.snoc (h : Lawful history) (hnew : Justified (replay history) happening) :
    Lawful (history ++ [happening]) := by
  intro pre o post hsplit
  rcases List.eq_nil_or_concat' post with hnil | ⟨post', last, hpost⟩
  · rw [hnil] at hsplit
    rcases List.append_inj' hsplit rfl with ⟨hpre, hlast⟩
    rw [← hpre, ← List.singleton_inj.mp hlast]
    exact hnew
  · rw [hpost, ← List.cons_append, ← List.append_assoc] at hsplit
    rcases List.append_inj' hsplit rfl with ⟨hhistory, _⟩
    exact h pre o post' hhistory

theorem exists_last (h : replay (pre ++ happening :: mid) ≠ happening.level) :
    exists o, o ∈ mid ∧ o.level = replay (pre ++ happening :: mid) := by
  rcases List.eq_nil_or_concat' mid with hnil | ⟨mid', last, hmid⟩
  · rw [hnil, replay_snoc] at h
    exact absurd rfl h
  · exists last
    rw [hmid]
    constructor
    · exact List.mem_append_right _ (List.mem_singleton.mpr rfl)
    · rw [← List.cons_append, ← List.append_assoc, replay_snoc]

theorem Justified.raised_free {level : Option Side}
    (h : Justified level (.signal band value (.raised side))) : level = none := by
  cases side
  case high => exact h.1
  case low => exact h.1

theorem Justified.cleared_on {level : Option Side}
    (h : Justified level (.signal band value .cleared)) : level ≠ none := by
  rcases h with ⟨hon, _⟩ | ⟨hon, _⟩ <;> rw [hon] <;> exact Option.some_ne_none _

theorem Lawful.raised_apart (h : Lawful history)
    (hsplit : history = pre ++ .signal band value (.raised side) ::
      (mid ++ .signal band' value' (.raised side') :: post)) :
    exists o, o ∈ mid ∧ o.level = none := by
  have hfree := (h (pre ++ .signal band value (.raised side) :: mid) _ post
    (by rw [hsplit, List.append_assoc, List.cons_append])).raised_free
  have hlast : exists o, o ∈ mid ∧
      o.level = replay (pre ++ .signal band value (.raised side) :: mid) := by
    apply exists_last
    rw [hfree]
    exact (Option.some_ne_none side).symm
  rw [hfree] at hlast
  exact hlast

theorem Lawful.cleared_apart (h : Lawful history)
    (hsplit : history = pre ++ .signal band value .cleared ::
      (mid ++ .signal band' value' .cleared :: post)) :
    exists o, o ∈ mid ∧ o.level ≠ none := by
  have hon := (h (pre ++ .signal band value .cleared :: mid) _ post
    (by rw [hsplit, List.append_assoc, List.cons_append])).cleared_on
  have hlast : exists o, o ∈ mid ∧ o.level = replay (pre ++ .signal band value .cleared :: mid) :=
    exists_last hon
  rcases hlast with ⟨o, ho, hlevel⟩
  exact ⟨o, ho, by rw [hlevel]; exact hon⟩

theorem Lawful.starts_raised (h : Lawful history)
    (hsplit : history = pre ++ .signal band value .cleared :: post) :
    exists o, o ∈ pre ∧ o.level ≠ none := by
  have hon := (h pre _ post hsplit).cleared_on
  rcases List.eq_nil_or_concat' pre with hnil | ⟨pre', last, hpre⟩
  · rw [hnil] at hon
    exact absurd rfl hon
  · exists last
    rw [hpre] at hon ⊢
    rw [replay_snoc] at hon
    exact ⟨List.mem_append_right _ (List.mem_singleton.mpr rfl), hon⟩

/-- No acknowledgement finds an alarm on. -/
def QuietlyAcknowledged (history : List Happening) : Prop :=
  forall pre post, history = pre ++ .acknowledged :: post -> replay pre = none

theorem replay_signals (h : QuietlyAcknowledged history) :
    replay (history.filter Happening.isSignal) = replay history := by
  induction history using List.reverseRecOn with
  | nil => rfl
  | append_singleton history happening ih =>
      have hearlier : QuietlyAcknowledged history := by
        intro pre post hsplit
        apply h pre (post ++ [happening])
        rw [hsplit, List.append_assoc, List.cons_append]
      rw [List.filter_append, replay_snoc]
      cases happening
      case signal band value signal => exact replay_snoc _ _
      case acknowledged =>
        change replay (history.filter Happening.isSignal ++ []) = none
        rw [List.append_nil, ih hearlier]
        exact h history [] rfl

end

/-- A history and the alarm on after it. -/
structure Follows (history : List Happening) (level : Option Side) : Prop where
  lawful : Lawful history
  current : level = replay history

theorem Follows.start : Follows [] none := ⟨Lawful.nil, rfl⟩

variable {history : List Happening} {Id γ : Type}

theorem Follows.acknowledge {level : Option Side} (h : Follows history level) :
    Follows (history ++ [.acknowledged]) none :=
  ⟨h.lawful.snoc trivial, (replay_snoc history .acknowledged).symm⟩

/-- The alarm after a value, and what is added to the history. -/
def observe (band : Band) (value : Int) (level : Option Side) : Option Side × List Happening :=
  match react band value level with
  | none => (level, [])
  | some signal => (signal.level, [.signal band value signal])

theorem Follows.observe {level : Option Side} (h : Follows history level) (band : Band)
    (value : Int) :
    Follows (history ++ (Hysteresis.observe band value level).2)
      (Hysteresis.observe band value level).1 := by
  unfold Hysteresis.observe
  cases hreact : react band value level with
  | none =>
      rw [List.append_nil]
      exact h
  | some signal =>
      constructor
      case lawful =>
        apply h.lawful.snoc
        rw [← h.current]
        exact react_justified hreact
      case current => exact (replay_snoc history (.signal band value signal)).symm

/-- What every history shows, and the alarm on after it. -/
structure EventLaw (history : List Happening) (level : Option Side) : Prop where
  lawful : Lawful history
  raised_apart : forall pre mid post band value side band' value' side',
    history = pre ++ .signal band value (.raised side) ::
      (mid ++ .signal band' value' (.raised side') :: post) ->
    exists o, o ∈ mid ∧ o.level = none
  cleared_apart : forall pre mid post band value band' value',
    history = pre ++ .signal band value .cleared :: (mid ++ .signal band' value' .cleared :: post) ->
    exists o, o ∈ mid ∧ o.level ≠ none
  starts_raised : forall pre post band value, history = pre ++ .signal band value .cleared :: post ->
    exists o, o ∈ pre ∧ o.level ≠ none
  current : level = replay history
  signals : QuietlyAcknowledged history -> level = replay (history.filter Happening.isSignal)

theorem Follows.law {level : Option Side} (h : Follows history level) : EventLaw history level where
  lawful := h.lawful
  raised_apart := fun _ _ _ _ _ _ _ _ _ => h.lawful.raised_apart
  cleared_apart := fun _ _ _ _ _ _ _ => h.lawful.cleared_apart
  starts_raised := fun _ _ _ _ => h.lawful.starts_raised
  current := h.current
  signals := by
    intro hquiet
    rw [replay_signals hquiet]
    exact h.current

/-!
## One alarm of many
-/

theorem filterMap_only [DecidableEq Id] {id : Id} (x : Option γ) {members : List Id}
    (hnodup : members.Nodup) (hmem : id ∈ members) :
    (members.filterMap fun other => if other = id then x else none) = x.toList := by
  induction members with
  | nil => cases hmem
  | cons other members ih =>
      rcases List.nodup_cons.mp hnodup with ⟨hnew, hrest⟩
      rw [List.filterMap_cons]
      by_cases hsame : other = id
      · have hnone : (members.filterMap fun other => if other = id then x else none) = [] := by
          rw [List.filterMap_eq_nil_iff]
          intro member hmember
          apply if_neg
          intro heq
          rw [hsame, ← heq] at hnew
          exact hnew hmember
        rw [if_pos hsame, hnone]
        cases x <;> rfl
      · rw [if_neg hsame]
        apply ih hrest
        rcases List.mem_cons.mp hmem with heq | hlater
        · exact absurd heq.symm hsame
        · exact hlater

theorem filterMap_select {α β : Type} [DecidableEq Id] {id : Id} {f : Id -> Option α}
    {tag : Id -> α -> β} {select : β -> Option γ} {g : α -> γ}
    (hselect : forall other x, select (tag other x) = if other = id then some (g x) else none)
    {members : List Id} (hnodup : members.Nodup) (hmem : id ∈ members) :
    (members.filterMap fun other => (f other).map (tag other)).filterMap select =
      ((f id).map g).toList := by
  rw [List.filterMap_filterMap, ← filterMap_only _ hnodup hmem]
  congr 1
  funext other
  by_cases hsame : other = id
  · rw [if_pos hsame, hsame]
    cases hreport : f id with
    | none => rfl
    | some x =>
        change select (tag id x) = some (g x)
        rw [hselect, if_pos rfl]
  · rw [if_neg hsame]
    cases hreport : f other with
    | none => rfl
    | some x =>
        change select (tag other x) = none
        rw [hselect, if_neg hsame]

end EnvMonitor.Hysteresis
