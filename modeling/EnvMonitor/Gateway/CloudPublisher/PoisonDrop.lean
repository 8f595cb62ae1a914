import EnvMonitor.Gateway.CloudPublisher.Replay

/-!
# An entry is dropped for its own failures

The counter of the poison rule stands for the entry at the head of the log as long as a failed
publish is one of that entry on a session that stays, and no other call takes the head away while
failures are counted.
-/

namespace EnvMonitor.Gateway.CloudPublisher.Replay

/-- Attempts of the entry that failed on a live link, since the last other one of it. -/
def liveFailures (entry : Nat) (history : List Happening) : Nat :=
  history.foldl (fun n happening =>
    match happening with
    | .attempt tried ok upBefore upAfter =>
        if tried = entry then (if !ok && upBefore && upAfter then n + 1 else 0) else n
    | .dropped _ => n) 0

/-- An entry is dropped after enough failures of its own. -/
def Justified (pre : List Happening) : Happening -> Prop
  | .dropped entry => cpDrainPoisonFails ≤ liveFailures entry pre
  | .attempt _ _ _ _ => True

/-- The failures that are counted are those of the entry at the head of the log. -/
def CountsOwn (s : Publisher) : Prop :=
  match s.log.records.head? with
  | none => s.drainEntryFails = 0
  | some entry => s.drainEntryFails ≤ liveFailures entry s.history

/-- The first drop takes a record. -/
def dropsRecord : List Consumed -> Bool
  | [] => false
  | consumed :: _ => removes consumed

/-- While failures are counted nobody takes the head of the log away, and a publish that fails is
of the head of the log and leaves the session up. -/
def steady (s : Publisher) : Input -> Bool
  | .enqueue drops _ => s.drainEntryFails = 0 || !dropsRecord drops
  | .turn turn =>
      match safDequeue turn.peeks s.log with
      | (none, _) => true
      | (some entry, log) =>
          turn.status = .success ||
            (turn.status ≠ .sendFailed && log.records.head? = some entry)
  | _ => true

section

variable {entry : Nat} {history : List Happening} {s s' : Publisher} {input : Input}

theorem liveFailures_attempt (entry tried : Nat) (ok upBefore upAfter : Bool)
    (history : List Happening) :
    liveFailures entry (history ++ [.attempt tried ok upBefore upAfter]) =
      if tried = entry then
        (if !ok && upBefore && upAfter then liveFailures entry history + 1 else 0)
      else liveFailures entry history := by
  unfold liveFailures
  rw [List.foldl_append]
  rfl

/-!
## StoreAndForward and the link
-/

theorem safPeekLoop_found {peeks : List Peek} : forall {records records' : List Nat},
    safPeekLoop peeks records = (some entry, records') -> records'.head? = some entry := by
  induction peeks with
  | nil =>
      intro records records' h
      cases records with
      | nil => cases h
      | cons record rest => cases h
  | cons peek peeks ih =>
      intro records records' h
      cases records with
      | nil => cases h
      | cons record rest =>
          cases peek with
          | parsed =>
              cases h
              rfl
          | failed => cases h
          | unusable consumed =>
              simp only [safPeekLoop] at h
              split at h
              · exact ih h
              · cases h

theorem safDequeue_found {peeks : List Peek} {log log' : SafLog}
    (h : safDequeue peeks log = (some entry, log')) :
    log'.pending = some entry ∧
      ((log.pending = some entry ∧ log' = log) ∨
        (log.pending = none ∧ log'.records.head? = some entry)) := by
  unfold safDequeue at h
  split at h
  · rename_i hpending
    cases h
    exact ⟨hpending, .inl ⟨hpending, rfl⟩⟩
  · rename_i hpending
    rcases Prod.mk.inj h with ⟨hfound, hlog⟩
    rw [← hlog]
    exact ⟨hfound, .inr ⟨hpending, safPeekLoop_found (Prod.ext hfound rfl)⟩⟩

theorem safEnqueue_keeps {drops : List Consumed} {log : SafLog} (appended : Bool) (record : Nat)
    (hdrops : dropsRecord drops = false) (hhead : log.records.head? = some entry) :
    (safEnqueue drops appended record log).records.head? = some entry ∧
      (safEnqueue drops appended record log).pending = log.pending := by
  rcases log with ⟨records, pending⟩
  cases records with
  | nil => cases hhead
  | cons first rest =>
      cases drops with
      | nil =>
          cases appended with
          | true => exact ⟨hhead, rfl⟩
          | false => exact ⟨hhead, rfl⟩
      | cons consumed more =>
          cases consumed with
          | kept => exact ⟨hhead, rfl⟩
          | done => cases hdrops
          | lost left => cases hdrops

theorem prvEventSuback_connected (suback : Suback) (c : MqttClient) :
    (prvEventSuback suback c).connected = c.connected := by
  unfold prvEventSuback
  split <;> rfl

theorem reaped_connected (reaped : List Suback) (c : MqttClient) :
    (reaped.foldl (fun c suback => prvEventSuback suback c) c).connected = c.connected := by
  induction reaped generalizing c with
  | nil => rfl
  | cons suback reaped ih => rw [List.foldl_cons, ih, prvEventSuback_connected]

theorem mqttClientPublish_live {c : MqttClient} (hup : c.connected = true) (reaped : List Suback)
    (status : SendStatus) :
    decide ((mqttClientPublish reaped status c).1 = .ok) = decide (status = .success) ∧
      (mqttClientPublish reaped status c).2.1.connected = decide (status ≠ .sendFailed) := by
  have hreaped := (reaped_connected reaped c).trans hup
  unfold mqttClientPublish
  rw [hup]
  cases status with
  | success => exact ⟨rfl, hreaped⟩
  | sendFailed => exact ⟨rfl, rfl⟩
  | otherError => exact ⟨rfl, hreaped⟩

/-!
## The invariant
-/

structure Inv (s : Publisher) : Prop where
  justified : Throughout Justified s.history
  own : CountsOwn s
  /-- An entry whose failures are counted is pending. -/
  pending : 0 < s.drainEntryFails -> s.log.pending ≠ none
  /-- The loop is entered on a live link. -/
  live : forall sent bytes, s.point = .loop sent bytes -> s.client.connected = true

theorem CountsOwn.of_zero (h : s.drainEntryFails = 0) : CountsOwn s := by
  unfold CountsOwn
  split
  · exact h
  · rw [h]
    exact Nat.zero_le _

theorem Inv.initial (records : List Nat) (stored : Nat) : Inv (.initial records stored) where
  justified := .nil
  own := .of_zero rfl
  pending := fun h => absurd h (Nat.lt_irrefl 0)
  live := nofun

theorem Inv.publishFailed (consumed : Consumed) (hjustified : Throughout Justified s.history)
    (hpending : s.log.pending = some entry) (hhead : s.log.records.head? = some entry)
    (hcount : s.drainEntryFails + 1 ≤ liveFailures entry s.history) :
    Inv { prvDrainPublishFailed consumed s with point := .idle } := by
  unfold prvDrainPublishFailed
  dsimp only
  split
  · rename_i hpoison
    have hdrop : Throughout Justified (s.history ++ poisonDrop consumed s.log) := by
      unfold poisonDrop
      split
      · rename_i record rest _ hrecords
        rw [hrecords] at hhead
        split
        · apply hjustified.snoc
          change cpDrainPoisonFails ≤ liveFailures record s.history
          rw [Option.some.inj hhead]
          exact Nat.le_trans hpoison hcount
        · rw [List.append_nil]
          exact hjustified
      · rw [List.append_nil]
        exact hjustified
    constructor
    · exact hdrop
    · exact .of_zero rfl
    · intro h
      exact absurd h (Nat.lt_irrefl 0)
    · exact nofun
  · constructor
    · exact hjustified
    · unfold CountsOwn
      dsimp only
      rw [hhead]
      exact hcount
    · intro _ hnone
      rw [hpending] at hnone
      cases hnone
    · exact nofun

theorem Inv.turn (h : Inv s) {turn : Turn} {sent bytes : Nat} (hpoint : s.point = .loop sent bytes)
    (hsteady : steady s (.turn turn) = true) : Inv (drainEntry turn sent bytes s) := by
  have hup := h.live sent bytes hpoint
  -- without a pending entry nothing is counted
  have hnone : s.log.pending = none -> s.drainEntryFails = 0 := by
    intro hpending
    rcases Nat.eq_zero_or_pos s.drainEntryFails with hzero | hpos
    · exact hzero
    · exact absurd hpending (h.pending hpos)
  unfold drainEntry
  cases hfound : safDequeue turn.peeks s.log with
  | mk found log =>
      cases found with
      | none =>
          have hpending : s.log.pending = none := by
            unfold safDequeue at hfound
            split at hfound
            · cases hfound
            · assumption
          constructor
          · exact h.justified
          · exact .of_zero (hnone hpending)
          · intro hpos
            exact absurd (hnone hpending) (Nat.ne_of_gt hpos)
          · exact nofun
      | some entry =>
          rcases safDequeue_found hfound with ⟨hpending, horigin⟩
          rcases mqttClientPublish_live hup turn.reaped turn.status with ⟨hok, hconnected⟩
          dsimp only
          rw [hok, hconnected, hup]
          have htried : forall ok upAfter, Throughout Justified
              (s.history ++ [.attempt entry ok true upAfter]) :=
            fun ok upAfter => h.justified.snoc trivial
          by_cases hsuccess : turn.status = .success
          · rw [decide_eq_true hsuccess, if_pos rfl]
            constructor
            · exact htried _ _
            · exact .of_zero rfl
            · intro hpos
              exact absurd hpos (Nat.lt_irrefl 0)
            · intro sent bytes hloop
              dsimp only at hloop
              split at hloop <;> cases hloop
          · have hkept : turn.status ≠ .sendFailed ∧ log.records.head? = some entry := by
              simpa [steady, hfound, hsuccess] using hsteady
            rcases hkept with ⟨hstays, hhead⟩
            rw [decide_eq_false hsuccess, if_neg Bool.false_ne_true, decide_eq_true hstays]
            apply Inv.publishFailed
            · exact htried _ _
            · exact hpending
            · exact hhead
            · -- one more counted, one more of its own
              dsimp only
              rw [liveFailures_attempt, if_pos rfl]
              apply Nat.succ_le_succ
              rcases horigin with ⟨_, hsame⟩ | ⟨hfresh, _⟩
              · have hown := h.own
                unfold CountsOwn at hown
                rw [← hsame, hhead] at hown
                exact hown
              · rw [hnone hfresh]
                exact Nat.zero_le _

theorem Inv.step (h : Inv s) (hsteady : steady s input = true) (hstep : s.step input = some s') :
    Inv s' := by
  cases input with
  | enqueue drops appended =>
      cases hstep
      have hdrops : 0 < s.drainEntryFails -> dropsRecord drops = false := by
        intro hpos
        simpa [steady, Nat.ne_of_gt hpos] using hsteady
      constructor
      · exact h.justified
      · rcases Nat.eq_zero_or_pos s.drainEntryFails with hzero | hpos
        · exact .of_zero hzero
        · have hown := h.own
          unfold CountsOwn at hown ⊢
          split at hown
          · exact absurd hown (Nat.ne_of_gt hpos)
          · rename_i entry hhead
            have hkept := safEnqueue_keeps appended s.stored (hdrops hpos) hhead
            dsimp only
            rw [hkept.1]
            exact hown
      · intro hpos
        have hown := h.own
        unfold CountsOwn at hown
        split at hown
        · exact absurd hown (Nat.ne_of_gt hpos)
        · rename_i entry hhead
          have hkept := safEnqueue_keeps appended s.stored (hdrops hpos) hhead
          dsimp only
          rw [hkept.2]
          exact h.pending hpos
      · exact h.live
  | startPass =>
      simp only [Publisher.step] at hstep
      split at hstep
      · split at hstep
        · rename_i hup
          cases hstep
          exact ⟨h.justified, h.own, h.pending, fun _ _ _ => hup⟩
        · cases hstep
      · cases hstep
  | turn turn =>
      simp only [Publisher.step] at hstep
      split at hstep
      · rename_i hpoint
        split at hstep
        · cases hstep
          exact h.turn hpoint hsteady
        · cases hstep
      · cases hstep
  | endPass =>
      simp only [Publisher.step] at hstep
      split at hstep
      · cases hstep
        exact ⟨h.justified, h.own, h.pending, nofun⟩
      · cases hstep
  | recheck =>
      simp only [Publisher.step] at hstep
      split at hstep
      · cases hstep
        refine ⟨h.justified, h.own, h.pending, ?_⟩
        intro sent bytes hloop
        dsimp only at hloop ⊢
        split at hloop
        · assumption
        · cases hloop
      · cases hstep
  | link client =>
      simp only [Publisher.step] at hstep
      split at hstep
      · cases hstep
      · rename_i hpoint
        cases hstep
        exact ⟨h.justified, h.own, h.pending,
          fun sent bytes hloop => absurd hloop (hpoint sent bytes)⟩
  | restart records =>
      cases hstep
      constructor
      · exact h.justified
      · exact .of_zero rfl
      · intro hpos
        exact absurd hpos (Nat.lt_irrefl 0)
      · exact nofun

/-- In every run of steady steps an entry is dropped for its own failures on a live link, and
nothing else is ever counted against it. -/
theorem poison_drop_own_failures (h : Reached steady s) :
    Throughout Justified s.history ∧ CountsOwn s := by
  have hinv : Inv s := by
    induction h with
    | initial records stored => exact .initial records stored
    | step _ hsteady hstep ih => exact ih.step hsteady hstep
  exact ⟨hinv.justified, hinv.own⟩

end

/-!
## Two runs
-/

def sessionUp : MqttClient := { mqttClientCreate with connected := true }

/-- A pass over one entry that cannot be sent. -/
def failedPass (status : SendStatus) : List Input :=
  [.startPass, .turn ⟨[.parsed], [], status, 100, .done⟩]

/-- An entry that MqttClient refuses three times on one session. -/
def refusedInputs : List Input :=
  [.enqueue [] true, .link sessionUp] ++ failedPass .otherError ++ failedPass .otherError ++
    failedPass .otherError

theorem poison_drop_refused :
    exists s, Reached steady s ∧ s.history.getLast? = some (.dropped 0) ∧
      Throughout Justified s.history ∧ CountsOwn s := by
  have hrun : ((Publisher.initial [] 0).run steady refusedInputs).map
      (fun s => s.history.getLast?) = some (some (.dropped 0)) := by
    decide
  rcases Option.map_eq_some_iff.mp hrun with ⟨s, hs, hlast⟩
  have hreached := (Reached.initial [] 0).run hs
  exact ⟨s, hreached, hlast, poison_drop_own_failures hreached⟩

/-- Each attempt finds the session up and loses it. -/
def sessionLostInputs : List Input :=
  .enqueue [] true ::
    (.link sessionUp :: failedPass .sendFailed) ++ (.link sessionUp :: failedPass .sendFailed) ++
    (.link sessionUp :: failedPass .sendFailed)

/-- The entry is dropped, and no attempt of it ended on a live link. -/
theorem session_lost_drops_entry :
    exists s, Reached (fun _ _ => true) s ∧
      ¬ (Throughout Justified s.history ∧ CountsOwn s) := by
  have hrun : ((Publisher.initial [] 0).run (fun _ _ => true) sessionLostInputs).map
      Publisher.history =
        some (List.replicate 3 (.attempt 0 false true false) ++ [.dropped 0]) := by
    decide
  rcases Option.map_eq_some_iff.mp hrun with ⟨s, hs, hhistory⟩
  refine ⟨s, (Reached.initial [] 0).run hs, ?_⟩
  intro h
  have hown : cpDrainPoisonFails ≤
      liveFailures 0 (List.replicate 3 (.attempt 0 false true false)) := h.1 _ _ _ hhistory
  exact absurd hown (by decide)

end EnvMonitor.Gateway.CloudPublisher.Replay
