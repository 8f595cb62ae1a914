import EnvMonitor.FieldDevice.EditTimeouts
import EnvMonitor.Gateway.LifecycleController.Deferred

/-!
# Time-outs of sessions, on both boards

A time-out event names no session, and it goes through the queue of the events that end a session
and begin the next.
-/

namespace EnvMonitor

open Concurrency (FirstEnd)
open Gateway.LifecycleController (WatchRun SessionsApart KeepsSessions Watch WatchStep Started
  DeferredFirst LcReplies)
open FieldDevice (EditRun EditsApart KeepsEdits EditWatch EditWatchStep startUp storedBlob idleDevice)

/-- Where no session begins ahead of a time-out of an earlier one and at most one event is held back
in a session, each time-out ends its own session and the deferred event comes next. -/
theorem sessions_end_by_their_own_timeouts (version : FieldDevice.FirmwareVersion) :
    (forall w, WatchRun SessionsApart w -> KeepsSessions w) ∧
      (forall w, EditRun version EditsApart w -> KeepsEdits w) :=
  ⟨fun _ run => run.inv.keeps, fun _ run => run.inv.keeps⟩

/-- The gateway in Operational, with nothing posted. -/
def idleWatch : Watch :=
  ⟨⟨.operational, false, [], []⟩, 0, 0, 0, [], [], [], [], [], [], [], [], false⟩

theorem idleWatch_started : Started idleWatch where
  state := Or.inr (Or.inl rfl)
  deferred := rfl
  noTimeout _ h := nomatch h
  order := List.Pairwise.nil
  arrivals _ h := nomatch h
  editTimers := rfl
  restartTimers := rfl
  ended := rfl
  requests := rfl
  replayed := rfl
  taken := rfl
  editTimeouts := rfl
  restartTimeouts := rfl
  reset := rfl

def allWell : LcReplies := ⟨true, true, true, true⟩

def idleEdits : EditWatch :=
  ⟨startUp (storedBlob FieldDevice.ConfigService.applyDefaults) idleDevice, [], 0, [], []⟩

def editPass : EditWatchStep := .fd (.lifecyclePass []) false

/-- One session on each board, which its own timer ends. -/
theorem sessions_end_by_their_own_timeouts_once :
    KeepsSessions ([.post .configEditEnter, .pass allWell false, .editTimer 1,
        .pass allWell false].foldl Watch.perform idleWatch) ∧
      KeepsEdits ([.fd (.post .configEditEnter) false, editPass, .timer 1,
        editPass].foldl (EditWatch.perform ⟨1, 0, 0⟩) idleEdits) := by
  have h := sessions_end_by_their_own_timeouts ⟨1, 0, 0⟩
  constructor
  · apply h.1
    refine .step (.step (.step (.step (.start idleWatch_started)
      (.post .configEditEnter) rfl trivial) (.pass allWell false) rfl ?_)
      (.editTimer 1) (List.mem_singleton_self 1) (fun _ _ _ => rfl)) (.pass allWell false) rfl ?_
    · intro ev rest hqueue
      cases hqueue
      exact ⟨fun _ _ _ _ => FirstEnd.nil, fun hstate => nomatch hstate⟩
    · intro ev rest hqueue
      cases hqueue
      exact ⟨(fun hstate => nomatch hstate), fun _ => ⟨(fun hrequest => nomatch hrequest),
        fun _ => Nat.zero_le 1, (fun hfault => nomatch hfault)⟩⟩
  · apply h.2
    refine .step (.step (.step (.step (.start _ idleDevice)
      (.fd (.post .configEditEnter) false) (fun heq => nomatch heq) trivial) editPass trivial ?_)
      (.timer 1) (List.mem_singleton_self 1) (fun _ _ _ => rfl)) editPass trivial ?_
    · intro _ rest hqueue
      cases hqueue
      exact FirstEnd.nil
    · intro hstate
      cases hstate

/-- On both boards the timer of the first session fires while its end and the next beginning are in
the queue, and its event ends the second session.  On the gateway an update that was held back
together with a restart waits until the restart window is over. -/
theorem stale_timeout_ends_the_next_session :
    ¬(forall w, WatchRun (fun _ _ => True) w -> forall ev number,
        (ev, number) ∈ w.editTimeouts -> ev.tag.timer = some number) ∧
      ¬(forall w, EditRun ⟨1, 0, 0⟩ (fun _ _ => True) w -> KeepsEdits w) ∧
      ¬(forall w, WatchRun (fun _ _ => True) w -> DeferredFirst w) := by
  refine ⟨?_, ?_, ?_⟩
  · intro hclaim
    have hend := hclaim _ (.step (.step (.step (.step (.step (.step (.step (.step
      (.start idleWatch_started) (.post .configEditEnter) rfl trivial)
      (.pass allWell false) rfl trivial) (.post .configEditApply) rfl trivial)
      (.post .configEditEnter) rfl trivial) (.editTimer 1) (List.mem_singleton_self 1) trivial)
      (.pass allWell false) rfl trivial) (.pass allWell false) rfl trivial)
      (.pass allWell false) rfl trivial)
      ⟨.configEditTimeout, 3, some 1⟩ 2 (by decide +kernel)
    cases hend
  · intro hclaim
    have hend := hclaim _ (.step (.step (.step (.step (.step (.step (.step (.step
      (.start (storedBlob FieldDevice.ConfigService.applyDefaults) idleDevice)
      (.fd (.post .configEditEnter) false) (fun heq => nomatch heq) trivial)
      editPass trivial trivial) (.fd (.post .configEditApply) false) (fun heq => nomatch heq) trivial)
      (.fd (.post .configEditEnter) false) (fun heq => nomatch heq) trivial)
      (.timer 1) (List.mem_singleton_self 1) trivial) editPass trivial trivial)
      editPass trivial trivial) editPass trivial trivial)
      (some 1) 2 (by decide +kernel)
    cases hend
  · intro hclaim
    have hfirst := hclaim _ (.step (.step (.step (.step (.step (.step (.step (.step (.step (.step (.step
      (.start idleWatch_started) (.post .configEditEnter) rfl trivial)
      (.pass allWell false) rfl trivial) (.post .restartRequested) rfl trivial)
      (.pass allWell false) rfl trivial) (.post (.otaRequested 7)) rfl trivial)
      (.pass allWell false) rfl trivial) (.post .configEditCancel) rfl trivial)
      (.pass allWell false) rfl trivial) (.pass allWell false) rfl trivial)
      (.restartTimer 1) (List.mem_singleton_self 1) trivial) (.pass allWell false) rfl trivial)
      ⟨.restartTimeout, 4, some 1⟩ 1 (by decide +kernel) 1 1 ⟨.otaRequested 7, 2, none⟩
      (Nat.le_refl 1) (by decide +kernel) 4 (by decide +kernel)
    exact absurd hfirst (by decide)

end EnvMonitor
