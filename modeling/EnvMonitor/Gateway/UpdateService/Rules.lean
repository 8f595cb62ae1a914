import EnvMonitor.Gateway.UpdateService.Invariant

/-!
# Rules for the calls of UpdateServiceTask

One rule for each kind of call: a piece of work on the instance, a call that changes nothing here,
and a call of the store.
-/

namespace EnvMonitor.Gateway.UpdateService

open Device Drivers FirmwareStore LifecycleController
open CloudPublisher.Published (UsOtaReport UsReason UsResult)
open Program (Leads leads_bind leads_ite leads_perform leads_pure)

section

variable {crypto : OtaCrypto} {files : UInt32 -> List UInt8} {taken next : Nat}
variable {φ ψ : Fact crypto files} {w : World}

theorem leads_of {α : Type} {p : Us α} {Q : α -> Program.Assertion (usSurroundings crypto files)
    (usDemand files)} (h : forall w, Always files taken w -> φ.holds w -> ψ.holds w)
    (hp : Leads (within taken ψ) p Q) : Leads (within taken φ) p Q :=
  fun w hw => hp w ⟨hw.1, h w hw.1 hw.2⟩

theorem leads_done (h : forall w, Always files taken w -> φ.holds w -> ψ.holds w) :
    Leads (within taken φ) (pure ()) fun _ => within taken ψ :=
  leads_pure () fun w hw => ⟨hw.1, h w hw.1 hw.2⟩

/-!
## Work on the instance
-/

/-- What the invariant is about stays as it is, or is as it should be. -/
structure Keeps (f : UsInst -> UsInst) (us : UsInst) : Prop where
  boot : (f us).own.boot = us.own.boot
  pending : (f us).pending = us.pending
  armed : (f us).checkArmed = true -> us.checkArmed = true
  loading : (Loading us.state -> Ready us.own) -> Loading (f us).state ->
    (f us).own.boot.state = .confirmed ∧ (f us).own.activeJob = (f us).own.cmd.job

theorem Always.update {f : UsInst -> UsInst} (h : Always files taken w)
    (hkeeps : Keeps f w.us) : Always files taken { w with us := f w.us } := by
  have hbits : World.bootBits { w with us := f w.us } = w.bootBits := by
    unfold World.bootBits
    rw [hkeeps.pending]
  constructor
  · exact h.kept
  · rw [hbits]
    exact h.once
  · rw [hbits]
    change _ -> (f w.us).own.boot.state ≠ _
    rw [hkeeps.boot]
    exact h.waiting
  · rw [hbits]
    exact fun harmed => h.armed (hkeeps.armed harmed)
  · exact hkeeps.loading h.loading

theorem leads_update {f : UsInst -> UsInst} {χ : UsInst -> Fact crypto files}
    (h : forall w, Always files taken w -> φ.holds w ->
      Always files next { w with us := f w.us } ∧ (χ w.us).holds { w with us := f w.us }) :
    Leads (within taken φ) (Program.perform (I := usCalls) (.update f))
      fun us => within next (χ us) := by
  apply leads_perform
  · exact fun _ _ => trivial
  · rintro w w' _ ⟨call, _, _, hcall, _⟩
    cases hcall
  · rintro w r w' ⟨hall, hφ⟩ ⟨rfl, rfl⟩
    exact h w hall hφ

theorem leads_get {χ : UsInst -> Fact crypto files}
    (h : forall w, Always files taken w -> φ.holds w -> (χ w.us).holds w) :
    Leads (within taken φ) get fun us => within taken (χ us) :=
  leads_update fun w hall hφ => ⟨hall, h w hall hφ⟩

theorem leads_modifyAll {f : UsInst -> UsInst}
    (h : forall w, Always files taken w -> φ.holds w ->
      Always files next { w with us := f w.us } ∧ ψ.holds { w with us := f w.us }) :
    Leads (within taken φ) (modify f) fun _ => within next ψ :=
  leads_bind (leads_update (χ := fun _ => ψ) h) fun _ => leads_pure () fun _ h => h

theorem leads_modify {f : UsInst -> UsInst}
    (hkeeps : forall w, Always files taken w -> φ.holds w -> Keeps f w.us)
    (h : forall w, φ.holds w -> ψ.holds { w with us := f w.us }) :
    Leads (within taken φ) (modify f) fun _ => within taken ψ :=
  leads_modifyAll fun w hall hφ => ⟨hall.update (hkeeps w hall hφ), h w hφ⟩

theorem leads_aside {f : UsInst -> UsInst} (hkeeps : forall us, Keeps f us)
    (h : forall w, φ.holds w -> ψ.holds { w with us := f w.us }) :
    Leads (within taken φ) (modify f) fun _ => within taken ψ :=
  leads_modify (fun w _ _ => hkeeps w.us) h

/-!
## Calls that change nothing here
-/

/-- A call that leaves the world as it is. -/
def Unchanging : UsOp -> Prop
  | .getTickCount | .delay _ | .isConnected | .report _ _ | .postEvent _ | .getState
  | .getBootInfo | .sensorsReady | .modbusReady => True
  | _ => False

theorem leads_unchanging {c : UsOp} (h : Unchanging c) :
    Leads (within taken φ) (Program.perform (I := usCalls) c) fun _ => within taken φ := by
  have hsame : forall (w : World) r w', usEffect crypto w c r w' -> w' = w := by
    intro w r w' heffect
    cases c with
    | getBootInfo => exact heffect.2
    | update | takePending | takeInbox | requestChunk | store => exact h.elim
    | _ => exact heffect
  apply leads_perform
  · intro w _
    cases c with
    | store | requestChunk => exact h.elim
    | _ => exact trivial
  · rintro w w' _ ⟨call, _, _, hcall, _⟩
    subst hcall
    exact h.elim
  · intro w r w' hφ heffect
    rw [hsame w r w' heffect]
    exact hφ

theorem leads_reportAttempts (rep : UsOtaReport) (left attempt : Nat) :
    Leads (within taken φ) (reportAttempts rep left attempt) fun _ => within taken φ := by
  induction left generalizing attempt with
  | zero => exact leads_pure () fun _ h => h
  | succ left ih =>
      apply leads_bind (leads_unchanging (c := .report rep attempt) trivial)
      intro sent
      apply leads_ite
      · exact fun _ => leads_pure () fun _ h => h
      · exact fun _ => leads_bind (leads_unchanging (c := .delay _) trivial) fun _ => ih _

theorem leads_report {result : UsResult} {reason : UsReason} {job : Option UInt32} :
    Leads (within taken φ) (report result reason job) fun _ => within taken φ :=
  leads_bind (leads_get (χ := fun _ => φ) fun _ _ h => h) fun _ => leads_reportAttempts _ _ _

/-- The event that is to be posted again plays no part. -/
def Fact.IgnoresRetry (φ : Fact crypto files) : Prop :=
  forall (w : World) armed event tick, φ.holds w -> φ.holds
    { w with
      us :=
        { w.us with
          own :=
            { w.us.own with
              eventRetryArmed := armed, eventRetryType := event, eventRetryAt := tick } } }

theorem leads_postEventRetrying {event : LifecycleEvent} (hφ : φ.IgnoresRetry) :
    Leads (within taken φ) (postEventRetrying event) fun _ => within taken φ := by
  apply leads_bind (leads_unchanging (c := .postEvent event) trivial)
  intro posted
  apply leads_ite
  · intro _
    exact leads_aside (fun _ => ⟨rfl, rfl, id, id⟩)
      fun w h => hφ w false w.us.own.eventRetryType w.us.own.eventRetryAt h
  · intro _
    apply leads_bind (R := fun _ => within taken φ)
    · exact leads_aside (fun _ => ⟨rfl, rfl, id, id⟩)
        fun w h => hφ w true event w.us.own.eventRetryAt h
    · intro _
      apply leads_bind (leads_unchanging (c := .getTickCount) trivial)
      intro now
      exact leads_aside (fun _ => ⟨rfl, rfl, id, id⟩)
        fun w h => hφ w w.us.own.eventRetryArmed w.us.own.eventRetryType (now + usEventRetryMs) h

/-!
## The store
-/

theorem leads_store {call : FsCall} {χ : FsAnswer × FirmwareSlot -> Fact crypto files}
    (horder : forall w, φ.holds w -> InOrder files w.fs w.flash call)
    (h : forall (F : Faults storeIo) w, StageKept files w.fs w.flash -> φ.holds w ->
      (fsPerform crypto w.fs call).wp storeDevice F
        (fun out s => StageKept files out.2 s.2.1 ∧
          (χ (out.1, out.2.targetSlot)).holds (w.called out.2 s))
        (fun s => JournalSound files s.2.1) w.stores) :
    Leads (within taken φ) (store call) fun r => within taken (χ r) := by
  apply leads_perform
  · exact fun w hw => horder w hw.2
  · rintro w w' hw ⟨call', F, s, hsame, hexec, rfl⟩
    cases hsame
    exact Program.wp_crash (h F w hw.1.kept hw.2) hexec
  · rintro w r w' ⟨hall, hφ⟩ ⟨F, fs, s, hexec, hslot, rfl⟩
    rcases Program.wp_returns (h F w hall.kept hφ) hexec with ⟨hkept, hχ⟩
    have hr : r = (r.1, fs.targetSlot) := Prod.ext rfl hslot
    rw [hr]
    exact ⟨⟨hkept, hall.once, hall.waiting, hall.armed, hall.loading⟩, hχ⟩

theorem leads_anyhow {call : FsCall} (hφ : forall w fs s, φ.holds w -> φ.holds (w.called fs s))
    (horder : forall w, φ.holds w -> InOrder files w.fs w.flash call)
    (h : forall (F : Faults storeIo) (w : World), StageKept files w.fs w.flash ->
      φ.holds w -> (fsPerform crypto w.fs call).wp storeDevice F
        (fun out s => StageKept files out.2 s.2.1) (fun s => JournalSound files s.2.1) w.stores) :
    Leads (within taken φ) (store call) fun _ => within taken φ :=
  leads_store horder fun F w hkept hholds =>
    Program.wp_mono (fun _ _ hout => ⟨hout, hφ w _ _ hholds⟩) (fun _ hlost => hlost)
      (h F w hkept hholds)

end

end EnvMonitor.Gateway.UpdateService
