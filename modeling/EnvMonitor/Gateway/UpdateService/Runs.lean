import EnvMonitor.Gateway.UpdateService.Download

/-!
# Runs of UpdateServiceTask

The rest of the pass, and what holds in every run among the other tasks.
-/

namespace EnvMonitor.Gateway.UpdateService

open Device Drivers FirmwareStore LifecycleController
open CloudPublisher.Published (UsChunkRequest)
open Program (Leads Together leads_bind leads_ite leads_perform leads_pure)

section

variable {crypto : OtaCrypto} {files : UInt32 -> List UInt8} {taken : Nat}
variable {φ : Fact crypto files} {w : World}

/-!
## Command intake
-/

/-- A command may be taken over while no update is under way. -/
abbrev vacant (boot : FirmwareBootState) : Fact crypto files :=
  notLoading.and (ownFact fun own => own.boot.state = boot)

theorem rest_of_notLoading (h : (@notLoading crypto files).holds w) :
    (@rest crypto files).holds w :=
  fun hdownloading => absurd (.inr hdownloading) h

theorem leads_awaitStart {cmd : UsOtaCommand} {target : FirmwareSlot} {size : UInt32} :
    Leads (within taken (@vacant crypto files .confirmed)) (awaitStart cmd target size)
      fun _ => within taken rest := by
  apply leads_bind (R := fun _ => within taken
    ((vacant .confirmed).and (ownFact fun own => own.cmd = cmd)))
  · exact leads_modify (fun _ _ h => ⟨rfl, rfl, id, fun _ hloading => absurd hloading h.1⟩)
      fun _ h => ⟨h, rfl⟩
  intro _
  apply leads_bind (leads_unchanging (c := .getTickCount) trivial)
  intro now
  have hdeadline : forall tick, Leads
      (within taken ((@vacant crypto files .confirmed).and (ownFact fun own => own.cmd = cmd)))
      (modifyOwn fun own => { own with startDeadline := tick })
      fun _ => within taken ((vacant .confirmed).and (ownFact fun own => own.cmd = cmd)) :=
    fun _ => leads_aside (fun _ => ⟨rfl, rfl, id, id⟩) fun _ h => h
  apply leads_bind (hdeadline _)
  intro _
  apply leads_bind (R := fun _ => within taken rest)
  · apply leads_update (χ := fun _ => rest)
    rintro w hall ⟨⟨_, hboot⟩, hcmd⟩
    have hjob : cmd.job = w.us.own.cmd.job := congrArg UsOtaCommand.job (Eq.symm hcmd)
    have hkeeps : Keeps (fun us =>
        { us with own := { us.own with activeJob := cmd.job }, state := .awaitingStart }) w.us :=
      ⟨rfl, rfl, id, fun _ _ => ⟨hboot, hjob⟩⟩
    exact ⟨hall.update hkeeps, fun h => (by cases h)⟩
  intro before
  apply leads_bind (leads_unchanging (c := .postEvent _) trivial)
  intro posted
  apply leads_ite
  · exact fun _ => leads_pure () fun _ h => h
  intro _
  apply leads_bind (R := fun _ => within taken rest)
  · exact leads_aside
      (fun _ => ⟨rfl, rfl, id, fun _ hloading => absurd hloading idle_not_loading⟩)
      fun _ _ h => (by cases h)
  intro _
  apply leads_bind (R := fun _ => within taken rest)
  · exact leads_aside (fun _ => ⟨rfl, rfl, id, id⟩) fun _ h => h
  exact fun _ => leads_report

theorem leads_processInbox :
    Leads (within taken (@rest crypto files)) processInbox fun _ => within taken rest := by
  apply leads_bind (R := fun r => within taken (rest.and (Fact.when (r.2 = .idle) notLoading)))
  · apply leads_perform
    · exact fun _ _ => trivial
    · rintro w w' _ ⟨call, _, _, hcall, _⟩
      cases hcall
    · rintro w r w' ⟨hall, hrest⟩ ⟨rfl, rfl⟩
      refine ⟨⟨hall.kept, hall.once, hall.waiting, hall.armed, hall.loading⟩, hrest, ?_⟩
      intro hidle hloading
      change w.us.state = .idle at hidle
      change Loading w.us.state at hloading
      rw [hidle] at hloading
      exact idle_not_loading hloading
  rintro ⟨cmd, state⟩
  apply leads_ite
  · exact fun _ => leads_of (fun _ _ h => h.1) leads_report
  intro hidle
  apply leads_bind (R := fun us => within taken (vacant us.own.boot.state))
  · exact leads_get (χ := fun us => vacant us.own.boot.state)
      fun _ _ h => ⟨h.2 (not_not.mp hidle), rfl⟩
  intro us
  apply leads_ite
  · exact fun _ => leads_of (fun _ _ h => rest_of_notLoading h.1) leads_report
  intro hcapable
  have hconfirmed : us.own.boot.state = .confirmed := by
    unfold notOtaCapable at hcapable
    simp only [Bool.or_eq_true, not_or] at hcapable
    exact of_decide_eq_false (Bool.eq_false_of_not_eq_true hcapable.1.2) |> not_not.mp
  rw [hconfirmed]
  apply leads_bind (leads_unchanging (c := .getState) trivial)
  intro lc
  apply leads_ite
  · exact fun _ => leads_of (fun _ _ h => rest_of_notLoading h.1) leads_report
  intro _
  apply leads_ite
  · exact fun _ => leads_of (fun _ _ h => rest_of_notLoading h.1) leads_report
  · exact fun _ => leads_awaitStart

/-!
## After the reset
-/

/-- What the boot was has been told, and no update is under way. -/
abbrev told (taken : Nat) : Fact crypto files :=
  notLoading.and (spent taken)

variable {p : Us Unit} {now : UInt32}

theorem leads_spend
    (h : Leads (within taken (@told crypto files taken)) p fun _ => within taken rest) :
    Leads (within (taken + 1) φ) p fun _ => within taken rest := by
  intro w hw
  have hall := hw.1
  have honce := hall.once
  have hstarting : w.starting = false := by
    cases hs : w.starting with
    | false => rfl
    | true =>
        rw [hs] at honce
        change 1 + _ + _ ≤ 1 at honce
        omega
  have htrial := hall.waiting (by omega)
  refine h w ⟨⟨hall.kept, by omega, fun _ => htrial, ?_, hall.loading⟩, ?_, hstarting, by omega⟩
  · exact fun harmed => ⟨hstarting, by omega⟩
  · exact fun hloading => htrial (hall.loading hloading).1

theorem leads_refreshBoot :
    Leads (within taken (@told crypto files taken)) refreshBoot
      fun _ => within taken (told taken) := by
  apply leads_bind (leads_unchanging (c := .getBootInfo) trivial)
  intro info
  apply leads_modifyAll
  rintro w hall ⟨hnot, hspent⟩
  refine ⟨⟨hall.kept, hall.once, ?_, hall.armed, fun hloading => absurd hloading hnot⟩,
    hnot, hspent⟩
  intro hwaiting
  have hzero : w.bootBits + taken = 0 := hspent.2
  change 0 < w.bootBits + taken at hwaiting
  omega

theorem leads_selfCheckPass :
    Leads (within taken (@told crypto files taken)) selfCheckPass
      fun _ => within taken rest := by
  apply leads_bind (R := fun _ => within taken (told taken))
  · exact leads_aside (fun _ => ⟨rfl, rfl, fun h => (by cases h), id⟩) fun _ h => h
  intro _
  apply leads_bind (R := fun _ => within taken (told taken))
  · exact leads_anyhow (fun _ _ _ h => h) (fun _ _ => trivial)
      fun _ _ hkept _ => wp_confirm hkept.stage hkept.inv
  rintro ⟨confirmed, _⟩
  apply leads_ite
  · intro _
    apply leads_of _ (leads_postEventRetrying (φ := rest) fun _ _ _ _ h => h)
    exact fun _ _ h => rest_of_notLoading h.1
  intro _
  apply leads_bind leads_refreshBoot
  intro _
  apply leads_bind leads_report
  intro _
  apply leads_bind (leads_discard fun _ _ _ h => h)
  intro _
  apply leads_bind (leads_postEventRetrying fun _ _ _ _ h => h)
  exact fun _ => leads_leave idle_not_loading

theorem leads_selfCheckPoll :
    Leads (within taken (@told crypto files taken)) (selfCheckPoll now)
      fun _ => within taken rest := by
  apply leads_bind (leads_unchanging (c := .sensorsReady) trivial)
  intro sensors
  apply leads_bind (leads_unchanging (c := .modbusReady) trivial)
  intro modbus
  apply leads_bind (leads_unchanging (c := .isConnected) trivial)
  intro cloud
  apply leads_ite
  · exact fun _ => leads_selfCheckPass
  intro _
  apply leads_bind (R := fun _ => within taken rest)
  · exact leads_get (χ := fun _ => rest) fun _ _ h => rest_of_notLoading h.1
  intro us
  apply leads_ite
  · intro _
    apply leads_bind (R := fun _ => within taken rest)
    · exact leads_aside (fun _ => ⟨rfl, rfl, fun h => (by cases h), id⟩) fun _ h => h
    exact fun _ => leads_postEventRetrying fun _ _ _ _ h => h
  · intro _
    generalize now + usSelfCheckPollMs = tick
    exact leads_aside (fun _ => ⟨rfl, rfl, id, id⟩) fun _ h => h

theorem leads_startSelfCheck :
    Leads (within (taken + 1) (@rest crypto files)) startSelfCheck
      fun _ => within taken rest := by
  apply leads_spend
  apply leads_bind (leads_unchanging (c := .getTickCount) trivial)
  intro now
  have harm : forall tick, Leads (within taken (@told crypto files taken))
      (modify fun us =>
        { us with checkArmed := true, own := { us.own with checkDeadline := tick } })
      fun _ => within taken (told taken) := by
    intro tick
    apply leads_modifyAll
    rintro w hall ⟨hnot, hspent⟩
    exact ⟨⟨hall.kept, hall.once, hall.waiting, fun _ => hspent, hall.loading⟩, hnot, hspent⟩
  exact leads_bind (harm _) fun _ => leads_selfCheckPoll

theorem leads_afterRollback :
    Leads (within (taken + 1) (@rest crypto files)) afterRollback
      fun _ => within taken rest := by
  apply leads_spend
  apply leads_bind leads_report
  intro _
  apply leads_bind (R := fun _ => within taken (told taken))
  · exact leads_anyhow (fun _ _ _ h => h) (fun _ _ => trivial)
      fun _ _ hkept _ => wp_acknowledge hkept.stage hkept.inv
  intro _
  apply leads_bind (leads_discard fun _ _ _ h => h)
  intro _
  apply leads_bind leads_refreshBoot
  exact fun _ => leads_leave idle_not_loading

/-!
## Deadlines and the pass
-/

theorem leads_checkRequestDeadline :
    Leads (within taken (@download crypto files)) (checkRequestDeadline now)
      fun _ => within taken rest := by
  apply leads_bind (leads_get (χ := fun _ => download) fun _ _ h => h)
  intro us
  apply leads_ite
  · intro _
    apply leads_bind (leads_unchanging (c := .isConnected) trivial)
    intro connected
    apply leads_ite
    · exact fun _ => leads_of (fun _ _ h => h.1) leads_pauseDownload
    intro _
    apply leads_bind (R := fun _ => within taken staging)
    · exact leads_aside (fun _ => ⟨rfl, rfl, id, id⟩) fun _ h => h.1
    intro _
    apply leads_bind (leads_get (χ := fun _ => staging) fun _ _ h => h)
    intro us
    exact leads_ite (fun _ => leads_fail) fun _ => leads_request
  · exact fun _ => leads_done fun _ _ h _ => h

theorem leads_checkDownloadDeadlines :
    Leads (within taken (@download crypto files)) (checkDownloadDeadlines now)
      fun _ => within taken rest := by
  apply leads_bind (leads_get (χ := fun _ => download) fun _ _ h => h)
  intro us
  apply leads_ite
  · exact fun _ => leads_fail
  intro _
  apply leads_ite
  · intro _
    apply leads_ite
    · intro _
      apply leads_bind (leads_unchanging (c := .isConnected) trivial)
      intro connected
      apply leads_ite
      · intro _
        apply leads_bind (R := fun _ => within taken staging)
        · exact leads_aside (fun _ => ⟨rfl, rfl, id, id⟩) fun _ h => h.1
        exact fun _ => leads_request
      · intro _
        generalize now + usSelfCheckPollMs = tick
        exact leads_aside (fun _ => ⟨rfl, rfl, id, id⟩) fun _ h _ => h
    · exact fun _ => leads_done fun _ _ h _ => h
  · exact fun _ => leads_checkRequestDeadline

theorem leads_checkEventRetry :
    Leads (within taken (@rest crypto files)) (checkEventRetry now)
      fun _ => within taken rest := by
  apply leads_bind (leads_get (χ := fun _ => rest) fun _ _ h => h)
  intro us
  apply leads_ite
  · intro _
    apply leads_bind (leads_unchanging (c := .postEvent _) trivial)
    intro posted
    apply leads_ite
    · exact fun _ => leads_aside (fun _ => ⟨rfl, rfl, id, id⟩) fun _ h => h
    · intro _
      generalize now + usEventRetryMs = tick
      exact leads_aside (fun _ => ⟨rfl, rfl, id, id⟩) fun _ h => h
  · exact fun _ => leads_pure () fun _ h => h

theorem leads_startTimedOut :
    Leads (within taken φ) startTimedOut fun _ => within taken rest := by
  apply leads_bind (R := fun _ => within taken nothing)
  · exact leads_aside (fun _ => ⟨rfl, rfl, id, id⟩) fun _ _ => trivial
  intro _
  apply leads_bind (leads_get (χ := fun _ => nothing) fun _ _ h => h)
  intro us
  apply leads_bind leads_report
  exact fun _ => leads_leave idle_not_loading

/-- What the task found out by reading the state under the lock. -/
abbrev sawState (state : UsState) : Fact crypto files :=
  rest.and ((Fact.when (state = .downloading) download).and
    (Fact.when (state = .selfChecking) notLoading))

theorem leads_checkStateDeadline {state : UsState} :
    Leads (within taken (@sawState crypto files state)) (checkStateDeadline now state)
      fun _ => within taken rest := by
  apply leads_bind (R := fun us => within taken
    ((sawState state).and (Fact.when (us.checkArmed = true) (spent taken))))
  · exact leads_get
      (χ := fun us => (sawState state).and (Fact.when (us.checkArmed = true) (spent taken)))
      fun _ hall h => ⟨h, hall.armed⟩
  intro us
  apply leads_ite
  · exact fun _ => leads_startTimedOut
  intro _
  apply leads_ite
  · exact fun h => leads_of (fun _ _ hw => hw.1.2.1 h) leads_checkDownloadDeadlines
  intro _
  apply leads_ite
  · rintro ⟨hchecking, harmed, _⟩
    apply leads_of _ leads_selfCheckPoll
    exact fun _ _ hw => ⟨hw.1.2.2 hchecking, hw.2 harmed⟩
  · exact fun _ => leads_done fun _ _ h => h.1.1

theorem leads_checkDeadlines :
    Leads (within taken (@rest crypto files)) checkDeadlines fun _ => within taken rest := by
  apply leads_bind (leads_unchanging (c := .getTickCount) trivial)
  intro now
  apply leads_bind (R := fun us => within taken (sawState us.state))
  · apply leads_get (χ := fun us => sawState us.state)
    intro w _ h
    refine ⟨h, h, fun hchecking hloading => ?_⟩
    rw [hchecking] at hloading
    rcases hloading with hstate | hstate <;> cases hstate
  intro us
  exact leads_bind leads_checkStateDeadline fun _ => leads_checkEventRetry

theorem leads_bit {bit : Bool} {n k : Nat} {q : Us Unit}
    (hp : bit = true -> Leads (within (n + k) (@rest crypto files)) p fun _ => within n rest)
    (hk : bit = false -> k = 0)
    (hq : Leads (within n (@rest crypto files)) q fun _ => within 0 rest) :
    Leads (within (n + k) (@rest crypto files)) (if bit = true then p >>= fun _ => q else q)
      fun _ => within 0 rest := by
  cases bit with
  | true => exact leads_bind (hp rfl) fun _ => hq
  | false =>
      rw [hk rfl]
      exact hq

theorem leads_usTaskPass :
    Leads (within 0 (@rest crypto files)) usTaskPass fun _ => within 0 rest := by
  apply leads_bind (R := fun bits =>
    within (bits.afterRollback.toNat + bits.selfCheck.toNat) rest)
  · apply leads_perform
    · exact fun _ _ => trivial
    · rintro w w' _ ⟨call, _, _, hcall, _⟩
      cases hcall
    · rintro w r w' ⟨hall, hrest⟩ ⟨rfl, rfl⟩
      have hbits : World.bootBits { w with us := { w.us with pending := Notices.none } } +
          (w.us.pending.afterRollback.toNat + w.us.pending.selfCheck.toNat) = w.bootBits := by
        change w.notifying.selfCheck.toNat + 0 + (w.notifying.afterRollback.toNat + 0) + _ = _
        unfold World.bootBits
        omega
      refine ⟨⟨hall.kept, ?_, ?_, ?_, hall.loading⟩, hrest⟩
      · rw [Nat.add_assoc, hbits]
        exact hall.once
      · rw [hbits]
        exact hall.waiting
      · rw [hbits]
        exact hall.armed
  rintro ⟨command, start, chunk, selfCheck, rolledBack⟩
  apply leads_bit (k := 0) (fun _ => leads_processInbox) fun _ => rfl
  apply leads_bit (k := 0) (fun _ => leads_beginDownload) fun _ => rfl
  apply leads_bit (k := 0) (fun _ => leads_onChunkReady) fun _ => rfl
  apply leads_bit (k := selfCheck.toNat)
  · intro h
    subst h
    exact leads_startSelfCheck
  · intro h
    subst h
    rfl
  rw [← Nat.zero_add rolledBack.toNat]
  apply leads_bit
  · intro h
    subst h
    exact leads_afterRollback
  · intro h
    subst h
    rfl
  exact leads_checkDeadlines

/-!
## Every run
-/

theorem boot_rest {w' : World} (h : JournalSound files w.flash) (hboot : UsBoot w w') :
    (within 0 (@rest crypto files)).holds w' := by
  cases hboot with
  | boot hexec =>
      rename_i F bank bank' base fs
      rcases Program.wp_returns (reads_firmwareStoreCreate F bank base) hexec with
        ⟨_, hfs | ⟨hnone, _⟩⟩
      · cases hfs
        refine ⟨⟨⟨StageInv.of_idle h fun hop => (by cases hop), createdStore_inv bank base⟩,
          Nat.le_refl 1, ?_, ?_, ?_⟩, fun hdownloading => (by cases hdownloading)⟩
        · exact fun hwaiting => absurd hwaiting (Nat.lt_irrefl 0)
        · exact fun harmed => (by cases harmed)
        · exact fun hloading => absurd hloading idle_not_loading
      · cases hnone

variable {w₀ : World} {p : Us Unit}

theorem run_met (hsound : JournalSound files w₀.flash)
    (h : Together (usSurroundings crypto files) usTaskPass w₀ w p) :
    StageInv files w.fs w.flash ∧ forall op k, p = .call op k -> Allowed files w op := by
  have hmet := Together.met (P := within 0 rest) hsound
    (fun _ _ hlasting hboot => boot_rest hlasting hboot) leads_usTaskPass h
  exact ⟨hmet.1, hmet.2.1⟩

/-- Whatever the other tasks do in between, whatever fails and whenever power is lost: the task
asks for exactly the bytes that the store expects next. -/
theorem every_request_is_next {req : UsChunkRequest} {k : Bool -> Us Unit}
    (hsound : JournalSound files w₀.flash)
    (h : Together (usSurroundings crypto files) usTaskPass w₀ w (.call (.requestChunk req) k)) :
    NextPiece w.fs req :=
  (run_met hsound h).2 _ _ rfl

/-- The task makes each call of the store when the store is ready for it: a chunk goes where the
store writes next and is that part of the file, the file is whole when it is verified, and only a
verified image is installed, and only an installed one activated. -/
theorem every_store_call_in_order {call : FsCall} {k : FsAnswer × FirmwareSlot -> Us Unit}
    (hsound : JournalSound files w₀.flash)
    (h : Together (usSurroundings crypto files) usTaskPass w₀ w (.call (.store call) k)) :
    InOrder files w.fs w.flash call :=
  (run_met hsound h).2 _ _ rfl

/-- What a session is trusted for is always staged: while it receives, all of its file up to the
write offset, and after a reset all of it up to the checkpoint that a scan finds. -/
theorem staging_holds_the_file (hsound : JournalSound files w₀.flash)
    (h : Together (usSurroundings crypto files) usTaskPass w₀ w p) :
    JournalSound files w.flash ∧ (w.fs.op = .receiving -> w.fs.writeOffset ≤ w.fs.fileLen ∧
      StagedPrefix (files w.fs.imageId) w.flash w.fs.writeOffset) := by
  have hstage := (run_met hsound h).1
  refine ⟨hstage.sound, fun hop => ?_⟩
  have hcontinuing := hstage.continuing hop
  exact ⟨hcontinuing.inside, hcontinuing.ready.under.staged⟩

end

/-!
## A short download
-/

/-- What is answered when nothing goes wrong, all at one tick. -/
def usAnswer (crypto : OtaCrypto) (w : World) : (op : UsOp) -> UsResp op × World
  | .update f => (w.us, { w with us := f w.us })
  | .takePending => (w.us.pending, { w with us := { w.us with pending := Notices.none } })
  | .takeInbox => ((w.us.inbox, w.us.state), { w with us := { w.us with inboxFull := false } })
  | .getTickCount => (0, w)
  | .delay _ => ((), w)
  | .isConnected => (true, w)
  | .requestChunk _ => (true, w)
  | .report _ _ => (true, w)
  | .postEvent _ => (true, w)
  | .getState => (.operational, w)
  | .store call =>
      let out := (fsPerform crypto w.fs call).eval storeDevice w.stores
      ((out.1.1, out.1.2.targetSlot), w.called out.1.2 out.2)
  | .getBootInfo => (w.fs.boot, w)
  | .sensorsReady => (true, w)
  | .modbusReady => (true, w)

theorem usEffect_answer (crypto : OtaCrypto) (w : World) (op : UsOp) :
    usEffect crypto w op (usAnswer crypto w op).1 (usAnswer crypto w op).2 := by
  cases op with
  | store call =>
      exact ⟨Faults.never storeIo, _, _,
        Program.exec_eval storeDevice (Faults.never storeIo) _ _, rfl, rfl⟩
  | update | takePending | takeInbox | getBootInfo => exact ⟨rfl, rfl⟩
  | _ => rfl

/-- The next calls of the task, as long as they are of no interest. -/
def follow (crypto : OtaCrypto) (stop : UsOp -> Bool) : Nat -> World × Us Unit -> World × Us Unit
  | n + 1, (w, .call op k) =>
      if stop op then (w, .call op k)
      else follow crypto stop n ((usAnswer crypto w op).2, k (usAnswer crypto w op).1)
  | _, s => s

theorem together_follow {crypto : OtaCrypto} {files : UInt32 -> List UInt8} {w₀ : World}
    {stop : UsOp -> Bool} (n : Nat) {s : World × Us Unit}
    (h : Together (usSurroundings crypto files) usTaskPass w₀ s.1 s.2) :
    Together (usSurroundings crypto files) usTaskPass w₀ (follow crypto stop n s).1
      (follow crypto stop n s).2 := by
  induction n generalizing s with
  | zero => exact h
  | succ n ih =>
      rcases s with ⟨w, p⟩
      cases p with
      | ret u => exact h
      | call op k =>
          unfold UpdateService.follow
          split
          · exact h
          · exact ih (.call h (usEffect_answer crypto w op))

def ended : Us Unit -> Bool
  | .ret _ => true
  | .call _ _ => false

def nextIs (stop : UsOp -> Bool) : Us Unit -> Bool
  | .ret _ => false
  | .call op _ => stop op

def isRequest : UsOp -> Bool
  | .requestChunk _ => true
  | _ => false

def isWrite : UsOp -> Bool
  | .store (.writeChunk _ _) => true
  | _ => false

abbrev allNotices : Notices := ⟨true, true, true, true, true⟩

/-- A confirmed device after a boot, with nothing staged. -/
def booted : World :=
  createdWorld idleDevice.1 (fun _ => erasedByte) idleDevice.2

/-- It is handed a command, for a file of one page. -/
def commanded : World :=
  (booted.commanded ⟨1, 129, 129⟩).notified allNotices

def awaiting : World × Us Unit :=
  follow openCrypto (fun _ => false) 60 (commanded, usTaskPass)

def requesting : World × Us Unit :=
  follow openCrypto isRequest 60 (awaiting.1.starts.notified allNotices, usTaskPass)

def requested : World × Us Unit :=
  follow openCrypto (fun _ => false) 60 requesting

def writing : World × Us Unit :=
  follow openCrypto isWrite 60 ((requested.1.answered 129 shortFile).notified allNotices, usTaskPass)

theorem short_download :
    (ended awaiting.2 = true ∧ awaiting.1.us.state = .awaitingStart) ∧
      nextIs isRequest requesting.2 = true ∧
      (ended requested.2 = true ∧ requested.1.us.slotState = .expecting ∧
        1 = requested.1.us.own.activeJob ∧ 0 = requested.1.us.own.expOffset ∧
          129 = requested.1.us.own.expLen) ∧
      nextIs isWrite writing.2 = true := by
  decide +kernel

abbrev ShortRun : World -> Us Unit -> Prop :=
  Together (usSurroundings openCrypto fun _ => shortFile) usTaskPass booted

theorem again_of_ended {w : World} {p : Us Unit} (h : ShortRun w p) (hend : ended p = true) :
    ShortRun w usTaskPass := by
  cases p with
  | ret u => exact .again h
  | call op k => cases hend

theorem run_commanded : ShortRun commanded usTaskPass := by
  have hboot : UsBoot booted booted := .boot (F := Faults.never iflash) (Program.exec_of_eval
    (reads_firmwareStoreCreate (Faults.never iflash) idleDevice.2 firmwareSlotABase).eval_eq)
  exact .others (.others (.start hboot) (.handleCommand _ rfl)) (.notify _)

theorem run_requesting : ShortRun requesting.1 requesting.2 := by
  rcases short_download.1 with ⟨hend, hstate⟩
  have hawaiting := again_of_ended (together_follow 60 run_commanded) hend
  exact together_follow 60 (.others (.others hawaiting (.start hstate)) (.notify _))

theorem run_writing : ShortRun writing.1 writing.2 := by
  rcases short_download.2.2.1 with ⟨hend, hexpecting, hjob, hoffset, hlen⟩
  have hrequested := again_of_ended (together_follow 60 run_requesting) hend
  have hwhole : shortFile = (shortFile.drop (0 : UInt32).toNat).take shortFile.length := by
    change shortFile = (shortFile.drop 0).take shortFile.length
    rw [List.drop_zero, List.take_length]
  have hchunk : OthersStep openCrypto (fun _ => shortFile) requested.1
      (requested.1.answered 129 shortFile) :=
    .onChunk shortFile_length (by decide) (by decide) hwhole hexpecting hjob hoffset hlen
  exact together_follow 60 (.others (.others hrequested hchunk) (.notify _))

theorem booted_sound : JournalSound (fun _ => shortFile) booted.flash :=
  fun _ _ hsession => absurd hsession (not_sessionAt_of_erased rfl)

theorem every_request_is_next_short : exists w req k,
    ShortRun w (.call (.requestChunk req) k) ∧ NextPiece w.fs req := by
  have hrun := run_requesting
  have hnext := short_download.2.1
  generalize requesting = s at hrun hnext
  rcases s with ⟨w, p⟩
  cases p with
  | ret u => cases hnext
  | call op k =>
      cases op with
      | requestChunk req => exact ⟨w, req, k, hrun, every_request_is_next booted_sound hrun⟩
      | _ => cases hnext

theorem every_store_call_in_order_short : exists w offset data k,
    ShortRun w (.call (.store (.writeChunk offset data)) k) ∧
      InOrder (fun _ => shortFile) w.fs w.flash (.writeChunk offset data) := by
  have hrun := run_writing
  have hnext := short_download.2.2.2
  generalize writing = s at hrun hnext
  rcases s with ⟨w, p⟩
  cases p with
  | ret u => cases hnext
  | call op k =>
      cases op with
      | store call =>
          cases call with
          | writeChunk offset data =>
              exact ⟨w, offset, data, k, hrun, every_store_call_in_order booted_sound hrun⟩
          | _ => cases hnext
      | _ => cases hnext

theorem staging_holds_the_file_short :
    JournalSound (fun _ => shortFile) writing.1.flash ∧
      (writing.1.fs.op = .receiving -> writing.1.fs.writeOffset ≤ writing.1.fs.fileLen ∧
        StagedPrefix shortFile writing.1.flash writing.1.fs.writeOffset) :=
  staging_holds_the_file booted_sound run_writing

end EnvMonitor.Gateway.UpdateService
