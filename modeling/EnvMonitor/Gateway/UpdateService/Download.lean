import EnvMonitor.Gateway.UpdateService.Rules

/-!
# Download, validation and installation

Each function leads from what its callers know to what holds between two passes.
-/

namespace EnvMonitor.Gateway.UpdateService

open Device Drivers FirmwareStore LifecycleController
open CloudPublisher.Published (UsChunkRequest UsReason)
open Program (Leads leads_bind leads_ite leads_perform leads_pure)
open Program (wp_mono)

section

variable {crypto : OtaCrypto} {files : UInt32 -> List UInt8} {taken : Nat}
variable {φ : Fact crypto files} {w : World}

/-!
## The end of an update
-/

theorem leads_leave {state : UsState} (hstate : ¬ Loading state) :
    Leads (within taken φ) (setState state) fun _ => within taken rest :=
  leads_aside (fun _ => ⟨rfl, rfl, id, fun _ hloading => absurd hloading hstate⟩)
    fun _ _ hdownloading => absurd (.inr hdownloading) hstate

theorem idle_not_loading : ¬ Loading .idle := fun h => by rcases h with h | h <;> cases h

theorem leads_discard (hφ : forall w fs s, φ.holds w -> φ.holds (w.called fs s)) :
    Leads (within taken φ) (store .discard) fun _ => within taken φ :=
  leads_anyhow hφ (fun _ _ => trivial) fun _ _ hkept _ =>
    wp_mono (fun _ _ h => h.toStageKept) (fun _ h => h) (wp_discard hkept.stage hkept.inv)

theorem leads_fail {reason : UsReason} :
    Leads (within taken φ) (fail reason) fun _ => within taken rest := by
  apply leads_of (ψ := nothing) fun _ _ _ => trivial
  apply leads_bind (leads_discard fun _ _ _ h => h)
  intro _
  apply leads_bind (leads_get (χ := fun _ => nothing) fun _ _ h => h)
  intro us
  apply leads_bind leads_report
  intro _
  apply leads_bind (leads_postEventRetrying fun _ _ _ _ h => h)
  intro _
  apply leads_bind (R := fun _ => within taken nothing)
  · exact leads_aside (fun _ => ⟨rfl, rfl, id, id⟩) fun _ h => h
  intro _
  apply leads_bind (R := fun _ => within taken nothing)
  · exact leads_aside (fun _ => ⟨rfl, rfl, id, id⟩) fun _ h => h
  intro _
  exact leads_leave idle_not_loading

/-!
## Validation, installation, activation
-/

/-- One fact after OK, another after any other answer. -/
abbrev onResult (rc : FirmwareStoreErr) (good bad : Fact crypto files) : Fact crypto files :=
  (Fact.when (rc = .ok) good).and (Fact.when (rc ≠ .ok) bad)

variable {rc : FirmwareStoreErr} {own : UsOwn} {flash : Memory} {fs : FsInst} {job len : UInt32}
variable {M : UsOwn -> Prop} {us : UsInst}

theorem leads_result {α : Type} {good bad : Fact crypto files} {p q : Us α}
    {Q : α -> Program.Assertion (usSurroundings crypto files) (usDemand files)}
    (hbad : Leads (within taken bad) p Q) (hgood : Leads (within taken good) q Q) :
    Leads (within taken (onResult rc good bad)) (if rc ≠ .ok then p else q) Q :=
  leads_ite (fun h => leads_of (fun _ _ hw => hw.2 h) hbad)
    fun h => leads_of (fun _ _ hw => hw.1 (not_not.mp h)) hgood

abbrev received : Fact crypto files :=
  stored fun _ fs flash => fs.op = .received ∧ WholeStaged files fs flash

abbrev reached (op : FsOpState) : Fact crypto files :=
  stored fun _ fs _ => fs.op = op

/-- So many pages are left at most. -/
abbrev installing (pages : Nat) : Fact crypto files :=
  stored fun _ fs _ =>
    fs.op = .installing ∧ fs.imageLen ≤ (fs.installPage + pages) * fsPageBytes

theorem leads_verify :
    Leads (within taken (@received crypto files)) (store .verify)
      fun r => within taken (onResult r.1.err (reached .verified) received) := by
  apply leads_store (χ := fun r => onResult r.1.err (reached .verified) received)
  · exact fun _ h => h.2
  · rintro F w hkept ⟨hconfirmed, hreceived⟩
    apply wp_mono _ (fun _ h => h) (wp_verify hkept.stage hkept.inv)
    rintro out s ⟨hsettled, hbad, hok⟩
    refine ⟨hsettled.toStageKept, fun h => ⟨hsettled.confirmed hconfirmed, hok h⟩,
      fun h => ⟨hsettled.confirmed hconfirmed, ?_⟩⟩
    rcases hbad h with ⟨hfs, hflash⟩
    change out.2.op = .received ∧ WholeStaged files out.2 s.2.1
    rw [hfs, hflash]
    exact hreceived

theorem leads_verifyAttempts (attempts : Nat) {last : FirmwareStoreErr × FirmwareSlot}
    (hlast : last.1 ≠ .ok) :
    Leads (within taken (@received crypto files)) (verifyAttempts attempts last)
      fun r => within taken (onResult r.1 (reached .verified) nothing) := by
  induction attempts generalizing last with
  | zero => exact leads_pure _ fun w h => ⟨h.1, fun hok => absurd hok hlast, fun _ => trivial⟩
  | succ attempts ih =>
      apply leads_bind leads_verify
      rintro ⟨answer, slot⟩
      apply leads_ite
      · exact fun _ => leads_pure _ fun w h => ⟨h.1, h.2.1, fun _ => trivial⟩
      · intro hagain
        have hbad : answer.err ≠ .ok := by
          intro hok
          apply hagain
          rw [hok]
          decide
        exact leads_of (fun _ _ h => h.2 hbad) (ih hbad)

theorem leads_installBegin :
    Leads (within taken (@reached crypto files .verified)) (store .installBegin)
      fun r => within taken (onResult r.1.err (installing installPages) (reached .verified)) := by
  apply leads_store
    (χ := fun r => onResult r.1.err (installing installPages) (reached .verified))
  · exact fun _ h => h.2
  · rintro F w hkept ⟨hconfirmed, hop⟩
    apply wp_mono _ (fun _ h => h) (wp_installBegin hkept.stage hkept.inv hop)
    rintro out s ⟨hsettled, hbad, hok⟩
    have hafter := hsettled.confirmed hconfirmed
    refine ⟨hsettled.toStageKept, fun h => ⟨hafter, (hok h).1, ?_⟩, fun h => ⟨hafter, hbad h⟩⟩
    have hlen := (hsettled.inv.length (.inr (.inl (hok h).1))).2
    change out.2.imageLen ≤ (out.2.installPage + 240) * 2048
    rw [(hok h).2]
    exact hlen

theorem leads_installStep (pages : Nat) :
    Leads (within taken (@installing crypto files (pages + 1))) (store .installStep)
      fun r => within taken ((Fact.when (¬ (r.1.err = .ok ∧ r.1.done = false))
        (onResult r.1.err (reached .installed) (reached .verified))).and
          (Fact.when (r.1.err = .ok ∧ r.1.done = false) (installing pages))) := by
  apply leads_store (χ := fun r => (Fact.when (¬ (r.1.err = .ok ∧ r.1.done = false))
    (onResult r.1.err (reached .installed) (reached .verified))).and
      (Fact.when (r.1.err = .ok ∧ r.1.done = false) (installing pages)))
  · exact fun _ h => h.2.1
  · rintro F w hkept ⟨hconfirmed, hop, hleft⟩
    apply wp_mono _ (fun _ h => h) (wp_installStep hkept.stage hkept.inv hop)
    rintro out s ⟨hsettled, hstepped⟩
    have hafter := hsettled.confirmed hconfirmed
    refine ⟨hsettled.toStageKept, fun hend => ⟨fun h => ⟨hafter, hstepped.finished h ?_⟩,
      fun h => ⟨hafter, hstepped.failed h⟩⟩, fun h => ?_⟩
    · exact Bool.eq_true_of_not_eq_false fun hmore => hend ⟨h, hmore⟩
    · rcases hstepped.more h.1 h.2 with ⟨hinstalling, hpage, hlen⟩
      refine ⟨hafter, hinstalling, ?_⟩
      change out.2.imageLen ≤ (out.2.installPage + pages) * 2048
      rw [hpage, hlen, Nat.add_right_comm, Nat.add_assoc]
      exact hleft

theorem leads_installSteps (pages : Nat) :
    Leads (within taken (@installing crypto files pages)) (installSteps pages)
      fun rc => within taken (onResult rc (reached .installed) (reached .verified)) := by
  induction pages with
  | zero =>
      apply leads_pure
      rintro w ⟨hall, _, hop, hleft⟩
      exact absurd hleft (Nat.not_le_of_lt (hall.kept.inv.page hop))
  | succ pages ih =>
      apply leads_bind (leads_installStep pages)
      rintro ⟨answer, _⟩
      apply leads_bind (leads_unchanging (c := .delay 1) trivial)
      intro _
      apply leads_ite
      · exact fun h => leads_of (fun _ _ hw => hw.2 h) ih
      · exact fun h => leads_pure _ fun w hw => ⟨hw.1, hw.2.1 h⟩

theorem leads_installAttempts (attempts : Nat) (rc : FirmwareStoreErr) :
    Leads (within taken (@onResult crypto files rc (reached .installed) (reached .verified)))
      (installAttempts attempts rc)
      fun rc => within taken (onResult rc (reached .installed) (reached .verified)) := by
  induction attempts generalizing rc with
  | zero => exact leads_pure rc fun _ h => h
  | succ attempts ih =>
      apply leads_ite
      · intro hok
        subst hok
        exact leads_pure _ fun _ h => h
      · intro hbad
        apply leads_of (ψ := reached .verified)
        · exact fun _ _ hw => hw.2 hbad
        apply leads_bind leads_installBegin
        rintro ⟨begun, _⟩
        apply leads_ite
        · intro hok
          apply leads_of (ψ := installing installPages)
          · exact fun _ _ hw => hw.1 hok
          exact leads_bind (leads_installSteps _) ih
        · intro hfailed
          apply leads_of _ (ih begun.err)
          exact fun w _ hw => ⟨fun hok => absurd hok hfailed, hw.2⟩

theorem leads_installAndActivate :
    Leads (within taken (@reached crypto files .verified)) installAndActivate
      fun _ => within taken rest := by
  apply leads_bind (R := fun _ => within taken (reached .verified))
  · exact leads_aside (fun _ => ⟨rfl, rfl, id, fun _ h => by rcases h with h | h <;> cases h⟩)
      fun _ h => h
  intro _
  apply leads_bind (leads_of _ (leads_installAttempts usInstallAttempts .installVerify))
  swap
  · exact fun w _ h => ⟨fun hok => (by cases hok), fun _ => h⟩
  intro rc
  apply leads_result leads_fail
  apply leads_bind (R := fun _ => within taken nothing)
  · apply leads_store (χ := fun _ => nothing)
    · exact fun w h => ⟨h.2, h.1.capable, h.1.state⟩
    · exact fun F w hkept h => wp_mono (fun _ _ hout => ⟨hout, trivial⟩)
        (fun _ hlost => hlost) (wp_activate hkept.stage hkept.inv h.2)
  rintro ⟨activated, _⟩
  apply leads_ite
  · exact fun _ => leads_fail
  · intro _
    apply leads_bind (leads_leave fun h => by rcases h with h | h <;> cases h)
    exact fun _ => leads_postEventRetrying fun _ _ _ _ h => h

theorem leads_validate :
    Leads (within taken (@received crypto files)) validate fun _ => within taken rest := by
  apply leads_bind (R := fun _ => within taken received)
  · exact leads_aside (fun _ => ⟨rfl, rfl, id, fun _ h => by rcases h with h | h <;> cases h⟩)
      fun _ h => h
  intro _
  apply leads_bind (leads_verifyAttempts usVerifyAttempts (by decide))
  rintro ⟨rc, slot⟩
  apply leads_result leads_fail
  apply leads_bind (leads_get (χ := fun _ => reached .verified) fun _ _ h => h)
  intro us
  apply leads_ite
  · exact fun _ => leads_fail
  · exact fun _ => leads_installAndActivate

/-!
## Download
-/

theorem leads_pauseDownload :
    Leads (within taken (@staging crypto files)) pauseDownload
      fun _ => within taken rest := by
  apply leads_bind (R := fun _ => within taken staging)
  · exact leads_aside (fun _ => ⟨rfl, rfl, id, id⟩) fun _ h => h
  intro _
  apply leads_bind (leads_unchanging (c := .getTickCount) trivial)
  intro now
  generalize now + usSelfCheckPollMs = tick
  apply leads_bind (R := fun _ => within taken staging)
  · exact leads_aside (fun _ => ⟨rfl, rfl, id, id⟩) fun _ h => h
  intro _
  exact leads_aside (fun _ => ⟨rfl, rfl, id, id⟩)
    fun _ h _ => ⟨h, fun hfree => absurd rfl hfree, fun hfull => (by cases hfull)⟩

theorem chunkLen_toNat (h : own.offset.toNat ≤ own.fileLen.toNat) :
    own.chunkLen.toNat = min 1024 (own.fileLen.toNat - own.offset.toNat) := by
  have hleft : (own.fileLen - own.offset).toNat = own.fileLen.toNat - own.offset.toNat :=
    UInt32.toNat_sub_of_le _ _ (UInt32.le_iff_toNat_le.mpr h)
  unfold UsOwn.chunkLen
  split
  · rename_i hshort
    have hlt : (own.fileLen - own.offset).toNat < 1024 := UInt32.lt_iff_toNat_lt.mp hshort
    rw [hleft] at hlt ⊢
    exact (Nat.min_eq_right (Nat.le_of_lt hlt)).symm
  · rename_i hlong
    have hge : 1024 ≤ (own.fileLen - own.offset).toNat :=
      Nat.le_of_not_lt fun hlt => hlong (UInt32.lt_iff_toNat_lt.mpr hlt)
    rw [hleft] at hge
    exact (Nat.min_eq_left hge).symm

theorem Staging.nextPiece (h : Staging files own fs flash) (slot : FirmwareSlot) :
    NextPiece fs ⟨own.cmd.job, slot, own.offset, own.chunkLen⟩ := by
  have hinside : own.offset.toNat ≤ own.fileLen.toNat := h.inside
  constructor
  · exact h.sameImage.symm
  · exact h.offset.symm
  · rw [h.offset, h.sameLen]
    exact hinside
  · rw [h.offset, h.sameLen]
    exact chunkLen_toNat hinside

theorem leads_requestChunk {req : UsChunkRequest} (h : forall w, φ.holds w -> NextPiece w.fs req) :
    Leads (within taken φ) (Program.perform (I := usCalls) (.requestChunk req))
      fun _ => within taken φ := by
  apply leads_perform
  · exact fun w hw => h w hw.2
  · rintro w w' _ ⟨call, _, _, hcall, _⟩
    cases hcall
  · rintro w r w' hw heffect
    cases heffect
    exact hw

theorem leads_request :
    Leads (within taken (@staging crypto files)) request
      fun _ => within taken rest := by
  apply leads_bind (leads_unchanging (c := .isConnected) trivial)
  intro connected
  apply leads_ite
  · intro _
    apply leads_bind (leads_get (χ := fun us => (stored fun _ => Staging files us.own).and
      staging) fun _ _ h => ⟨h, h⟩)
    intro us
    apply leads_bind (R := fun _ => within taken
      ((stored fun _ => Staging files us.own).and download))
    · exact leads_aside (fun _ => ⟨rfl, rfl, id, id⟩)
        fun w h => ⟨h.1, h.2, fun _ => ⟨rfl, rfl⟩, fun hfull => (by cases hfull)⟩
    intro _
    apply leads_bind (R := fun _ => within taken
      ((stored fun _ => Staging files us.own).and download))
    · exact leads_requestChunk fun w h => h.1.2.nextPiece _
    intro _
    apply leads_bind (leads_unchanging (c := .getTickCount) trivial)
    intro now
    generalize now + usChunkTimeoutMs = tick
    exact leads_aside (fun _ => ⟨rfl, rfl, id, id⟩) fun _ h _ => h.2
  · exact fun _ => leads_pauseDownload

theorem leads_validateOrRequest :
    Leads (within taken (@staging crypto files)) validateOrRequest
      fun _ => within taken rest := by
  apply leads_bind (leads_get (χ := fun us => (stored fun _ => Staging files us.own).and
    staging) fun _ _ h => ⟨h, h⟩)
  intro us
  apply leads_ite
  · intro hend
    apply leads_of _ leads_validate
    rintro w _ ⟨⟨hconfirmed, hstaging⟩, _⟩
    have hall : us.own.offset.toNat = us.own.fileLen.toNat :=
      Nat.le_antisymm hstaging.inside (UInt32.le_iff_toNat_le.mp hend)
    refine ⟨hconfirmed, ?_, ?_⟩
    · rw [hstaging.op, if_pos hall]
    · unfold WholeStaged
      rw [hstaging.sameImage, hstaging.sameLen, ← hall]
      exact hstaging.ready.under.staged
  · exact fun _ => leads_of (fun _ _ h => h.2) leads_request

/-- The store has come to the offset that its answer names. -/
abbrev resumedAt (answer : FsAnswer) : Fact crypto files :=
  stored (StagedTo files (UInt32.ofNat (answer.offset.getD 0)).toNat)

theorem leads_resume (hM : forall own, M own -> own.cmd.job = job ∧ own.fileLen = len) :
    Leads (within taken (@ownFact crypto files M)) (store (.resume job len.toNat))
      fun r => within taken ((ownFact M).and (onResult r.1.err (resumedAt r.1) nothing)) := by
  apply leads_store (χ := fun r => (ownFact M).and (onResult r.1.err (resumedAt r.1) nothing))
  · exact fun _ _ => trivial
  · intro F w hkept hown
    apply wp_mono _ (fun _ h => h) (wp_resume hkept.stage hkept.inv)
    rintro out s ⟨hsettled, hok⟩
    refine ⟨hsettled.toStageKept, hown, fun herr => ?_, fun _ => trivial⟩
    rcases hok herr with ⟨hconfirmed, c, hc, hcontinuing⟩
    refine ⟨hsettled.confirmed hconfirmed, ?_⟩
    have hsmall : c < 2 ^ 32 := Nat.lt_of_le_of_lt hcontinuing.inside len.toNat_lt
    change Continuing files out.2 s.2.1 w.us.own.cmd.job w.us.own.fileLen.toNat
      (UInt32.ofNat (out.1.offset.getD 0)).toNat
    rw [hc, (hM _ hown).1, (hM _ hown).2, Option.getD_some, UInt32.toNat_ofNat_of_lt' hsmall]
    exact hcontinuing

theorem leads_begin (hM : forall own, M own -> own.cmd.job = job ∧ own.fileLen = len) :
    Leads (within taken (@ownFact crypto files M)) (store (.begin job len.toNat))
      fun r => within taken ((ownFact M).and (onResult r.1.err (stored (StagedTo files 0))
        nothing)) := by
  apply leads_store
    (χ := fun r => (ownFact M).and (onResult r.1.err (stored (StagedTo files 0)) nothing))
  · exact fun _ _ => trivial
  · intro F w hkept hown
    apply wp_mono _ (fun _ h => h) (wp_begin hkept.stage hkept.inv)
    rintro out s ⟨hsettled, hok⟩
    refine ⟨hsettled.toStageKept, hown, fun herr => ?_, fun _ => trivial⟩
    rcases hok herr with ⟨hconfirmed, hcontinuing⟩
    refine ⟨hsettled.confirmed hconfirmed, ?_⟩
    change Continuing files out.2 s.2.1 w.us.own.cmd.job w.us.own.fileLen.toNat 0
    rw [(hM _ hown).1, (hM _ hown).2]
    exact hcontinuing

abbrev owned (own : UsOwn) : Fact crypto files :=
  ownFact fun now => now = own

theorem leads_resync :
    Leads (within taken φ) resync fun resumed => within taken
      ((Fact.when (resumed = true) staging).and
        (Fact.when (¬ resumed = true) rest)) := by
  apply leads_bind (leads_get (χ := fun us => owned us.own) fun _ _ _ => rfl)
  intro us
  apply leads_bind (leads_resume fun own h => ⟨congrArg (·.cmd.job) h, congrArg (·.fileLen) h⟩)
  rintro ⟨answer, _⟩
  apply leads_of (ψ := onResult answer.err (resumedAt answer) nothing)
  · exact fun _ _ h => h.2
  apply leads_result
  · exact leads_bind leads_fail fun _ => leads_pure false fun _ h =>
      ⟨h.1, fun hresumed => (by cases hresumed), fun _ => h.2⟩
  · generalize hoffset : UInt32.ofNat (answer.offset.getD 0) = offset
    apply leads_bind (R := fun _ => within taken staging)
    · refine leads_aside (fun _ => ⟨rfl, rfl, id, id⟩) ?_
      intro w h
      unfold resumedAt at h
      rw [hoffset] at h
      exact h
    · exact fun _ => leads_pure true fun _ h =>
        ⟨h.1, fun _ => h.2, fun hnot => absurd rfl hnot⟩

theorem leads_resyncAndRequest :
    Leads (within taken φ) resyncAndRequest fun _ => within taken rest := by
  apply leads_bind leads_resync
  intro resumed
  apply leads_ite
  · exact fun h => leads_of (fun _ _ hw => hw.1 h) leads_request
  · exact fun h => leads_done fun _ _ hw => hw.2 h

theorem leads_startDownload {offset : UInt32} :
    Leads (within taken ((@ownFact crypto files Ready).and
      (onResult rc (stored (StagedTo files offset.toNat)) nothing)))
      (startDownload rc offset) fun _ => within taken rest := by
  apply leads_of (ψ := onResult rc ((ownFact Ready).and
    (stored (StagedTo files offset.toNat))) nothing)
  · exact fun _ _ h => ⟨fun hok => ⟨h.1, h.2.1 hok⟩, fun _ => trivial⟩
  apply leads_result leads_fail
  apply leads_bind (R := fun _ => within taken ((ownFact Ready).and staging))
  · exact leads_aside (fun _ => ⟨rfl, rfl, id, id⟩) fun _ h => h
  intro _
  apply leads_bind (leads_unchanging (c := .getTickCount) trivial)
  intro now
  apply leads_bind (R := fun _ => within taken ((ownFact Ready).and staging))
  · exact leads_aside (fun _ => ⟨rfl, rfl, id, id⟩) fun _ h => h
  intro _
  apply leads_bind
    (leads_get (χ := fun _ => (ownFact Ready).and staging) fun _ _ h => h)
  intro us
  apply leads_bind leads_report
  intro _
  apply leads_bind (R := fun _ => within taken staging)
  · exact leads_modify (fun _ _ h => ⟨rfl, rfl, id, fun _ _ => h.1⟩) fun _ h => h.2
  · exact fun _ => leads_validateOrRequest

theorem leads_beginDownload :
    Leads (within taken (@rest crypto files)) beginDownload fun _ => within taken rest := by
  apply leads_bind (leads_get
    (χ := fun us => rest.and (Fact.when (us.state = .awaitingStart) (ownFact Ready)))
    fun _ hall h => ⟨h, fun hstate => hall.loading (.inl hstate)⟩)
  intro us
  apply leads_ite
  · exact fun _ => leads_done fun _ _ h => h.1
  intro hawaiting
  apply leads_bind (R := fun _ => within taken (ownFact Ready))
  · exact leads_aside (fun _ => ⟨rfl, rfl, id, id⟩) fun _ h => h.2 (not_not.mp hawaiting)
  intro _
  apply leads_bind (leads_get (χ := fun us => ownFact fun own => Ready own ∧ own = us.own)
    fun _ _ h => ⟨h, rfl⟩)
  intro us
  have hjob : forall own, Ready own ∧ own = us.own ->
      own.cmd.job = us.own.cmd.job ∧ own.fileLen = us.own.fileLen :=
    fun own h => ⟨congrArg (·.cmd.job) h.2, congrArg (·.fileLen) h.2⟩
  apply leads_bind (leads_resume hjob)
  rintro ⟨resumed, _⟩
  apply leads_ite
  · intro _
    apply leads_of (ψ := ownFact fun own => Ready own ∧ own = us.own)
    · exact fun _ _ h => h.1
    apply leads_bind (leads_begin hjob)
    rintro ⟨begun, _⟩
    apply leads_of _ leads_startDownload
    exact fun _ _ h => ⟨h.1.1, h.2⟩
  · intro _
    apply leads_of _ leads_startDownload
    exact fun _ _ h => ⟨h.1.1, h.2⟩

/-- The bytes that wait for the task are the next ones of its file. -/
structure NextChunk (files : UInt32 -> List UInt8) (len : UInt32) (us : UsInst) : Prop where
  length : (us.chunk.take len.toNat).length = len.toNat
  pos : len ≠ 0
  inside : us.own.offset.toNat + len.toNat ≤ us.own.fileLen.toNat
  slice : us.chunk.take len.toNat =
    ((files us.own.cmd.job).drop us.own.offset.toNat).take len.toNat

theorem ChunkSlot.nextChunk (h : ChunkSlot files us) (hstaging : Staging files us.own fs flash)
    (hready : Ready us.own) (hfull : us.slotState = .full) (hlen : us.gotLen = len) :
    NextChunk files len us := by
  subst hlen
  have hinside : us.own.offset.toNat ≤ us.own.fileLen.toNat := hstaging.inside
  rcases h.1 (by rw [hfull]; decide) with ⟨hoffset, hexpected⟩
  rcases h.2 hfull with ⟨hgot, hpos, hroom, hslice⟩
  constructor
  · rw [List.length_take]
    exact Nat.min_eq_left hroom
  · exact hpos
  · rw [hgot, hexpected, chunkLen_toNat hinside]
    omega
  · rw [hready.2, hoffset] at hslice
    exact hslice

/-- A chunk was written, or nothing is known. -/
abbrev written (rc : FirmwareStoreErr) (len : UInt32) : Fact crypto files :=
  onResult rc (stored fun own => StagedTo files (own.offset + len).toNat own) nothing

theorem leads_writeChunk (h : NextChunk files len us) :
    Leads (within taken ((@staging crypto files).and (owned us.own)))
      (store (.writeChunk us.own.offset.toNat (us.chunk.take len.toNat)))
      fun r => within taken (written r.1.err len) := by
  have hpos : len.toNat ≠ 0 := fun hzero => h.pos (UInt32.toNat_inj.mp hzero)
  have hnext : (us.own.offset + len).toNat = us.own.offset.toNat + len.toNat := by
    rw [UInt32.toNat_add]
    exact Nat.mod_eq_of_lt (Nat.lt_of_le_of_lt h.inside us.own.fileLen.toNat_lt)
  have hinside := h.inside
  apply leads_store (χ := fun r => written r.1.err len)
  · rintro w ⟨⟨_, hstaging⟩, hown⟩
    change w.us.own = us.own at hown
    unfold Staging StagedTo at hstaging
    rw [hown] at hstaging
    refine ⟨?_, hstaging.offset.symm, ?_, ?_, ?_⟩
    · rw [hstaging.op, if_neg (by omega)]
    · rw [h.length]
      exact Nat.pos_of_ne_zero hpos
    · rw [h.length, hstaging.sameLen]
      omega
    · rw [h.length, hstaging.sameImage]
      exact h.slice
  · rintro F w hkept ⟨⟨hconfirmed, hstaging⟩, hown⟩
    change w.us.own = us.own at hown
    unfold Staging StagedTo at hstaging
    rw [hown] at hstaging
    apply wp_mono _ (fun _ h => h) (wp_write hstaging hkept.inv (by
      rw [h.length]
      exact h.slice) (by rw [h.length]; exact hpos) (by rw [h.length]; omega))
    rintro out s ⟨hsettled, hok⟩
    refine ⟨hsettled.toStageKept, fun herr => ⟨hsettled.confirmed hconfirmed, ?_⟩,
      fun _ => trivial⟩
    have hcontinuing := hok herr
    rw [h.length, ← hnext] at hcontinuing
    change StagedTo files (w.us.own.offset + len).toNat w.us.own out.2 s.2.1
    rw [hown]
    exact hcontinuing

theorem leads_chunkWritten :
    Leads (within taken (@written crypto files rc len)) (chunkWritten rc len)
      fun _ => within taken rest := by
  apply leads_ite
  · intro hok
    apply leads_bind (R := fun _ => within taken staging)
    · exact leads_aside (fun _ => ⟨rfl, rfl, id, id⟩) fun _ h => h.1 hok
    intro _
    apply leads_bind (leads_unchanging (c := .getTickCount) trivial)
    intro now
    apply leads_bind (R := fun _ => within taken staging)
    · exact leads_aside (fun _ => ⟨rfl, rfl, id, id⟩) fun _ h => h
    exact fun _ => leads_validateOrRequest
  intro _
  apply leads_ite
  · exact fun _ => leads_resyncAndRequest
  intro _
  apply leads_ite
  · intro _
    apply leads_bind (R := fun _ => within taken nothing)
    · exact leads_aside (fun _ => ⟨rfl, rfl, id, id⟩) fun _ _ => trivial
    intro _
    apply leads_bind (leads_get (χ := fun _ => nothing) fun _ _ h => h)
    intro us
    exact leads_ite (fun _ => leads_fail) fun _ => leads_resyncAndRequest
  · exact fun _ => leads_fail

theorem leads_onChunkReady :
    Leads (within taken (@rest crypto files)) onChunkReady fun _ => within taken rest := by
  apply leads_bind (leads_get
    (χ := fun us => rest.and (Fact.when (us.slotState = .full) (filled us.gotLen)))
    fun _ _ h => ⟨h, fun hfull => ⟨hfull, rfl⟩⟩)
  intro us
  apply leads_ite
  · exact fun _ => leads_done fun _ _ h => h.1
  intro hfull
  apply leads_bind (R := fun _ => within taken (rest.and (filled us.gotLen)))
  · exact leads_aside (fun _ => ⟨rfl, rfl, id, id⟩) fun _ h => ⟨h.1, h.2 (not_not.mp hfull)⟩
  intro _
  apply leads_bind (R := fun now => within taken (rest.and (Fact.when (now.state = .downloading)
    ((staging.and (owned now.own)).and (ownFact fun _ => NextChunk files us.gotLen now)))))
  · refine leads_get (χ := fun now => rest.and (Fact.when (now.state = .downloading)
      ((staging.and (owned now.own)).and (ownFact fun _ => NextChunk files us.gotLen now)))) ?_
    rintro w hall ⟨hrest, hslot, hlen⟩
    refine ⟨hrest, fun hstate => ⟨⟨(hrest hstate).1, rfl⟩, ?_⟩⟩
    exact (hrest hstate).2.nextChunk (hrest hstate).1.2 (hall.loading (.inr hstate)) hslot hlen
  intro now
  apply leads_ite
  · intro _
    exact leads_aside (fun _ => ⟨rfl, rfl, id, id⟩) fun _ h hstate =>
      ⟨(h.1 hstate).1, fun hfree => absurd rfl hfree, fun hfull => (by cases hfull)⟩
  · intro hstate
    have hdownloading := not_not.mp hstate
    apply leads_bind (R := fun r => within taken (written r.1.err us.gotLen))
    · intro w hw
      exact leads_writeChunk (hw.2.2 hdownloading).2 w ⟨hw.1, (hw.2.2 hdownloading).1⟩
    rintro ⟨answer, _⟩
    apply leads_bind (R := fun _ => within taken (written answer.err us.gotLen))
    · exact leads_aside (fun _ => ⟨rfl, rfl, id, id⟩) fun _ h => h
    exact fun _ => leads_chunkWritten

end

end EnvMonitor.Gateway.UpdateService
