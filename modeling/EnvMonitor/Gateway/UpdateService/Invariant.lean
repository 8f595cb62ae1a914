import EnvMonitor.Gateway.UpdateService.StoreCalls
import EnvMonitor.Gateway.UpdateService.Surroundings

/-!
# What holds between the calls of UpdateServiceTask

An invariant that holds everywhere, and facts that the other tasks keep beside it.
-/

namespace EnvMonitor.Gateway.UpdateService

open Device Drivers FirmwareStore

/-!
## The invariant
-/

/-- How many bits of LifecycleController about the boot are on their way. -/
def World.bootBits (w : World) : Nat :=
  w.notifying.selfCheck.toNat + w.us.pending.selfCheck.toNat +
    (w.notifying.afterRollback.toNat + w.us.pending.afterRollback.toNat)

/-- An update that LifecycleController was asked for, or that it started. -/
def Loading (state : UsState) : Prop :=
  state = .awaitingStart ∨ state = .downloading

/-- An update under way is for the active job. -/
def Ready (own : UsOwn) : Prop :=
  own.boot.state = .confirmed ∧ own.activeJob = own.cmd.job

/-- What holds everywhere.  A bit about the boot that the task has taken counts as long as the task
has not acted on it. -/
structure Always (files : UInt32 -> List UInt8) (taken : Nat) (w : World) : Prop where
  kept : StageKept files w.fs w.flash
  once : w.starting.toNat + w.bootBits + taken ≤ 1
  waiting : 0 < w.bootBits + taken -> w.us.own.boot.state ≠ .confirmed
  armed : w.us.checkArmed = true -> w.starting = false ∧ w.bootBits + taken = 0
  loading : Loading w.us.state -> Ready w.us.own

theorem notified_toNat (n p bits : Bool) (h : n.toNat + p.toNat ≤ 1) :
    (n && !bits).toNat + (p || n && bits).toNat = n.toNat + p.toNat := by
  cases n <;> cases p <;> cases bits <;> first | rfl | exact absurd h (by decide)

theorem bootBits_notified (w : World) (bits : Notices) (h : w.bootBits ≤ 1) :
    (w.notified bits).bootBits = w.bootBits := by
  unfold World.bootBits at h ⊢
  have hself := notified_toNat w.notifying.selfCheck w.us.pending.selfCheck bits.selfCheck
    (by omega)
  have hafter := notified_toNat w.notifying.afterRollback w.us.pending.afterRollback
    bits.afterRollback (by omega)
  exact congrArg₂ (· + ·) hself hafter

section Stability

variable {crypto : OtaCrypto} {files : UInt32 -> List UInt8} {taken : Nat} {w w' : World}

theorem Always.others (h : Always files taken w) (hstep : OthersStep crypto files w w') :
    Always files taken w' := by
  have honce := h.once
  cases hstep with
  | handleCommand | onChunk | start => exact ⟨h.kept, h.once, h.waiting, h.armed, h.loading⟩
  | resumeSelfChecking hstarting _ htrial =>
      unfold World.bootBits at honce
      rw [hstarting] at honce
      change 1 + _ + _ ≤ 1 at honce
      refine ⟨h.kept, ?_, fun _ hconfirmed => ?_, ?_, fun hloading => ?_⟩
      · change 0 + (1 + w.us.pending.selfCheck.toNat +
          (w.notifying.afterRollback.toNat + w.us.pending.afterRollback.toNat)) + taken ≤ 1
        omega
      · rw [htrial] at hconfirmed
        cases hconfirmed
      · intro harmed
        rw [(h.armed harmed).1] at hstarting
        cases hstarting
      · rcases hloading with hstate | hstate <;> cases hstate
  | resumeAfterRollback hstarting _ hrolled =>
      unfold World.bootBits at honce
      rw [hstarting] at honce
      change 1 + _ + _ ≤ 1 at honce
      refine ⟨h.kept, ?_, fun _ hconfirmed => ?_, ?_, h.loading⟩
      · change 0 + (w.notifying.selfCheck.toNat + w.us.pending.selfCheck.toNat +
          (1 + w.us.pending.afterRollback.toNat)) + taken ≤ 1
        omega
      · rw [hrolled] at hconfirmed
        cases hconfirmed
      · intro harmed
        rw [(h.armed harmed).1] at hstarting
        cases hstarting
  | resumeRollback =>
      refine ⟨h.kept, h.once, h.waiting, fun harmed => (by cases harmed), fun hloading => ?_⟩
      rcases hloading with hstate | hstate <;> cases hstate
  | rollback hexec =>
      have hkept := (Program.wp_returns (wp_rollback h.kept.stage h.kept.inv) hexec).1
      exact ⟨hkept, h.once, h.waiting, h.armed, h.loading⟩
  | notify bits =>
      have hbits := bootBits_notified w bits (by omega)
      constructor
      · exact h.kept
      · rw [hbits]
        exact h.once
      · rw [hbits]
        exact h.waiting
      · rw [hbits]
        exact h.armed
      · exact h.loading

theorem others_store (hkept : StageKept files w.fs w.flash) (hconfirmed : Confirmed w.fs)
    (h : OthersStep crypto files w w') : w'.fs = w.fs ∧ w'.flash = w.flash := by
  cases h with
  | rollback hexec =>
      rcases Program.wp_returns (wp_rollback hkept.stage hkept.inv) hexec with ⟨_, hflash, hsame⟩
      exact ⟨hsame hconfirmed.state, hflash⟩
  | _ => exact ⟨rfl, rfl⟩

theorem others_own (h : OthersStep crypto files w w') : w'.us.own = w.us.own := by
  cases h <;> rfl

theorem others_state (h : OthersStep crypto files w w') :
    w'.us.state = w.us.state ∨ ¬ Loading w'.us.state := by
  cases h with
  | resumeSelfChecking => exact .inr fun hloading => by rcases hloading with h | h <;> cases h
  | resumeRollback => exact .inr fun hloading => by rcases hloading with h | h <;> cases h
  | _ => exact .inl rfl

end Stability

/-!
## Facts that the other tasks keep
-/

/-- A fact that the steps of the other tasks keep, given the invariant. -/
structure Fact (crypto : OtaCrypto) (files : UInt32 -> List UInt8) where
  holds : World -> Prop
  stable : forall w w', StageKept files w.fs w.flash -> holds w -> OthersStep crypto files w w' ->
    holds w'

/-- The invariant and a fact, as an assertion between two calls. -/
def within {crypto : OtaCrypto} {files : UInt32 -> List UInt8} (taken : Nat)
    (φ : Fact crypto files) :
    Program.Assertion (usSurroundings crypto files) (usDemand files) where
  holds := fun w => Always files taken w ∧ φ.holds w
  stable := fun w w' h hstep => ⟨h.1.others hstep, φ.stable w w' h.1.kept h.2 hstep⟩
  sound := fun _ h => h.1.kept.stage

section Facts

variable {crypto : OtaCrypto} {files : UInt32 -> List UInt8}

def nothing : Fact crypto files where
  holds := fun _ => True
  stable := fun _ _ _ _ _ => trivial

def Fact.and (φ ψ : Fact crypto files) : Fact crypto files where
  holds := fun w => φ.holds w ∧ ψ.holds w
  stable := fun w w' hkept h hstep =>
    ⟨φ.stable w w' hkept h.1 hstep, ψ.stable w w' hkept h.2 hstep⟩

/-- What was found out at one time, and is then kept. -/
def Fact.when (c : Prop) (φ : Fact crypto files) : Fact crypto files where
  holds := fun w => c -> φ.holds w
  stable := fun w w' hkept h hstep hc => φ.stable w w' hkept (h hc) hstep

/-- About what only the task writes. -/
def ownFact (M : UsOwn -> Prop) : Fact crypto files where
  holds := fun w => M w.us.own
  stable := by
    intro w w' _ h hstep
    rw [others_own hstep]
    exact h

/-- No update is under way. -/
def notLoading : Fact crypto files where
  holds := fun w => ¬ Loading w.us.state
  stable := by
    intro w w' _ h hstep
    rcases others_state hstep with hsame | hnot
    · rw [hsame]
      exact h
    · exact hnot

/-- LifecycleController has told what the boot was, and the task has acted on it. -/
def spent (taken : Nat) : Fact crypto files where
  holds := fun w => w.starting = false ∧ w.bootBits + taken = 0
  stable := by
    intro w w' _ h hstep
    cases hstep with
    | resumeSelfChecking hstarting =>
        rw [h.1] at hstarting
        cases hstarting
    | resumeAfterRollback hstarting =>
        rw [h.1] at hstarting
        cases hstarting
    | notify bits =>
        refine ⟨h.1, ?_⟩
        rw [bootBits_notified w bits (by have := h.2; omega)]
        exact h.2
    | _ => exact h

/-- A confirmed image runs, and the store has come as far as `K` says. -/
def stored (K : UsOwn -> FsInst -> Memory -> Prop) : Fact crypto files where
  holds := fun w => Confirmed w.fs ∧ K w.us.own w.fs w.flash
  stable := by
    intro w w' hkept h hstep
    rcases others_store hkept h.1 hstep with ⟨hfs, hflash⟩
    rw [hfs, hflash, others_own hstep]
    exact h

/-- The store expects the byte of the task's file at `pos`, or has all of it. -/
def StagedTo (files : UInt32 -> List UInt8) (pos : Nat) (own : UsOwn) (fs : FsInst)
    (flash : Memory) : Prop :=
  Continuing files fs flash own.cmd.job own.fileLen.toNat pos

/-- The store expects the byte at the offset of the task. -/
def Staging (files : UInt32 -> List UInt8) (own : UsOwn) (fs : FsInst)
    (flash : Memory) : Prop :=
  StagedTo files own.offset.toNat own fs flash

abbrev staging : Fact crypto files :=
  stored (Staging files)

/-- A chunk that is expected is the next one, and one that is there is the one expected. -/
def ChunkSlot (files : UInt32 -> List UInt8) (us : UsInst) : Prop :=
  (us.slotState ≠ .free -> us.own.expOffset = us.own.offset ∧ us.own.expLen = us.own.chunkLen) ∧
    (us.slotState = .full -> us.gotLen = us.own.expLen ∧ us.gotLen ≠ 0 ∧
      us.gotLen.toNat ≤ us.chunk.length ∧
        us.chunk.take us.gotLen.toNat =
          ((files us.own.activeJob).drop us.own.expOffset.toNat).take us.gotLen.toNat)

def chunkSlot : Fact crypto files where
  holds := fun w => ChunkSlot files w.us
  stable := by
    intro w w' _ h hstep
    cases hstep with
    | onChunk hdata hpos hle hslice hexpecting hjob hoffset hlen =>
        rename_i job offset len data
        constructor
        · intro _
          exact h.1 (by rw [hexpecting]; decide)
        · intro _
          refine ⟨hlen, hpos, ?_, ?_⟩
          · change len.toNat ≤ (data ++ w.us.chunk.drop data.length).length
            rw [List.length_append, hdata]
            exact Nat.le_add_right _ _
          · change (data ++ w.us.chunk.drop data.length).take len.toNat =
              ((files w.us.own.activeJob).drop w.us.own.expOffset.toNat).take len.toNat
            rw [← hdata, List.take_left, ← hjob, ← hoffset]
            exact hslice
    | _ => exact h

/-- A chunk of this length waits for the task. -/
def filled (len : UInt32) : Fact crypto files where
  holds := fun w => w.us.slotState = .full ∧ w.us.gotLen = len
  stable := by
    intro w w' _ h hstep
    cases hstep with
    | onChunk _ _ _ _ hexpecting =>
        rw [h.1] at hexpecting
        cases hexpecting
    | _ => exact h

/-- The download as it is between two passes. -/
abbrev download : Fact crypto files :=
  staging.and chunkSlot

/-- What holds between two passes. -/
def rest : Fact crypto files where
  holds := fun w => w.us.state = .downloading -> (@download crypto files).holds w
  stable := by
    intro w w' hkept h hstep hstate
    rcases others_state hstep with hsame | hnot
    · exact download.stable w w' hkept (h (hsame ▸ hstate)) hstep
    · exact absurd (.inr hstate) hnot

end Facts

end EnvMonitor.Gateway.UpdateService
