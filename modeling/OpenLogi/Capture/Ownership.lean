import OpenLogi.Capture.Manager
/-!
# Ownership — one session for a key, and no restore lost

A slot runs the one session of its key whose completion is not processed (`Inv`).  What the parts of a reconcile do to a
slot is said once for each part: reconciling, retaining and expediting keep its session and what it owes (`Keeps`), a
retry settles what it owes, and a spawn takes a slot that runs nothing and owes nothing (`Spawns`).
-/
namespace OpenLogi
namespace Capture

open HostSwitch (retryDelay)
open Lib (run run_inv)
open OpenLogi.Core (PhysicalDeviceKey)

variable {K T D R S I : Type}

namespace Sys

/-- The epoch of the session that a key's slot runs. -/
def epoch (s : Sys K T D R S I) (key : K) : Option Nat := (s.slots key).bind CaptureSlot.epoch

/-- The restore that is owed under a key. -/
def owed (s : Sys K T D R S I) (key : K) : Option R := (s.slots key).bind CaptureSlot.owed

end Sys

/-- The sessions that were not processed are those that the slots run. -/
structure Inv (s : Sys K T D R S I) : Prop where
  running : ∀ key epoch, (key, epoch) ∈ s.unprocessed ↔ s.epoch key = some epoch
  nodup : s.unprocessed.Nodup
  minted : ∀ session ∈ s.unprocessed, session.2 < s.nextEpoch

/-- A step that keeps every session, and a draining one as it is. -/
structure Keeps (s s' : Sys K T D R S I) : Prop where
  epoch : ∀ key, s'.epoch key = s.epoch key
  unprocessed : s'.unprocessed = s.unprocessed
  nextEpoch : s.nextEpoch ≤ s'.nextEpoch
  draining : ∀ key session, s.slots key = some (.running session) → session.phase = .draining →
    s'.slots key = some (.running session)

theorem Keeps.trans {s s' s'' : Sys K T D R S I} (h : Keeps s s') (h' : Keeps s' s'') : Keeps s s'' where
  epoch key := (h'.epoch key).trans (h.epoch key)
  unprocessed := h'.unprocessed.trans h.unprocessed
  nextEpoch := Nat.le_trans h.nextEpoch h'.nextEpoch
  draining key session hslot hphase := h'.draining key session (h.draining key session hslot hphase) hphase

theorem Keeps.refl (s : Sys K T D R S I) : Keeps s s := ⟨fun _ => rfl, rfl, Nat.le_refl _, fun _ _ hslot _ => hslot⟩

theorem Keeps.inv {s s' : Sys K T D R S I} (h : Keeps s s') (hinv : Inv s) : Inv s' where
  running key epoch := by rw [h.unprocessed, h.epoch, hinv.running]
  nodup := h.unprocessed ▸ hinv.nodup
  minted session hsession := Nat.lt_of_lt_of_le (hinv.minted session (h.unprocessed ▸ hsession)) h.nextEpoch

section
variable [DecidableEq K] [DecidableEq T] [DecidableEq D] {rules : Rules K T D S}

/-! ## The parts of a reconcile -/

omit [DecidableEq K] in
theorem reconcileSession_epoch (rules : Rules K T D S) (session : CaptureSession T D) (wanted : Option (T × D)) :
    (rules.reconcileSession (I := I) session wanted).2.id.epoch = session.id.epoch := by
  have hafter : (session.reconcileWith wanted rules.stopForChange).2.2.id = session.id := by
    unfold CaptureSession.reconcileWith
    split
    · rfl
    · split
      · split
        · split <;> rfl
        · rfl
      · rfl
  unfold Rules.reconcileSession
  dsimp only
  split
  · simp only [CaptureSession.rekey, hafter]
  · exact congrArg HidppSessionId.epoch hafter

omit [DecidableEq K] in
/-- **A retiring session keeps the plan it was retired with.** -/
theorem reconcileSession_draining (rules : Rules K T D S) {session : CaptureSession T D} (h : session.phase = .draining)
    (wanted : Option (T × D)) : (rules.reconcileSession (I := I) session wanted).2 = session := by
  simp [Rules.reconcileSession, CaptureSession.reconcileWith, CaptureSession.isActive, h]

variable {s s' : Sys K T D R S I} {key : K} {turn : Turn K R} {done : HidppSessionId} {e : Event K T D R I}

theorem reconcileSlot_running {session : CaptureSession T D} (hslot : s.slots key = some (.running session))
    (rules : Rules K T D S) (wanted : List (T × D)) :
    (s.reconcileSlot rules wanted key).slots = Function.update s.slots key
      (some (.running (rules.reconcileSession (I := I) session (rules.wantedFor wanted key)).2)) := by
  simp only [Sys.reconcileSlot, hslot]

theorem reconcileSlot_idle (hslot : ∀ session, s.slots key ≠ some (.running session)) (rules : Rules K T D S)
    (wanted : List (T × D)) : s.reconcileSlot rules wanted key = s := by
  unfold Sys.reconcileSlot
  split
  · next session heq => exact (hslot session heq).elim
  · rfl

/-- Only the slot's own session can change, and it keeps its epoch. -/
theorem reconcileSlot_slots (rules : Rules K T D S) (wanted : List (T × D)) (key other : K) (s : Sys K T D R S I) :
    (s.reconcileSlot rules wanted key).slots other = s.slots other ∨
      ∃ session, s.slots other = some (.running session) ∧ (s.reconcileSlot rules wanted key).slots other =
        some (.running (rules.reconcileSession (I := I) session (rules.wantedFor wanted key)).2) := by
  by_cases hrunning : ∃ session, s.slots key = some (.running session)
  · obtain ⟨session, hslot⟩ := hrunning
    rw [reconcileSlot_running hslot]
    by_cases heq : other = key
    · subst heq
      exact .inr ⟨session, hslot, Function.update_self ..⟩
    · exact .inl (Function.update_of_ne heq _ _)
  · rw [reconcileSlot_idle fun session hslot => hrunning ⟨session, hslot⟩]
    exact .inl rfl

omit [DecidableEq K] in
/-- A slot whose session is replaced by itself reconciled, if at all. -/
theorem keeps_of_reconciled (rules : Rules K T D S) (hunprocessed : s'.unprocessed = s.unprocessed)
    (hnext : s.nextEpoch ≤ s'.nextEpoch)
    (hslots : ∀ key, s'.slots key = s.slots key ∨ ∃ session wanted, s.slots key = some (.running session) ∧
      s'.slots key = some (.running (rules.reconcileSession (I := I) session wanted).2)) :
    Keeps s s' ∧ ∀ key, s'.owed key = s.owed key := by
  refine ⟨⟨fun key => ?_, hunprocessed, hnext, fun key session hslot hphase => ?_⟩, fun key => ?_⟩
  · obtain hsame | ⟨session, wanted, hslot, hafter⟩ := hslots key
    · rw [Sys.epoch, hsame, Sys.epoch]
    · rw [Sys.epoch, hafter, Sys.epoch, hslot]
      exact congrArg some (reconcileSession_epoch (I := I) rules session wanted)
  · obtain hsame | ⟨session', wanted, hslot', hafter⟩ := hslots key
    · rw [hsame, hslot]
    · cases hslot.symm.trans hslot'
      rw [hafter, reconcileSession_draining rules hphase]
  · obtain hsame | ⟨session, wanted, hslot, hafter⟩ := hslots key
    · rw [Sys.owed, hsame, Sys.owed]
    · rw [Sys.owed, hafter, Sys.owed, hslot]
      rfl

theorem reconcileSlot_keeps (rules : Rules K T D S) (wanted : List (T × D)) (key : K) (s : Sys K T D R S I) :
    Keeps s (s.reconcileSlot rules wanted key) ∧
      ∀ other, (s.reconcileSlot rules wanted key).owed other = s.owed other := by
  have hrest : (s.reconcileSlot rules wanted key).unprocessed = s.unprocessed ∧
      s.nextEpoch ≤ (s.reconcileSlot rules wanted key).nextEpoch := by
    unfold Sys.reconcileSlot
    split <;> exact ⟨rfl, Nat.le_refl _⟩
  refine keeps_of_reconciled rules hrest.1 hrest.2 fun other => ?_
  obtain hsame | ⟨session, hslot, hafter⟩ := reconcileSlot_slots rules wanted key other s
  · exact .inl hsame
  · exact .inr ⟨session, _, hslot, hafter⟩

theorem reconcileSessions_keeps (rules : Rules K T D S) (wanted : List (T × D)) (s : Sys K T D R S I) :
    Keeps s (s.reconcileSessions rules wanted) ∧ ∀ key, (s.reconcileSessions rules wanted).owed key = s.owed key := by
  refine keeps_of_reconciled rules rfl (Nat.le_refl _) fun key => ?_
  obtain hsame | ⟨session, hslot, hafter⟩ := reconcileSlot_slots rules wanted key key s
  · exact .inl hsame
  · exact .inr ⟨session, _, hslot, hafter⟩

omit [DecidableEq T] [DecidableEq D] in
theorem retainRecoveries_keeps (rules : Rules K T D S) (published : List (T × D)) (s : Sys K T D R S I) :
    Keeps s (s.retainRecoveries rules published) ∧
      ∀ key, (s.retainRecoveries rules published).owed key = s.owed key := by
  refine ⟨⟨fun key => ?_, rfl, Nat.le_refl _, fun key session hslot _ => ?_⟩, fun key => ?_⟩
  · simp only [Sys.epoch, Sys.retainRecoveries]
    split
    · next recovery hslot =>
      rw [hslot, CaptureRecovery.keep_epoch]
      rfl
    · rfl
  · simp only [Sys.retainRecoveries, hslot]
  · simp only [Sys.owed, Sys.retainRecoveries]
    split
    · next recovery hslot =>
      rw [hslot, CaptureRecovery.keep_owed]
      split <;> rfl
    · rfl

omit [DecidableEq K] [DecidableEq T] [DecidableEq D] in
theorem expeditePendingRestores_keeps (now : Nat) (s : Sys K T D R S I) :
    Keeps s (s.expeditePendingRestores now) ∧ ∀ key, (s.expeditePendingRestores now).owed key = s.owed key := by
  refine ⟨⟨fun key => ?_, rfl, Nat.le_refl _, fun key session hslot _ => ?_⟩, fun key => ?_⟩
  · simp only [Sys.epoch, Sys.expeditePendingRestores]
    split
    · next recovery hslot => rw [hslot]; rfl
    · rfl
  · simp only [Sys.expeditePendingRestores, hslot]
  · simp only [Sys.owed, Sys.expeditePendingRestores]
    split
    · next recovery hslot =>
      rw [hslot]
      simp [CaptureSlot.owed, Option.map_map, Function.comp_def]
    · rfl

/-- What a retry leaves of a restore that is owed: it stays, or its retry ended, with a token or restored. -/
def Retries (turn : Turn K R) (s s' : Sys K T D R S I) : Prop :=
  ∀ key, s'.owed key = s.owed key ∨ ∃ token, s.owed key = some token ∧ s'.owed key = turn.retry key token

omit [DecidableEq K] [DecidableEq T] [DecidableEq D] in
theorem retryPendingRestores_keeps (turn : Turn K R) (s : Sys K T D R S I) :
    Keeps s (s.retryPendingRestores turn) ∧ Retries turn s (s.retryPendingRestores turn) := by
  refine ⟨⟨fun key => ?_, rfl, Nat.le_refl _, fun key session hslot _ => ?_⟩, fun key => ?_⟩
  · simp only [Sys.epoch, Sys.retryPendingRestores]
    split
    · next recovery hslot =>
      rw [hslot]
      split
      · split
        · exact CaptureRecovery.keep_epoch _
        · rfl
      · rfl
    · rfl
  · simp only [Sys.retryPendingRestores, hslot]
  · simp only [Sys.owed, Sys.retryPendingRestores]
    split
    · next recovery hslot =>
      rw [hslot]
      split
      · next pending hpending =>
        split
        · refine .inr ⟨pending.token, by simp [CaptureSlot.owed, hpending], ?_⟩
          rw [CaptureRecovery.keep_owed, Option.map_map]
          exact Option.map_id'
        · exact .inl rfl
      · exact .inl rfl
    · exact .inl rfl

/-! ## Spawning -/

/-- Steps that only take slots that run nothing and owe nothing. -/
structure Spawns (s s' : Sys K T D R S I) : Prop where
  inv : Inv s → Inv s'
  owed : ∀ key, s'.owed key = s.owed key
  running : ∀ key session, s.slots key = some (.running session) → s'.slots key = some (.running session)
  fresh : ∀ key epoch, (key, epoch) ∈ s'.unprocessed →
    (key, epoch) ∈ s.unprocessed ∨ s.epoch key = none ∧ s.owed key = none

omit [DecidableEq K] [DecidableEq T] [DecidableEq D] in
theorem Spawns.refl (s : Sys K T D R S I) : Spawns s s := ⟨id, fun _ => rfl, fun _ _ h => h, fun _ _ h => .inl h⟩

omit [DecidableEq K] [DecidableEq T] [DecidableEq D] in
theorem epoch_eq_some {epoch : Nat} :
    s.epoch key = some epoch ↔ ∃ session, s.slots key = some (.running session) ∧ session.id.epoch = epoch := by
  unfold Sys.epoch
  rw [Option.bind_eq_some_iff]
  constructor
  · rintro ⟨slot, hslot, hepoch⟩
    cases slot with
    | running session => exact ⟨session, hslot, Option.some.inj hepoch⟩
    | recovering recovery => cases hepoch
  · rintro ⟨session, hslot, rfl⟩
    exact ⟨_, hslot, rfl⟩

omit [DecidableEq K] [DecidableEq T] [DecidableEq D] in
theorem Spawns.trans {s'' : Sys K T D R S I} (h : Spawns s s') (h' : Spawns s' s'') : Spawns s s'' where
  inv := h'.inv ∘ h.inv
  owed key := (h'.owed key).trans (h.owed key)
  running key session hslot := h'.running key session (h.running key session hslot)
  fresh key epoch hmem := by
    obtain hold | ⟨hidle, howed⟩ := h'.fresh key epoch hmem
    · exact h.fresh key epoch hold
    · refine .inr ⟨?_, (h.owed key).symm.trans howed⟩
      refine Option.eq_none_iff_forall_ne_some.2 fun running hrunning => ?_
      obtain ⟨session, hslot, -⟩ := epoch_eq_some.1 hrunning
      have hstill := epoch_eq_some.2 ⟨session, h.running key session hslot, rfl⟩
      rw [hidle] at hstill
      cases hstill

omit [DecidableEq T] [DecidableEq D] in
/-- A free slot is taken by a recovery that owes nothing, or by a session of its own. -/
theorem spawns_update {slot : CaptureSlot T D R} (hidle : s.epoch key = none) (howed : s.owed key = none)
    (hslots : s'.slots = Function.update s.slots key (some slot)) (hslot : slot.owed = none)
    (hunprocessed : s'.unprocessed = slot.epoch.toList.map (fun epoch => (key, epoch)) ++ s.unprocessed)
    (hnext : s.nextEpoch ≤ s'.nextEpoch)
    (hminted : ∀ epoch, slot.epoch = some epoch → epoch = s.nextEpoch ∧ s.nextEpoch < s'.nextEpoch) : Spawns s s' := by
  have hepoch : ∀ other, s'.epoch other = if other = key then slot.epoch else s.epoch other := by
    intro other
    rw [Sys.epoch, hslots, Function.update_apply]
    split <;> rfl
  refine ⟨fun hinv => ⟨fun other epoch => ?_, ?_, fun session hsession => ?_⟩, fun other => ?_,
    fun other session hother => ?_, fun other epoch hmem => ?_⟩
  · rw [hunprocessed, hepoch, List.mem_append, hinv.running]
    by_cases heq : other = key
    · subst heq
      simp [hidle]
    · simp [heq, Ne.symm heq]
  · rw [hunprocessed]
    cases hrunning : slot.epoch with
    | none => exact hinv.nodup
    | some epoch =>
      refine List.nodup_cons.2 ⟨fun hmem => ?_, hinv.nodup⟩
      have hlt := hinv.minted _ hmem
      have heq := (hminted epoch hrunning).1
      simp only at hlt
      omega
  · rw [hunprocessed, List.mem_append, List.mem_map] at hsession
    obtain ⟨epoch, hrunning, rfl⟩ | hold := hsession
    · obtain ⟨heq, hlt⟩ := hminted epoch (by simpa using hrunning)
      simp only
      omega
    · exact Nat.lt_of_lt_of_le (hinv.minted session hold) hnext
  · rw [Sys.owed, hslots, Function.update_apply]
    split
    · next heq =>
      rw [heq, howed]
      exact hslot
    · rfl
  · have hne : other ≠ key := by
      rintro rfl
      have hrunning := epoch_eq_some.2 ⟨session, hother, rfl⟩
      rw [hidle] at hrunning
      cases hrunning
    rw [hslots, Function.update_of_ne hne, hother]
  · rw [hunprocessed, List.mem_append, List.mem_map] at hmem
    obtain ⟨minted, -, heq⟩ | hold := hmem
    · cases heq
      exact .inr ⟨hidle, howed⟩
    · exact .inl hold

omit [DecidableEq K] [DecidableEq T] [DecidableEq D] in
theorem free_of_not_taken {now : Nat} (h : s.isTaken key now ≠ true) :
    s.epoch key = none ∧ s.owed key = none := by
  unfold Sys.isTaken at h
  unfold Sys.epoch Sys.owed
  split at h
  · exact (h rfl).elim
  · next recovery hslot =>
    simp only [CaptureRecovery.blocksRestart, ne_eq, Bool.not_eq_true, Bool.or_eq_false_iff] at h
    rw [hslot]
    refine ⟨rfl, ?_⟩
    show recovery.pendingRestore.map _ = none
    rw [Option.map_eq_none_iff]
    simpa using h.1
  · next hslot =>
    rw [hslot]
    exact ⟨rfl, rfl⟩

omit [DecidableEq T] [DecidableEq D] in
/-- **A spawn takes a slot that runs nothing and owes nothing.** -/
theorem spawnWanted_spawns (rules : Rules K T D S) (turn : Turn K R) (s : Sys K T D R S I) (plan : T × D) :
    Spawns s (s.spawnWanted rules turn plan) := by
  unfold Sys.spawnWanted
  dsimp only
  split
  · exact Spawns.refl s
  · next htaken =>
    obtain ⟨hidle, howed⟩ := free_of_not_taken htaken
    split
    · exact spawns_update hidle howed rfl rfl rfl (Nat.le_refl _) (fun _ hno => (by cases hno))
    · exact spawns_update hidle howed rfl rfl rfl (Nat.le_succ _)
        (fun epoch heq => ⟨(Option.some.inj heq).symm, Nat.lt_succ_self _⟩)

/-! ## A reconcile -/

/-- What a reconcile does to the sessions and to what is owed. -/
structure Reconciled (turn : Turn K R) (s s' : Sys K T D R S I) : Prop where
  inv : Inv s → Inv s'
  owed : Retries turn s s'
  draining : ∀ key session, s.slots key = some (.running session) → session.phase = .draining →
    s'.slots key = some (.running session)
  epoch : ∀ key epoch, s.epoch key = some epoch → s'.epoch key = some epoch
  fresh : ∀ key epoch, (key, epoch) ∈ s'.unprocessed → (key, epoch) ∈ s.unprocessed ∨
    s.epoch key = none ∧ ∀ token, s.owed key = some token → turn.retry key token = none

omit [DecidableEq T] [DecidableEq D] [DecidableEq K] in
theorem Keeps.reconciled (h : Keeps s s') (howed : Retries turn s s') :
    Reconciled turn s s' where
  inv := h.inv
  owed := howed
  draining := h.draining
  epoch key _ hepoch := (h.epoch key).trans hepoch
  fresh _ _ hmem := .inl (h.unprocessed ▸ hmem)

omit [DecidableEq T] [DecidableEq D] in
theorem spawns_foldl (rules : Rules K T D S) (turn : Turn K R) (wanted : List (T × D)) (s : Sys K T D R S I) :
    Spawns s (wanted.foldl (Sys.spawnWanted rules turn) s) := by
  induction wanted generalizing s with
  | nil => exact Spawns.refl s
  | cons plan wanted ih => exact (spawnWanted_spawns rules turn s plan).trans (ih _)

omit [DecidableEq T] [DecidableEq D] [DecidableEq K] in
/-- Spawning after the retries. -/
theorem Reconciled.spawns {s'' : Sys K T D R S I} (h : Keeps s s') (howed : Retries turn s s') (h' : Spawns s' s'') :
    Reconciled turn s s'' where
  inv := h'.inv ∘ h.inv
  owed key := by rw [h'.owed]; exact howed key
  draining key session hslot hphase := h'.running key session (h.draining key session hslot hphase)
  epoch key epoch hepoch := by
    obtain ⟨session, hslot, heq⟩ := epoch_eq_some.1 ((h.epoch key).trans hepoch)
    exact epoch_eq_some.2 ⟨session, h'.running key session hslot, heq⟩
  fresh key epoch hmem := by
    obtain hold | ⟨hidle, hnone⟩ := h'.fresh key epoch hmem
    · exact .inl (h.unprocessed ▸ hold)
    · refine .inr ⟨(h.epoch key).symm.trans hidle, fun token htoken => ?_⟩
      obtain hsame | ⟨token', htoken', hretried⟩ := howed key
      · rw [hsame, htoken] at hnone
        cases hnone
      · cases htoken.symm.trans htoken'
        exact hretried.symm.trans hnone

theorem reconcile_reconciled (rules : Rules K T D S) (turn : Turn K R) (deviceIo : Bool) (published : List (T × D))
    (s : Sys K T D R S I) : Reconciled turn s (s.reconcile rules turn deviceIo published) := by
  unfold Sys.reconcile
  split
  · exact (Keeps.refl s).reconciled fun _ => .inl rfl
  · obtain ⟨hsessions, howed⟩ := reconcileSessions_keeps rules (s.wantedSessions published) s
    obtain ⟨hretained, howed'⟩ := retainRecoveries_keeps rules published
      (s.reconcileSessions rules (s.wantedSessions published))
    have hkeeps := hsessions.trans hretained
    have hsame : ∀ key, ((s.reconcileSessions rules (s.wantedSessions published)).retainRecoveries rules published).owed
        key = s.owed key := fun key => (howed' key).trans (howed key)
    dsimp only
    split
    · exact hkeeps.reconciled fun key => .inl (hsame key)
    · split
      · obtain ⟨hretried, hretries⟩ := retryPendingRestores_keeps turn
          ((s.reconcileSessions rules (s.wantedSessions published)).retainRecoveries rules published)
        refine Reconciled.spawns (hkeeps.trans hretried) (fun key => ?_) (spawns_foldl rules turn _ _)
        rw [← hsame key]
        exact hretries key
      · exact Reconciled.spawns hkeeps (fun key => .inl (hsame key)) (spawns_foldl rules turn _ _)

theorem settle_reconciled (rules : Rules K T D S) (turn : Turn K R) (s : Sys K T D R S I) :
    Reconciled turn s (s.settle rules turn) := by
  obtain ⟨hexpedited, howed⟩ := expeditePendingRestores_keeps turn.now s
  unfold Sys.settle
  split
  · have hreconciled := reconcile_reconciled rules turn true [] (s.expeditePendingRestores turn.now)
    refine ⟨hreconciled.inv ∘ hexpedited.inv, fun key => ?_, fun key session hslot hphase => ?_,
      fun key epoch hepoch => ?_, fun key epoch hmem => ?_⟩
    · rw [← howed key]
      exact hreconciled.owed key
    · exact hreconciled.draining key session (hexpedited.draining key session hslot hphase) hphase
    · exact hreconciled.epoch key epoch ((hexpedited.epoch key).trans hepoch)
    · obtain hold | ⟨hidle, hrestored⟩ := hreconciled.fresh key epoch hmem
      · exact .inl hold
      · exact .inr ⟨(hexpedited.epoch key).symm.trans hidle, fun token htoken =>
          hrestored token ((howed key).trans htoken)⟩
  · split
    · obtain ⟨hretried, hretries⟩ := retryPendingRestores_keeps turn s
      obtain ⟨hlast, hlastOwed⟩ := expeditePendingRestores_keeps turn.now (s.retryPendingRestores turn)
      refine (hretried.trans hlast).reconciled fun key => ?_
      rw [hlastOwed]
      exact hretries key
    · exact hexpedited.reconciled fun key => .inl (howed key)

/-! ## Every event -/

theorem reconcilePublished_keeps (rules : Rules K T D S) (key : K) (s : Sys K T D R S I) :
    Keeps s (s.reconcilePublished rules key) ∧ ∀ other, (s.reconcilePublished rules key).owed other = s.owed other := by
  unfold Sys.reconcilePublished
  split
  · exact reconcileSlot_keeps rules _ key s
  · exact ⟨Keeps.refl s, fun _ => rfl⟩

/-- An input leaves the slots as the reconcile before it does. -/
theorem handleInput_eq (rules : Rules K T D S) (key : K) (event : HidppSessionId) (input : I) (s : Sys K T D R S I) :
    ∃ output, s.handleInput rules key event input = (s.reconcilePublished rules key).output key output ∧
      (s.epoch key ≠ some event.epoch → output = .cancel event) := by
  unfold Sys.handleInput
  dsimp only
  split
  · next session hslot =>
    split
    · next howns =>
      refine ⟨_, rfl, fun hstale => (hstale ?_).elim⟩
      rw [← (reconcilePublished_keeps rules key s).1.epoch key, epoch_eq_some]
      exact ⟨session, hslot, by simpa [CaptureSession.owns, HidppSessionId.sameEpoch] using howns⟩
    · exact ⟨_, rfl, fun _ => rfl⟩
  · exact ⟨_, rfl, fun _ => rfl⟩

theorem handleInput_keeps (rules : Rules K T D S) (key : K) (event : HidppSessionId) (input : I) (s : Sys K T D R S I) :
    Keeps s (s.handleInput rules key event input) ∧
      ∀ other, (s.handleInput rules key event input).owed other = s.owed other := by
  obtain ⟨output, heq, -⟩ := handleInput_eq rules key event input s
  obtain ⟨hkeeps, howed⟩ := reconcilePublished_keeps rules key s
  rw [heq]
  exact ⟨hkeeps.trans ⟨fun _ => rfl, rfl, Nat.le_refl _, fun _ _ hslot _ => hslot⟩, howed⟩

omit [DecidableEq T] [DecidableEq D] in
/-- **The completion of another epoch leaves the manager as it is.** -/
theorem handleDone_stale (h : s.epoch key ≠ some done.epoch) (pendingRestore : Option R) (now : Nat) :
    s.handleDone key done pendingRestore now = s := by
  unfold Sys.handleDone
  dsimp only
  split
  · rfl
  · next slot hslot =>
    cases slot with
    | recovering recovery => rfl
    | running session =>
      have hother : session.owns done = false := by
        simp only [CaptureSession.owns, HidppSessionId.sameEpoch, decide_eq_false_iff_not]
        exact fun heq => h (epoch_eq_some.2 ⟨session, hslot, heq⟩)
      simp [CaptureSlot.complete, CaptureSession.completion, hother]

omit [DecidableEq T] [DecidableEq D] in
/-- **The completion of the slot's own session leaves what it hands over.** -/
theorem handleDone_own (h : s.epoch key = some done.epoch) (pendingRestore : Option R) (now : Nat) :
    ∃ recovery : CaptureRecovery R, recovery.pendingRestore.map PendingRestore.token = pendingRestore ∧
      (s.handleDone key done pendingRestore now).slots = Function.update s.slots key recovery.keep ∧
      (s.handleDone key done pendingRestore now).nextEpoch = s.nextEpoch := by
  obtain ⟨session, hslot, hepoch⟩ := epoch_eq_some.1 h
  have howns : session.owns done = true := by simp [CaptureSession.owns, HidppSessionId.sameEpoch, hepoch]
  refine ⟨⟨pendingRestore.map fun token => ⟨token, now + retryDelay⟩,
    if session.isActive then if s.deviceIo then some (now + retryDelay) else none else none⟩, ?_, ?_, ?_⟩
  · simp [Option.map_map, Function.comp_def]
  all_goals simp [Sys.handleDone, hslot, CaptureSlot.complete, CaptureSession.completion, howns, Sys.output]

/-- How the retry of a restore ended in an event: with a token still owed, or restored. -/
def Event.retried (e : Event K T D R I) (key : K) (token : R) : Option (Option R) :=
  match e with
  | .reconcile turn | .settle turn => some (turn.retry key token)
  | _ => none

/-- One event respects the slots. -/
structure SafeStep (rules : Rules K T D S) (s : Sys K T D R S I) (e : Event K T D R I) (s' : Sys K T D R S I) :
    Prop where
  /-- A session is spawned once its predecessor's completion is processed and nothing is owed. -/
  spawned : ∀ key epoch, (key, epoch) ∈ s'.unprocessed → (key, epoch) ∉ s.unprocessed →
    (∀ other, (key, other) ∉ s.unprocessed) ∧ ∀ token, s.owed key = some token → e.retried key token = some none
  /-- A session's own completion alone processes it. -/
  processed : ∀ key epoch, (key, epoch) ∈ s.unprocessed → (key, epoch) ∉ s'.unprocessed →
    ∃ session task now, e = .done key session task now ∧ session.epoch = epoch
  /-- A restore is owed until a retry of it ends, and then as the retry says. -/
  owed : ∀ key token, s.owed key = some token →
    s'.owed key = some token ∨ ∃ outcome, e.retried key token = some outcome ∧ s'.owed key = outcome
  /-- The restore that a session's own completion hands over is owed. -/
  handed : ∀ key session token now, e = .done key session (.returned (some token)) now →
    s.epoch key = some session.epoch → s'.owed key = some token
  /-- The completion of another epoch changes nothing. -/
  completion : ∀ key session task now, e = .done key session task now → s.epoch key ≠ some session.epoch → s' = s
  /-- The input of another epoch brings the slot's own session in line, as every input does, and cancels what its epoch
  holds. -/
  input : ∀ key session input, e = .input key session input → s.epoch key ≠ some session.epoch →
    s' = (s.reconcilePublished rules key).output key (.cancel session)
  /-- A retiring session stays as it is until its own completion. -/
  retiring : ∀ key session, s.slots key = some (.running session) → session.phase = .draining →
    s'.slots key = some (.running session) ∨
      ∃ done task now, e = .done key done task now ∧ done.epoch = session.id.epoch

/-- An event that settles no completion, reconciles at most one session on an input, and spawns and restores nothing. -/
theorem SafeStep.of_keeps (h : Keeps s s') (howed : ∀ key, s'.owed key = s.owed key)
    (hdone : ∀ key session task now, e ≠ .done key session task now)
    (hinput : ∀ key session input, e = .input key session input → s' = s.handleInput rules key session input) :
    SafeStep rules s e s' where
  spawned key epoch hmem hno := (hno (h.unprocessed ▸ hmem)).elim
  processed key epoch hmem hno := (hno (h.unprocessed ▸ hmem)).elim
  owed key token htoken := .inl ((howed key).trans htoken)
  handed key session token now he := (hdone _ _ _ _ he).elim
  completion key session task now he := (hdone _ _ _ _ he).elim
  input key session input he hstale := by
    obtain ⟨output, heq, hcancel⟩ := handleInput_eq rules key session input s
    rw [hinput key session input he, heq, hcancel hstale]
  retiring key session hslot hphase := .inl (h.draining key session hslot hphase)

theorem SafeStep.of_reconciled (hinv : Inv s) (h : Reconciled turn s s') (he : e = .reconcile turn ∨ e = .settle turn) :
    SafeStep rules s e s' := by
  have hretried : ∀ key token, e.retried key token = some (turn.retry key token) := by
    obtain rfl | rfl := he <;> exact fun _ _ => rfl
  constructor
  case spawned =>
    intro key epoch hmem hno
    obtain hold | ⟨hidle, hrestored⟩ := h.fresh key epoch hmem
    · exact (hno hold).elim
    · refine ⟨fun other hother => ?_, fun token htoken => by rw [hretried, hrestored token htoken]⟩
      rw [hinv.running, hidle] at hother
      cases hother
  case processed =>
    intro key epoch hmem hno
    exact (hno (((h.inv hinv).running _ _).2 (h.epoch key epoch ((hinv.running _ _).1 hmem)))).elim
  case owed =>
    intro key token htoken
    obtain hsame | ⟨token', htoken', hafter⟩ := h.owed key
    · exact .inl (hsame.trans htoken)
    · cases htoken.symm.trans htoken'
      exact .inr ⟨_, hretried key token, hafter⟩
  case retiring => exact fun key session hslot hphase => .inl (h.draining key session hslot hphase)
  all_goals
    obtain rfl | rfl := he <;> exact fun _ _ _ => by simp

omit [DecidableEq T] [DecidableEq D] in
/-- A completion: the sessions and the restores after it. -/
theorem done_own (hinv : Inv s) (h : s.epoch key = some done.epoch) (task : TaskEnd R) (now : Nat) :
    let s' := { s.handleDone key done (settleCaptureTask task) now with
      unprocessed := s.unprocessed.erase (key, done.epoch) }
    Inv s' ∧ s'.owed key = settleCaptureTask task ∧ ∀ other, other ≠ key → s'.slots other = s.slots other := by
  intro s'
  obtain ⟨recovery, htoken, hslots, hnext⟩ := handleDone_own h (settleCaptureTask task) now
  have hself : s'.slots key = recovery.keep := by
    show (s.handleDone key done (settleCaptureTask task) now).slots key = _
    rw [hslots, Function.update_self]
  have hother : ∀ other, other ≠ key → s'.slots other = s.slots other := fun other hne => by
    show (s.handleDone key done (settleCaptureTask task) now).slots other = _
    rw [hslots, Function.update_of_ne hne]
  refine ⟨⟨fun other epoch => ?_, hinv.nodup.erase _, fun session hsession => ?_⟩, ?_, hother⟩
  · rw [hinv.nodup.mem_erase_iff, hinv.running, Sys.epoch, Sys.epoch]
    by_cases heq : other = key
    · subst heq
      rw [hself, CaptureRecovery.keep_epoch]
      refine ⟨fun hrunning => (hrunning.1 ?_).elim, fun hno => (by cases hno)⟩
      rw [Option.some.inj (hrunning.2.symm.trans h)]
    · rw [hother other heq]
      exact ⟨And.right, fun hrunning => ⟨fun hpair => heq (congrArg Prod.fst hpair), hrunning⟩⟩
  · show session.2 < (s.handleDone key done (settleCaptureTask task) now).nextEpoch
    rw [hnext]
    exact hinv.minted session (List.mem_of_mem_erase hsession)
  · rw [Sys.owed, hself, CaptureRecovery.keep_owed, htoken]

omit [DecidableEq T] [DecidableEq D] [DecidableEq K] in
/-- The slots, the sessions and the epoch alone decide. -/
theorem keeps_of_eq (hslots : s'.slots = s.slots) (hunprocessed : s'.unprocessed = s.unprocessed)
    (hnext : s.nextEpoch ≤ s'.nextEpoch) :
    Keeps s s' ∧ ∀ key, s'.owed key = s.owed key := by
  refine ⟨⟨fun key => ?_, hunprocessed, hnext, fun key session hslot _ => by rw [hslots, hslot]⟩, fun key => ?_⟩
  · rw [Sys.epoch, hslots, Sys.epoch]
  · rw [Sys.owed, hslots, Sys.owed]

omit [DecidableEq T] [DecidableEq D] [DecidableEq K] in
theorem keeps_stage {t : Sys K T D R S I} (h : Keeps s t ∧ ∀ key, t.owed key = s.owed key) (stage : Stage) :
    Keeps s { t with stage := stage } ∧ ∀ key, ({ t with stage := stage } : Sys K T D R S I).owed key = s.owed key := by
  obtain ⟨hkeeps, howed⟩ := @keeps_of_eq _ _ _ _ _ _ t { t with stage := stage } rfl rfl (Nat.le_refl _)
  exact ⟨h.1.trans hkeeps, fun key => (howed key).trans (h.2 key)⟩

/-! ## Every run -/

theorem done_safe {task : TaskEnd R} {now : Nat} (hinv : Inv s) :
    let s' := { s.handleDone key done (settleCaptureTask task) now with
      unprocessed := s.unprocessed.erase (key, done.epoch) }
    Inv s' ∧ SafeStep rules s (.done key done task now) s' := by
  intro s'
  by_cases hown : s.epoch key = some done.epoch
  · obtain ⟨hinv', howed, hother⟩ := done_own hinv hown task now
    refine ⟨hinv', fun key' epoch hmem hno => (hno (List.mem_of_mem_erase hmem)).elim, fun key' epoch hmem hno => ?_,
      fun key' token htoken => .inl ?_, ?_, ?_, (by simp), fun key' session hslot hphase => ?_⟩
    · have hpair : (key', epoch) = (key, done.epoch) :=
        Decidable.of_not_not fun hne => hno ((List.mem_erase_of_ne hne).2 hmem)
      cases hpair
      exact ⟨done, task, now, rfl, rfl⟩
    · have hne : key' ≠ key := by
        rintro rfl
        obtain ⟨session, hslot, -⟩ := epoch_eq_some.1 hown
        rw [Sys.owed, hslot] at htoken
        cases htoken
      rw [Sys.owed, hother key' hne]
      exact htoken
    · rintro _ _ token _ ⟨⟩ -
      exact howed
    · rintro _ _ _ _ ⟨⟩ hstale
      exact (hstale hown).elim
    · by_cases heq : key' = key
      · subst heq
        refine .inr ⟨done, task, now, rfl, ?_⟩
        exact Option.some.inj (hown.symm.trans (epoch_eq_some.2 ⟨session, hslot, rfl⟩))
      · exact .inl ((hother key' heq).trans hslot)
  · have hsame : s' = s := by
      have hnone : (key, done.epoch) ∉ s.unprocessed := fun hmem => hown ((hinv.running _ _).1 hmem)
      show { s.handleDone key done (settleCaptureTask task) now with
        unprocessed := s.unprocessed.erase (key, done.epoch) } = s
      rw [handleDone_stale hown, List.erase_of_not_mem hnone]
    rw [hsame]
    refine ⟨hinv, fun _ _ hmem hno => (hno hmem).elim, fun _ _ hmem hno => (hno hmem).elim,
      fun _ _ htoken => .inl htoken, ?_, fun _ _ _ _ _ _ => rfl, (by simp), fun _ _ hslot _ => .inl hslot⟩
    rintro _ _ _ _ ⟨⟩ hepoch
    exact (hown hepoch).elim

/-- **One step keeps the invariant and respects the slots.** -/
theorem step_safe (hinv : Inv s) (h : s.step rules e = some s') :
    Inv s' ∧ SafeStep rules s e s' := by
  have kept : (Keeps s s' ∧ ∀ key, s'.owed key = s.owed key) →
      (∀ key session task now, e ≠ .done key session task now) →
      (∀ key session input, e = .input key session input → s' = s.handleInput rules key session input) →
      Inv s' ∧ SafeStep rules s e s' :=
    fun hkeeps hdone hinput => ⟨hkeeps.1.inv hinv, .of_keeps hkeeps.1 hkeeps.2 hdone hinput⟩
  cases e with
  | publish plans => cases h; exact kept (keeps_of_eq rfl rfl (Nat.le_refl _)) (by simp) (by simp)
  | request requests => cases h; exact kept (keeps_of_eq rfl rfl (Nat.le_refl _)) (by simp) (by simp)
  | suspend deviceIo => cases h; exact kept (keeps_of_eq rfl rfl (Nat.le_refl _)) (by simp) (by simp)
  | mint => cases h; exact kept (keeps_of_eq rfl rfl (Nat.le_succ _)) (by simp) (by simp)
  | reconcile turn =>
    obtain ⟨-, heq⟩ := Option.ite_none_right_eq_some.1 h
    cases heq
    have hreconciled := reconcile_reconciled rules turn s.deviceIo s.published s
    exact ⟨hreconciled.inv hinv, .of_reconciled hinv hreconciled (.inl rfl)⟩
  | input key session input =>
    obtain ⟨-, heq⟩ := Option.ite_none_left_eq_some.1 h
    cases heq
    exact kept (handleInput_keeps rules key session input s) (by simp) (by rintro _ _ _ ⟨⟩; rfl)
  | done key session task now =>
    obtain ⟨-, heq⟩ := Option.ite_none_left_eq_some.1 h
    cases heq
    exact done_safe hinv
  | expedite now =>
    obtain ⟨-, heq⟩ := Option.ite_none_right_eq_some.1 h
    cases heq
    exact kept (expeditePendingRestores_keeps now s) (by simp) (by simp)
  | shutdown =>
    obtain ⟨-, heq⟩ := Option.ite_none_right_eq_some.1 h
    cases heq
    exact kept (keeps_stage (reconcileSessions_keeps rules [] s) .draining) (by simp) (by simp)
  | drained now =>
    obtain ⟨-, heq⟩ := Option.ite_none_right_eq_some.1 h
    cases heq
    refine kept (keeps_stage ?_ .settling) (by simp) (by simp)
    split
    · exact keeps_of_eq rfl rfl (Nat.le_refl _)
    · exact expeditePendingRestores_keeps now s
  | settle turn =>
    obtain ⟨-, heq⟩ := Option.ite_none_right_eq_some.1 h
    cases heq
    have hreconciled := settle_reconciled rules turn s
    exact ⟨hreconciled.inv hinv, .of_reconciled hinv hreconciled (.inr rfl)⟩

/-- For each key, one session at most whose completion is not processed. -/
def OneSession (s : Sys K T D R S I) : Prop :=
  s.unprocessed.Nodup ∧
    ∀ key epoch epoch', (key, epoch) ∈ s.unprocessed → (key, epoch') ∈ s.unprocessed → epoch = epoch'

omit [DecidableEq K] [DecidableEq T] [DecidableEq D] in
theorem Inv.oneSession (h : Inv s) : OneSession s := by
  refine ⟨h.nodup, fun key epoch epoch' hmem hmem' => ?_⟩
  rw [h.running] at hmem hmem'
  exact Option.some.inj (hmem.symm.trans hmem')

/-- In every run of a manager, a key has one session at most, and every event respects the slots. -/
def Owned (rules : Rules K T D S) (R I : Type) : Prop :=
  ∀ (events : List (Event K T D R I)) (s : Sys K T D R S I), run (Sys.step rules) {} events = some s →
    OneSession s ∧ ∀ e s', s.step rules e = some s' → SafeStep rules s e s'

/-- **Every manager of slots respects them**, whatever its rules are. -/
theorem owned (rules : Rules K T D S) (R I : Type) : Owned rules R I := by
  intro events s h
  have hstart : Inv ({} : Sys K T D R S I) :=
    ⟨fun _ _ => ⟨fun hno => (by cases hno), fun hno => (by cases hno)⟩, List.nodup_nil, fun _ hno => (by cases hno)⟩
  have hinv : Inv s := run_inv Inv (fun _ _ _ hs he => (step_safe hs he).1) events {} s hstart h
  exact ⟨hinv.oneSession, fun e s' he => (step_safe hinv he).2⟩

end

/-- **The gesture and the keyboard manager respect their slots.** -/
theorem capture_slots_owned (Spec B P B' R R' I I' : Type) [DecidableEq Spec] [DecidableEq B] [DecidableEq P]
    [DecidableEq B'] : Owned (gesture Spec B P) R I ∧ Owned (keyboard B') R' I' :=
  ⟨owned _ R I, owned _ R' I'⟩

/-! ## One mouse -/

abbrev SampleEvent := Event PhysicalDeviceKey (CaptureTarget Unit) (DispatchPlan Bool Unit) Bool Unit

abbrev SampleSys :=
  Sys PhysicalDeviceKey (CaptureTarget Unit) (DispatchPlan Bool Unit) Bool CaptureSessionStop Unit

def sampleKey : PhysicalDeviceKey := ⟨"mouse"⟩

def samplePlan (rearmGeneration : Nat) (bindings : Bool) : CaptureTarget Unit × DispatchPlan Bool Unit :=
  (⟨sampleKey, .bolt "cafe" 1, (), rearmGeneration⟩, ⟨"mouse", bindings, ()⟩)

def sampleTurn (now : Nat) : Turn PhysicalDeviceKey Bool :=
  ⟨now, true, fun _ => true, fun _ token => if token then some false else none, fun _ => now⟩

/-- The mouse reconnects: its session retires and hands over a restore, whose first retry leaves it owed. -/
def sampleRearm : List SampleEvent :=
  [.publish [samplePlan 1 true], .reconcile (sampleTurn 0), .publish [samplePlan 2 true], .reconcile (sampleTurn 1),
    .done sampleKey ⟨"mouse", 1⟩ (.returned (some true)) 2, .expedite 3, .reconcile (sampleTurn 3)]

/-- The next retry restores the firmware, and a successor runs. -/
def sampleRestored : List SampleEvent := [.expedite 4, .reconcile (sampleTurn 4)]

theorem capture_slots_owned_rearm :
    ∃ s : SampleSys, run (Sys.step (gesture Unit Bool Unit)) {} (sampleRearm ++ sampleRestored) = some s ∧
      s.unprocessed = [(sampleKey, 2)] ∧ OneSession s :=
  ⟨_, rfl, by decide +kernel,
    ((capture_slots_owned Unit Bool Unit Unit Bool Unit Unit Unit).1 (sampleRearm ++ sampleRestored) _ rfl).1⟩

/-- An input of the first session, after a plan with other bindings was published, changes what the second one
dispatches by. -/
theorem stale_input_reconciles : ∃ s s' : SampleSys,
    run (Sys.step (gesture Unit Bool Unit)) {} (sampleRearm ++ sampleRestored ++ [.publish [samplePlan 2 false]]) =
      some s ∧
    s.epoch sampleKey = some 2 ∧ s.step (gesture Unit Bool Unit) (.input sampleKey ⟨"mouse", 1⟩ ()) = some s' ∧
    s'.slots sampleKey ≠ s.slots sampleKey :=
  ⟨_, _, rfl, by decide +kernel, rfl, by decide +kernel⟩

end Capture
end OpenLogi
