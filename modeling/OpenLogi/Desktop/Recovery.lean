import OpenLogi.Desktop.Transactions
/-!
# Recovery — what a run of the settings app guarantees of its Disable Keys transactions

At most one transaction of a device is unsettled, a stale answer changes nothing, edits wait for what is under way and
for what is shown to be fresh, only confirmed sets are saved, and every phase has a way out (`Sound`).  A refresh that
cannot save the routes it adopted drops the sessions of the devices that its merged list leaves out, though they are
still shown; a run is sound where no such device has a transaction (`transactions_sound`), and the first one that does
may be written to twice (`dropped_session_unsound`).
-/
namespace OpenLogi
namespace Desktop
namespace DisableKeys

open OpenLogi.Hid (DeviceRoute)
open DisableKeysPersistenceStatus

variable {Rev E : Type}

/-! ## The panel's controls -/

inductive Recovery where
  | saveRetry
  | reloadRetry (enabled : Bool)
  | status
  deriving DecidableEq

def recoveryContent (persistence : DisableKeysPersistenceStatus) (online : Bool) : Option Recovery :=
  match persistence with
  | .appliedNotSaved _ _ => some .saveRetry
  | .savedNotReloaded _ | .savedNotReloadedDetached _ | .reconcileRequired _ => some (.reloadRetry online)
  | .applying _ | .awaitingReload _ | .awaitingReconciliationReload _ => some .status
  | .idle => none

def configRecoveryContent (reconciliation : ConfigReconciliation) (online : Bool) : Option Recovery :=
  match reconciliation with
  | .confirmed => none
  | .awaiting _ => some .status
  | .required _ => some (.reloadRetry online)

/-- The control of a device's panel: the transaction's own comes first. -/
def recovery (persistence : DisableKeysPersistenceStatus) (reconciliation : ConfigReconciliation) (online : Bool) :
    Option Recovery :=
  (recoveryContent persistence online).or (configRecoveryContent reconciliation online)

/-- Saves and loads go through, and the IPC worker runs. -/
def World.Good (w : World Rev) : Prop := w.written.isSome ∧ w.file.isSome ∧ w.sends = true

namespace AppState

/-! ## What is guaranteed -/

/-- The route and the generation a request carries are those of now. -/
def FencesHold (s : AppState Rev E) (context : DisableKeysRequestContext) : Prop :=
  s.recordRoute context.key = some context.route ∧ s.reads.generation context.key = some context.routeGeneration

/-- A transaction of a device that is not settled: the one of its phase, and any whose answer is to come over the
connection of now. -/
def Unsettled (s : AppState Rev E) (key : DeviceKey) (transactionId : Nat) : Prop :=
  (∃ token, (s.status key).transaction = some token ∧ token.transactionId = transactionId) ∨
  (∃ context ∈ (s.owed.writes key).map (·.context), s.FencesHold context ∧ context.requestId = transactionId) ∨
  ∃ context ∈ s.owed.reloads key, s.FencesHold context ∧ context.requestId = transactionId

/-- Nothing stands in the way of an edit, and what is shown was read or confirmed since the last acknowledgement. -/
structure Clear (s : AppState Rev E) (key : DeviceKey) : Prop where
  settled : ∀ transactionId, ¬s.Unsettled key transactionId
  confirmed : s.reads.reconciliation = .confirmed
  fresh : ∃ snapshot, s.reads.load key = .ready snapshot ∧ s.reads.acked ≤ snapshot.since

variable [ReadError E]

/-- An unsettled phase is left by whatever answer it waits for, or by the retry that its panel offers: of the save at
any time, of the reload in any state in which the device is connected. -/
def WayOut (s : AppState Rev E) (key : DeviceKey) : Prop :=
  (∃ context ∈ (s.owed.writes key).map (·.context), ∀ w result, ∃ s', s.step (.writeResult w context result) = some s' ∧
    s'.status key ≠ s.status key) ∨
  (∃ context ∈ s.owed.reloads key, ∀ w result, ∃ s', s.step (.verdict w (.disableKeys context) result) = some s' ∧
    s'.status key ≠ s.status key) ∨
  ((∀ online, recovery (s.status key) s.reads.reconciliation online = some .saveRetry) ∧
    ∀ w, w.Good → ∃ s', s.step (.retrySave w key) = some s' ∧ s'.status key ≠ s.status key) ∨
  ((∀ online, recovery (s.status key) s.reads.reconciliation online = some (.reloadRetry online)) ∧
    ∀ (t : AppState Rev E) (w : World Rev), t.status key = s.status key → t.config.isWritable →
      (t.allocate key).isSome → w.Good → ∃ t', t.step (.retryReload w key) = some t' ∧
        (t'.status key).reloading.isSome)

/-- A fence that waits is moved by whatever verdict it waits for, and a fence that does not is submitted again by the
retry that the panel of every device at rest offers. -/
structure FenceOut (s : AppState Rev E) : Prop where
  awaited : ∀ context, s.reads.reconciliation = .awaiting context → ∀ w result, ∃ s',
    s.step (.verdict w context result) = some s' ∧ s'.reads.reconciliation ≠ .awaiting context
  required : ∀ error key, s.reads.reconciliation = .required error → s.status key = .idle →
    (∀ online, recovery (s.status key) s.reads.reconciliation online = some (.reloadRetry online)) ∧
      (s.config.isWritable → ∀ w, w.Good → ∃ s', s.step (.retryReload w key) = some s' ∧
        ∃ context, s'.reads.reconciliation = .awaiting context)

structure Sound (s : AppState Rev E) : Prop where
  single : ∀ key a b, s.Unsettled key a → s.Unsettled key b → a = b
  staleWrite : ∀ w context result, ¬(s.FencesHold context ∧ (s.status context.key).writing = some context) →
    s.applyDisableKeysWriteResult w context result = s
  staleReload : ∀ w context result, ¬(s.FencesHold context ∧ (s.status context.key).reloading = some context) →
    s.applyDisableKeysReloadResult w context result = s
  staleReceipt : ∀ w requestId result, s.reads.reconciliation ≠ .awaiting (.reconciled requestId) →
    s.applyReconciledConfigReloadResult w requestId result = s
  gated : ∀ key, s.controlsEnabled key = true → s.Clear key
  edited : ∀ w desired, s.beginDisableKeysWrite w desired ≠ s →
    ∃ card, s.current = some card ∧ s.controlsEnabled card.key = true
  saved : ∀ row ∈ s.history.saved, ∃ state, (row.1, state) ∈ s.history.answers ∧ row.2 = confirmedKnownSet state
  known : ∀ key set, s.config.current key = some set ∨ s.config.persisted key = some set → s.Known set
  wayOut : ∀ key, s.status key ≠ .idle → s.WayOut key
  fenceOut : s.FenceOut

/-! ## One transaction -/

section
variable {s : AppState Rev E} {key : DeviceKey} {context : DisableKeysRequestContext}

omit [ReadError E] in
theorem transaction_of_writing {p : DisableKeysPersistenceStatus} (h : p.writing = some context) :
    p.transaction = some (tokenOf context) := by
  cases p with
  | applying _ =>
    cases h
    rfl
  | idle | appliedNotSaved _ _ | awaitingReload _ | savedNotReloaded _ | savedNotReloadedDetached _
  | reconcileRequired _ | awaitingReconciliationReload _ => cases h

omit [ReadError E] in
theorem transaction_of_reloading {p : DisableKeysPersistenceStatus} (h : p.reloading = some context) :
    p.transaction = some (tokenOf context) := by
  cases p with
  | awaitingReload _ | awaitingReconciliationReload _ =>
    cases h
    rfl
  | idle | applying _ | appliedNotSaved _ _ | savedNotReloaded _ | savedNotReloadedDetached _ | reconcileRequired _ =>
    cases h

omit [ReadError E] in
/-- **An unsettled transaction is the one of the phase.** -/
theorem Inv.unsettled (h : s.Inv) {transactionId : Nat} (hu : s.Unsettled key transactionId) :
    ∃ token, (s.status key).transaction = some token ∧ token.transactionId = transactionId := by
  rcases hu with hphase | ⟨context, hmem, hfences, rfl⟩ | ⟨context, hmem, hfences, rfl⟩
  · exact hphase
  · obtain ⟨rfl, -⟩ := (h.loose key).asked context (Or.inl hmem)
    have hconnection := (h.connection_iff not_false _ _).2 hfences
    have hwriting := ((h.waits context.key not_false).write context).1 ⟨hmem, hconnection⟩
    exact ⟨_, transaction_of_writing hwriting, rfl⟩
  · obtain ⟨rfl, -⟩ := (h.loose key).asked context (Or.inr hmem)
    have hconnection := (h.connection_iff not_false _ _).2 hfences
    have hreloading := ((h.waits context.key not_false).reload context).1 ⟨hmem, hconnection⟩
    exact ⟨_, transaction_of_reloading hreloading, rfl⟩

omit [ReadError E] in
theorem Inv.single (h : s.Inv) {a b : Nat} (ha : s.Unsettled key a) (hb : s.Unsettled key b) : a = b := by
  obtain ⟨token, htoken, rfl⟩ := h.unsettled ha
  obtain ⟨other, hother, rfl⟩ := h.unsettled hb
  rw [Option.some.inj (htoken.symm.trans hother)]

omit [ReadError E] in
theorem isReady_iff {α : Type} {load : Load α} : isReady load = true ↔ ∃ value, load = .ready value := by
  cases load with
  | ready value => exact ⟨fun _ => ⟨value, rfl⟩, fun _ => rfl⟩
  | unknown | loading | failed _ | unsupported _ => exact ⟨fun h => (nomatch h), fun ⟨_, h⟩ => nomatch h⟩

omit [ReadError E] in
/-- **Where the controls are enabled, nothing stands in the way of an edit.** -/
theorem Inv.gated (h : s.Inv) (henabled : s.controlsEnabled key = true) : s.Clear key := by
  obtain ⟨⟨⟨⟨hconfirmed, -⟩, -⟩, hready⟩, hidle⟩ := controlsEnabled_iff.1 henabled
  refine ⟨fun transactionId hu => ?_, hconfirmed, ?_⟩
  · obtain ⟨token, htoken, -⟩ := h.unsettled hu
    rw [hidle] at htoken
    cases htoken
  · obtain ⟨snapshot, hload⟩ := isReady_iff.1 hready
    exact ⟨snapshot, hload, (h.fresh key).load hload⟩

variable {w : World Rev} {recovery : DisableKeysRecoveryToken}

omit [ReadError E] in
/-- A disabled control begins nothing. -/
theorem edited_of_begin {desired : UInt8} (hne : s.beginDisableKeysWrite w desired ≠ s) :
    ∃ card, s.current = some card ∧ s.controlsEnabled card.key = true := by
  unfold beginDisableKeysWrite at hne
  cases hcurrent : s.current with
  | none =>
    rw [hcurrent] at hne
    exact absurd rfl hne
  | some card =>
    rw [hcurrent] at hne
    refine ⟨card, rfl, ?_⟩
    by_contra henabled
    exact hne (if_neg henabled)

/-! ## Ways out -/

omit [ReadError E] in
theorem status_requestDisableKeysReload (w : World Rev) (purpose : ReloadPurpose) :
    (s.requestDisableKeysReload w purpose context).status context.key =
      if w.sends then purpose.awaiting context else purpose.failed context := by
  unfold requestDisableKeysReload
  dsimp only
  split
  · exact (status_setSession context.key context.key _ _).trans (if_pos rfl)
  · rw [setSession_over]
    exact (status_setSession context.key context.key _ _).trans (if_pos rfl)

omit [ReadError E] in
/-- A confirmed write leaves its phase. -/
theorem status_applyConfirmedWrite (w : World Rev) (confirmed : DisableKeysState) :
    ((s.applyConfirmedWrite w context confirmed).status context.key).writing = none := by
  unfold applyConfirmedWrite
  dsimp only
  split
  · rw [status_requestDisableKeysReload]
    split <;> rfl
  · rw [status_setSession, if_pos rfl]
    rfl

omit [ReadError E] in
/-- What adopting the file leaves of a transaction. -/
theorem status_reconcileDisableKeysConfig (w : World Rev) (recovery : DisableKeysRecoveryToken) :
    ((s.reconcileDisableKeysConfig w recovery).status recovery.key).reloading = none ∨
      ∃ next : DisableKeysRequestContext, next.requestId = s.nextRequestId ∧
        ((s.reconcileDisableKeysConfig w recovery).status recovery.key).reloading = some next := by
  have hnext : (s.reconcileExternalConfig w).2.nextRequestId = s.nextRequestId := by
    rw [reconcileExternalConfig_frame]
  unfold reconcileDisableKeysConfig
  generalize s.reconcileExternalConfig w = result at hnext
  obtain ⟨loaded, t⟩ := result
  cases loaded with
  | false =>
    dsimp only
    rw [status_setSession, if_pos rfl]
    exact Or.inl rfl
  | true =>
    dsimp only
    cases hallocate : t.allocate recovery.key with
    | none =>
      dsimp only
      rw [status_setSession, if_pos rfl]
      exact Or.inl rfl
    | some pair =>
      obtain ⟨next, t'⟩ := pair
      obtain ⟨-, hkey, hid, -⟩ := allocate_some hallocate
      dsimp only
      rw [← hkey, status_requestDisableKeysReload]
      split
      · exact Or.inr ⟨next, hid.trans hnext, rfl⟩
      · exact Or.inl rfl

/-- **A write result leads out of the phase that waits for it.** -/
theorem Inv.write_out (h : s.Inv) (hp : (s.status context.key).writing = some context) (w : World Rev)
    (result : Except E DisableKeysState) : ∃ s', s.apply (.writeResult w context result) = some s' ∧
      s'.status context.key ≠ s.status context.key := by
  have hfences := Inv.fences_write h hp
  have hmatch : transactionFencesMatch ((s.heardWrite context).recordRoute context.key)
      ((s.heardWrite context).reads.generation context.key) ((s.heardWrite context).status context.key).writing
      context = true := hfences
  have hwrite := (h.waits context.key not_false).write
  rw [hp] at hwrite
  refine ⟨_, by rw [AppState.apply, if_pos hwrite.under_way.1], fun hsame => ?_⟩
  have hnone : (((s.heardWrite context).applyDisableKeysWriteResult w context result).status
      context.key).writing = none := by
    unfold applyDisableKeysWriteResult
    dsimp only
    rw [if_pos hmatch]
    cases result with
    | error error =>
      dsimp only
      rw [status_setSession, if_pos rfl]
      rfl
    | ok confirmed => exact status_applyConfirmedWrite w confirmed
  rw [hsame, hp] at hnone
  cases hnone

/-- **A verdict leads out of the phase that waits for it**, if only into the wait for another. -/
theorem Inv.reload_out (h : s.Inv) (hp : (s.status context.key).reloading = some context) (w : World Rev)
    (result : Verdict) : ∃ s', s.apply (.verdict w (.disableKeys context) result) = some s' ∧
      (s'.status context.key).reloading ≠ some context := by
  have hfences := Inv.fences_reload h hp
  have hmatch : transactionFencesMatch ((s.heardReload context).recordRoute context.key)
      ((s.heardReload context).reads.generation context.key) ((s.heardReload context).status context.key).reloading
      context = true := hfences
  have hreload := (h.waits context.key not_false).reload
  rw [hp] at hreload
  have hrecent := ((h.loose context.key).asked context (Or.inr hreload.under_way.1)).2.1
  refine ⟨_, by rw [AppState.apply, if_pos hreload.under_way.1], ?_⟩
  unfold applyDisableKeysReloadResult
  dsimp only
  rw [if_pos hmatch]
  cases result with
  | error error =>
    dsimp only
    rw [status_setSession, if_pos rfl, (ReloadPurpose.resting_failed _ _).2]
    intro hc
    cases hc
  | ok verdict =>
    cases verdict with
    | accepted =>
      dsimp only
      rw [status_setSession, if_pos rfl]
      intro hc
      cases hc
    | fileChangedAfterSave =>
      rcases status_reconcileDisableKeysConfig (s := s.heardReload context) w (tokenOf context) with hnone | hnext
      · intro hc
        cases hnone.symm.trans hc
      · obtain ⟨next, hid, hnext⟩ := hnext
        intro hc
        obtain rfl := Option.some.inj (hnext.symm.trans hc)
        have hsame : next.requestId = s.nextRequestId := hid
        omega

/-! ### Retries -/

omit [ReadError E] in
theorem refresh_of_good {c : LiveConfig Rev} (hw : w.Good) (hc : c.persistence ≠ .readOnly) :
    ∃ config, c.refresh w.file = some config := by
  obtain ⟨file, hfile⟩ := Option.isSome_iff_exists.1 hw.2.1
  unfold LiveConfig.refresh
  split
  · rw [hfile]
    exact ⟨_, rfl⟩
  · exact absurd ‹_› hc
  · exact ⟨_, rfl⟩

omit [ReadError E] in
theorem persist_of_good {c : LiveConfig Rev} (hw : w.Good) (hc : c.persistence ≠ .readOnly) :
    (c.persist w.written).1 = true := by
  obtain ⟨file, hfile⟩ := Option.isSome_iff_exists.1 hw.1
  unfold LiveConfig.persist
  rw [hfile]
  cases hpersistence : c.persistence with
  | userFile => rfl
  | readOnly => exact absurd hpersistence hc
  | memoryOnly => rfl

omit [ReadError E] in
theorem reconcileExternalConfig_of_good (hw : w.Good) (hc : s.config.persistence ≠ .readOnly) :
    (s.reconcileExternalConfig w).1 = true := by
  obtain ⟨config, hconfig⟩ := refresh_of_good hw hc
  unfold reconcileExternalConfig
  rw [hconfig]

omit [ReadError E] in
theorem allocate_isSome : (s.allocate key).isSome = true ↔
    ((((s.record key).filter (·.online)).bind (·.route)).isSome = true ∧ (s.reads.generation key).isSome = true) := by
  unfold allocate
  change (((s.record key).filter (·.online)).bind _).isSome = true ↔ _
  cases (s.record key).filter (·.online) with
  | none => exact ⟨fun h => (nomatch h), fun h => nomatch h.1⟩
  | some record =>
    change (record.route.bind _).isSome = true ↔ record.route.isSome = true ∧ _
    cases record.route with
    | none => exact ⟨fun h => (nomatch h), fun h => nomatch h.1⟩
    | some route =>
      change ((s.reads.generation key).bind _).isSome = true ↔ _
      cases s.reads.generation key with
      | none => exact ⟨fun h => (nomatch h), fun h => nomatch h.2⟩
      | some generation => exact ⟨fun _ => ⟨rfl, rfl⟩, fun _ => rfl⟩

omit [ReadError E] in
/-- The connection of a device outlives the adoption of the file. -/
theorem allocate_reconcileExternalConfig (w : World Rev) (h : (s.allocate key).isSome) :
    ((s.reconcileExternalConfig w).2.allocate key).isSome := by
  rw [allocate_isSome] at h ⊢
  have hgeneration : (s.reconcileExternalConfig w).2.reads.generation key = s.reads.generation key := by
    have hrow : (s.reconcileExternalConfig w).2.reads.row key = (s.reads.row key).invalidateSnapshot := by
      unfold reconcileExternalConfig
      cases s.config.refresh w.file <;> rfl
    rw [DisableKeysReads.generation, DisableKeysReads.generation, hrow, Row.invalidateSnapshot, Option.map_map]
    rfl
  have hrecord : (s.reconcileExternalConfig w).2.record key = s.record key := by
    rw [reconcileExternalConfig_frame]
    rfl
  rw [hgeneration, hrecord]
  exact h

omit [ReadError E] in
theorem reloading_of_sent (hw : w.Good) (purpose : ReloadPurpose) :
    ((s.requestDisableKeysReload w purpose context).status context.key).reloading.isSome := by
  rw [status_requestDisableKeysReload, if_pos hw.2.2, purpose.reloading_awaiting]
  rfl

omit [ReadError E] in
theorem reconcileDisableKeysConfig_out (hw : w.Good) (hc : s.config.persistence ≠ .readOnly)
    (ha : (s.allocate recovery.key).isSome) :
    ((s.reconcileDisableKeysConfig w recovery).status recovery.key).reloading.isSome := by
  have hloaded := reconcileExternalConfig_of_good hw hc
  have hallocate := allocate_reconcileExternalConfig w ha
  unfold reconcileDisableKeysConfig
  generalize s.reconcileExternalConfig w = result at hloaded hallocate
  obtain ⟨loaded, t⟩ := result
  obtain rfl := hloaded
  obtain ⟨⟨context, t'⟩, hsome⟩ := Option.isSome_iff_exists.1 hallocate
  have hkey := (allocate_some hsome).2.1
  dsimp only at hsome ⊢
  rw [hsome]
  dsimp only
  rw [← hkey]
  exact reloading_of_sent hw .reconciled

omit [ReadError E] in
theorem retrySavedReload_out (hw : w.Good) (hkey : recovery.key = key) (ha : (s.allocate key).isSome) :
    ((s.retrySavedReload w key recovery).status key).reloading.isSome := by
  subst hkey
  obtain ⟨⟨context, t'⟩, hsome⟩ := Option.isSome_iff_exists.1 ha
  have hkey := (allocate_some hsome).2.1
  unfold retrySavedReload
  rw [hsome]
  dsimp only
  rw [← hkey]
  exact reloading_of_sent hw .saved

omit [ReadError E] in
/-- **The reload retry leads out of the phases it is offered in**, once the device is connected. -/
theorem retryReload_out (hw : w.Good) (hc : s.config.persistence ≠ .readOnly)
    (hretry : recoveryContent (s.status key) true = some (.reloadRetry true))
    (hnamed : ∀ token ∈ (s.status key).transaction, token.key = key) (ha : (s.allocate key).isSome) :
    ((s.retryDisableKeysReload w key).status key).reloading.isSome := by
  unfold retryDisableKeysReload
  cases hstatus : s.status key with
  | savedNotReloaded context =>
    rw [hstatus] at hnamed
    exact retrySavedReload_out hw (hnamed _ rfl) ha
  | savedNotReloadedDetached recovery =>
    rw [hstatus] at hnamed
    exact retrySavedReload_out hw (hnamed _ rfl) ha
  | reconcileRequired recovery =>
    rw [hstatus] at hnamed
    obtain rfl := hnamed recovery rfl
    exact reconcileDisableKeysConfig_out hw hc ha
  | idle | applying _ | appliedNotSaved _ _ | awaitingReload _ | awaitingReconciliationReload _ =>
    rw [hstatus] at hretry
    cases hretry

omit [ReadError E] in
/-- **The save retry leads out of the phase it is offered in.** -/
theorem retrySave_out (hw : w.Good) (hc : s.config.persistence ≠ .readOnly) {confirmed : DisableKeysState}
    (hstatus : s.status key = .appliedNotSaved recovery confirmed) :
    (s.retryDisableKeysSave w key).status key ≠ .appliedNotSaved recovery confirmed := by
  have hloaded := reconcileExternalConfig_of_good hw hc
  have hframe : (s.reconcileExternalConfig w).2.config.persistence ≠ .readOnly := by
    rw [reconcileExternalConfig_persistence]
    exact hc
  unfold retryDisableKeysSave
  rw [hstatus]
  dsimp only
  generalize s.reconcileExternalConfig w = result at hloaded hframe
  obtain ⟨loaded, t⟩ := result
  obtain rfl := hloaded
  have hlanded : (t.saveDisabledKeys w recovery.key (confirmedKnownSet confirmed)).1 = true :=
    persist_of_good (c := t.config.setDisabledKeys recovery.key (confirmedKnownSet confirmed)) hw hframe
  dsimp only
  generalize t.saveDisabledKeys w recovery.key (confirmedKnownSet confirmed) = result at hlanded
  obtain ⟨landed, u⟩ := result
  obtain rfl := hlanded
  dsimp only
  cases hallocate : u.allocate key with
  | none =>
    dsimp only
    rw [status_setSession, if_pos rfl]
    exact fun hc => nomatch hc
  | some pair =>
    obtain ⟨context, u'⟩ := pair
    obtain ⟨-, hkey, -⟩ := allocate_some hallocate
    dsimp only
    rw [← hkey]
    intro hsame
    have hsome : ((u'.requestDisableKeysReload w .saved context).status context.key).reloading.isSome :=
      reloading_of_sent hw .saved
    rw [hsame] at hsome
    cases hsome

/-! ### The fence -/

omit [ReadError E] in
theorem fence_requestDisableKeysReload (w : World Rev) (purpose : ReloadPurpose)
    (hfence : s.reads.reconciliation ≠ .confirmed) :
    (s.requestDisableKeysReload w purpose context).reads.reconciliation =
      if w.sends then .awaiting (.disableKeys context) else .required .agentUnavailable := by
  have htrack : s.reads.trackConfigReload (.disableKeys context) =
      { s.reads with reconciliation := .awaiting (.disableKeys context) } := if_pos hfence
  have hfail : (s.reads.trackConfigReload (.disableKeys context)).failConfigReload (.disableKeys context)
      .agentUnavailable = { s.reads with reconciliation := .required .agentUnavailable } := by
    rw [failConfigReload_trackConfigReload, if_neg hfence]
  unfold requestDisableKeysReload
  dsimp only
  split
  · exact congrArg DisableKeysReads.reconciliation htrack
  · exact congrArg DisableKeysReads.reconciliation hfail

omit [ReadError E] in
/-- The fence once the file is adopted for a transaction. -/
theorem fence_reconcileDisableKeysConfig (w : World Rev) (recovery : DisableKeysRecoveryToken)
    (hold : context.requestId < s.nextRequestId) :
    (s.reconcileDisableKeysConfig w recovery).reads.reconciliation ≠ .awaiting (.disableKeys context) := by
  have hnext : (s.reconcileExternalConfig w).2.nextRequestId = s.nextRequestId := by
    rw [reconcileExternalConfig_frame]
  obtain ⟨error, hrequired⟩ := reconcileExternalConfig_required (s := s) w
  unfold reconcileDisableKeysConfig
  generalize s.reconcileExternalConfig w = result at hnext hrequired
  obtain ⟨loaded, t⟩ := result
  have hkept : t.reads.reconciliation ≠ .awaiting (.disableKeys context) :=
    fun hc => nomatch hrequired.symm.trans hc
  cases loaded with
  | false => exact hkept
  | true =>
    dsimp only
    cases hallocate : t.allocate recovery.key with
    | none => exact hkept
    | some pair =>
      obtain ⟨next, t'⟩ := pair
      obtain ⟨rfl, -, hid, -⟩ := allocate_some hallocate
      have hclosed : t.reads.reconciliation ≠ .confirmed := fun hc => nomatch hrequired.symm.trans hc
      dsimp only
      rw [fence_requestDisableKeysReload (s := { t with nextRequestId := t.nextRequestId + 1 }) w .reconciled hclosed]
      split
      · intro hc
        cases hc
        have hsame : context.requestId = s.nextRequestId := hid.trans hnext
        omega
      · exact fun hc => nomatch hc

omit [ReadError E] in
/-- The fence once the file is adopted and submitted. -/
theorem fence_reconcileSavedConfig (w : World Rev) : (∃ error,
      (s.reconcileSavedConfig w).reads.reconciliation = .required error) ∨
    (s.reconcileSavedConfig w).reads.reconciliation = .awaiting (.reconciled s.reads.nextReconciliationId) := by
  have hnext : (s.reconcileExternalConfig w).2.reads.nextReconciliationId = s.reads.nextReconciliationId := by
    unfold reconcileExternalConfig
    cases s.config.refresh w.file <;> rfl
  have hrequired := reconcileExternalConfig_required (s := s) w
  unfold reconcileSavedConfig
  generalize s.reconcileExternalConfig w = result at hnext hrequired
  obtain ⟨loaded, t⟩ := result
  cases loaded with
  | false => exact Or.inl hrequired
  | true =>
    obtain ⟨error, hrequired⟩ := hrequired
    have hfence : t.trackReceipt.2.reads.reconciliation = .awaiting (.reconciled t.reads.nextReconciliationId) := by
      have hne : t.reads.nextConfigReload.2.reconciliation ≠ .confirmed := fun hc => nomatch hrequired.symm.trans hc
      exact congrArg DisableKeysReads.reconciliation (if_pos hne)
    dsimp only
    unfold sendConfigReload
    split
    · exact Or.inr (hfence.trans (congrArg (fun id => ConfigReconciliation.awaiting (.reconciled id)) hnext))
    · rw [hfence]
      refine Or.inl ⟨.agentUnavailable, ?_⟩
      exact congrArg DisableKeysReads.reconciliation (if_pos (decide_eq_true hfence))

omit [ReadError E] in
theorem reconcileSavedConfig_out (hw : w.Good) (hc : s.config.persistence ≠ .readOnly) :
    ∃ context, (s.reconcileSavedConfig w).reads.reconciliation = .awaiting context := by
  have hloaded := reconcileExternalConfig_of_good hw hc
  obtain ⟨error, hrequired⟩ := reconcileExternalConfig_required (s := s) w
  unfold reconcileSavedConfig
  generalize s.reconcileExternalConfig w = result at hloaded hrequired
  obtain ⟨loaded, t⟩ := result
  obtain rfl := hloaded
  have hne : t.reads.nextConfigReload.2.reconciliation ≠ .confirmed := fun hc => nomatch hrequired.symm.trans hc
  refine ⟨.reconciled t.reads.nextReconciliationId, ?_⟩
  dsimp only
  unfold sendConfigReload
  rw [if_pos hw.2.2]
  exact congrArg DisableKeysReads.reconciliation (if_pos hne)

/-- **A verdict moves the fence that waits for it**, if only into the wait for another. -/
theorem Inv.fence_out (h : s.Inv) {c : ConfigReloadContext} (hfence : s.reads.reconciliation = .awaiting c)
    (w : World Rev) (result : Verdict) : ∃ s', s.apply (.verdict w c result) = some s' ∧
      s'.reads.reconciliation ≠ .awaiting c := by
  have howes := h.receipt c hfence
  have hmatch : s.reads.configReloadMatches c = true := decide_eq_true hfence
  have hfail : ∀ error, (s.reads.failConfigReload c error).reconciliation = .required error :=
    fun error => congrArg DisableKeysReads.reconciliation (if_pos hmatch)
  have hconfirm : (s.reads.confirmConfigReload c s.now).reconciliation = .confirmed :=
    congrArg DisableKeysReads.reconciliation (if_pos hmatch)
  cases c with
  | general => exact howes.elim
  | disableKeys context =>
    have hp := howes.resolve_left fun hopened => hopened.1
    have hmatches := Inv.fences_reload h hp
    have hfences : transactionFencesMatch ((s.heardReload context).recordRoute context.key)
        ((s.heardReload context).reads.generation context.key) ((s.heardReload context).status context.key).reloading
        context = true := hmatches
    have hreload := (h.waits context.key not_false).reload
    rw [hp] at hreload
    have hrecent := ((h.loose context.key).asked context (Or.inr hreload.under_way.1)).2.1
    refine ⟨_, by rw [AppState.apply, if_pos hreload.under_way.1], ?_⟩
    unfold applyDisableKeysReloadResult
    dsimp only
    rw [if_pos hfences]
    cases result with
    | error error =>
      intro hc
      cases (hfail .reloadFailed).symm.trans hc
    | ok verdict =>
      cases verdict with
      | accepted => exact (h.acceptReload context).2
      | fileChangedAfterSave =>
        exact fence_reconcileDisableKeysConfig (s := s.heardReload context) w (tokenOf context) hrecent
  | reconciled requestId =>
    have hmem : requestId ∈ s.owed.receipts := howes
    have hid := h.receipts requestId hmem
    refine ⟨_, by rw [AppState.apply, if_pos hmem], ?_⟩
    unfold applyReconciledConfigReloadResult
    have hmatch' : (s.heardReceipt requestId).reads.configReloadMatches (.reconciled requestId) = true := hmatch
    rw [if_pos hmatch']
    cases result with
    | error error =>
      intro hc
      cases (hfail .reloadFailed).symm.trans hc
    | ok verdict =>
      cases verdict with
      | accepted =>
        intro hc
        cases hconfirm.symm.trans hc
      | fileChangedAfterSave =>
        intro hc
        rcases fence_reconcileSavedConfig (s := s.heardReceipt requestId) w with ⟨error, hrequired⟩ | hnext
        · cases hrequired.symm.trans hc
        · have hsame : ConfigReconciliation.awaiting (.reconciled s.reads.nextReconciliationId) =
              .awaiting (.reconciled requestId) := hnext.symm.trans hc
          cases hsame
          exact absurd hid (Nat.lt_irrefl _)

/-! ## Every run -/

/-- **An unsettled phase has a way out.** -/
theorem Inv.wayOut (h : s.Inv) (hp : s.status key ≠ .idle) : s.WayOut key := by
  have hnamed := (h.loose key).named
  have hwritable := h.writable key hp
  -- the clock of the step is no part of what the handlers read
  have htick := h.tick
  have hwrite : ∀ context, (s.status key).writing = some context → s.WayOut key := by
    intro context hcontext
    have hkey : context.key = key := (h.loose key).own (transaction_of_writing hcontext)
    subst hkey
    have hwaits := (h.waits context.key not_false).write
    rw [hcontext] at hwaits
    exact Or.inl ⟨context, hwaits.under_way.1, fun w result => Inv.write_out htick hcontext w result⟩
  have hreload : ∀ context, (s.status key).reloading = some context → s.WayOut key := by
    intro context hcontext
    have hkey : context.key = key := (h.loose key).own (transaction_of_reloading hcontext)
    subst hkey
    have hwaits := (h.waits context.key not_false).reload
    rw [hcontext] at hwaits
    refine Or.inr (Or.inl ⟨context, hwaits.under_way.1, fun w result => ?_⟩)
    obtain ⟨s', hs, hne⟩ := Inv.reload_out htick hcontext w result
    exact ⟨s', hs, fun hsame => hne (hsame ▸ hcontext)⟩
  have hretry : (∀ online, recoveryContent (s.status key) online = some (.reloadRetry online)) → s.WayOut key := by
    intro hretry
    refine Or.inr (Or.inr (Or.inr ⟨fun online => ?_, fun t w hsame ht ha hw => ⟨_, rfl, ?_⟩⟩))
    · unfold recovery
      rw [hretry]
      rfl
    · refine retryReload_out (s := { t with now := t.now + 1 }) hw (of_decide_eq_true ht) ?_ ?_ ?_
      · exact (congrArg (recoveryContent · true) hsame).trans (hretry true)
      · intro token htoken
        refine hnamed token ?_
        rw [← hsame]
        exact htoken
      · rw [allocate_isSome] at ha ⊢
        exact ha
  cases hstatus : s.status key with
  | idle => exact absurd hstatus hp
  | applying context => exact hwrite context (by rw [hstatus]; rfl)
  | awaitingReload context => exact hreload context (by rw [hstatus]; rfl)
  | awaitingReconciliationReload context => exact hreload context (by rw [hstatus]; rfl)
  | savedNotReloaded context => exact hretry fun online => by rw [hstatus]; rfl
  | savedNotReloadedDetached recovery => exact hretry fun online => by rw [hstatus]; rfl
  | reconcileRequired recovery => exact hretry fun online => by rw [hstatus]; rfl
  | appliedNotSaved recovery confirmed =>
    refine Or.inr (Or.inr (Or.inl ⟨fun online => ?_, fun w hw => ⟨_, rfl, ?_⟩⟩))
    · rw [hstatus]
      rfl
    · rw [hstatus]
      exact retrySave_out (s := { s with now := s.now + 1 }) hw hwritable hstatus

theorem Inv.fenceOut (h : s.Inv) : s.FenceOut := by
  refine ⟨fun c hc w result => Inv.fence_out h.tick hc w result, fun error key hrequired hidle => ⟨fun online => ?_,
    fun hwritable w hw => ⟨_, rfl, ?_⟩⟩⟩
  · rw [hidle, hrequired]
    rfl
  · have hretry : ({ s with now := s.now + 1 } : AppState Rev E).retryDisableKeysReload w key =
        ({ s with now := s.now + 1 } : AppState Rev E).reconcileSavedConfig w := by
      unfold retryDisableKeysReload
      rw [show ({ s with now := s.now + 1 } : AppState Rev E).status key = .idle from hidle]
      dsimp only
      rw [hrequired]
    rw [hretry]
    exact reconcileSavedConfig_out (s := { s with now := s.now + 1 }) hw (of_decide_eq_true hwritable)

theorem Inv.sound (h : s.Inv) : s.Sound where
  single _ _ _ := Inv.single h
  staleWrite w context result hstale := by
    by_cases hp : (s.status context.key).writing = some context
    · refine absurd ⟨(transactionFencesMatch_iff.1 (Inv.fences_write h hp)).1, hp⟩ hstale
    · exact applyDisableKeysWriteResult_stale w result hp
  staleReload w context result hstale := by
    by_cases hp : (s.status context.key).reloading = some context
    · refine absurd ⟨(transactionFencesMatch_iff.1 (Inv.fences_reload h hp)).1, hp⟩ hstale
    · exact applyDisableKeysReloadResult_stale w result hp
  staleReceipt w requestId result := applyReconciledConfigReloadResult_stale w requestId result
  gated _ := Inv.gated h
  edited _ _ := edited_of_begin
  saved := h.sets.saved
  known := h.sets.known
  wayOut _ := Inv.wayOut h
  fenceOut := Inv.fenceOut h

end

end AppState

/-- **Every run is sound in every state** it reaches, where no refresh whose adopted routes cannot be saved leaves out a
device with an unsettled transaction. -/
theorem transactions_sound [ReadError E] (settings : Settings) (persistence : ConfigPersistence) (file : Rev)
    (cameras : Catalog) (es : List (Event Rev E))
    (hattended : Lib.Along AppState.step AppState.Attended (AppState.new settings persistence file cameras) es) :
    Lib.EveryState AppState.step AppState.Sound (AppState.new settings persistence file cameras) es := by
  intro pre s' hpre hrun
  obtain ⟨post, rfl⟩ := hpre
  have hinv := Lib.along_inv AppState.Inv AppState.Attended (fun _ e _ hi hg hs => AppState.inv_step hi e hg hs) pre _ _
    (AppState.inv_new settings persistence file cameras) ((Lib.along_append pre post _).1 hattended).1 hrun
  exact AppState.Inv.sound hinv

/-! ## A keyboard on a receiver -/

/-- An error of a read or a write, by its text. -/
structure Refusal where
  text : String

instance : ReadError Refusal where
  isPermanent _ := false
  text := Refusal.text

def keyboardKey : DeviceKey := ⟨"k1"⟩

def keyboardRoute : DeviceRoute := .bolt "a1b2" 1

/-- The keyboard alone on the list. -/
def keyboardList : Catalog where
  cards := [⟨keyboardKey, "k1", some keyboardRoute, true, true, true, 0, 0⟩]
  own _ ha _ hb _ _ := (List.mem_singleton.1 ha).trans (List.mem_singleton.1 hb).symm

def emptyList : Catalog where
  cards := []
  own _ ha := absurd ha List.not_mem_nil

def mouse : Card := ⟨⟨"m1"⟩, "m1", some (.direct 0x046d 0xb034), true, true, false, 0, 0⟩

def mouseList : Catalog where
  cards := [mouse]
  own _ ha _ hb _ _ := (List.mem_singleton.1 ha).trans (List.mem_singleton.1 hb).symm

/-- The mouse beside the keyboard, which the snapshot misses and the list keeps for a while. -/
def bothList : Catalog where
  cards := keyboardList.cards ++ [mouse]
  own := by decide

def sameSets : OtherEdit where
  edit := id
  keeps _ key _ h := ⟨key, h⟩

/-- Everything goes through, at revision 1. -/
def fine : World Nat := ⟨some 1, some (fun _ => none, 1), true⟩

/-- The file cannot be written. -/
def unwritable : World Nat := ⟨none, some (fun _ => none, 1), true⟩

/-- The keyboard is read, and a key is disabled. -/
def editing : List (Event Nat Refusal) :=
  [.refresh fine (.adopted sameSets) keyboardList, .load, .fetchBegins keyboardKey,
    .fetchEnds keyboardKey ⟨0, 3⟩ (.ok ⟨0x1f, 0⟩), .observed keyboardKey 0, .edit fine 1]

/-- The route of a mouse cannot be saved while the keyboard is missed for good; it is seen again as the route is saved,
and another key is disabled. -/
def droppedSession : List (Event Nat Refusal) :=
  [.refresh unwritable (.adopted sameSets) bothList, .refresh unwritable (.adopted sameSets) bothList,
    .refresh unwritable (.adopted sameSets) mouseList, .refresh fine (.adopted sameSets) bothList, .edit fine 2]

theorem transactions_sound_editing : Lib.EveryState AppState.step AppState.Sound
    (AppState.new (fun _ => none) .userFile 0 emptyList) editing := by
  refine transactions_sound (fun _ => none) .userFile 0 emptyList editing ?_
  refine ⟨fun hlost => (nomatch hlost), fun _ _ => ⟨trivial, fun _ _ => ⟨trivial, fun _ _ => ⟨trivial, fun _ _ =>
    ⟨trivial, fun _ _ => ⟨trivial, fun _ _ => trivial⟩⟩⟩⟩⟩⟩

/-- The second write begins while the first is under way: a keyboard that is still shown has two transactions. -/
theorem dropped_session_unsound :
    ¬ ∀ (settings : Settings) (persistence : ConfigPersistence) (file : Nat) (cameras : Catalog)
      (es : List (Event Nat Refusal)), Lib.EveryState AppState.step AppState.Sound
        (AppState.new settings persistence file cameras) es := by
  intro h
  have hrun : (Lib.run AppState.step (AppState.new (fun _ => none) .userFile 0 emptyList)
      (editing ++ droppedSession)).any (fun s =>
        decide ((s.owed.writes keyboardKey).map (·.context) =
            [⟨keyboardKey, keyboardRoute, 0, 1⟩, ⟨keyboardKey, keyboardRoute, 0, 0⟩] ∧
          s.recordRoute keyboardKey = some keyboardRoute ∧ s.reads.generation keyboardKey = some 0)) = true := by
    decide +kernel
  obtain ⟨s, hs, hstate⟩ := (Option.any_eq_true _ _).1 hrun
  obtain ⟨hwrites, hroute, hgeneration⟩ := of_decide_eq_true hstate
  have hsound := h (fun _ => none) .userFile 0 emptyList _ _ _ (List.prefix_refl _) hs
  have hunsettled : ∀ transactionId, transactionId = 0 ∨ transactionId = 1 →
      s.Unsettled keyboardKey transactionId := by
    intro transactionId hid
    refine Or.inr (Or.inl ⟨⟨keyboardKey, keyboardRoute, 0, transactionId⟩, ?_, ⟨hroute, hgeneration⟩, rfl⟩)
    rw [hwrites]
    rcases hid with rfl | rfl
    · exact List.mem_cons_of_mem _ List.mem_cons_self
    · exact List.mem_cons_self
  exact absurd (hsound.single keyboardKey 0 1 (hunsettled 0 (Or.inl rfl)) (hunsettled 1 (Or.inr rfl))) (by decide)

end DisableKeys
end Desktop
end OpenLogi
