import OpenLogi.Desktop.DisableKeys
import OpenLogi.Lib.Fenced
/-!
# Seats — what each device of the settings app waits for, kept by every handler

A phase waits for a write or for a reload exactly where that request is under way over the connection the device has
now, and the shared fence waits for a receipt that is under way (`Kept`).  A refresh first drops sessions and only then
the connections; in between, `opened` are the devices whose connection is yet to be dropped.
-/
namespace OpenLogi
namespace Desktop
namespace DisableKeys

open OpenLogi.Hid (DeviceRoute)
open OpenLogi.Lib (Held)

variable {Rev E : Type}

/-- The connection a request was made over. -/
def fence (context : DisableKeysRequestContext) : DeviceRoute × Nat := (context.route, context.routeGeneration)

namespace DisableKeysPersistenceStatus

/-- A phase that waits for no answer. -/
def Resting (p : DisableKeysPersistenceStatus) : Prop := p.writing = none ∧ p.reloading = none

theorem resting_idle : idle.Resting := ⟨rfl, rfl⟩

theorem resting_detached : ∀ p : DisableKeysPersistenceStatus, p.detached.Resting
  | .idle | .applying _ | .appliedNotSaved _ _ | .awaitingReload _ | .savedNotReloaded _
  | .savedNotReloadedDetached _ | .reconcileRequired _ | .awaitingReconciliationReload _ => ⟨rfl, rfl⟩

variable {p : DisableKeysPersistenceStatus}

theorem transaction_detached {token : DisableKeysRecoveryToken} (h : token ∈ p.detached.transaction) :
    token ∈ p.transaction := by
  cases p with
  | applying context => cases h
  | idle | appliedNotSaved _ _ | awaitingReload _ | savedNotReloaded _ | savedNotReloadedDetached _
  | reconcileRequired _ | awaitingReconciliationReload _ => exact h

theorem detached_idle_of (h : p = idle) : p.detached = idle := by
  subst h
  rfl

/-- A phase waits for one answer at most. -/
theorem reloading_of_writing {context : DisableKeysRequestContext} (h : p.writing = some context) :
    p.reloading = none := by
  cases p with
  | applying _ => rfl
  | idle | appliedNotSaved _ _ | awaitingReload _ | savedNotReloaded _ | savedNotReloadedDetached _
  | reconcileRequired _ | awaitingReconciliationReload _ => cases h

theorem writing_of_reloading {context : DisableKeysRequestContext} (h : p.reloading = some context) :
    p.writing = none := by
  cases p with
  | applying _ => cases h
  | idle | appliedNotSaved _ _ | awaitingReload _ | savedNotReloaded _ | savedNotReloadedDetached _
  | reconcileRequired _ | awaitingReconciliationReload _ => rfl

end DisableKeysPersistenceStatus

namespace ReloadPurpose

variable (purpose : ReloadPurpose) (context : DisableKeysRequestContext)

theorem resting_failed : (purpose.failed context).Resting := by
  cases purpose <;> exact ⟨rfl, rfl⟩

theorem transaction_failed : (purpose.failed context).transaction = some (tokenOf context) := by
  cases purpose <;> rfl

theorem writing_awaiting : (purpose.awaiting context).writing = none := by
  cases purpose <;> rfl

theorem reloading_awaiting : (purpose.awaiting context).reloading = some context := by
  cases purpose <;> rfl

theorem transaction_awaiting : (purpose.awaiting context).transaction = some (tokenOf context) := by
  cases purpose <;> rfl

theorem awaiting_ne (recovery : DisableKeysRecoveryToken) (confirmed : DisableKeysState) :
    purpose.awaiting context ≠ .appliedNotSaved recovery confirmed := by
  cases purpose <;> exact fun h => nomatch h

theorem failed_ne (recovery : DisableKeysRecoveryToken) (confirmed : DisableKeysState) :
    purpose.failed context ≠ .appliedNotSaved recovery confirmed := by
  cases purpose <;> exact fun h => nomatch h

end ReloadPurpose

open DisableKeysPersistenceStatus

/-! ## A seat -/

/-- What is under way for a device is its own, and older than what comes next. -/
structure Loose (key : DeviceKey) (nextId nextGeneration : Nat) (p : DisableKeysPersistenceStatus)
    (writes : List SetDisableKeys) (reloads : List DisableKeysRequestContext) : Prop where
  asked : ∀ c, c ∈ writes.map (·.context) ∨ c ∈ reloads →
    c.key = key ∧ c.requestId < nextId ∧ c.routeGeneration < nextGeneration
  named : ∀ token ∈ p.transaction, token.key = key

/-- A phase waits for exactly what is under way over the connection. -/
structure Waits (p : DisableKeysPersistenceStatus) (connection : Option (DeviceRoute × Nat))
    (writes : List SetDisableKeys) (reloads : List DisableKeysRequestContext) : Prop where
  write : Held fence (writes.map (·.context)) connection p.writing
  reload : Held fence reloads connection p.reloading

section
variable {key : DeviceKey} {i i' g g' : Nat} {p p' : DisableKeysPersistenceStatus}
  {connection : Option (DeviceRoute × Nat)} {writes : List SetDisableKeys} {reloads : List DisableKeysRequestContext}
  {context : DisableKeysRequestContext}

theorem Loose.grow (h : Loose key i g p writes reloads) (hi : i ≤ i') (hg : g ≤ g') :
    Loose key i' g' p writes reloads := by
  refine ⟨fun c hc => ?_, h.named⟩
  obtain ⟨hkey, hid, hgeneration⟩ := h.asked c hc
  exact ⟨hkey, by omega, by omega⟩

theorem Loose.name (h : Loose key i g p writes reloads) (hn : ∀ token ∈ p'.transaction, token.key = key) :
    Loose key i g p' writes reloads := ⟨h.asked, hn⟩

/-- The phase of a device is about a request it made. -/
theorem Loose.own (h : Loose key i g p writes reloads) (ht : p.transaction = some (tokenOf context)) :
    context.key = key := h.named _ ht

theorem Waits.rest (h : Waits p connection writes reloads) (hp : p.Resting) (hp' : p'.Resting) :
    Waits p' connection writes reloads := by
  obtain ⟨hwrite, hreload⟩ := h
  rw [hp.1] at hwrite
  rw [hp.2] at hreload
  refine ⟨?_, ?_⟩
  · rw [hp'.1]
    exact hwrite
  · rw [hp'.2]
    exact hreload

/-- Without a connection, a phase that waits for nothing is at rest whatever is under way. -/
theorem Waits.cut (hp : p.Resting) : Waits p none writes reloads := by
  refine ⟨?_, ?_⟩
  · rw [hp.1]
    exact Held.drop fence _
  · rw [hp.2]
    exact Held.drop fence _

theorem Waits.resting_of_cut (h : Waits p none writes reloads) : p.Resting := by
  refine ⟨Option.eq_none_iff_forall_ne_some.2 fun c hc => ?_, Option.eq_none_iff_forall_ne_some.2 fun c hc => ?_⟩
  · exact nomatch ((h.write c).2 hc).2
  · exact nomatch ((h.reload c).2 hc).2

theorem Waits.write_ask (h : Waits p connection writes reloads) (hp : p.Resting)
    (hc : connection = some (fence context)) (desired : UInt8) :
    Waits (.applying context) connection (⟨context, desired⟩ :: writes) reloads := by
  obtain ⟨hwrite, hreload⟩ := h
  rw [hp.1] at hwrite
  rw [hp.2] at hreload
  exact ⟨hwrite.ask hc, hreload⟩

theorem Waits.reload_ask (h : Waits p connection writes reloads) (hp : p.Resting)
    (hc : connection = some (fence context)) (purpose : ReloadPurpose) :
    Waits (purpose.awaiting context) connection writes (context :: reloads) := by
  obtain ⟨hwrite, hreload⟩ := h
  rw [hp.1] at hwrite
  rw [hp.2] at hreload
  refine ⟨?_, ?_⟩
  · rw [purpose.writing_awaiting]
    exact hwrite
  · rw [purpose.reloading_awaiting]
    exact hreload.ask hc

theorem map_heard (writes : List SetDisableKeys) (context : DisableKeysRequestContext) :
    (writes.filter fun request => request.context ≠ context).map (·.context) =
      (writes.map (·.context)).filter (· ≠ context) := by
  rw [List.filter_map]
  rfl

theorem Waits.write_answer (h : Waits p connection writes reloads) (hp : p.writing = some context) :
    Waits .idle connection (writes.filter fun request => request.context ≠ context) reloads := by
  obtain ⟨hwrite, hreload⟩ := h
  rw [hp] at hwrite
  rw [reloading_of_writing hp] at hreload
  refine ⟨?_, hreload⟩
  rw [map_heard]
  exact hwrite.answer

theorem Waits.reload_answer (h : Waits p connection writes reloads) (hp : p.reloading = some context) :
    Waits .idle connection writes (reloads.filter (· ≠ context)) := by
  obtain ⟨hwrite, hreload⟩ := h
  rw [hp] at hreload
  rw [writing_of_reloading hp] at hwrite
  exact ⟨hwrite, hreload.answer⟩

theorem Waits.write_skip (h : Waits p connection writes reloads) (hp : p.writing ≠ some context) :
    Waits p connection (writes.filter fun request => request.context ≠ context) reloads := by
  refine ⟨?_, h.reload⟩
  rw [map_heard]
  exact h.write.skip hp

theorem Waits.reload_skip (h : Waits p connection writes reloads) (hp : p.reloading ≠ some context) :
    Waits p connection writes (reloads.filter (· ≠ context)) := ⟨h.write, h.reload.skip hp⟩

/-- A connection newer than all that is under way. -/
theorem Waits.renew (hl : Loose key i g p writes reloads) (hp : p.Resting) (route : DeviceRoute) :
    Waits p (some (route, g)) writes reloads := by
  have hfence : ∀ c, c ∈ writes.map (·.context) ∨ c ∈ reloads → fence c ≠ (route, g) := by
    intro c hc heq
    have hlt : c.routeGeneration < g := (hl.asked c hc).2.2
    have hg : c.routeGeneration = g := congrArg Prod.snd heq
    omega
  refine ⟨?_, ?_⟩
  · rw [hp.1]
    exact Held.renew fun c hc => hfence c (Or.inl hc)
  · rw [hp.2]
    exact Held.renew fun c hc => hfence c (Or.inr hc)

theorem Loose.write_heard (h : Loose key i g p writes reloads) :
    Loose key i g p (writes.filter fun request => request.context ≠ context) reloads := by
  refine ⟨fun c hc => h.asked c (hc.imp_left fun hw => ?_), h.named⟩
  rw [map_heard] at hw
  exact List.mem_of_mem_filter hw

theorem Loose.reload_heard (h : Loose key i g p writes reloads) :
    Loose key i g p writes (reloads.filter (· ≠ context)) :=
  ⟨fun c hc => h.asked c (hc.imp_right List.mem_of_mem_filter), h.named⟩

end

/-! ## What every handler keeps -/

namespace AppState

/-- The connection of the active subscription. -/
def connection (s : AppState Rev E) (key : DeviceKey) : Option (DeviceRoute × Nat) := (s.reads.row key).connection

/-- The receipt the fence waits for is under way. -/
def Owes (opened : DeviceKey → Prop) (s : AppState Rev E) : ConfigReloadContext → Prop
  | .general => False
  | .disableKeys context =>
    opened context.key ∧ (s.connection context.key).isSome ∨ (s.status context.key).reloading = some context
  | .reconciled requestId => requestId ∈ s.owed.receipts

/-- A set a keyboard confirmed, or one of a file that was loaded. -/
def Known (s : AppState Rev E) (set : List DisableKey) : Prop :=
  (∃ answer ∈ s.history.answers, confirmedKnownSet answer.2 = set) ∨
    ∃ file ∈ s.history.files, ∃ key, file key = some set

/-- The sets the configuration and the recoveries hold. -/
structure Sets (s : AppState Rev E) : Prop where
  answered : ∀ key recovery confirmed, s.status key = .appliedNotSaved recovery confirmed →
    (key, confirmed) ∈ s.history.answers
  saved : ∀ row ∈ s.history.saved, ∃ state, (row.1, state) ∈ s.history.answers ∧ row.2 = confirmedKnownSet state
  known : ∀ key set, s.config.current key = some set ∨ s.config.persisted key = some set → s.Known set

structure Kept (opened : DeviceKey → Prop) (s : AppState Rev E) : Prop where
  loose : ∀ key, Loose key s.nextRequestId s.reads.nextGeneration (s.status key) (s.owed.writes key)
    (s.owed.reloads key)
  waits : ∀ key, ¬opened key → Waits (s.status key) (s.connection key) (s.owed.writes key) (s.owed.reloads key)
  generation : ∀ key c, s.connection key = some c → c.2 < s.reads.nextGeneration
  subscribed : ∀ key c, ¬opened key → s.connection key = some c →
    ∃ card, s.record key = some card ∧ card.online = true ∧ card.route = some c.1
  receipt : ∀ context, s.reads.reconciliation = .awaiting context → s.Owes opened context
  receipts : ∀ requestId ∈ s.owed.receipts, requestId < s.reads.nextReconciliationId
  writable : ∀ key, s.status key ≠ .idle → s.config.persistence ≠ .readOnly
  acked : s.reads.acked ≤ s.now
  fresh : ∀ key, (s.reads.row key).Fresh s.reads.acked
  sets : s.Sets

/-- What holds between two events. -/
abbrev Inv (s : AppState Rev E) : Prop := s.Kept fun _ => False

section
variable {s : AppState Rev E} {opened : DeviceKey → Prop}

theorem status_setSession (key k : DeviceKey) (p : DisableKeysPersistenceStatus) (error : Option DisableKeysError) :
    (s.setSession key p error).status k = if k = key then p else s.status k := by
  by_cases hk : k = key
  · subst hk
    rw [if_pos rfl]
    exact congrArg DisableKeysDeviceState.persistence (Function.update_self k _ s.session)
  · rw [if_neg hk]
    exact congrArg DisableKeysDeviceState.persistence (Function.update_of_ne hk _ s.session)

theorem setSession_setSession (key : DeviceKey) (p p' : DisableKeysPersistenceStatus)
    (error error' : Option DisableKeysError) :
    (s.setSession key p error).setSession key p' error' = s.setSession key p' error' := by
  unfold setSession
  rw [Function.update_idem]

/-- Time passes. -/
theorem Kept.tick (h : s.Kept opened) : Kept opened { s with now := s.now + 1 } :=
  ⟨h.loose, h.waits, h.generation, h.subscribed, h.receipt, h.receipts, h.writable, Nat.le_succ_of_le h.acked, h.fresh,
    ⟨h.sets.answered, h.sets.saved, h.sets.known⟩⟩

/-- **A change of the readings that leaves the connections alone**, and the fence waiting for what is under way. -/
theorem Kept.reads (h : s.Kept opened) (r : DisableKeysReads E)
    (hconnection : ∀ key, (r.row key).connection = s.connection key)
    (hgeneration : r.nextGeneration = s.reads.nextGeneration)
    (hreceipts : s.reads.nextReconciliationId ≤ r.nextReconciliationId)
    (hreceipt : ∀ context, r.reconciliation = .awaiting context → s.Owes opened context)
    (hacked : r.acked ≤ s.now) (hfresh : ∀ key, (r.row key).Fresh r.acked) : Kept opened { s with reads := r } := by
  refine ⟨fun key => ?_, fun key hkey => ?_, fun key c hc => ?_, fun key c hkey hc => ?_, fun context hcontext => ?_,
    fun requestId hid => Nat.lt_of_lt_of_le (h.receipts requestId hid) hreceipts, h.writable, hacked, hfresh,
    ⟨h.sets.answered, h.sets.saved, h.sets.known⟩⟩
  · exact (h.loose key).grow (Nat.le_refl _) (Nat.le_of_eq hgeneration.symm)
  · have hwaits := h.waits key hkey
    rw [← hconnection key] at hwaits
    exact hwaits
  · have hlt := h.generation key c ((hconnection key).symm.trans hc)
    rw [← hgeneration] at hlt
    exact hlt
  · exact h.subscribed key c hkey ((hconnection key).symm.trans hc)
  · have howes := hreceipt context hcontext
    cases context with
    | general => exact howes
    | reconciled requestId => exact howes
    | disableKeys context =>
      rw [Owes, ← hconnection context.key] at howes
      exact howes

/-- **A change of one device's phase and of what is under way for it.** -/
theorem Kept.at (h : s.Kept opened) (key : DeviceKey) (p : DisableKeysPersistenceStatus)
    (error : Option DisableKeysError) (owed : Owed)
    (hother : ∀ k, k ≠ key → owed.writes k = s.owed.writes k ∧ owed.reloads k = s.owed.reloads k)
    (hreceipts : owed.receipts = s.owed.receipts)
    (hloose : Loose key s.nextRequestId s.reads.nextGeneration p (owed.writes key) (owed.reloads key))
    (hwaits : ¬opened key → Waits p (s.connection key) (owed.writes key) (owed.reloads key))
    (hfence : ∀ context, s.reads.reconciliation = .awaiting (.disableKeys context) →
      (s.status key).reloading = some context → p.reloading = some context)
    (hwritable : p ≠ .idle → s.config.persistence ≠ .readOnly)
    (hanswered : ∀ recovery confirmed, p = .appliedNotSaved recovery confirmed →
      (key, confirmed) ∈ s.history.answers) :
    Kept opened { s.setSession key p error with owed } := by
  have hstatus : ∀ k, ({ s.setSession key p error with owed } : AppState Rev E).status k =
      if k = key then p else s.status k := fun k => status_setSession key k p error
  refine ⟨fun k => ?_, fun k hk => ?_, h.generation, h.subscribed, fun context hcontext => ?_, fun requestId hid => ?_,
    fun k hk => ?_, h.acked, h.fresh, ⟨fun k recovery confirmed hk => ?_, h.sets.saved, h.sets.known⟩⟩
  · rw [hstatus]
    split
    · rename_i hk
      subst hk
      exact hloose
    · have hloose := h.loose k
      rw [← (hother k ‹_›).1, ← (hother k ‹_›).2] at hloose
      exact hloose
  · rw [hstatus]
    split
    · rename_i hkey
      subst hkey
      exact hwaits hk
    · have hwaits := h.waits k hk
      rw [← (hother k ‹_›).1, ← (hother k ‹_›).2] at hwaits
      exact hwaits
  · have howes := h.receipt context hcontext
    cases context with
    | general => exact howes
    | reconciled requestId =>
      rw [Owes, ← hreceipts] at howes
      exact howes
    | disableKeys context =>
      rcases howes with hopened | hreload
      · exact Or.inl hopened
      · refine Or.inr ?_
        rw [hstatus]
        split
        · rename_i hkey
          rw [hkey] at hreload
          exact hfence context hcontext hreload
        · exact hreload
  · exact h.receipts requestId (hreceipts ▸ hid)
  · rw [hstatus] at hk
    split at hk
    · exact hwritable hk
    · exact h.writable k hk
  · rw [hstatus] at hk
    split at hk
    · rename_i hkey
      subst hkey
      exact hanswered recovery confirmed hk
    · exact h.sets.answered k recovery confirmed hk

end

end AppState

end DisableKeys
end Desktop
end OpenLogi
