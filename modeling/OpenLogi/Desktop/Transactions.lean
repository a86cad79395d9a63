import OpenLogi.Desktop.Seats
/-!
# Transactions — every handler keeps the seats
-/
namespace OpenLogi
namespace Desktop
namespace DisableKeys

open OpenLogi.Hid (DeviceRoute)
open DisableKeysPersistenceStatus

variable {Rev E : Type}

namespace AppState

section
variable {s : AppState Rev E} {opened : DeviceKey → Prop} {key : DeviceKey} {context : DisableKeysRequestContext}

/-! ## What is under way -/

theorem writes_heardWrite (context : DisableKeysRequestContext) : (s.heardWrite context).owed.writes context.key =
    (s.owed.writes context.key).filter fun request => request.context ≠ context :=
  Function.update_self context.key _ s.owed.writes

theorem reloads_heardReload (context : DisableKeysRequestContext) :
    (s.heardReload context).owed.reloads context.key = (s.owed.reloads context.key).filter (· ≠ context) :=
  Function.update_self context.key _ s.owed.reloads

theorem writes_oweWrite (request : SetDisableKeys) : (s.oweWrite request).owed.writes request.context.key =
    request :: s.owed.writes request.context.key :=
  Function.update_self request.context.key _ s.owed.writes

theorem reloads_oweReload (context : DisableKeysRequestContext) :
    (s.oweReload context).owed.reloads context.key = context :: s.owed.reloads context.key :=
  Function.update_self context.key _ s.owed.reloads

/-! ## Phases -/

/-- A phase at rest becomes another. -/
theorem Kept.rest (h : s.Kept opened) {p : DisableKeysPersistenceStatus} (error : Option DisableKeysError)
    (hp : (s.status key).Resting) (hp' : p.Resting) (hnamed : ∀ token ∈ p.transaction, token.key = key)
    (hwritable : p ≠ .idle → s.config.persistence ≠ .readOnly)
    (hanswered : ∀ recovery confirmed, p = .appliedNotSaved recovery confirmed →
      (key, confirmed) ∈ s.history.answers) : (s.setSession key p error).Kept opened := by
  refine h.at key p error s.owed (fun _ _ => ⟨rfl, rfl⟩) rfl ((h.loose key).name hnamed)
    (fun hkey => (h.waits key hkey).rest hp hp') (fun c _ hc => ?_) hwritable hanswered
  rw [hp.2] at hc
  cases hc

/-- The error of a device is its own affair. -/
theorem Kept.setError (h : s.Kept opened) (key : DeviceKey) (error : Option DisableKeysError) :
    (s.setError key error).Kept opened :=
  h.at key (s.status key) error s.owed (fun _ _ => ⟨rfl, rfl⟩) rfl (h.loose key) (h.waits key) (fun _ _ hc => hc)
    (h.writable key) (h.sets.answered key)

theorem Kept.writeHeard (h : s.Kept opened) (hp : (s.status context.key).writing = some context)
    (error : Option DisableKeysError) : Kept opened ((s.heardWrite context).setSession context.key .idle error) := by
  refine h.at context.key .idle error (s.heardWrite context).owed
    (fun k hk => ⟨Function.update_of_ne hk _ s.owed.writes, rfl⟩) rfl ?_ ?_ (fun c _ hc => ?_)
    (fun hidle => absurd rfl hidle) (fun _ _ hidle => nomatch hidle)
  · rw [writes_heardWrite]
    exact (h.loose context.key).write_heard.name fun _ ht => nomatch ht
  · rw [writes_heardWrite]
    exact fun hkey => (h.waits context.key hkey).write_answer hp
  · rw [reloading_of_writing hp] at hc
    cases hc

theorem Kept.reloadHeard (h : s.Kept opened) (hp : (s.status context.key).reloading = some context)
    (hfence : s.reads.reconciliation ≠ .awaiting (.disableKeys context)) (error : Option DisableKeysError) :
    Kept opened ((s.heardReload context).setSession context.key .idle error) := by
  refine h.at context.key .idle error (s.heardReload context).owed
    (fun k hk => ⟨rfl, Function.update_of_ne hk _ s.owed.reloads⟩) rfl ?_ ?_ (fun c hc hreload => ?_)
    (fun hidle => absurd rfl hidle) (fun _ _ hidle => nomatch hidle)
  · rw [reloads_heardReload]
    exact (h.loose context.key).reload_heard.name fun _ ht => nomatch ht
  · rw [reloads_heardReload]
    exact fun hkey => (h.waits context.key hkey).reload_answer hp
  · rw [hp] at hreload
    rw [← Option.some.inj hreload] at hc
    exact absurd hc hfence

theorem setSession_self (key : DeviceKey) : s.setSession key (s.status key) (s.session key).error = s := by
  have hself : Function.update s.session key (s.session key) = s.session := Function.update_eq_self key s.session
  unfold setSession status
  rw [hself]

/-- A change of what is owed at one device. -/
theorem Kept.owing (h : s.Kept opened) (key : DeviceKey) (owed : Owed)
    (hother : ∀ k, k ≠ key → owed.writes k = s.owed.writes k ∧ owed.reloads k = s.owed.reloads k)
    (hreceipts : owed.receipts = s.owed.receipts)
    (hloose : Loose key s.nextRequestId s.reads.nextGeneration (s.status key) (owed.writes key) (owed.reloads key))
    (hwaits : ¬opened key → Waits (s.status key) (s.connection key) (owed.writes key) (owed.reloads key)) :
    Kept opened { s with owed } := by
  have hat := h.at key (s.status key) (s.session key).error owed hother hreceipts hloose hwaits (fun _ _ hc => hc)
    (h.writable key) (h.sets.answered key)
  rw [setSession_self] at hat
  exact hat

/-- The result of a write that is not waited for. -/
theorem Kept.writeSkipped (h : s.Kept opened) (hp : (s.status context.key).writing ≠ some context) :
    Kept opened (s.heardWrite context) := by
  refine h.owing context.key (s.heardWrite context).owed
    (fun k hk => ⟨Function.update_of_ne hk _ s.owed.writes, rfl⟩) rfl ?_ fun hkey => ?_
  · rw [writes_heardWrite]
    exact (h.loose context.key).write_heard
  · rw [writes_heardWrite]
    exact (h.waits context.key hkey).write_skip hp

theorem Kept.reloadSkipped (h : s.Kept opened) (hp : (s.status context.key).reloading ≠ some context) :
    Kept opened (s.heardReload context) := by
  refine h.owing context.key (s.heardReload context).owed
    (fun k hk => ⟨rfl, Function.update_of_ne hk _ s.owed.reloads⟩) rfl ?_ fun hkey => ?_
  · rw [reloads_heardReload]
    exact (h.loose context.key).reload_heard
  · rw [reloads_heardReload]
    exact (h.waits context.key hkey).reload_skip hp

/-! ## Requests -/

/-- What a request needs of the state it is made in. -/
structure Asks (s : AppState Rev E) (context : DisableKeysRequestContext) : Prop where
  connection : s.connection context.key = some (fence context)
  recent : context.requestId < s.nextRequestId

theorem Kept.asked (h : s.Kept opened) (ha : s.Asks context) {writes : List SetDisableKeys}
    {reloads : List DisableKeysRequestContext}
    (hnew : ∀ c, c ∈ writes.map (·.context) ∨ c ∈ reloads →
      c = context ∨ c ∈ (s.owed.writes context.key).map (·.context) ∨ c ∈ s.owed.reloads context.key)
    {p : DisableKeysPersistenceStatus} (hp : p.transaction = some (tokenOf context)) :
    Loose context.key s.nextRequestId s.reads.nextGeneration p writes reloads := by
  refine ⟨fun c hc => ?_, fun token ht => ?_⟩
  · rcases hnew c hc with rfl | hold
    · exact ⟨rfl, ha.recent, h.generation _ _ ha.connection⟩
    · exact (h.loose context.key).asked c hold
  · rw [hp] at ht
    cases ht
    rfl

/-- **A write is begun** from a phase at rest, over the connection of the device. -/
theorem Kept.write (h : s.Kept opened) (ha : s.Asks context) (hp : (s.status context.key).Resting)
    (hwritable : s.config.persistence ≠ .readOnly) (error : Option DisableKeysError) (desired : UInt8) :
    Kept opened ((s.setSession context.key (.applying context) error).oweWrite ⟨context, desired⟩) := by
  have hwrites : (s.oweWrite ⟨context, desired⟩).owed.writes context.key =
      ⟨context, desired⟩ :: s.owed.writes context.key := writes_oweWrite ⟨context, desired⟩
  refine h.at context.key (.applying context) error (s.oweWrite ⟨context, desired⟩).owed
    (fun k hk => ⟨Function.update_of_ne hk _ s.owed.writes, rfl⟩) rfl ?_ ?_ (fun c _ hc => ?_) (fun _ => hwritable)
    (fun _ _ hidle => nomatch hidle)
  · refine h.asked ha (fun c hc => ?_) rfl
    rw [hwrites] at hc
    rcases hc with hw | hr
    · rcases List.mem_cons.1 hw with rfl | hw
      · exact Or.inl rfl
      · exact Or.inr (Or.inl hw)
    · exact Or.inr (Or.inr hr)
  · rw [hwrites]
    exact fun hkey => (h.waits context.key hkey).write_ask hp ha.connection desired
  · rw [hp.2] at hc
    cases hc

theorem Kept.reload (h : s.Kept opened) (ha : s.Asks context) (hp : (s.status context.key).Resting)
    (hwritable : s.config.persistence ≠ .readOnly) (error : Option DisableKeysError) (purpose : ReloadPurpose) :
    Kept opened ((s.setSession context.key (purpose.awaiting context) error).oweReload context) := by
  refine h.at context.key (purpose.awaiting context) error (s.oweReload context).owed
    (fun k hk => ⟨rfl, Function.update_of_ne hk _ s.owed.reloads⟩) rfl ?_ ?_ (fun c _ hc => ?_) (fun _ => hwritable)
    (fun recovery confirmed hidle => absurd hidle (purpose.awaiting_ne context recovery confirmed))
  · refine h.asked ha (fun c hc => ?_) (purpose.transaction_awaiting context)
    rw [reloads_oweReload] at hc
    rcases hc with hw | hr
    · exact Or.inr (Or.inl hw)
    · rcases List.mem_cons.1 hr with rfl | hr
      · exact Or.inl rfl
      · exact Or.inr (Or.inr hr)
  · rw [reloads_oweReload]
    exact fun hkey => (h.waits context.key hkey).reload_ask hp ha.connection purpose
  · rw [hp.2] at hc
    cases hc

/-! ## The fence and the readings -/

/-- The fence alone moves. -/
theorem Kept.moveFence (h : s.Kept opened) (reconciliation : ConfigReconciliation)
    (howes : ∀ context, reconciliation = .awaiting context → s.Owes opened context) :
    Kept opened { s with reads := { s.reads with reconciliation } } :=
  h.reads _ (fun _ => rfl) rfl (Nat.le_refl _) howes h.acked h.fresh

theorem Kept.failConfigReload (h : s.Kept opened) (c : ConfigReloadContext) (error : DisableKeysError) :
    Kept opened { s with reads := s.reads.failConfigReload c error } := by
  unfold DisableKeysReads.failConfigReload
  split
  · exact h.moveFence _ fun _ hc => nomatch hc
  · exact h

variable {c : ConfigReloadContext} {s' : AppState Rev E} {card : Card} {merged : Catalog}

theorem Kept.trackConfigReload (h : s.Kept opened) (howes : s.Owes opened c) :
    Kept opened { s with reads := s.reads.trackConfigReload c } := by
  unfold DisableKeysReads.trackConfigReload
  split
  · refine h.moveFence _ fun _ hc => ?_
    cases hc
    exact howes
  · exact h

/-- **One row changes**, its connection aside. -/
theorem Kept.change (h : s.Kept opened) (key : DeviceKey) (f : Row E → Row E)
    (hconnection : (f (s.reads.row key)).connection = s.connection key)
    (hfresh : (f (s.reads.row key)).Fresh s.reads.acked) :
    Kept opened { s with reads := s.reads.change key f } := by
  refine h.reads _ (fun k => ?_) rfl (Nat.le_refl _) h.receipt h.acked fun k => ?_
  · rw [DisableKeysReads.row_change]
    split
    · rename_i hk
      subst hk
      exact hconnection
    · rfl
  · rw [DisableKeysReads.row_change]
    split
    · exact hfresh
    · exact h.fresh k

theorem Kept.invalidateSnapshot (h : s.Kept opened) (key : DeviceKey) :
    Kept opened { s with reads := s.reads.invalidateSnapshot key } :=
  h.change key _ (Row.connection_invalidateSnapshot _) ((h.fresh key).invalidateSnapshot _)

theorem Kept.invalidateAllSnapshots (h : s.Kept opened) {acked : Nat} (hacked : acked ≤ s.now)
    (reconciliation : ConfigReconciliation)
    (howes : ∀ context, reconciliation = .awaiting context → s.Owes opened context) :
    Kept opened { s with reads := { s.reads with reconciliation, acked }.invalidateAllSnapshots } :=
  h.reads _ (fun _ => Row.connection_invalidateSnapshot _) rfl (Nat.le_refl _) howes hacked
    fun key => (h.fresh key).invalidateSnapshot _

theorem Kept.confirmConfigReload (h : s.Kept opened) (c : ConfigReloadContext) :
    Kept opened { s with reads := s.reads.confirmConfigReload c s.now } := by
  unfold DisableKeysReads.confirmConfigReload
  split
  · refine h.invalidateAllSnapshots (Nat.le_refl _) _ fun _ hc => ?_
    cases hc
  · exact h

/-! ## Saved sets -/

/-- **The configuration and what the app was told change**: every set they hold is known. -/
theorem Kept.store (h : s.Kept opened) (config : LiveConfig Rev) (history : History)
    (hpersistence : config.persistence = s.config.persistence)
    (hanswers : ∀ answer ∈ s.history.answers, answer ∈ history.answers)
    (hsaved : ∀ row ∈ history.saved, ∃ state, (row.1, state) ∈ history.answers ∧ row.2 = confirmedKnownSet state)
    (hknown : ∀ key set, config.current key = some set ∨ config.persisted key = some set →
      ({ s with config, history } : AppState Rev E).Known set) : Kept opened { s with config, history } := by
  refine ⟨h.loose, h.waits, h.generation, h.subscribed, h.receipt, h.receipts, fun key hkey => ?_, h.acked, h.fresh,
    ⟨fun key recovery confirmed hkey => hanswers _ (h.sets.answered key recovery confirmed hkey), hsaved, hknown⟩⟩
  exact fun hread => h.writable key hkey (hpersistence.symm.trans hread)

/-! ## Allocating a context -/

theorem allocate_some (h : s.allocate key = some (context, s')) :
    s' = { s with nextRequestId := s.nextRequestId + 1 } ∧ context.key = key ∧ context.requestId = s.nextRequestId ∧
      s.recordRoute key = some context.route ∧ s.reads.generation key = some context.routeGeneration := by
  unfold allocate at h
  obtain ⟨record, hrecord, h⟩ := Option.bind_eq_some_iff.1 h
  obtain ⟨route, hroute, h⟩ := Option.bind_eq_some_iff.1 h
  obtain ⟨generation, hgeneration, h⟩ := Option.bind_eq_some_iff.1 h
  cases h
  refine ⟨rfl, rfl, rfl, ?_, hgeneration⟩
  rw [recordRoute, (Option.filter_eq_some_iff.1 hrecord).1]
  exact hroute

/-- **The fences of a device are its connection.** -/
theorem Kept.connection_iff (h : s.Kept opened) (hkey : ¬opened key) (route : DeviceRoute) (generation : Nat) :
    s.connection key = some (route, generation) ↔
      s.recordRoute key = some route ∧ s.reads.generation key = some generation := by
  constructor
  · intro hc
    obtain ⟨card, hrecord, -, hroute⟩ := h.subscribed key _ hkey hc
    obtain ⟨read, hread, heq⟩ := Option.map_eq_some_iff.1 hc
    cases heq
    refine ⟨?_, ?_⟩
    · rw [recordRoute, hrecord]
      exact hroute
    · rw [DisableKeysReads.generation, hread]
      rfl
  · rintro ⟨hroute, hgeneration⟩
    obtain ⟨read, hread, rfl⟩ := Option.map_eq_some_iff.1 hgeneration
    have hc : s.connection key = some (read.route, read.routeGeneration) := by
      rw [connection, Row.connection, hread]
      rfl
    obtain ⟨card, hrecord, -, hcard⟩ := h.subscribed key _ hkey hc
    rw [recordRoute, hrecord] at hroute
    have hsame : read.route = route := Option.some.inj (hcard.symm.trans hroute)
    rw [hc, hsame]

theorem Kept.grow (h : s.Kept opened) : Kept opened { s with nextRequestId := s.nextRequestId + 1 } :=
  ⟨fun key => (h.loose key).grow (Nat.le_succ _) (Nat.le_refl _), h.waits, h.generation, h.subscribed, h.receipt,
    h.receipts, h.writable, h.acked, h.fresh, ⟨h.sets.answered, h.sets.saved, h.sets.known⟩⟩

/-- An allocated context is one a request may be made with. -/
theorem Kept.allocated (h : s.Kept opened) (hkey : ¬opened key) (ha : s.allocate key = some (context, s')) :
    s'.Kept opened ∧ s'.Asks context ∧ context.key = key := by
  obtain ⟨rfl, rfl, hid, hroute, hgeneration⟩ := allocate_some ha
  refine ⟨h.grow, ⟨(h.connection_iff hkey _ _).2 ⟨hroute, hgeneration⟩, ?_⟩, rfl⟩
  rw [hid]
  exact Nat.lt_succ_self _

/-! ## Reload requests -/

theorem setSession_over (p p' : DisableKeysPersistenceStatus) (error error' : Option DisableKeysError)
    (reads : DisableKeysReads E) :
    ({ s.setSession key p error with reads } : AppState Rev E).setSession key p' error' =
      { s.setSession key p' error' with reads } := by
  unfold setSession
  rw [Function.update_idem]

variable (w : World Rev)

/-- A request replaces the phase of its device. -/
theorem requestDisableKeysReload_setSession (purpose : ReloadPurpose) (p : DisableKeysPersistenceStatus)
    (error : Option DisableKeysError) :
    (s.setSession context.key p error).requestDisableKeysReload w purpose context =
      s.requestDisableKeysReload w purpose context := by
  unfold requestDisableKeysReload
  rw [setSession_setSession]

theorem failConfigReload_trackConfigReload (r : DisableKeysReads E) (c : ConfigReloadContext)
    (error : DisableKeysError) : (r.trackConfigReload c).failConfigReload c error =
      if r.reconciliation = .confirmed then r else { r with reconciliation := .required error } := by
  by_cases hr : r.reconciliation = .confirmed
  · have hmatch : r.configReloadMatches c = false := by
      rw [DisableKeysReads.configReloadMatches, hr]
      rfl
    rw [DisableKeysReads.trackConfigReload, if_neg (not_not_intro hr), DisableKeysReads.failConfigReload, hmatch,
      if_pos hr]
    rfl
  · rw [DisableKeysReads.trackConfigReload, if_pos hr, if_neg hr, DisableKeysReads.failConfigReload, if_pos]
    exact decide_eq_true rfl

theorem Kept.untracked (h : s.Kept opened) (c : ConfigReloadContext) (error : DisableKeysError) :
    Kept opened { s with reads := (s.reads.trackConfigReload c).failConfigReload c error } := by
  rw [failConfigReload_trackConfigReload]
  split
  · exact h
  · exact h.moveFence _ fun _ hc => nomatch hc

/-- **A reload is asked for** from a phase at rest. -/
theorem Kept.requestReload (h : s.Kept opened) (ha : s.Asks context) (hp : (s.status context.key).Resting)
    (hwritable : s.config.persistence ≠ .readOnly) (w : World Rev) (purpose : ReloadPurpose) :
    (s.requestDisableKeysReload w purpose context).Kept opened := by
  unfold requestDisableKeysReload
  cases w.sends with
  | true =>
    refine (h.reload ha hp hwritable none purpose).trackConfigReload (c := .disableKeys context) (Or.inr ?_)
    have hstatus := status_setSession (s := s) context.key context.key (purpose.awaiting context) none
    rw [if_pos rfl] at hstatus
    exact (congrArg reloading hstatus).trans (purpose.reloading_awaiting context)
  | false =>
    simp only [Bool.false_eq_true, if_false]
    rw [setSession_over]
    refine (h.rest (some .agentUnavailable) hp (purpose.resting_failed context) (fun token ht => ?_)
      (fun _ => hwritable) fun recovery confirmed hfailed =>
        absurd hfailed (purpose.failed_ne context recovery confirmed)).untracked (.disableKeys context)
          .agentUnavailable
    rw [purpose.transaction_failed] at ht
    cases ht
    rfl

/-! ## Saves -/

theorem persist_persistence (c : LiveConfig Rev) (written : Option Rev) :
    (c.persist written).2.persistence = c.persistence := by
  unfold LiveConfig.persist
  split <;> rfl

/-- A save leaves the live sets and the saved ones among those there were. -/
theorem persist_among (c : LiveConfig Rev) (written : Option Rev) (P : Settings → Prop) (hcurrent : P c.current)
    (hpersisted : P c.persisted) : P (c.persist written).2.current ∧ P (c.persist written).2.persisted := by
  unfold LiveConfig.persist
  split
  · exact ⟨hcurrent, hcurrent⟩
  · exact ⟨hcurrent, hcurrent⟩
  · exact ⟨hpersisted, hpersisted⟩
  · exact ⟨hpersisted, hpersisted⟩

theorem mem_record {history : History} {landed : Bool} {row x : DeviceKey × List DisableKey}
    (h : x ∈ (history.record landed row).saved) : x = row ∨ x ∈ history.saved := by
  unfold History.record at h
  cases landed with
  | true => exact List.mem_cons.1 h
  | false => exact Or.inr h

theorem current_setDisabledKeys (c : LiveConfig Rev) (key k : DeviceKey) (set : List DisableKey) :
    (c.setDisabledKeys key set).current k = if k = key then some set else c.current k := by
  by_cases hk : k = key
  · subst hk
    rw [if_pos rfl]
    exact Function.update_self k _ c.current
  · rw [if_neg hk]
    exact Function.update_of_ne hk _ c.current

theorem Kept.saveDisabledKeys (h : s.Kept opened) (w : World Rev) (key : DeviceKey) {confirmed : DisableKeysState}
    (hanswer : (key, confirmed) ∈ s.history.answers) :
    (s.saveDisabledKeys w key (confirmedKnownSet confirmed)).2.Kept opened := by
  refine h.store _ _ (persist_persistence _ _) (fun _ hmem => hmem) (fun row hrow => ?_) fun k set hset => ?_
  · rcases mem_record hrow with rfl | hrow
    · exact ⟨confirmed, hanswer, rfl⟩
    · exact h.sets.saved row hrow
  · have hamong := persist_among (s.config.setDisabledKeys key (confirmedKnownSet confirmed)) w.written
      (fun settings => ∀ k set, settings k = some set → s.Known set)
      (fun k set hk => ?_) (fun k set hk => h.sets.known k set (Or.inr hk))
    · exact hset.elim (hamong.1 k set) (hamong.2 k set)
    · rw [current_setDisabledKeys] at hk
      split at hk
      · exact Or.inl ⟨_, hanswer, Option.some.inj hk⟩
      · exact h.sets.known k set (Or.inl hk)

theorem Kept.persistConfig (h : s.Kept opened) (w : World Rev) (edit : OtherEdit) :
    (s.persistConfig w edit).2.Kept opened := by
  refine h.store _ s.history (persist_persistence _ _) (fun _ hanswer => hanswer) h.sets.saved fun k set hset => ?_
  have hamong := persist_among { s.config with current := edit.edit s.config.current } w.written
    (fun settings => ∀ k set, settings k = some set → s.Known set)
    (fun k set hk => ?_) (fun k set hk => h.sets.known k set (Or.inr hk))
  · exact hset.elim (hamong.1 k set) (hamong.2 k set)
  · obtain ⟨from', hfrom⟩ := edit.keeps _ k set hk
    exact h.sets.known from' set (Or.inl hfrom)

/-! ## Adopting the file -/

theorem Kept.reconcileExternalConfig (h : s.Kept opened) (w : World Rev) :
    (s.reconcileExternalConfig w).2.Kept opened := by
  have hread : Kept opened { s with reads := s.reads.reconcileExternalConfig } :=
    h.invalidateAllSnapshots h.acked _ fun _ hc => nomatch hc
  unfold AppState.reconcileExternalConfig
  cases hrefresh : s.config.refresh w.file with
  | none => exact hread
  | some config =>
    have hpersistence : config.persistence = s.config.persistence ∧
        ∀ key set, config.current key = some set ∨ config.persisted key = some set →
          s.config.persisted key = some set ∨ config.current key = some set := by
      unfold LiveConfig.refresh at hrefresh
      split at hrefresh
      · obtain ⟨⟨settings, revision⟩, -, rfl⟩ := Option.map_eq_some_iff.1 hrefresh
        exact ⟨rfl, fun key set hset => Or.inr (or_self_iff.1 hset)⟩
      · cases hrefresh
      · cases hrefresh
        exact ⟨rfl, fun key set hset => Or.inl (or_self_iff.1 hset)⟩
    refine (hread.store config { s.history with files := config.current :: s.history.files } hpersistence.1
      (fun _ hmem => hmem) h.sets.saved fun key set hset => ?_).moveFence (.required .reloadFailed)
        fun _ hc => nomatch hc
    rcases hpersistence.2 key set hset with hold | hnew
    · exact (h.sets.known key set (Or.inr hold)).imp_right fun ⟨file, hfile, hin⟩ =>
        ⟨file, List.mem_cons_of_mem _ hfile, hin⟩
    · exact Or.inr ⟨config.current, List.mem_cons_self, key, hnew⟩

/-- Adopting the file moves the configuration, the readings and what was loaded. -/
theorem reconcileExternalConfig_frame :
    (s.reconcileExternalConfig w).2 =
      { s with
        config := (s.reconcileExternalConfig w).2.config
        reads := (s.reconcileExternalConfig w).2.reads
        history := (s.reconcileExternalConfig w).2.history } := by
  unfold AppState.reconcileExternalConfig
  cases s.config.refresh w.file <;> rfl

theorem reconcileExternalConfig_required :
    ∃ error, (s.reconcileExternalConfig w).2.reads.reconciliation = .required error := by
  unfold AppState.reconcileExternalConfig
  cases s.config.refresh w.file with
  | none => exact ⟨_, rfl⟩
  | some config => exact ⟨_, rfl⟩

theorem reconcileExternalConfig_persistence :
    (s.reconcileExternalConfig w).2.config.persistence = s.config.persistence := by
  unfold AppState.reconcileExternalConfig
  cases hrefresh : s.config.refresh w.file with
  | none => rfl
  | some config =>
    unfold LiveConfig.refresh at hrefresh
    split at hrefresh
    · obtain ⟨⟨settings, revision⟩, -, rfl⟩ := Option.map_eq_some_iff.1 hrefresh
      rfl
    · cases hrefresh
    · cases hrefresh
      rfl

/-- Adopting the file leaves the phases, and moves the fence whatever it waited for. -/
theorem reconcileExternalConfig_setSession (key : DeviceKey) (p : DisableKeysPersistenceStatus)
    (error : Option DisableKeysError) (reconciliation : ConfigReconciliation) :
    (({ s with reads := { s.reads with reconciliation } } : AppState Rev E).setSession key p
      error).reconcileExternalConfig w =
        ((s.reconcileExternalConfig w).1, (s.reconcileExternalConfig w).2.setSession key p error) := by
  have hconfig : (({ s with reads := { s.reads with reconciliation } } : AppState Rev E).setSession key p
      error).config = s.config := rfl
  unfold AppState.reconcileExternalConfig
  rw [hconfig]
  cases s.config.refresh w.file <;> rfl

/-- **The file is adopted for a transaction** at rest. -/
theorem Kept.reconcileDisableKeysConfig (h : s.Kept opened) (w : World Rev) (recovery : DisableKeysRecoveryToken)
    (hkey : ¬opened recovery.key) (hp : (s.status recovery.key).Resting)
    (hwritable : s.config.persistence ≠ .readOnly) : (s.reconcileDisableKeysConfig w recovery).Kept opened := by
  have hnamed : ∀ token ∈ (reconcileRequired recovery).transaction, token.key = recovery.key := by
    intro token ht
    cases ht
    rfl
  have hkept := h.reconcileExternalConfig w
  have hframe := reconcileExternalConfig_frame (s := s) w
  have hwritable' : (s.reconcileExternalConfig w).2.config.persistence ≠ .readOnly := by
    rw [reconcileExternalConfig_persistence]
    exact hwritable
  have hp' : ((s.reconcileExternalConfig w).2.status recovery.key).Resting := by
    rw [hframe]
    exact hp
  unfold AppState.reconcileDisableKeysConfig
  generalize s.reconcileExternalConfig w = result at hkept hwritable' hp'
  obtain ⟨loaded, t⟩ := result
  cases loaded with
  | false => exact hkept.rest _ hp' ⟨rfl, rfl⟩ hnamed (fun _ => hwritable') fun _ _ hc => nomatch hc
  | true =>
    cases hallocate : t.allocate recovery.key with
    | none =>
      simp only [hallocate]
      exact hkept.rest _ hp' ⟨rfl, rfl⟩ hnamed (fun _ => hwritable') fun _ _ hc => nomatch hc
    | some pair =>
      obtain ⟨context, t'⟩ := pair
      simp only [hallocate]
      obtain ⟨hkept', hasks, hcontext⟩ := hkept.allocated hkey hallocate
      obtain ⟨rfl, -⟩ := allocate_some hallocate
      refine hkept'.requestReload hasks ?_ hwritable' w .reconciled
      rw [hcontext]
      exact hp'

theorem allocate_setSession (k key : DeviceKey) (p : DisableKeysPersistenceStatus) (error : Option DisableKeysError) :
    (s.setSession key p error).allocate k =
      (s.allocate k).map fun found => (found.1, found.2.setSession key p error) := by
  unfold allocate
  change ((s.record k).filter (·.online)).bind _ = Option.map _ (((s.record k).filter (·.online)).bind _)
  cases (s.record k).filter (·.online) with
  | none => rfl
  | some record =>
    change record.route.bind _ = Option.map _ (record.route.bind _)
    cases record.route with
    | none => rfl
    | some route =>
      change (s.reads.generation k).bind _ = Option.map _ ((s.reads.generation k).bind _)
      cases s.reads.generation k <;> rfl

/-- The phase a device has is replaced when the file is adopted for its transaction. -/
theorem reconcileDisableKeysConfig_setSession (recovery : DisableKeysRecoveryToken) (p : DisableKeysPersistenceStatus)
    (reconciliation : ConfigReconciliation) :
    (({ s with reads := { s.reads with reconciliation } } : AppState Rev E).setSession recovery.key p
      (s.session recovery.key).error).reconcileDisableKeysConfig w recovery =
        s.reconcileDisableKeysConfig w recovery := by
  have hsession : (s.reconcileExternalConfig w).2.session = s.session := by
    rw [reconcileExternalConfig_frame]
  unfold reconcileDisableKeysConfig
  rw [reconcileExternalConfig_setSession]
  generalize s.reconcileExternalConfig w = result at hsession
  obtain ⟨loaded, t⟩ := result
  cases loaded with
  | false => exact setSession_setSession ..
  | true =>
    dsimp only
    rw [allocate_setSession]
    cases hallocate : t.allocate recovery.key with
    | none =>
      have herror : ((t.setSession recovery.key p (s.session recovery.key).error).session recovery.key).error =
          (t.session recovery.key).error := by
        rw [hsession]
        exact (congrArg DisableKeysDeviceState.error
          (Function.update_self recovery.key ⟨p, (s.session recovery.key).error⟩ t.session)).trans rfl
      simp only [Option.map_none, herror]
      exact setSession_setSession ..
    | some pair =>
      obtain ⟨context, t'⟩ := pair
      obtain ⟨-, hkey, -⟩ := allocate_some hallocate
      simp only [Option.map_some]
      rw [← hkey]
      exact requestDisableKeysReload_setSession w .reconciled p _

/-! ## Receipts -/

theorem Kept.owingReceipts (h : s.Kept opened) {receipts : List Nat}
    (hid : ∀ id ∈ receipts, id < s.reads.nextReconciliationId)
    (howes : ∀ id, s.reads.reconciliation = .awaiting (.reconciled id) → id ∈ s.owed.receipts → id ∈ receipts) :
    Kept opened { s with owed := { s.owed with receipts } } := by
  refine ⟨h.loose, h.waits, h.generation, h.subscribed, fun context hcontext => ?_, hid, h.writable, h.acked, h.fresh,
    ⟨h.sets.answered, h.sets.saved, h.sets.known⟩⟩
  cases context with
  | general | disableKeys context => exact h.receipt _ hcontext
  | reconciled id => exact howes id hcontext (h.receipt _ hcontext)

theorem Kept.oweReceipt (h : s.Kept opened) {requestId : Nat} (hid : requestId < s.reads.nextReconciliationId) :
    Kept opened { s with owed := { s.owed with receipts := requestId :: s.owed.receipts } } := by
  refine h.owingReceipts (fun id hmem => ?_) fun id _ => List.mem_cons_of_mem _
  rcases List.mem_cons.1 hmem with rfl | hmem
  · exact hid
  · exact h.receipts id hmem

theorem Kept.receiptHeard (h : s.Kept opened) (requestId : Nat)
    (hfence : s.reads.reconciliation ≠ .awaiting (.reconciled requestId)) : (s.heardReceipt requestId).Kept opened := by
  refine h.owingReceipts (fun id hmem => h.receipts id (List.mem_of_mem_filter hmem)) fun id hcontext howes => ?_
  refine List.mem_filter.2 ⟨howes, decide_eq_true ?_⟩
  rintro rfl
  exact hfence hcontext

/-- A receipt is numbered before it is asked for. -/
theorem Kept.numbered (h : s.Kept opened) :
    Kept opened { s with reads := { s.reads with nextReconciliationId := s.reads.nextReconciliationId + 1 } } :=
  h.reads _ (fun _ => rfl) rfl (Nat.le_succ _) h.receipt h.acked h.fresh

/-- **A receipt is asked for**: the fence, where it is closed, waits for this one. -/
theorem Kept.receipted (h : s.Kept opened) (w : World Rev) :
    (s.trackReceipt.2.sendConfigReload w (some s.trackReceipt.1)).Kept opened := by
  have hnumbered := h.numbered
  unfold sendConfigReload trackReceipt
  cases w.sends with
  | true =>
    have howed := hnumbered.oweReceipt (Nat.lt_succ_self s.reads.nextReconciliationId)
    exact howed.trackConfigReload (c := .reconciled s.reads.nextReconciliationId) List.mem_cons_self
  | false =>
    have huntracked := hnumbered.untracked (.reconciled s.reads.nextReconciliationId) .agentUnavailable
    by_cases hconfirmed : s.reads.reconciliation = .confirmed
    · have htrack : (s.reads.nextConfigReload.2.trackConfigReload (.reconciled s.reads.nextConfigReload.1)) =
          s.reads.nextConfigReload.2 := if_neg (not_not_intro hconfirmed)
      simp only [Bool.false_eq_true, if_false, htrack]
      have hsame : s.reads.nextConfigReload.2.reconciliation = .confirmed := hconfirmed
      rw [hsame]
      exact hnumbered
    · have htrack : (s.reads.nextConfigReload.2.trackConfigReload (.reconciled s.reads.nextConfigReload.1)) =
          { s.reads.nextConfigReload.2 with
            reconciliation := .awaiting (.reconciled s.reads.nextConfigReload.1) } := if_pos hconfirmed
      have htracked : ({ s.reads with nextReconciliationId := s.reads.nextReconciliationId + 1 } :
          DisableKeysReads E).trackConfigReload (.reconciled s.reads.nextReconciliationId) =
            { s.reads.nextConfigReload.2 with
              reconciliation := .awaiting (.reconciled s.reads.nextConfigReload.1) } := htrack
      simp only [Bool.false_eq_true, if_false, htrack]
      rw [htracked] at huntracked
      exact huntracked

/-- With the fence open there is no receipt to lose. -/
theorem sendConfigReload_confirmed (hconfirmed : s.reads.reconciliation = .confirmed) (w : World Rev) :
    s.sendConfigReload w none = s := by
  unfold sendConfigReload
  split
  · rfl
  · rw [hconfirmed]

theorem Kept.reconcileSavedConfig (h : s.Kept opened) (w : World Rev) : (s.reconcileSavedConfig w).Kept opened := by
  have hkept := h.reconcileExternalConfig w
  unfold AppState.reconcileSavedConfig
  generalize s.reconcileExternalConfig w = result at hkept
  obtain ⟨loaded, t⟩ := result
  cases loaded with
  | false => exact hkept
  | true => exact hkept.receipted w

theorem Kept.persistAndReload (h : s.Kept opened) (w : World Rev) (edit : OtherEdit) :
    (s.persistAndReload w edit).2.Kept opened := by
  have hkept := h.persistConfig w edit
  unfold AppState.persistAndReload
  generalize s.persistConfig w edit = result at hkept
  obtain ⟨saved, t⟩ := result
  cases saved with
  | false => exact hkept
  | true =>
    unfold trackExternalConfigReload
    by_cases hconfirmed : t.reads.reconciliation = .confirmed
    · simp only [if_pos hconfirmed, sendConfigReload_confirmed hconfirmed]
      exact hkept
    · simp only [if_neg hconfirmed]
      exact hkept.receipted w

/-! ## Results -/

theorem transactionFencesMatch_iff {route : Option DeviceRoute} {generation : Option Nat}
    {request : Option DisableKeysRequestContext} :
    transactionFencesMatch route generation request context = true ↔
      (route = some context.route ∧ generation = some context.routeGeneration) ∧ request = some context := by
  unfold transactionFencesMatch
  rw [Bool.and_eq_true, Bool.and_eq_true, decide_eq_true_eq, decide_eq_true_eq, decide_eq_true_eq]

/-- **A request that is waited for carries the fences of now**, so its answer is taken. -/
theorem Inv.fences_write (h : s.Inv) (hp : (s.status context.key).writing = some context) :
    transactionFencesMatch (s.recordRoute context.key) (s.reads.generation context.key)
      (s.status context.key).writing context = true := by
  have hwrite := (h.waits context.key not_false).write
  rw [hp] at hwrite
  exact transactionFencesMatch_iff.2 ⟨(h.connection_iff not_false _ _).1 hwrite.under_way.2, hp⟩

theorem Inv.fences_reload (h : s.Inv) (hp : (s.status context.key).reloading = some context) :
    transactionFencesMatch (s.recordRoute context.key) (s.reads.generation context.key)
      (s.status context.key).reloading context = true := by
  have hreload := (h.waits context.key not_false).reload
  rw [hp] at hreload
  exact transactionFencesMatch_iff.2 ⟨(h.connection_iff not_false _ _).1 hreload.under_way.2, hp⟩

/-- A write result that is not waited for changes nothing. -/
theorem applyDisableKeysWriteResult_stale (result : Except E DisableKeysState)
    (hp : (s.status context.key).writing ≠ some context) : s.applyDisableKeysWriteResult w context result = s := by
  unfold applyDisableKeysWriteResult
  dsimp only
  rw [if_neg]
  exact fun hmatch => hp (transactionFencesMatch_iff.1 hmatch).2

theorem applyDisableKeysReloadResult_stale (result : Verdict) (hp : (s.status context.key).reloading ≠ some context) :
    s.applyDisableKeysReloadResult w context result = s := by
  unfold applyDisableKeysReloadResult
  dsimp only
  rw [if_neg]
  exact fun hmatch => hp (transactionFencesMatch_iff.1 hmatch).2

theorem applyReconciledConfigReloadResult_stale (requestId : Nat) (result : Verdict)
    (hfence : s.reads.reconciliation ≠ .awaiting (.reconciled requestId)) :
    s.applyReconciledConfigReloadResult w requestId result = s := by
  unfold applyReconciledConfigReloadResult
  rw [if_neg]
  exact fun hmatch => hfence (of_decide_eq_true hmatch)

theorem connection_setConfirmed (k key : DeviceKey) (confirmed : DisableKeysState) (now : Nat) :
    ((s.reads.setConfirmed key confirmed now).row k).connection = s.connection k := by
  unfold DisableKeysReads.setConfirmed
  rw [DisableKeysReads.row_change]
  split
  · rename_i hk
    subst hk
    exact Row.connection_setConfirmed ..
  · rfl

/-- A set the keyboard confirmed is shown, and on record. -/
theorem Kept.confirm (h : s.Kept opened) (hconnection : (s.connection key).isSome) (confirmed : DisableKeysState) :
    Kept opened { s with
      reads := s.reads.setConfirmed key confirmed s.now
      history := { s.history with answers := (key, confirmed) :: s.history.answers } } := by
  have hread : (s.reads.row key).read.isSome := by
    rw [connection, Row.connection, Option.isSome_map] at hconnection
    exact hconnection
  have hshown : Kept opened { s with reads := s.reads.setConfirmed key confirmed s.now } :=
    h.change key _ (Row.connection_setConfirmed ..) ((h.fresh key).setConfirmed hread h.acked confirmed)
  refine hshown.store s.config _ rfl (fun _ hmem => List.mem_cons_of_mem _ hmem) (fun row hrow => ?_)
    fun k set hset => ?_
  · obtain ⟨state, hstate, heq⟩ := h.sets.saved row hrow
    exact ⟨state, List.mem_cons_of_mem _ hstate, heq⟩
  · refine (h.sets.known k set hset).imp_left ?_
    rintro ⟨answer, hanswer, heq⟩
    exact ⟨answer, List.mem_cons_of_mem _ hanswer, heq⟩

theorem applyConfirmedWrite_saved {w : World Rev} {confirmed : DisableKeysState} {saved : Bool} {t : AppState Rev E}
    (h : ({ s with
      reads := s.reads.setConfirmed context.key confirmed s.now
      history := { s.history with answers := (context.key, confirmed) :: s.history.answers } } :
        AppState Rev E).saveDisabledKeys w context.key (confirmedKnownSet confirmed) = (saved, t)) :
    s.applyConfirmedWrite w context confirmed = if saved then t.requestDisableKeysReload w .saved context
      else t.setSession context.key (.appliedNotSaved (tokenOf context) confirmed) (some .saveFailed) := by
  unfold applyConfirmedWrite
  dsimp only
  rw [h]
  cases saved <;> rfl

/-- A confirmed set is saved, or kept to be saved again, whatever the phase was. -/
theorem applyConfirmedWrite_setSession (confirmed : DisableKeysState) (p : DisableKeysPersistenceStatus)
    (error : Option DisableKeysError) :
    (s.setSession context.key p error).applyConfirmedWrite w context confirmed =
      s.applyConfirmedWrite w context confirmed := by
  let t : AppState Rev E := { s with
    reads := s.reads.setConfirmed context.key confirmed s.now
    history := { s.history with answers := (context.key, confirmed) :: s.history.answers } }
  cases hsaved : t.saveDisabledKeys w context.key (confirmedKnownSet confirmed) with
  | mk saved u =>
    have hover : (t.setSession context.key p error).saveDisabledKeys w context.key (confirmedKnownSet confirmed) =
        (saved, u.setSession context.key p error) :=
      congrArg (fun done : Bool × AppState Rev E => (done.1, done.2.setSession context.key p error)) hsaved
    rw [applyConfirmedWrite_saved hsaved, applyConfirmedWrite_saved (s := s.setSession context.key p error) hover]
    cases saved with
    | true => exact requestDisableKeysReload_setSession w .saved p error
    | false => exact setSession_setSession ..

theorem Kept.confirmedWrite (h : s.Kept opened) (ha : s.Asks context) (hp : (s.status context.key).Resting)
    (hwritable : s.config.persistence ≠ .readOnly) (w : World Rev) (confirmed : DisableKeysState) :
    (s.applyConfirmedWrite w context confirmed).Kept opened := by
  have hconnection : (s.connection context.key).isSome := by
    rw [ha.connection]
    rfl
  have hkept := (h.confirm hconnection confirmed).saveDisabledKeys w context.key List.mem_cons_self
  have hpersistence := persist_persistence
    (s.config.setDisabledKeys context.key (confirmedKnownSet confirmed)) w.written
  unfold applyConfirmedWrite
  dsimp only
  generalize hresult : ({ s with
    reads := s.reads.setConfirmed context.key confirmed s.now
    history := { s.history with answers := (context.key, confirmed) :: s.history.answers } } :
      AppState Rev E).saveDisabledKeys w context.key (confirmedKnownSet confirmed) = result at hkept
  have hwritable' : result.2.config.persistence ≠ .readOnly := by
    rw [← hresult]
    exact fun hread => hwritable (hpersistence.symm.trans hread)
  have hp' : (result.2.status context.key).Resting := by
    rw [← hresult]
    exact hp
  have ha' : result.2.Asks context := by
    rw [← hresult]
    exact ⟨(connection_setConfirmed ..).trans ha.connection, ha.recent⟩
  have hanswer : (context.key, confirmed) ∈ result.2.history.answers := by
    rw [← hresult]
    exact List.mem_cons_self
  obtain ⟨saved, t⟩ := result
  cases saved with
  | true => exact hkept.requestReload ha' hp' hwritable' w .saved
  | false =>
    refine hkept.rest _ hp' ⟨rfl, rfl⟩ (fun token ht => ?_) (fun _ => hwritable') fun recovery state hstate => ?_
    · cases ht
      rfl
    · cases hstate
      exact hanswer

/-- **A write result, awaited or not, keeps the seats.** -/
theorem Kept.writeResult (h : s.Inv) (w : World Rev) (result : Except E DisableKeysState) :
    ((s.heardWrite context).applyDisableKeysWriteResult w context result).Inv := by
  by_cases hp : (s.status context.key).writing = some context
  · have hfences := Inv.fences_write h hp
    have hmatch : transactionFencesMatch ((s.heardWrite context).recordRoute context.key)
        ((s.heardWrite context).reads.generation context.key) ((s.heardWrite context).status context.key).writing
        context = true := hfences
    have hwrite := (h.waits context.key not_false).write
    rw [hp] at hwrite
    have hrecent := ((h.loose context.key).asked context (Or.inl hwrite.under_way.1)).2.1
    have hwritable : s.config.persistence ≠ .readOnly := by
      refine h.writable context.key fun hidle => ?_
      rw [hidle] at hp
      cases hp
    unfold applyDisableKeysWriteResult
    dsimp only
    rw [if_pos hmatch]
    cases result with
    | error error => exact (h.writeHeard hp (some .writeFailed)).invalidateSnapshot context.key
    | ok confirmed =>
      have hleft := h.writeHeard hp none
      have hidle : (((s.heardWrite context).setSession context.key .idle none).status context.key).Resting := by
        rw [status_setSession, if_pos rfl]
        exact resting_idle
      have hdone := hleft.confirmedWrite ⟨hwrite.under_way.2, hrecent⟩ hidle hwritable w confirmed
      rw [applyConfirmedWrite_setSession] at hdone
      exact hdone
  · rw [applyDisableKeysWriteResult_stale (s := s.heardWrite context) w result hp]
    exact h.writeSkipped hp

/-- An accepted reload opens the fence that waits for it. -/
theorem Kept.acceptReload (h : s.Kept opened) (context : DisableKeysRequestContext) :
    Kept opened { s with reads := s.acceptReload context } ∧
      (s.acceptReload context).reconciliation ≠ .awaiting (.disableKeys context) := by
  unfold AppState.acceptReload
  by_cases hmatch : s.reads.configReloadMatches (.disableKeys context) = true
  · have hconfirmed : (s.reads.confirmConfigReload (.disableKeys context) s.now).reconciliation = .confirmed := by
      unfold DisableKeysReads.confirmConfigReload
      rw [if_pos hmatch]
      rfl
    rw [if_pos hmatch, hconfirmed]
    exact ⟨h.confirmConfigReload _, fun hc => nomatch hc⟩
  · have hfence : s.reads.reconciliation ≠ .awaiting (.disableKeys context) :=
      fun hc => hmatch (decide_eq_true hc)
    rw [if_neg hmatch]
    split
    · exact ⟨h.invalidateSnapshot _, hfence⟩
    · exact ⟨h, hfence⟩

/-- **A verdict, awaited or not, keeps the seats.** -/
theorem Kept.reloadResult (h : s.Inv) (w : World Rev) (result : Verdict) :
    ((s.heardReload context).applyDisableKeysReloadResult w context result).Inv := by
  by_cases hp : (s.status context.key).reloading = some context
  · have hfences := Inv.fences_reload h hp
    have hmatch : transactionFencesMatch ((s.heardReload context).recordRoute context.key)
        ((s.heardReload context).reads.generation context.key) ((s.heardReload context).status context.key).reloading
        context = true := hfences
    have hwritable : s.config.persistence ≠ .readOnly := by
      refine h.writable context.key fun hidle => ?_
      rw [hidle] at hp
      cases hp
    have hidle : ∀ (t : AppState Rev E) (error : Option DisableKeysError),
        ((t.setSession context.key .idle error).status context.key).Resting := by
      intro t error
      rw [status_setSession, if_pos rfl]
      exact resting_idle
    unfold applyDisableKeysReloadResult
    dsimp only
    rw [if_pos hmatch]
    cases result with
    | error error =>
      have hfailed := h.failConfigReload (.disableKeys context) .reloadFailed
      have hfence : (s.reads.failConfigReload (.disableKeys context) .reloadFailed).reconciliation ≠
          .awaiting (.disableKeys context) := by
        unfold DisableKeysReads.failConfigReload
        split
        · exact fun hc => nomatch hc
        · exact fun hc => absurd (decide_eq_true hc) ‹_›
      have hleft := Kept.reloadHeard hfailed hp hfence none
      let purpose := purposeOf (s.status context.key)
      have hrest : Kept _ (AppState.setSession _ context.key (purpose.failed context) (some .reloadFailed)) :=
        hleft.rest (some .reloadFailed) (hidle _ _) (purpose.resting_failed context) (fun token ht => by
          rw [purpose.transaction_failed] at ht
          cases ht
          rfl) (fun _ => hwritable) fun recovery confirmed hc =>
            absurd hc (purpose.failed_ne context recovery confirmed)
      rw [setSession_setSession] at hrest
      exact hrest
    | ok verdict =>
      cases verdict with
      | accepted =>
        obtain ⟨haccepted, hfence⟩ := h.acceptReload context
        exact Kept.reloadHeard haccepted hp hfence none
      | fileChangedAfterSave =>
        have hopened := h.moveFence (.required .refreshFailed) fun _ hc => nomatch hc
        have hleft := Kept.reloadHeard hopened hp (fun hc => nomatch hc)
          (s.session context.key).error
        have hdone := hleft.reconcileDisableKeysConfig w (tokenOf context) not_false (hidle _ _) hwritable
        have hover := reconcileDisableKeysConfig_setSession (s := s.heardReload context) w (tokenOf context) .idle
          (.required .refreshFailed)
        exact hover ▸ hdone
  · rw [applyDisableKeysReloadResult_stale (s := s.heardReload context) w result hp]
    exact h.reloadSkipped hp

/-- What a receipt that is heard does to the fence comes before it is crossed off. -/
theorem reconcileSavedConfig_heard (requestId : Nat) (reconciliation : ConfigReconciliation) :
    (({ s with reads := { s.reads with reconciliation } } : AppState Rev E).heardReceipt requestId).reconcileSavedConfig
      w = (s.heardReceipt requestId).reconcileSavedConfig w := rfl

theorem Kept.receiptResult (h : s.Inv) (w : World Rev) (requestId : Nat) (result : Verdict) :
    ((s.heardReceipt requestId).applyReconciledConfigReloadResult w requestId result).Inv := by
  by_cases hfence : s.reads.reconciliation = .awaiting (.reconciled requestId)
  · have hmatch : (s.heardReceipt requestId).reads.configReloadMatches (.reconciled requestId) = true :=
      decide_eq_true hfence
    unfold applyReconciledConfigReloadResult
    rw [if_pos hmatch]
    cases result with
    | error error =>
      refine (h.failConfigReload (.reconciled requestId) .reloadFailed).receiptHeard _ fun hc => ?_
      change (s.reads.failConfigReload (.reconciled requestId) .reloadFailed).reconciliation = _ at hc
      unfold DisableKeysReads.failConfigReload at hc
      rw [if_pos (show s.reads.configReloadMatches (.reconciled requestId) = true from decide_eq_true hfence)] at hc
      cases hc
    | ok verdict =>
      cases verdict with
      | accepted =>
        refine (h.confirmConfigReload (.reconciled requestId)).receiptHeard _ fun hc => ?_
        change (s.reads.confirmConfigReload (.reconciled requestId) s.now).reconciliation = _ at hc
        unfold DisableKeysReads.confirmConfigReload at hc
        rw [if_pos (show s.reads.configReloadMatches (.reconciled requestId) = true from decide_eq_true hfence)] at hc
        cases hc
      | fileChangedAfterSave =>
        have hopened := h.moveFence (.required .refreshFailed) fun _ hc => nomatch hc
        have hdone := (Kept.receiptHeard hopened requestId fun hc => nomatch hc).reconcileSavedConfig w
        rw [reconcileSavedConfig_heard] at hdone
        exact hdone
  · rw [applyReconciledConfigReloadResult_stale (s := s.heardReceipt requestId) w requestId result hfence]
    exact h.receiptHeard _ hfence

theorem Kept.generalResult (h : s.Kept opened) (w : World Rev) (result : Verdict) :
    (s.applySavedConfigReloadResult w result).Kept opened := by
  unfold applySavedConfigReloadResult
  split
  · exact h.reconcileSavedConfig w
  · exact h
  · exact h

/-! ## Edits and retries -/

theorem controlsEnabled_iff : s.controlsEnabled key = true ↔
    ((((s.reads.reconciliation = .confirmed ∧ s.config.isWritable = true) ∧
      (s.record key).any (fun record => record.online && record.persistent) = true) ∧
        isReady (s.reads.load key) = true) ∧ s.status key = .idle) := by
  unfold controlsEnabled
  simp only [Bool.and_eq_true, decide_eq_true_eq]

theorem Kept.begin (h : s.Inv) (w : World Rev) (desired : UInt8) : (s.beginDisableKeysWrite w desired).Inv := by
  unfold beginDisableKeysWrite
  cases s.current with
  | none => exact h
  | some card =>
    dsimp only
    split
    · rename_i henabled
      obtain ⟨⟨⟨⟨-, hwritable⟩, -⟩, -⟩, hidle⟩ := controlsEnabled_iff.1 henabled
      have hp : (s.status card.key).Resting := by
        rw [hidle]
        exact resting_idle
      cases hallocate : s.allocate card.key with
      | none => exact h
      | some pair =>
        obtain ⟨context, t⟩ := pair
        obtain ⟨hkept, hasks, hkey⟩ := h.allocated not_false hallocate
        obtain ⟨rfl, -⟩ := allocate_some hallocate
        dsimp only
        split
        · rw [← hkey] at hp ⊢
          exact hkept.write hasks hp (of_decide_eq_true hwritable) none desired
        · exact hkept.rest _ hp resting_idle (fun _ ht => nomatch ht) (fun hc => absurd rfl hc) fun _ _ hc => nomatch hc
    · exact h

theorem status_reconcileExternalConfig (key : DeviceKey) :
    (s.reconcileExternalConfig w).2.status key = s.status key := by
  rw [reconcileExternalConfig_frame]
  rfl

theorem Kept.retrySave (h : s.Inv) (w : World Rev) (key : DeviceKey) : (s.retryDisableKeysSave w key).Inv := by
  unfold retryDisableKeysSave
  cases hstatus : s.status key with
  | appliedNotSaved recovery confirmed =>
    have hkey : recovery.key = key := (h.loose key).named recovery (by rw [hstatus]; rfl)
    have hwritable : s.config.persistence ≠ .readOnly := by
      refine h.writable key fun hidle => ?_
      rw [hidle] at hstatus
      cases hstatus
    have hadopted := h.reconcileExternalConfig w
    have hframe : (s.reconcileExternalConfig w).2.config.persistence ≠ .readOnly := by
      rw [reconcileExternalConfig_persistence]
      exact hwritable
    have hstatus' := (status_reconcileExternalConfig (s := s) w key).trans hstatus
    dsimp only
    generalize s.reconcileExternalConfig w = result at hadopted hframe hstatus'
    obtain ⟨loaded, t⟩ := result
    cases loaded with
    | false => exact hadopted.setError key _
    | true =>
      have hanswer := hadopted.sets.answered key recovery confirmed hstatus'
      have hsaved := hadopted.saveDisabledKeys w recovery.key (hkey ▸ hanswer)
      have hpersistence := persist_persistence
        (t.config.setDisabledKeys recovery.key (confirmedKnownSet confirmed)) w.written
      dsimp only
      generalize hresult : t.saveDisabledKeys w recovery.key (confirmedKnownSet confirmed) = result at hsaved
      have hwritable' : result.2.config.persistence ≠ .readOnly := by
        rw [← hresult]
        exact fun hread => hframe (hpersistence.symm.trans hread)
      have hp : (result.2.status key).Resting := by
        have hsame : result.2.status key = .appliedNotSaved recovery confirmed := by
          rw [← hresult]
          exact hstatus'
        rw [hsame]
        exact ⟨rfl, rfl⟩
      obtain ⟨saved, u⟩ := result
      cases saved with
      | false => exact hsaved.setError key _
      | true =>
        dsimp only
        cases hallocate : u.allocate key with
        | none =>
          refine hsaved.rest _ hp ⟨rfl, rfl⟩ (fun token ht => ?_) (fun _ => hwritable') fun _ _ hc => nomatch hc
          cases ht
          exact hkey
        | some pair =>
          obtain ⟨context, u'⟩ := pair
          obtain ⟨hkept, hasks, hcontext⟩ := hsaved.allocated not_false hallocate
          obtain ⟨rfl, -⟩ := allocate_some hallocate
          refine hkept.requestReload hasks ?_ hwritable' w .saved
          rw [hcontext]
          exact hp
  | idle | applying _ | awaitingReload _ | savedNotReloaded _ | savedNotReloadedDetached _ | reconcileRequired _
  | awaitingReconciliationReload _ => exact h

theorem Kept.retrySavedReload (h : s.Inv) (w : World Rev) {recovery : DisableKeysRecoveryToken}
    (hkey : recovery.key = key) (hp : (s.status key).Resting) (hwritable : s.config.persistence ≠ .readOnly) :
    (s.retrySavedReload w key recovery).Inv := by
  unfold AppState.retrySavedReload
  subst hkey
  cases hallocate : s.allocate recovery.key with
  | none =>
    refine h.rest _ hp ⟨rfl, rfl⟩ (fun token ht => ?_) (fun _ => hwritable) fun _ _ hc => nomatch hc
    cases ht
    rfl
  | some pair =>
    obtain ⟨context, t⟩ := pair
    obtain ⟨hkept, hasks, hcontext⟩ := h.allocated not_false hallocate
    obtain ⟨rfl, -⟩ := allocate_some hallocate
    refine hkept.requestReload hasks ?_ hwritable w .saved
    rw [hcontext]
    exact hp

theorem Kept.retryReload (h : s.Inv) (w : World Rev) (key : DeviceKey) : (s.retryDisableKeysReload w key).Inv := by
  have hnamed := (h.loose key).named
  have hwritable := h.writable key
  unfold retryDisableKeysReload
  cases hstatus : s.status key with
  | idle =>
    dsimp only
    split
    · exact h.reconcileSavedConfig w
    · exact h
  | savedNotReloaded context =>
    rw [hstatus] at hnamed hwritable
    exact h.retrySavedReload w (hnamed _ rfl) (hstatus ▸ ⟨rfl, rfl⟩) (hwritable fun hc => nomatch hc)
  | savedNotReloadedDetached recovery =>
    rw [hstatus] at hnamed hwritable
    exact h.retrySavedReload w (hnamed _ rfl) (hstatus ▸ ⟨rfl, rfl⟩) (hwritable fun hc => nomatch hc)
  | reconcileRequired recovery =>
    rw [hstatus] at hnamed hwritable
    have hkey : recovery.key = key := hnamed _ rfl
    refine h.reconcileDisableKeysConfig w _ not_false ?_ (hwritable fun hc => nomatch hc)
    rw [hkey, hstatus]
    exact ⟨rfl, rfl⟩
  | applying _ | appliedNotSaved _ _ | awaitingReload _ | awaitingReconciliationReload _ => exact h

/-! ## The inventory -/

/-- More devices may wait for their connection to be dropped. -/
theorem Kept.opening (h : s.Kept opened) {more : DeviceKey → Prop} (hmore : ∀ k, opened k → more k) :
    s.Kept more := by
  refine ⟨h.loose, fun k hk => h.waits k (mt (hmore k) hk), h.generation,
    fun k c hk => h.subscribed k c (mt (hmore k) hk), fun context hcontext => ?_, h.receipts,
    h.writable, h.acked, h.fresh, h.sets⟩
  have howes := h.receipt context hcontext
  cases context with
  | general => exact howes
  | reconciled requestId => exact howes
  | disableKeys context => exact howes.imp_left fun hopened => ⟨hmore _ hopened.1, hopened.2⟩

/-- **A device without a connection is done**, once its phase is at rest. -/
theorem Kept.close (h : s.Kept opened) (hclosed : ∀ k, opened k → s.connection k = none ∧ (s.status k).Resting) :
    s.Inv := by
  refine ⟨h.loose, fun k _ => ?_, h.generation, fun k c _ hc => ?_, fun context hcontext => ?_, h.receipts, h.writable,
    h.acked, h.fresh, h.sets⟩
  · by_cases hk : opened k
    · rw [(hclosed k hk).1]
      exact Waits.cut (hclosed k hk).2
    · exact h.waits k hk
  · by_cases hk : opened k
    · rw [(hclosed k hk).1] at hc
      cases hc
    · exact h.subscribed k c hk hc
  · have howes := h.receipt context hcontext
    cases context with
    | general => exact howes
    | reconciled requestId => exact howes
    | disableKeys context =>
      rcases howes with ⟨hopened, hconnection⟩ | hreload
      · rw [(hclosed _ hopened).1] at hconnection
        cases hconnection
      · exact Or.inr hreload

theorem status_retainSessions (merged : Catalog) (k : DeviceKey) :
    (s.retainSessions merged).status k = if merged.lists k then s.status k else .idle := by
  unfold status retainSessions
  dsimp only
  split <;> rfl

/-- Sessions that are dropped leave their connections to be dropped. -/
theorem Kept.retainSessions (h : s.Inv) (merged : Catalog) :
    Kept (fun k => merged.lists k = false) (s.retainSessions merged) := by
  refine ⟨fun k => ?_, fun k hk => ?_, h.generation, fun k c _ => h.subscribed k c not_false,
    fun context hcontext => ?_, h.receipts, fun k hk => ?_, h.acked, h.fresh,
    ⟨fun k recovery confirmed hk => ?_, h.sets.saved, h.sets.known⟩⟩
  · rw [status_retainSessions]
    split
    · exact h.loose k
    · exact (h.loose k).name fun _ ht => nomatch ht
  · rw [status_retainSessions, if_pos (Bool.of_not_eq_false hk)]
    exact h.waits k not_false
  · have howes := h.receipt context hcontext
    cases context with
    | general => exact howes
    | reconciled requestId => exact howes
    | disableKeys context =>
      have hreload := howes.resolve_left fun hopened => hopened.1
      have hwaits := (h.waits context.key not_false).reload
      rw [hreload] at hwaits
      rw [Owes, status_retainSessions]
      cases hlists : merged.lists context.key with
      | true => exact Or.inr hreload
      | false =>
        refine Or.inl ⟨rfl, ?_⟩
        change (s.connection context.key).isSome
        rw [hwaits.under_way.2]
        rfl
  · rw [status_retainSessions] at hk
    split at hk
    · exact h.writable k hk
    · exact absurd rfl hk
  · rw [status_retainSessions] at hk
    split at hk
    · exact h.sets.answered k recovery confirmed hk
    · cases hk

/-- Sessions at rest may be dropped. -/
theorem Kept.sessions (h : s.Kept opened) (session : DeviceKey → DisableKeysDeviceState)
    (hsession : ∀ k, (session k).persistence = s.status k) : Kept opened { s with session } := by
  have hstatus : ∀ k, ({ s with session } : AppState Rev E).status k = s.status k := hsession
  refine ⟨fun k => ?_, fun k hk => ?_, h.generation, h.subscribed, fun context hcontext => ?_, h.receipts,
    fun k hk => ?_, h.acked, h.fresh, ⟨fun k recovery confirmed hk => ?_, h.sets.saved, h.sets.known⟩⟩
  · rw [hstatus]
    exact h.loose k
  · rw [hstatus]
    exact h.waits k hk
  · have howes := h.receipt context hcontext
    cases context with
    | general => exact howes
    | reconciled requestId => exact howes
    | disableKeys context =>
      rw [Owes, hstatus]
      exact howes
  · exact h.writable k (hstatus k ▸ hk)
  · exact h.sets.answered k recovery confirmed (hstatus k ▸ hk)

theorem mem_disableKeysInvalidated {old new : List Card} {k : DeviceKey} : k ∈ disableKeysInvalidated old new ↔
    ∃ card ∈ new, card.key = k ∧ ∃ was ∈ old, was.key = k ∧ (was.route ≠ card.route ∨ was.online ≠ card.online) := by
  unfold disableKeysInvalidated
  simp only [List.mem_map, List.mem_filter, List.any_eq_true, Bool.and_eq_true, Bool.or_eq_true, decide_eq_true_eq]
  constructor
  · rintro ⟨card, ⟨hcard, was, hwas, hkey, hmoved⟩, rfl⟩
    exact ⟨card, hcard, rfl, was, hwas, hkey, hmoved⟩
  · rintro ⟨card, hcard, rfl, was, hwas, hkey, hmoved⟩
    exact ⟨card, ⟨hcard, was, hwas, hkey, hmoved⟩, rfl⟩

theorem of_find_key {cards : List Card} {k : DeviceKey} (h : (cards.find? fun card => card.key = k) = some card) :
    card ∈ cards ∧ card.key = k := by
  have hkey := List.find?_some h
  exact ⟨List.mem_of_find?_eq_some h, of_decide_eq_true hkey⟩

/-- The list is replaced: a device that is on it as it was before keeps its connection. -/
theorem Kept.records (h : s.Kept opened) (merged : Catalog) (selected : Option Nat)
    (hopened : ∀ k, merged.lists k = false ∨ k ∈ disableKeysInvalidated s.records.cards merged.cards → opened k) :
    Kept opened { s with records := merged, selected } := by
  refine ⟨h.loose, h.waits, h.generation, fun k c hk hc => ?_, h.receipt, h.receipts, h.writable, h.acked, h.fresh,
    ⟨h.sets.answered, h.sets.saved, h.sets.known⟩⟩
  obtain ⟨was, hwas, honline, hroute⟩ := h.subscribed k c hk hc
  have hlists : merged.lists k = true := Bool.of_not_eq_false fun hlists => hk (hopened k (Or.inl hlists))
  have hsome : (merged.cards.find? fun card => card.key = k).isSome := List.find?_isSome.2 (List.any_eq_true.1 hlists)
  obtain ⟨card, hcard⟩ := Option.isSome_iff_exists.1 hsome
  have hsame : was.route = card.route ∧ was.online = card.online := by
    by_contra hmoved
    refine hk (hopened k (Or.inr (mem_disableKeysInvalidated.2 ⟨card, (of_find_key hcard).1, (of_find_key hcard).2, was,
      (of_find_key hwas).1, (of_find_key hwas).2, ?_⟩)))
    by_cases hr : was.route = card.route
    · exact Or.inr fun ho => hmoved ⟨hr, ho⟩
    · exact Or.inl hr
  exact ⟨card, hcard, hsame.2 ▸ honline, hsame.1 ▸ hroute⟩

theorem row_remove (r : DisableKeysReads E) (key k : DeviceKey) :
    (r.remove key).row k = if k = key then (r.row key).remove else r.row k :=
  DisableKeysReads.row_change { r with reconciliation := DisableKeysReads.detached key r.reconciliation } key k _

theorem connection_remove (r : DisableKeysReads E) (key k : DeviceKey) :
    ((r.remove key).row k).connection = if k = key then none else (r.row k).connection := by
  rw [row_remove]
  split <;> rfl

/-- The fence that still waits once a device is dropped. -/
theorem awaiting_of_detached {reconciliation : ConfigReconciliation}
    (h : DisableKeysReads.detached key reconciliation = .awaiting c) :
    reconciliation = .awaiting c ∧ ∀ context, c = .disableKeys context → context.key ≠ key := by
  unfold DisableKeysReads.detached at h
  split at h
  · split at h
    · cases h
    · cases h
      refine ⟨rfl, fun context hc => ?_⟩
      cases hc
      assumption
  · rename_i hother
    refine ⟨h, fun context hc => ?_⟩
    rw [hc] at h
    exact absurd h (hother context)

/-- **A lost connection** leaves its phase at rest, and the fence recoverable. -/
theorem Kept.invalidateDisableKeys (h : s.Kept opened) (key : DeviceKey) :
    (s.invalidateDisableKeys key).Kept fun k => opened k ∧ k ≠ key := by
  have hstatus : ∀ k, (s.invalidateDisableKeys key).status k =
      if k = key then (s.status key).detached else s.status k :=
    fun k => status_setSession (s := { s with reads := s.reads.remove key }) key k _ _
  have hconnection : ∀ k, (s.invalidateDisableKeys key).connection k = if k = key then none else s.connection k :=
    fun k => connection_remove s.reads key k
  refine ⟨fun k => ?_, fun k hk => ?_, fun k c hc => ?_, fun k c hk hc => ?_, fun context hcontext => ?_, h.receipts,
    fun k hk => ?_, h.acked, fun k => ?_, ⟨fun k recovery confirmed hk => ?_, h.sets.saved, h.sets.known⟩⟩
  · rw [hstatus]
    split
    · rename_i hkey
      subst hkey
      exact (h.loose k).name fun token ht => (h.loose k).named token (transaction_detached ht)
    · exact h.loose k
  · rw [hstatus, hconnection]
    split
    · exact Waits.cut (resting_detached _)
    · exact h.waits k fun hopened => hk ⟨hopened, ‹_›⟩
  · rw [hconnection] at hc
    split at hc
    · cases hc
    · exact h.generation k c hc
  · rw [hconnection] at hc
    split at hc
    · cases hc
    · exact h.subscribed k c (fun hopened => hk ⟨hopened, ‹_›⟩) hc
  · obtain ⟨hawaiting, hother⟩ := awaiting_of_detached hcontext
    have howes := h.receipt context hawaiting
    cases context with
    | general => exact howes
    | reconciled requestId => exact howes
    | disableKeys context =>
      have hkey := hother context rfl
      rw [Owes, hstatus, if_neg hkey, hconnection, if_neg hkey]
      exact howes.imp_left fun hopened => ⟨⟨hopened.1, hkey⟩, hopened.2⟩
  · rw [hstatus] at hk
    split at hk
    · rename_i hkey
      exact h.writable key fun hidle => hk (detached_idle_of hidle)
    · exact h.writable k hk
  · have hrow : (s.invalidateDisableKeys key).reads.row k =
        if k = key then (s.reads.row key).remove else s.reads.row k :=
      row_remove s.reads key k
    rw [hrow]
    split
    · exact (h.fresh key).remove
    · exact h.fresh k
  · rw [hstatus] at hk
    split at hk
    · rename_i hkey
      subst hkey
      refine h.sets.answered k recovery confirmed ?_
      generalize s.status k = p at hk
      cases p <;> cases hk
      rfl
    · exact h.sets.answered k recovery confirmed hk

theorem Kept.invalidations (h : s.Kept opened) (keys : List DeviceKey) :
    (keys.foldl AppState.invalidateDisableKeys s).Kept fun k => opened k ∧ k ∉ keys := by
  induction keys generalizing s opened with
  | nil => exact h.opening fun k hk => ⟨hk, List.not_mem_nil⟩
  | cons key keys ih =>
    refine (ih (h.invalidateDisableKeys key)).opening fun k hk => ⟨hk.1.1, fun hmem => ?_⟩
    rcases List.mem_cons.1 hmem with hkey | hmem
    · exact hk.1.2 hkey
    · exact hk.2 hmem

/-- The fence that still waits once absent devices are forgotten. -/
theorem awaiting_of_retained {r : DisableKeysReads E} {present : DeviceKey → Bool}
    (h : r.retained present = .awaiting c) :
    r.reconciliation = .awaiting c ∧ ∀ context, c = .disableKeys context → r.forgets present context.key = false := by
  unfold DisableKeysReads.retained at h
  split at h
  · rename_i held hawaiting
    split at h
    · cases h
    · rw [hawaiting] at h
      cases h
      refine ⟨hawaiting, fun context hc => ?_⟩
      cases hc
      exact Bool.eq_false_iff.2 ‹_›
  · rename_i hother
    refine ⟨h, fun context hc => ?_⟩
    rw [hc] at h
    exact absurd h (hother context)

/-- **Absent devices are forgotten**: the last of what waits is closed. -/
theorem Kept.retainPresent (h : s.Kept fun k => s.records.lists k = false)
    (hidle : ∀ k, s.records.lists k = false → s.status k = .idle) :
    Inv { s with reads := s.reads.retainPresent s.records.lists } := by
  have hrow : ∀ k, (s.reads.retainPresent s.records.lists).row k =
      if s.reads.forgets s.records.lists k then { (s.reads.row k).remove with confirmed := none } else s.reads.row k :=
    fun _ => rfl
  have hconnection : ∀ k, ((s.reads.retainPresent s.records.lists).row k).connection =
      if s.reads.forgets s.records.lists k then none else s.connection k := by
    intro k
    rw [hrow]
    split <;> rfl
  have hforgets : ∀ k, s.records.lists k = true → s.reads.forgets s.records.lists k = false := by
    intro k hk
    rw [DisableKeysReads.forgets, hk]
    rfl
  have hkept : Kept (fun k => s.records.lists k = false)
      { s with reads := s.reads.retainPresent s.records.lists } := by
    refine ⟨h.loose, fun k hk => ?_, fun k c hc => ?_, fun k c hk hc => ?_, fun context hcontext => ?_, h.receipts,
      h.writable, h.acked, fun k => ?_, ⟨h.sets.answered, h.sets.saved, h.sets.known⟩⟩
    · rw [connection, hconnection, hforgets k (Bool.of_not_eq_false hk)]
      exact h.waits k hk
    · rw [connection, hconnection] at hc
      split at hc
      · cases hc
      · exact h.generation k c hc
    · rw [connection, hconnection] at hc
      split at hc
      · cases hc
      · exact h.subscribed k c hk hc
    · obtain ⟨hawaiting, hkeeps⟩ := awaiting_of_retained hcontext
      have howes := h.receipt context hawaiting
      cases context with
      | general => exact howes
      | reconciled requestId => exact howes
      | disableKeys context =>
        rw [Owes, connection, hconnection, hkeeps context rfl]
        exact howes
    · rw [hrow]
      split
      · exact (h.fresh k).remove.forget
      · exact h.fresh k
  refine hkept.close fun k hk => ⟨?_, ?_⟩
  · rw [connection, hconnection]
    split
    · rfl
    · rename_i hkeeps
      have hread : (s.reads.row k).read.isSome = false := by
        by_contra hread
        refine hkeeps ?_
        rw [DisableKeysReads.forgets, hk, Bool.of_not_eq_false hread]
        rfl
      rw [connection, Row.connection, Option.map_eq_none_iff]
      exact Option.isNone_iff_eq_none.1 (Option.isSome_eq_false_iff.1 hread)
  · have hstatus := hidle k hk
    change (s.status k).Resting
    rw [hstatus]
    exact resting_idle

theorem status_invalidations (keys : List DeviceKey) (k : DeviceKey) (hk : s.status k = .idle) :
    (keys.foldl AppState.invalidateDisableKeys s).status k = .idle := by
  refine Lib.foldl_keeps (fun s : AppState Rev E => s.status k = .idle) (fun s key hs => ?_) keys s hk
  refine (status_setSession (s := { s with reads := s.reads.remove key }) key k (s.status key).detached _).trans ?_
  split
  · rename_i hkey
    subst hkey
    exact detached_idle_of hs
  · exact hs

theorem records_invalidations (keys : List DeviceKey) :
    (keys.foldl AppState.invalidateDisableKeys s).records = s.records :=
  Lib.foldl_keeps (f := AppState.invalidateDisableKeys) (fun t => t.records = s.records) (fun _ _ h => h) keys s rfl

/-- A list that replaces another keeps the seats of the devices on it. -/
theorem Kept.replaceRecords (h : s.Kept fun k => merged.lists k = false)
    (hidle : ∀ k, merged.lists k = false → s.status k = .idle) (hnew : merged.cards ≠ s.records.cards) :
    (s.replaceRecords merged).Inv := by
  unfold AppState.replaceRecords
  rw [if_neg hnew]
  dsimp only
  generalize (if merged.cards = [] then none else some (min _ (merged.cards.length - 1))) = selected
  have hopen : s.Kept fun k => merged.lists k = false ∨ k ∈ disableKeysInvalidated s.records.cards merged.cards :=
    h.opening fun _ => Or.inl
  have hlisted := hopen.records merged selected fun _ hk => hk
  have hmoved := Lib.foldl_keeps (f := AppState.revalidateDeviceSettings) (fun t : AppState Rev E =>
      Kept (fun k => merged.lists k = false ∨ k ∈ disableKeysInvalidated s.records.cards merged.cards) t ∧
        t.records = merged ∧ ∀ k, t.status k = s.status k)
    (fun t key ht => ⟨ht.1.invalidateSnapshot key, ht.2⟩) (settingsMoved s.records.cards merged.cards)
    { s with records := merged, selected } ⟨hlisted, rfl, fun _ => rfl⟩
  generalize (settingsMoved s.records.cards merged.cards).foldl AppState.revalidateDeviceSettings
    { s with records := merged, selected } = t at hmoved
  obtain ⟨hkept, hrecords, hstatus⟩ := hmoved
  generalize disableKeysInvalidated s.records.cards merged.cards = keys at hkept
  have hdropped := hkept.invalidations keys
  have hrecords' := (records_invalidations (s := t) keys).trans hrecords
  have hidle' : ∀ k, merged.lists k = false → (keys.foldl AppState.invalidateDisableKeys t).status k = .idle :=
    fun k hk => status_invalidations keys k ((hstatus k).trans (hidle k hk))
  generalize keys.foldl AppState.invalidateDisableKeys t = u at hdropped hrecords' hidle'
  obtain rfl := hrecords'
  exact (hdropped.opening fun k hk => hk.1.resolve_right hk.2).retainPresent hidle'

theorem sendConfigReload_frame (receipt : Option Nat) :
    (s.sendConfigReload w receipt).records = s.records ∧ (s.sendConfigReload w receipt).session = s.session := by
  unfold sendConfigReload
  split
  · exact ⟨rfl, rfl⟩
  · split <;> exact ⟨rfl, rfl⟩

theorem persist_landed (c d : LiveConfig Rev) (written : Option Rev) (h : c.persistence = d.persistence) :
    (c.persist written).1 = (d.persist written).1 := by
  unfold LiveConfig.persist
  rw [h]
  cases d.persistence <;> cases written <;> rfl

/-- A save of other settings moves neither the list nor the phases. -/
theorem persistAndReload_frame (edit : OtherEdit) :
    (s.persistAndReload w edit).1 = (s.config.persist w.written).1 ∧
      (s.persistAndReload w edit).2.records = s.records ∧ (s.persistAndReload w edit).2.session = s.session := by
  have hlanded : (s.persistConfig w edit).1 = (s.config.persist w.written).1 := persist_landed _ _ _ rfl
  have hframe : (s.persistConfig w edit).2.records = s.records ∧ (s.persistConfig w edit).2.session = s.session :=
    ⟨rfl, rfl⟩
  unfold persistAndReload
  generalize s.persistConfig w edit = result at hlanded hframe
  obtain ⟨landed, t⟩ := result
  cases landed with
  | false => exact ⟨hlanded, hframe⟩
  | true =>
    unfold trackExternalConfigReload
    by_cases hconfirmed : t.reads.reconciliation = .confirmed
    · simp only [if_pos hconfirmed]
      obtain ⟨hrecords, hsession⟩ := sendConfigReload_frame (s := t) w none
      exact ⟨hlanded, hrecords.trans hframe.1, hsession.trans hframe.2⟩
    · simp only [if_neg hconfirmed]
      obtain ⟨hrecords, hsession⟩ := sendConfigReload_frame (s := t.trackReceipt.2) w (some t.trackReceipt.1)
      exact ⟨hlanded, hrecords.trans hframe.1, hsession.trans hframe.2⟩

/-- The condition: a refresh that cannot save the routes it adopted drops no session in use. -/
def Attended (s : AppState Rev E) : Event Rev E → Prop
  | .refresh w (.adopted _) merged =>
    (s.config.persist w.written).1 = false → ∀ key, merged.lists key = false → s.status key = .idle
  | _ => True

theorem record_none_of_unlisted (hsame : merged.cards = s.records.cards) (hk : merged.lists key = false) :
    s.record key = none := by
  unfold record
  rw [← hsame, List.find?_eq_none]
  intro card hcard hkey
  unfold Catalog.lists at hk
  rw [List.any_eq_false] at hk
  exact hk card hcard hkey

/-- A refresh that lists what is listed drops sessions that are at rest. -/
theorem Kept.retainSessions_same (h : s.Inv) (hsame : merged.cards = s.records.cards) :
    (s.retainSessions merged).Inv := by
  refine (h.retainSessions merged).close fun k hk => ?_
  have hconnection : s.connection k = none := by
    refine Option.eq_none_iff_forall_ne_some.2 fun c hc => ?_
    obtain ⟨card, hcard, -⟩ := h.subscribed k c not_false hc
    rw [record_none_of_unlisted hsame hk] at hcard
    cases hcard
  refine ⟨hconnection, ?_⟩
  rw [status_retainSessions, hk]
  exact resting_idle

/-- The list is replaced, or is the one that is shown. -/
theorem Kept.refreshed {t : AppState Rev E} (hkept : t.Kept fun k => merged.lists k = false)
    (hidle : ∀ k, merged.lists k = false → t.status k = .idle) (hsame : merged.cards = t.records.cards → t.Inv) :
    (t.replaceRecords merged).Inv := by
  by_cases hcards : merged.cards = t.records.cards
  · unfold AppState.replaceRecords
    rw [if_pos hcards]
    exact hsame hcards
  · exact hkept.replaceRecords hidle hcards

/-- **A refresh keeps the seats**, where a save that fails drops no session in use. -/
theorem Kept.refresh (h : s.Inv) (w : World Rev) (edit : InventoryEdit) (merged : Catalog)
    (hattended : s.Attended (.refresh w edit merged)) : (s.refreshInventories w edit merged).Inv := by
  have hpruned := h.retainSessions merged
  have hidle : ∀ k, merged.lists k = false → (s.retainSessions merged).status k = .idle := by
    intro k hk
    rw [status_retainSessions, hk]
    rfl
  unfold refreshInventories
  cases edit with
  | none => exact Kept.refreshed hpruned hidle fun hcards => h.retainSessions_same hcards
  | identified edit =>
    exact Kept.refreshed (hpruned.persistConfig w edit) hidle fun hcards =>
      (h.retainSessions_same hcards).persistConfig w edit
  | adopted edit =>
    obtain ⟨hlanded, hrecords, hsession⟩ := persistAndReload_frame (s := s.retainSessions merged) w edit
    have hkept := hpruned.persistAndReload w edit
    have hsame : merged.cards = s.records.cards → ((s.retainSessions merged).persistAndReload w edit).2.Inv :=
      fun hcards => (h.retainSessions_same hcards).persistAndReload w edit
    have hfailed : (s.config.persist w.written).1 = false →
        ((s.retainSessions merged).persistAndReload w edit).2.Inv := by
      intro hlost
      refine (h.sessions (s.retainSessions merged).session fun k => ?_).persistAndReload w edit
      refine (status_retainSessions merged k).trans ?_
      split
      · rfl
      · exact (hattended hlost k (Bool.eq_false_iff.2 ‹_›)).symm
    dsimp only
    generalize (s.retainSessions merged).persistAndReload w edit = result
      at hlanded hrecords hsession hkept hsame hfailed
    obtain ⟨landed, t⟩ := result
    cases landed with
    | false => exact hfailed hlanded.symm
    | true =>
      refine Kept.refreshed hkept (fun k hk => ?_) fun hcards => hsame (hcards.trans (congrArg Catalog.cards hrecords))
      exact (congrArg (fun session => (session k).persistence) hsession).trans (hidle k hk)

/-- A card with disabled keys is the one its device is found by. -/
theorem record_of_supported (hcard : card ∈ s.records.cards) (hsupported : card.supported = true) :
    s.record card.key = some card := by
  have hsome : (s.record card.key).isSome := List.find?_isSome.2 ⟨card, hcard, decide_eq_true rfl⟩
  obtain ⟨found, hfound⟩ := Option.isSome_iff_exists.1 hsome
  obtain ⟨hmem, hkey⟩ := of_find_key hfound
  rw [hfound, s.records.own card hcard found hmem hsupported hkey.symm]

/-- **A device that is shown is subscribed to**, where it is not already over its route. -/
theorem Kept.ensure [ReadError E] (h : s.Inv) (hcard : card ∈ s.records.cards) (hsupported : card.supported = true)
    (honline : card.online = true) {route : DeviceRoute} (hroute : card.route = some route) :
    Inv { s with reads := s.reads.ensure card.key route } := by
  have hrecord := record_of_supported hcard hsupported
  by_cases hactive : (s.reads.row card.key).read.any (fun read => read.route = route) = true
  · have hsame : s.reads.ensure card.key route = s.reads := if_pos hactive
    rw [hsame]
    exact h
  · have hnone : s.connection card.key = none := by
      refine Option.eq_none_iff_forall_ne_some.2 fun c hc => hactive ?_
      obtain ⟨found, hfound, -, hfoundRoute⟩ := h.subscribed card.key c not_false hc
      obtain rfl := Option.some.inj (hrecord.symm.trans hfound)
      obtain ⟨read, hread, heq⟩ := Option.map_eq_some_iff.1 hc
      have hreadRoute : read.route = route := by
        rw [← heq] at hfoundRoute
        exact Option.some.inj (hfoundRoute.symm.trans hroute)
      rw [hread]
      exact decide_eq_true hreadRoute
    have hensure : s.reads.ensure card.key route =
        { s.reads.remove card.key with nextGeneration := s.reads.nextGeneration + 1 }.change card.key fun row =>
          row.subscribe route s.reads.nextGeneration := if_neg hactive
    have hrow : ∀ k, (s.reads.ensure card.key route).row k =
        if k = card.key then (s.reads.row card.key).remove.subscribe route s.reads.nextGeneration
        else s.reads.row k := by
      intro k
      rw [hensure, DisableKeysReads.row_change]
      split
      · have hremoved := row_remove s.reads card.key card.key
        rw [if_pos rfl] at hremoved
        exact congrArg (fun row : Row E => row.subscribe route s.reads.nextGeneration) hremoved
      · exact (row_remove s.reads card.key k).trans (if_neg ‹_›)
    have hconnection : ∀ k, ({ s with reads := s.reads.ensure card.key route } : AppState Rev E).connection k =
        if k = card.key then some (route, s.reads.nextGeneration) else s.connection k := by
      intro k
      rw [connection, hrow]
      split <;> rfl
    have hgeneration : (s.reads.ensure card.key route).nextGeneration = s.reads.nextGeneration + 1 := by
      rw [hensure]
      rfl
    refine ⟨fun k => ?_, fun k _ => ?_, fun k c hc => ?_, fun k c _ hc => ?_, fun context hcontext => ?_,
      fun id hid => ?_, h.writable, ?_, fun k => ?_, ⟨h.sets.answered, h.sets.saved, h.sets.known⟩⟩
    · exact (h.loose k).grow (Nat.le_refl _) (hgeneration ▸ Nat.le_succ _)
    · rw [hconnection]
      split
      · rename_i hk
        subst hk
        have hwaits := h.waits card.key not_false
        rw [hnone] at hwaits
        exact Waits.renew (h.loose card.key) hwaits.resting_of_cut route
      · exact h.waits k not_false
    · rw [hconnection] at hc
      change c.2 < (s.reads.ensure card.key route).nextGeneration
      rw [hgeneration]
      split at hc
      · cases hc
        exact Nat.lt_succ_self _
      · exact Nat.lt_succ_of_lt (h.generation k c hc)
    · rw [hconnection] at hc
      split at hc
      · rename_i hk
        subst hk
        cases hc
        exact ⟨card, hrecord, honline, hroute⟩
      · exact h.subscribed k c not_false hc
    · have hdetached : DisableKeysReads.detached card.key s.reads.reconciliation = .awaiting context := by
        change (s.reads.ensure card.key route).reconciliation = .awaiting context at hcontext
        rw [hensure] at hcontext
        exact hcontext
      have howes := h.receipt context (awaiting_of_detached hdetached).1
      cases context with
      | general => exact howes
      | reconciled requestId => exact howes
      | disableKeys context => exact Or.inr (howes.resolve_left fun hopened => hopened.1)
    · change id < (s.reads.ensure card.key route).nextReconciliationId
      rw [hensure]
      exact h.receipts id hid
    · change (s.reads.ensure card.key route).acked ≤ s.now
      rw [hensure]
      exact h.acked
    · have hacked : (s.reads.ensure card.key route).acked = s.reads.acked := by
        rw [hensure]
        rfl
      change Row.Fresh ((s.reads.ensure card.key route).row k) (s.reads.ensure card.key route).acked
      rw [hrow, hacked]
      split
      · exact (h.fresh card.key).remove.subscribe route _
      · exact h.fresh k

/-! ## Runs -/

/-- **Every event keeps the seats**, where a refresh attends to the sessions in use. -/
theorem Kept.apply [ReadError E] (h : s.Inv) (e : Event Rev E) (hattended : s.Attended e) (hs : s.apply e = some s') :
    s'.Inv := by
  cases e with
  | edit w desired =>
    cases hs
    exact h.begin w desired
  | writeResult w context result =>
    rw [AppState.apply] at hs
    split at hs
    · cases hs
      exact h.writeResult w result
    · cases hs
  | verdict w context result =>
    cases context with
    | general =>
      cases hs
      exact h.generalResult w result
    | disableKeys context =>
      rw [AppState.apply] at hs
      split at hs
      · cases hs
        exact h.reloadResult w result
      · cases hs
    | reconciled requestId =>
      rw [AppState.apply] at hs
      split at hs
      · cases hs
        exact h.receiptResult w requestId result
      · cases hs
  | retrySave w key =>
    cases hs
    exact h.retrySave w key
  | retryReload w key =>
    cases hs
    exact h.retryReload w key
  | retryRead key =>
    cases hs
    exact h.change key _ (Row.connection_retry _) (h.fresh key).retry
  | flowPaired w =>
    cases hs
    exact h.reconcileSavedConfig w
  | save w edit =>
    cases hs
    exact h.persistAndReload w edit
  | refresh w edit merged =>
    cases hs
    exact h.refresh w edit merged hattended
  | select index =>
    cases hs
    unfold AppState.select
    split
    · exact ⟨h.loose, h.waits, h.generation, h.subscribed, h.receipt, h.receipts, h.writable, h.acked, h.fresh,
        ⟨h.sets.answered, h.sets.saved, h.sets.known⟩⟩
    · exact h
  | load =>
    cases hs
    unfold loadCurrentDisableKeys
    split
    · rename_i card hcurrent
      split
      · rename_i route hready hroute
        obtain ⟨honline, hsupported⟩ := Bool.and_eq_true_iff.1 hready
        obtain ⟨index, -, hindex⟩ := Option.bind_eq_some_iff.1 hcurrent
        exact h.ensure (List.mem_of_getElem? hindex) hsupported honline hroute
      · exact h
    · exact h
  | fetchBegins key =>
    rw [AppState.apply] at hs
    split at hs
    · cases hs
      exact h.change key _ rfl ((h.fresh key).fetchBegins ‹_› h.acked)
    · cases hs
  | fetchEnds key fetch result =>
    rw [AppState.apply] at hs
    split at hs
    · cases hs
      exact h.change key _ rfl ((h.fresh key).fetchEnds ‹_› result)
    · cases hs
  | stir key error isValidating =>
    cases hs
    exact h.change key _ rfl ((h.fresh key).stir error isValidating)
  | observed key routeGeneration =>
    cases hs
    exact h.change key _ (Row.connection_update ..) ((h.fresh key).update routeGeneration)

theorem inv_step [ReadError E] (h : s.Inv) (e : Event Rev E) (hattended : s.Attended e) (hs : s.step e = some s') :
    s'.Inv := h.tick.apply e hattended hs

/-- The app starts with nothing under way. -/
theorem inv_new (settings : Settings) (persistence : ConfigPersistence) (file : Rev) (cameras : Catalog) :
    (AppState.new settings persistence file cameras : AppState Rev E).Inv where
  loose _ :=
    { asked := fun _ hc => hc.elim (fun hw => nomatch hw) (fun hr => nomatch hr)
      named := fun _ ht => nomatch ht }
  waits _ _ := Waits.cut resting_idle
  generation _ _ hc := nomatch hc
  subscribed _ _ _ hc := nomatch hc
  receipt _ hc := nomatch hc
  receipts _ hid := nomatch hid
  writable _ hk := absurd rfl hk
  acked := Nat.le_refl _
  fresh _ := Row.fresh_default _
  sets :=
    { answered := fun _ _ _ hk => nomatch hk
      saved := fun _ hrow => nomatch hrow
      known := fun key _ hset => Or.inr ⟨settings, List.mem_cons_self, key, or_self_iff.1 hset⟩ }

end

end AppState

end DisableKeys
end Desktop
end OpenLogi
