import OpenLogi.Lib.Run
import OpenLogi.Pairing.Manager
/-!
# Ownership — one pairing session, its end, its lease and its phase

Every admission is the current one, withdrawn, or activated; every activated session is the active one or ended once.
What holds of the lease, the completion and the published phase follows from who the current session is.
-/
namespace OpenLogi
namespace Pairing
namespace Owner

namespace Manager

variable {m m' : Manager}

/-! ## The invariant -/

/-- Who may hold the lease for an id: a start it was granted to, the active session, or an ended one being dropped. -/
def Holds (m : Manager) (id : Nat) : Prop :=
  (∃ call ∈ m.starts, call.id = id ∧ call.stage = .granted) ∨ m.state.activeId = some id ∨
    .releaseLease id ∈ m.cleanups

/-- What is left of the drop of an ended session. -/
def Dropping (ended : List Nat) (cleanups : List Cleanup) : Prop :=
  ∃ rest, (rest = [] ∨ rest = [.clearPhase]) ∧
    (cleanups = rest ∨ ∃ id ∈ ended, cleanups = .closeCompletion id :: rest ∨ cleanups = dropSession id ++ rest)

structure Inv (m : Manager) : Prop where
  current : ∀ id, m.state.current = some id → id < m.nextId ∧ id ∉ m.ended ∧ id ∉ m.withdrawn
  only : ∀ id, id < m.nextId → id ∉ m.ended → id ∉ m.withdrawn → m.state.current = some id
  withdrawn : ∀ id ∈ m.withdrawn, id < m.nextId
  activated : ∀ id ∈ m.activated, id < m.nextId ∧ m.state.admittedId ≠ some id
  ends : ∀ id, id ∈ m.ended ↔ id ∈ m.activated ∧ m.state.activeId ≠ some id
  once : m.ended.Nodup
  newest : ∀ id, m.state.activeId = some id → m.activated.head? = some id
  calls : ∀ call ∈ m.starts, call.id < m.nextId ∧ call.id ∉ m.activated
  distinct : (m.starts.map StartCall.id).Nodup
  lease : ∀ id, m.lease = some (.session id) → m.Holds id
  dropping : Dropping m.ended m.cleanups
  locked : m.cleanups ≠ [] → m.state = .idle
  closed : ∀ id ∈ m.closed, id ∈ m.ended ∧ .releaseLease id ∉ m.cleanups
  waits : ∀ wait ∈ m.waits, wait.generation ≤ m.nextId ∧ wait.session ∈ m.activated ∧
    (m.nextId = wait.generation → m.activated.head? = some wait.session ∧ m.state.admittedId = none)
  shown : m.pairing ≠ none → m.shownFor = m.activated.head?
  selects : ∀ id ∈ m.selected, id ∈ m.activated
  selected : ∀ session, m.state = .active session → session.id ∈ m.selected → session.phase = .pairing
  past : ∀ id ∈ m.selected, m.shownFor = some id → ∀ phase, m.pairing = some phase → phase.discovers = false

/-- While a session is active a phase is shown, and the translator runs. -/
structure Live (m : Manager) : Prop where
  shows : ∀ id, m.state.activeId = some id → m.pairing ≠ none
  stopped : m.translating = false → m.watcherAlive = false ∧ m.state.activeId = none
  stopping : m.stopping = true → m.translating = false

theorem inv_init : ({} : Manager).Inv where
  current := by simp [SessionState.current]
  only := by simp
  withdrawn := by simp
  activated := by simp
  ends := by simp
  once := List.nodup_nil
  newest := by simp [SessionState.activeId]
  calls := by simp
  distinct := List.nodup_nil
  lease := by simp
  dropping := ⟨[], .inl rfl, .inl rfl⟩
  locked := by simp
  closed := by simp
  waits := by simp
  shown := by simp
  selects := by simp
  selected := by simp
  past := by simp

theorem isIdle_iff {state : SessionState} : state.isIdle = true ↔ state = .idle := by
  cases state <;> simp [SessionState.isIdle]

theorem admittedId_iff {state : SessionState} {id : Nat} : state.admittedId = some id ↔ state = .admitting id := by
  cases state <;> simp [SessionState.admittedId]

theorem Inv.start (hi : m.Inv) (hclean : m.cleanups = []) : m.start.Inv := by
  unfold Manager.start
  split
  · rename_i hidle
    have hidle : m.state = .idle := isIdle_iff.1 (Bool.and_eq_true_iff.1 hidle).2
    have hlt : ∀ id ∈ m.activated, id < m.nextId := fun id h => (hi.activated id h).1
    have hfresh : m.nextId ∉ m.activated := fun h => Nat.lt_irrefl _ (hlt _ h)
    exact
      { hi with
        current := by
          rintro id ⟨⟩
          exact ⟨Nat.lt_succ_self _, fun h => hfresh ((hi.ends _).1 h).1,
            fun h => Nat.lt_irrefl _ (hi.withdrawn _ h)⟩
        only := by
          intro id hid hended hwithdrawn
          rcases Nat.lt_succ_iff_lt_or_eq.1 hid with hid | rfl
          · have hcurrent := hi.only id hid hended hwithdrawn
            rw [hidle] at hcurrent
            cases hcurrent
          · rfl
        withdrawn := fun id h => Nat.lt_succ_of_lt (hi.withdrawn id h)
        activated := fun id h => ⟨Nat.lt_succ_of_lt (hlt id h), by
          rintro ⟨⟩
          exact hfresh h⟩
        ends := by
          intro id
          rw [hi.ends, hidle]
          rfl
        newest := by simp [SessionState.activeId]
        calls := by
          intro call hcall
          rcases List.mem_append.1 hcall with hcall | hcall
          · exact ⟨Nat.lt_succ_of_lt (hi.calls call hcall).1, (hi.calls call hcall).2⟩
          · rw [List.mem_singleton.1 hcall]
            exact ⟨Nat.lt_succ_self _, hfresh⟩
        distinct := by
          rw [List.map_append, List.nodup_append]
          refine ⟨hi.distinct, by simp, ?_⟩
          intro a ha b hb heq
          obtain ⟨call, hcall, rfl⟩ := List.mem_map.1 ha
          have hb : b = m.nextId := by simpa using hb
          have hlt := (hi.calls call hcall).1
          omega
        lease := by
          intro id hlease
          rcases hi.lease id hlease with ⟨call, hcall, hid, hstage⟩ | hactive | hdrop
          · exact .inl ⟨call, List.mem_append_left _ hcall, hid, hstage⟩
          · rw [hidle] at hactive
            cases hactive
          · rw [hclean] at hdrop
            cases hdrop
        locked := fun h => absurd hclean h
        waits := by
          intro wait hwait
          obtain ⟨hle, hactivated, -⟩ := hi.waits wait hwait
          refine ⟨Nat.le_succ_of_le hle, hactivated, fun heq => ?_⟩
          dsimp only at heq
          omega
        selected := by simp }
  · exact hi

variable {starts : List StartCall} {i : Nat} {call other : StartCall} {session : ActiveSession} {rest : List Cleanup}

/-- The calls with one more stage: the same ids, and no call but the one changed. -/
theorem map_id_set (hget : starts[i]? = some call) (stage : StartStage) :
    (starts.set i { call with stage }).map StartCall.id = starts.map StartCall.id := by
  refine List.ext_getElem? fun j => ?_
  rw [List.getElem?_map, List.getElem?_map]
  by_cases hj : i = j
  · subst hj
    rw [List.getElem?_set_self (List.getElem?_eq_some_iff.1 hget).1, hget]
    rfl
  · rw [List.getElem?_set_ne hj]

theorem mem_set_of_ne (hget : starts[i]? = some call) (hother : other ∈ starts) (hne : other ≠ call)
    (replaced : StartCall) : other ∈ starts.set i replaced := by
  obtain ⟨j, hj⟩ := List.mem_iff_getElem?.1 hother
  refine List.mem_iff_getElem?.2 ⟨j, ?_⟩
  rw [List.getElem?_set_ne ?_]
  · exact hj
  · rintro rfl
    rw [hget] at hj
    exact hne (Option.some.inj hj).symm

theorem mem_eraseIdx_of_ne (hget : starts[i]? = some call) (hother : other ∈ starts) (hne : other ≠ call) :
    other ∈ starts.eraseIdx i := by
  obtain ⟨j, hj⟩ := List.mem_iff_getElem?.1 hother
  refine List.mem_eraseIdx_iff_getElem?.2 ⟨j, ?_, hj⟩
  rintro rfl
  rw [hget] at hj
  exact hne (Option.some.inj hj).symm

/-- The calls left after one is taken have other ids. -/
theorem id_ne_of_mem_eraseIdx (hnd : (starts.map StartCall.id).Nodup) (hget : starts[i]? = some call)
    (hother : other ∈ starts.eraseIdx i) :
    other.id ≠ call.id := by
  obtain ⟨j, hne, hj⟩ := List.mem_eraseIdx_iff_getElem?.1 hother
  intro heq
  have hlt : j < (starts.map StartCall.id).length := by
    rw [List.length_map]
    exact (List.getElem?_eq_some_iff.1 hj).1
  refine hne ((List.getElem?_inj hlt hnd).1 ?_)
  rw [List.getElem?_map, List.getElem?_map, hget, hj]
  exact congrArg some heq

/-- A call is taken, and its lease with it, if it has one. -/
theorem Inv.withdrawStart (hi : m.Inv) (hget : m.starts[i]? = some call) {lease : Option LeaseHolder}
    (hlease : ∀ id, lease = some (.session id) →
      m.lease = some (.session id) ∧ (id ≠ call.id ∨ call.stage ≠ .granted)) :
    { m.withdrawStart i with lease }.Inv :=
  { hi with
    calls := fun other hother => hi.calls other (List.mem_of_mem_eraseIdx hother)
    distinct := hi.distinct.sublist ((List.eraseIdx_sublist _ _).map _)
    lease := fun id h => by
      obtain ⟨hheld, hne⟩ := hlease id h
      rcases hi.lease id hheld with ⟨other, hother, hid, hstage⟩ | hrest
      · refine .inl ⟨other, mem_eraseIdx_of_ne hget hother ?_, hid, hstage⟩
        rintro rfl
        exact hne.elim (fun hne => hne hid.symm) fun hne => hne hstage
      · exact .inr hrest }

/-- A call enters another stage, with the lease or without it. -/
theorem Inv.replaceStart (hi : m.Inv) (hget : m.starts[i]? = some call) {stage : StartStage}
    {lease : Option LeaseHolder} (hlease : ∀ id, lease = some (.session id) →
      (id = call.id ∧ stage = .granted) ∨
        (m.lease = some (.session id) ∧ (id ≠ call.id ∨ call.stage ≠ .granted))) :
    { m.replaceStart i call stage with lease }.Inv :=
  { hi with
    calls := fun other hother => by
      rcases List.mem_or_eq_of_mem_set hother with hother | rfl
      · exact hi.calls other hother
      · exact hi.calls call (List.mem_of_getElem? hget)
    distinct := by
      change ((m.starts.set i { call with stage }).map StartCall.id).Nodup
      rw [map_id_set hget]
      exact hi.distinct
    lease := fun id h => by
      rcases hlease id h with ⟨rfl, rfl⟩ | ⟨hheld, hne⟩
      · exact .inl ⟨_, List.mem_set (List.getElem?_eq_some_iff.1 hget).1 _, rfl, rfl⟩
      · rcases hi.lease id hheld with ⟨other, hother, hid, hstage⟩ | hrest
        · refine .inl ⟨other, mem_set_of_ne hget hother ?_ _, hid, hstage⟩
          rintro rfl
          exact hne.elim (fun hne => hne hid.symm) fun hne => hne hstage
        · exact .inr hrest }

theorem Inv.rollBackAdmission (hi : m.Inv) (id : Nat) : (m.rollBackAdmission id).Inv := by
  unfold Manager.rollBackAdmission
  split
  · rename_i hadmitted
    have hstate := admittedId_iff.1 hadmitted
    have hcurrent := hi.current id (by rw [hstate]; rfl)
    exact
      { hi with
        current := by
          rintro id ⟨⟩
        only := fun other hid hended hwithdrawn => by
          have h := hi.only other hid hended fun h => hwithdrawn (List.mem_cons_of_mem _ h)
          rw [hstate] at h
          obtain rfl : id = other := Option.some.inj h
          exact absurd List.mem_cons_self hwithdrawn
        withdrawn := fun other h => by
          rcases List.mem_cons.1 h with rfl | h
          · exact hcurrent.1
          · exact hi.withdrawn other h
        activated := fun other h => ⟨(hi.activated other h).1, by simp [SessionState.admittedId]⟩
        ends := fun other => by
          rw [hi.ends, hstate]
          rfl
        newest := by
          rintro other ⟨⟩
        lease := fun other hlease => by
          rcases hi.lease other hlease with hcall | hactive | hdrop
          · exact .inl hcall
          · rw [hstate] at hactive
            cases hactive
          · exact .inr (.inr hdrop)
        locked := fun _ => rfl
        waits := fun wait hwait => by
          obtain ⟨hle, hactivated, hnewest⟩ := hi.waits wait hwait
          exact ⟨hle, hactivated, fun heq => ⟨(hnewest heq).1, rfl⟩⟩
        selected := by
          rintro _ ⟨⟩ }
  · exact hi

/-- A start whose admission was granted becomes the active session. -/
theorem Inv.activate (hi : m.Inv) (hget : m.starts[i]? = some call) (hclean : m.cleanups = [])
    (hadmitted : m.state.admittedId = some call.id) :
    ({ m.withdrawStart i with
      state := .active { id := call.id }, activated := call.id :: m.activated }.publish call.id
        (some .searching)).Inv := by
  have hstate := admittedId_iff.1 hadmitted
  have hcurrent := hi.current call.id (by rw [hstate]; rfl)
  have hnew : call.id ∉ m.activated := fun h => (hi.activated _ h).2 hadmitted
  exact
    { current := by
        rintro id ⟨⟩
        exact hcurrent
      only := fun id hid hended hwithdrawn => by
        have h := hi.only id hid hended hwithdrawn
        rw [hstate] at h
        exact h
      withdrawn := hi.withdrawn
      activated := fun id h => by
        refine ⟨?_, by simp [publish, SessionState.admittedId]⟩
        rcases List.mem_cons.1 h with rfl | h
        · exact hcurrent.1
        · exact (hi.activated id h).1
      ends := fun id => by
        constructor
        · intro h
          refine ⟨List.mem_cons_of_mem _ ((hi.ends id).1 h).1, ?_⟩
          rintro ⟨⟩
          exact hcurrent.2.1 h
        · rintro ⟨h, hne⟩
          rcases List.mem_cons.1 h with rfl | h
          · exact absurd rfl hne
          · exact (hi.ends id).2 ⟨h, by rw [hstate]; simp [SessionState.activeId]⟩
      once := hi.once
      newest := fun id h => h
      calls := fun other hother => by
        refine ⟨(hi.calls other (List.mem_of_mem_eraseIdx hother)).1, fun h => ?_⟩
        rcases List.mem_cons.1 h with h | h
        · exact id_ne_of_mem_eraseIdx hi.distinct hget hother h
        · exact (hi.calls other (List.mem_of_mem_eraseIdx hother)).2 h
      distinct := hi.distinct.sublist ((List.eraseIdx_sublist _ _).map _)
      lease := fun id hlease => by
        rcases hi.lease id hlease with ⟨other, hother, hid, hstage⟩ | hactive | hdrop
        · by_cases heq : other = call
          · refine .inr (.inl ?_)
            rw [← hid, heq]
            rfl
          · exact .inl ⟨other, mem_eraseIdx_of_ne hget hother heq, hid, hstage⟩
        · rw [hstate] at hactive
          cases hactive
        · rw [hclean] at hdrop
          cases hdrop
      dropping := hi.dropping
      locked := fun h => absurd hclean h
      closed := hi.closed
      waits := fun wait hwait => by
        obtain ⟨hle, hactivated, hnewest⟩ := hi.waits wait hwait
        refine ⟨hle, List.mem_cons_of_mem _ hactivated, fun heq => ?_⟩
        rw [(hnewest heq).2] at hadmitted
        cases hadmitted
      shown := fun _ => rfl
      selects := fun id h => List.mem_cons_of_mem _ (hi.selects id h)
      selected := by
        rintro _ ⟨⟩ h
        exact absurd (hi.selects _ h) hnew
      past := by
        rintro id h ⟨⟩
        exact absurd (hi.selects _ h) hnew }

/-- **A session ends once**: it was active, and its lease and completion are dropped in this order. -/
theorem Inv.endSession (hi : m.Inv) (hstate : m.state = .active session) (hrest : rest = [] ∨ rest = [.clearPhase]) :
    { m.endSession session.id with cleanups := dropSession session.id ++ rest }.Inv := by
  have hactive : m.state.activeId = some session.id := by rw [hstate]; rfl
  have hcurrent := hi.current session.id (by rw [hstate]; rfl)
  have hactivated := List.mem_of_mem_head? (hi.newest _ hactive)
  exact
    { hi with
      current := by
        rintro id ⟨⟩
      only := fun id hid hended hwithdrawn => by
        have h := hi.only id hid (fun h => hended (List.mem_cons_of_mem _ h)) hwithdrawn
        rw [hstate] at h
        obtain rfl : session.id = id := Option.some.inj h
        exact absurd List.mem_cons_self hended
      activated := fun id h => ⟨(hi.activated id h).1, by simp [Manager.endSession, SessionState.admittedId]⟩
      ends := fun id => by
        constructor
        · intro h
          refine ⟨?_, by simp [Manager.endSession, SessionState.activeId]⟩
          rcases List.mem_cons.1 h with rfl | h
          · exact hactivated
          · exact ((hi.ends id).1 h).1
        · rintro ⟨h, -⟩
          by_cases heq : id = session.id
          · rw [heq]
            exact List.mem_cons_self
          · refine List.mem_cons_of_mem _ ((hi.ends id).2 ⟨h, ?_⟩)
            rw [hactive]
            rintro ⟨⟩
            exact heq rfl
      once := List.nodup_cons.2 ⟨hcurrent.2.1, hi.once⟩
      newest := by
        rintro id ⟨⟩
      lease := fun id hlease => by
        rcases hi.lease id hlease with hcall | hid | hdrop
        · exact .inl hcall
        · rw [hactive] at hid
          cases hid
          exact .inr (.inr (by simp [dropSession]))
        · have hidle := hi.locked (List.ne_nil_of_mem hdrop)
          rw [hstate] at hidle
          cases hidle
      dropping := ⟨rest, hrest, .inr ⟨session.id, List.mem_cons_self, .inr rfl⟩⟩
      locked := fun _ => rfl
      closed := fun id h => by
        have hended := (hi.closed id h).1
        refine ⟨List.mem_cons_of_mem _ hended, ?_⟩
        have hne : id ≠ session.id := fun heq => hcurrent.2.1 (heq ▸ hended)
        rcases hrest with rfl | rfl
        · simp [dropSession, hne]
        · simp [dropSession, hne]
      waits := fun wait hwait => by
        obtain ⟨hle, hactivated, hnewest⟩ := hi.waits wait hwait
        exact ⟨hle, hactivated, fun heq => ⟨(hnewest heq).1, rfl⟩⟩
      selected := by
        rintro _ ⟨⟩ }

/-! ## Phases -/

/-- No phase: of no session. -/
theorem Inv.clear (hi : m.Inv) : { m with pairing := none }.Inv :=
  { hi with
    shown := by simp
    past := by simp }

/-- The active session publishes, and none of discovery once a device was selected. -/
theorem Inv.publish (hi : m.Inv) (session' : ActiveSession) (hstate : m.state = .active session)
    (hid : session'.id = session.id) (hclosed : session.phase = .pairing → session'.phase = .pairing)
    {phase : Option PairingPhase} (hphase : session.phase = .pairing → ∀ p, phase = some p → p.discovers = false) :
    ({ m with state := .active session' }.publish session.id phase).Inv := by
  have hactive : m.state.activeId = some session.id := by rw [hstate]; rfl
  have hactive' : (SessionState.active session').activeId = m.state.activeId := by rw [hactive, ← hid]; rfl
  have hcurrent' : (SessionState.active session').current = m.state.current := by
    rw [hstate]
    exact congrArg some hid
  have hadmitted' : (SessionState.active session').admittedId = m.state.admittedId := by rw [hstate]; rfl
  exact
    { current := fun id h => hi.current id (hcurrent' ▸ h)
      only := fun id hlt hended hwithdrawn => hcurrent'.trans (hi.only id hlt hended hwithdrawn)
      withdrawn := hi.withdrawn
      activated := fun id h => ⟨(hi.activated id h).1, fun h' => (hi.activated id h).2 (hadmitted' ▸ h')⟩
      ends := fun id => by
        rw [Manager.publish, hactive']
        exact hi.ends id
      once := hi.once
      newest := fun id h => hi.newest id (hactive' ▸ h)
      calls := hi.calls
      distinct := hi.distinct
      lease := fun id h => by
        rcases hi.lease id h with hcall | hid' | hdrop
        · exact .inl hcall
        · exact .inr (.inl (hactive'.trans hid'))
        · exact .inr (.inr hdrop)
      dropping := hi.dropping
      locked := fun h => by
        have hidle := hi.locked h
        rw [hstate] at hidle
        cases hidle
      closed := hi.closed
      waits := fun wait hwait => by
        obtain ⟨hle, hactivated, hnewest⟩ := hi.waits wait hwait
        exact ⟨hle, hactivated, fun heq => ⟨(hnewest heq).1, hadmitted'.trans (hnewest heq).2⟩⟩
      shown := fun _ => (hi.newest _ hactive).symm
      selects := hi.selects
      selected := by
        rintro _ ⟨⟩ h
        exact hclosed (hi.selected session hstate (hid ▸ h))
      past := by
        rintro id h ⟨⟩
        exact hphase (hi.selected session hstate h) }

theorem translate_cases {session' : ActiveSession} {event : PairingEvent} {update : PairingUpdate}
    (h : translate session event = some (update, session')) :
    session'.id = session.id ∧ (session.phase = .pairing → session'.phase = .pairing) ∧
      (session.phase = .pairing → ∀ pairing p, update.publish pairing = some p → p.discovers = false) := by
  cases event with
  | searching =>
    simp only [translate] at h
    split at h
    · cases h
    · rename_i hphase
      cases h
      exact ⟨rfl, id, fun h => absurd h hphase⟩
  | deviceFound device =>
    simp only [translate] at h
    split at h
    · cases h
    · rename_i hphase
      cases h
      exact ⟨rfl, id, fun h => absurd h hphase⟩
  | passkey method =>
    cases h
    refine ⟨rfl, fun _ => rfl, fun _ pairing p hp => ?_⟩
    cases hp
    rfl
  | paired slot =>
    cases h
    refine ⟨rfl, id, fun _ pairing p hp => ?_⟩
    cases hp
    rfl
  | failed error =>
    cases h
    refine ⟨rfl, id, fun _ pairing p hp => ?_⟩
    cases hfailure : PairingFailure.ofError error
    all_goals
      rw [hfailure] at hp
      cases hp
    all_goals rfl

/-- **An event ends its session or leaves it active; an event of another session changes nothing.** -/
theorem Inv.applySessionEvent (hi : m.Inv) (id : Nat) (event : PairingEvent) :
    (m.applySessionEvent id event).Inv := by
  unfold Manager.applySessionEvent
  split
  · rename_i session hstate
    split
    · rename_i hid
      subst hid
      split
      · exact hi
      · rename_i update session' htranslate
        obtain ⟨hid, hclosed, hphase⟩ := translate_cases htranslate
        have hpublished := hi.publish session' hstate hid hclosed fun h => hphase h m.pairing
        dsimp only
        split
        · have hended := hpublished.endSession (show _ = SessionState.active session' from rfl) (.inl rfl)
          rw [hid] at hended
          exact { hended with }
        · exact { hpublished with }
    · exact hi
  · exact hi
  · exact hi

theorem Inv.pair (hi : m.Inv) (address : List UInt8) : (m.pair address).Inv := by
  unfold Manager.pair
  split
  · rename_i session hstate
    split
    · split
      · have hshown : ∀ p, some PairingPhase.pairing = some p → p.discovers = false := by
          rintro _ ⟨⟩
          rfl
        have hpublished := hi.publish { session with phase := .pairing } hstate rfl (fun _ => rfl) fun _ => hshown
        have hactivated := List.mem_of_mem_head? (hi.newest session.id (by rw [hstate]; rfl))
        exact
          { hpublished with
            selects := fun id h => by
              rcases List.mem_cons.1 h with rfl | h
              · exact hactivated
              · exact hi.selects id h
            selected := by
              rintro _ ⟨⟩ -
              rfl
            past := by
              rintro id - - _ ⟨⟩
              rfl }
      · exact hi
    · exact hi
  · exact hi
  · exact hi

theorem Inv.cancel (hi : m.Inv) : m.cancel.Inv := by
  unfold Manager.cancel
  split
  · rename_i session hstate
    split
    · have hnewest := hi.newest session.id (by rw [hstate]; rfl)
      exact
        { hi with
          waits := fun wait hwait => by
            rcases List.mem_append.1 hwait with hwait | hwait
            · exact hi.waits wait hwait
            · rw [List.mem_singleton.1 hwait]
              exact ⟨Nat.le_refl _, List.mem_of_mem_head? hnewest, fun _ => ⟨hnewest, by
                change m.state.admittedId = none
                rw [hstate]
                rfl⟩⟩ }
    · exact hi
  · exact hi.clear
  · exact hi.clear

theorem Inv.dismiss (hi : m.Inv) (i : Nat) (wait : CancelWait) : (m.dismiss i wait).Inv := by
  have herased : { m with waits := m.waits.eraseIdx i }.Inv :=
    { hi with waits := fun wait hwait => hi.waits wait (List.mem_of_mem_eraseIdx hwait) }
  unfold Manager.dismiss
  dsimp only
  split
  · exact herased.clear
  · exact herased

theorem Inv.abort (hi : m.Inv) : m.abort.Inv := by
  unfold Manager.abort
  dsimp only
  split
  · exact { hi with }
  · rename_i id hstate
    have hrolled := hi.rollBackAdmission id
    rw [Manager.rollBackAdmission, if_pos (admittedId_iff.2 hstate)] at hrolled
    exact { hrolled with }
  · rename_i session hstate
    exact { hi.endSession hstate (.inl rfl) with }

/-- A part of the drop is done, the lease's with it. -/
theorem Inv.drop (hi : m.Inv) (lease : Option LeaseHolder) (hdropping : Dropping m.ended rest) (hidle : m.state = .idle)
    (hrest : ∀ id, .releaseLease id ∈ rest → .releaseLease id ∈ m.cleanups) (hlease : ∀ id, lease = some (.session id) →
      m.lease = some (.session id) ∧ (.releaseLease id ∈ m.cleanups → .releaseLease id ∈ rest)) :
    { m with cleanups := rest, lease }.Inv :=
  { hi with
    lease := fun id h => by
      obtain ⟨hheld, hkept⟩ := hlease id h
      rcases hi.lease id hheld with hcall | hactive | hdrop
      · exact .inl hcall
      · exact .inr (.inl hactive)
      · exact .inr (.inr (hkept hdrop))
    dropping := hdropping
    locked := fun _ => hidle
    closed := fun id h => ⟨(hi.closed id h).1, fun h' => (hi.closed id h).2 (hrest id h')⟩ }

/-- **The lease of an ended session is released before its completion closes.** -/
theorem Inv.cleanUp (hi : m.Inv) {cleanup : Cleanup} (hclean : m.cleanups = cleanup :: rest) :
    (m.cleanUp cleanup rest).Inv := by
  have hidle := hi.locked (by simp [hclean])
  obtain ⟨tail, htail, hshape⟩ := hi.dropping
  have hnone : ∀ id, .releaseLease id ∉ tail := by
    rcases htail with rfl | rfl <;> simp
  have hrest : ∀ id, .releaseLease id ∈ rest → .releaseLease id ∈ m.cleanups :=
    fun id h => hclean ▸ List.mem_cons_of_mem _ h
  rw [hclean] at hshape
  rcases hshape with hshape | ⟨id, hended, hshape | hshape⟩
  · rcases htail with rfl | rfl
    · cases hshape
    · cases hshape
      have hdropped := hi.drop m.lease ⟨[], .inl rfl, .inl rfl⟩ hidle hrest
        fun id h => ⟨h, by simp [hclean]⟩
      exact hdropped.clear
  · cases hshape
    have hdropped := hi.drop m.lease ⟨rest, htail, .inl rfl⟩ hidle hrest
      fun id h => ⟨h, by simp [hclean]⟩
    exact
      { hdropped with
        closed := fun other h => by
          rcases List.mem_cons.1 h with rfl | h
          · exact ⟨hended, hnone other⟩
          · exact hdropped.closed other h }
  · cases hshape
    change (Manager.releaseLease { m with cleanups := .closeCompletion id :: tail } id).Inv
    unfold Manager.releaseLease
    split
    · exact hi.drop none ⟨tail, htail, .inr ⟨id, hended, .inl rfl⟩⟩ hidle hrest (by simp)
    · rename_i hne
      refine hi.drop m.lease ⟨tail, htail, .inr ⟨id, hended, .inl rfl⟩⟩ hidle hrest fun other h => ⟨h, ?_⟩
      rw [hclean]
      intro hother
      rcases List.mem_cons.1 hother with hother | hother
      · cases hother
        exact absurd h hne
      · exact hother

/-! ## The phase of the active session -/

theorem Live.idle (hl : m.Live) (hactive : m'.state.activeId = none) (htranslating : m'.translating = m.translating)
    (hstopping : m'.stopping = m.stopping) (hwatcher : m'.watcherAlive = m.watcherAlive) : m'.Live where
  shows := by simp [hactive]
  stopped := fun h => ⟨hwatcher ▸ (hl.stopped (htranslating ▸ h)).1, hactive⟩
  stopping := fun h => htranslating ▸ hl.stopping (hstopping ▸ h)

theorem Live.start (hl : m.Live) : m.start.Live := by
  unfold Manager.start
  split
  · exact hl.idle rfl rfl rfl rfl
  · exact hl

theorem Live.releaseLease (hl : m.Live) (id : Nat) : (m.releaseLease id).Live := by
  unfold Manager.releaseLease
  split
  · exact { hl with }
  · exact hl

theorem Live.accept (hl : m.Live) (i id : Nat) (selector : ReceiverSelector) : (m.accept i id selector).Live := by
  unfold Manager.accept
  dsimp only
  split
  · split
    · rename_i halive
      exact
        { hl with
          shows := by simp [publish, Manager.send]
          stopped := fun h => by
            have hdead := (hl.stopped h).1
            have halive : m.watcherAlive = true := halive
            rw [hdead] at halive
            cases halive }
    · exact hl.idle rfl rfl rfl rfl
  · have hwithdrawn : (m.withdrawStart i).Live := { hl with }
    exact hwithdrawn.releaseLease id

theorem Live.rollBackAdmission (hl : m.Live) (id : Nat) : (m.rollBackAdmission id).Live := by
  unfold Manager.rollBackAdmission
  split
  · exact hl.idle rfl rfl rfl rfl
  · exact hl

theorem Live.pair (hl : m.Live) (address : List UInt8) : (m.pair address).Live := by
  unfold Manager.pair
  split
  · rename_i session hstate
    split
    · split
      · exact
          { hl with
            shows := by simp [publish]
            stopped := fun h => by
              have hnone := (hl.stopped h).2
              rw [hstate] at hnone
              cases hnone }
      · exact hl
    · exact hl
  · exact hl
  · exact hl

theorem Live.cancel (hl : m.Live) : m.cancel.Live := by
  unfold Manager.cancel
  split
  · split
    · exact { hl with }
    · exact hl
  · rename_i hstate
    exact hl.idle (by change m.state.activeId = none; rw [hstate]; rfl) rfl rfl rfl
  · rename_i hstate
    exact hl.idle (by change m.state.activeId = none; rw [hstate]; rfl) rfl rfl rfl

theorem Live.dismiss (hl : m.Live) (i : Nat) (wait : CancelWait) : (m.dismiss i wait).Live := by
  unfold Manager.dismiss
  dsimp only
  split
  · rename_i hidle
    have hidle : m.state = .idle := isIdle_iff.1 (Bool.and_eq_true_iff.1 hidle).2
    exact hl.idle (by change m.state.activeId = none; rw [hidle]; rfl) rfl rfl rfl
  · exact { hl with }

/-- Only a terminal update may leave no phase. -/
theorem publish_ne_none {update : PairingUpdate} (h : update.isTerminal ≠ true) (pairing : Option PairingPhase) :
    update.publish pairing ≠ none := by
  cases update <;> simp_all [PairingUpdate.isTerminal, PairingUpdate.publish]

theorem Live.applySessionEvent (hl : m.Live) (id : Nat) (event : PairingEvent) :
    (m.applySessionEvent id event).Live := by
  unfold Manager.applySessionEvent
  split
  · rename_i session hstate
    split
    · split
      · exact hl
      · dsimp only
        split
        · exact hl.idle rfl rfl rfl rfl
        · rename_i hterminal
          exact
            { hl with
              shows := fun _ _ => publish_ne_none hterminal _
              stopped := fun h => by
                have hnone := (hl.stopped h).2
                rw [hstate] at hnone
                cases hnone }
    · exact hl
  · exact hl
  · exact hl

theorem Live.abort (hl : m.Live) (hdead : m.watcherAlive = false) : m.abort.Live := by
  unfold Manager.abort
  dsimp only
  split
  · rename_i hstate
    have hnone : m.state.activeId = none := by rw [hstate]; rfl
    exact { hl with stopped := fun _ => ⟨hdead, hnone⟩, stopping := fun _ => rfl }
  · exact
      { hl with
        shows := by
          rintro id ⟨⟩
        stopped := fun _ => ⟨hdead, rfl⟩
        stopping := fun _ => rfl }
  · exact
      { hl with
        shows := by
          rintro id ⟨⟩
        stopped := fun _ => ⟨hdead, rfl⟩
        stopping := fun _ => rfl }

theorem state_cleanUp (cleanup : Cleanup) (rest : List Cleanup) : (m.cleanUp cleanup rest).state = m.state ∧
    (m.cleanUp cleanup rest).translating = m.translating ∧ (m.cleanUp cleanup rest).stopping = m.stopping ∧
      (m.cleanUp cleanup rest).watcherAlive = m.watcherAlive := by
  cases cleanup with
  | releaseLease id =>
    simp only [Manager.cleanUp, Manager.releaseLease]
    split <;> exact ⟨rfl, rfl, rfl, rfl⟩
  | closeCompletion id => exact ⟨rfl, rfl, rfl, rfl⟩
  | clearPhase => exact ⟨rfl, rfl, rfl, rfl⟩

/-! ## Steps and runs -/

theorem Inv.accept (hi : m.Inv) (hget : m.starts[i]? = some call) (hclean : m.cleanups = [])
    (selector : ReceiverSelector) : (m.accept i call.id selector).Inv := by
  unfold Manager.accept
  dsimp only
  split
  · rename_i hadmitted
    have hactive := hi.activate hget hclean hadmitted
    split
    · exact { hactive with }
    · exact { hactive.endSession (show _ = SessionState.active { id := call.id } from rfl) (.inr rfl) with }
  · unfold Manager.releaseLease
    split
    · exact hi.withdrawStart hget (by simp)
    · rename_i hne
      refine hi.withdrawStart hget fun id h => ⟨h, .inl ?_⟩
      rintro rfl
      exact hne h

theorem Inv.giveUp (hi : m.Inv) (hget : m.starts[i]? = some call) :
    ((m.replaceStart i call .givenUp).releaseLease call.id).Inv := by
  unfold Manager.releaseLease
  split
  · exact hi.replaceStart hget (by simp)
  · rename_i hne
    refine hi.replaceStart hget fun id h => .inr ⟨h, .inl ?_⟩
    rintro rfl
    exact hne h

/-! ### One event -/

theorem Inv.step_grant (hi : m.Inv) (hl : m.Live) (h : Owner.step m (.grant i) = some m') : m'.Inv ∧ m'.Live := by
  simp only [Owner.step] at h
  split at h
  · rename_i call hget
    obtain ⟨-, ⟨⟩⟩ := Option.ite_none_right_eq_some.1 h
    refine ⟨hi.replaceStart hget fun id h => .inl ⟨?_, rfl⟩, { hl with }⟩
    cases h
    rfl
  · cases h

theorem Inv.step_accept {selector : ReceiverSelector} (hi : m.Inv) (hl : m.Live)
    (h : Owner.step m (.accept i selector) = some m') : m'.Inv ∧ m'.Live := by
  simp only [Owner.step] at h
  split at h
  · rename_i call hget
    obtain ⟨hgranted, ⟨⟩⟩ := Option.ite_none_right_eq_some.1 h
    have hclean := List.isEmpty_iff.1 (Bool.and_eq_true_iff.1 hgranted).2
    exact ⟨hi.accept hget hclean selector, hl.accept i call.id selector⟩
  · cases h

theorem Inv.step_giveUp (hi : m.Inv) (hl : m.Live) (h : Owner.step m (.giveUp i) = some m') : m'.Inv ∧ m'.Live := by
  simp only [Owner.step] at h
  split at h
  · rename_i call hget
    split at h
    · rename_i hstage
      cases h
      have hreplaced : { m.replaceStart i call .givenUp with lease := m.lease }.Inv :=
        hi.replaceStart hget fun id h => .inr ⟨h, .inr (by simp [hstage])⟩
      exact ⟨{ hreplaced with }, { hl with }⟩
    · cases h
      have hreplaced : (m.replaceStart i call .givenUp).Live := { hl with }
      exact ⟨hi.giveUp hget, hreplaced.releaseLease call.id⟩
    · cases h
  · cases h

theorem Inv.step_rollBack (hi : m.Inv) (hl : m.Live) (h : Owner.step m (.rollBack i) = some m') :
    m'.Inv ∧ m'.Live := by
  simp only [Owner.step] at h
  split at h
  · rename_i call hget
    obtain ⟨hgivenUp, ⟨⟩⟩ := Option.ite_none_right_eq_some.1 h
    have hstage : call.stage = .givenUp := by simpa using (Bool.and_eq_true_iff.1 hgivenUp).1
    have herased : { m.withdrawStart i with lease := m.lease }.Inv :=
      hi.withdrawStart hget fun id h => ⟨h, .inr (by simp [hstage])⟩
    have hwithdrawn : (m.withdrawStart i).Live := { hl with }
    exact ⟨Inv.rollBackAdmission { herased with } call.id, hwithdrawn.rollBackAdmission call.id⟩
  · cases h

theorem Inv.step_dismiss (hi : m.Inv) (hl : m.Live) (h : Owner.step m (.dismiss i) = some m') : m'.Inv ∧ m'.Live := by
  simp only [Owner.step] at h
  split at h
  · rename_i wait _
    obtain ⟨-, ⟨⟩⟩ := Option.ite_none_right_eq_some.1 h
    exact ⟨hi.dismiss i wait, hl.dismiss i wait⟩
  · cases h

theorem Inv.step_translatorStops (hi : m.Inv) (hl : m.Live) (h : Owner.step m .translatorStops = some m') :
    m'.Inv ∧ m'.Live := by
  obtain ⟨hdead, ⟨⟩⟩ := Option.ite_none_right_eq_some.1 h
  simp only [Bool.and_eq_true, Bool.not_eq_true'] at hdead
  exact ⟨hi.abort, hl.abort hdead.1.2⟩

theorem Inv.step_translatorClears (hi : m.Inv) (hl : m.Live) (h : Owner.step m .translatorClears = some m') :
    m'.Inv ∧ m'.Live := by
  obtain ⟨hstopping, ⟨⟩⟩ := Option.ite_none_right_eq_some.1 h
  have hnone := (hl.stopped (hl.stopping hstopping)).2
  exact ⟨{ hi.clear with }, { hl with shows := by simp [hnone], stopping := by simp }⟩

theorem Inv.step_cleanUp (hi : m.Inv) (hl : m.Live) (h : Owner.step m .cleanUp = some m') : m'.Inv ∧ m'.Live := by
  simp only [Owner.step] at h
  split at h
  · rename_i cleanup rest hclean
    cases h
    have hidle : m.state = .idle := hi.locked (by simp [hclean])
    obtain ⟨hstate, htranslating, hstopping, hwatcher⟩ := state_cleanUp cleanup rest (m := m)
    refine ⟨hi.cleanUp hclean, hl.idle ?_ htranslating hstopping hwatcher⟩
    rw [hstate, hidle]
    rfl
  · cases h

/-- **A step keeps the invariant.** -/
theorem Inv.step (hi : m.Inv) (hl : m.Live) {e : Event} (h : Owner.step m e = some m') : m'.Inv ∧ m'.Live := by
  cases e with
  | deviceIo allowed =>
    cases h
    exact ⟨{ hi with }, { hl with }⟩
  | start =>
    obtain ⟨hclean, ⟨⟩⟩ := Option.ite_none_right_eq_some.1 h
    exact ⟨hi.start hclean, hl.start⟩
  | grant i => exact hi.step_grant hl h
  | accept i selector => exact hi.step_accept hl h
  | giveUp i => exact hi.step_giveUp hl h
  | rollBack i => exact hi.step_rollBack hl h
  | unpair =>
    simp only [Owner.step] at h
    split at h
    all_goals
      cases h
      exact ⟨{ hi with }, { hl with }⟩
  | unpairGiveUp =>
    obtain ⟨-, ⟨⟩⟩ := Option.ite_none_right_eq_some.1 h
    exact ⟨{ hi with }, { hl with }⟩
  | unpairGrant | unpairDone | otherTakes | otherFrees =>
    obtain ⟨-, ⟨⟩⟩ := Option.ite_none_right_eq_some.1 h
    exact ⟨{ hi with lease := by simp }, { hl with }⟩
  | pair address =>
    obtain ⟨-, ⟨⟩⟩ := Option.ite_none_right_eq_some.1 h
    exact ⟨hi.pair address, hl.pair address⟩
  | cancel =>
    obtain ⟨-, ⟨⟩⟩ := Option.ite_none_right_eq_some.1 h
    exact ⟨hi.cancel, hl.cancel⟩
  | dismiss i => exact hi.step_dismiss hl h
  | dropCancel i =>
    obtain ⟨-, ⟨⟩⟩ := Option.ite_none_right_eq_some.1 h
    exact ⟨{ hi with waits := fun wait hwait => hi.waits wait (List.mem_of_mem_eraseIdx hwait) }, { hl with }⟩
  | event session event =>
    obtain ⟨-, ⟨⟩⟩ := Option.ite_none_right_eq_some.1 h
    exact ⟨hi.applySessionEvent session event, hl.applySessionEvent session event⟩
  | watcherDies =>
    cases h
    exact ⟨{ hi with }, { hl with stopped := fun h => ⟨rfl, (hl.stopped h).2⟩ }⟩
  | translatorStops => exact hi.step_translatorStops hl h
  | translatorClears => exact hi.step_translatorClears hl h
  | cleanUp => exact hi.step_cleanUp hl h

/-! ## Ownership -/

/-- An admission that was neither withdrawn nor, as a session, ended. -/
def Admitted (m : Manager) (id : Nat) : Prop := id < m.nextId ∧ id ∉ m.withdrawn ∧ id ∉ m.ended

structure Owned (m : Manager) : Prop where
  /-- At most one session is admitted. -/
  one : ∀ id id', m.Admitted id → m.Admitted id' → id = id'
  /-- A session that was activated is the active one, or ended, once. -/
  ends : m.ended.Nodup ∧ ∀ id, id ∈ m.ended ↔ id ∈ m.activated ∧ m.state.activeId ≠ some id
  /-- A session whose completion is closed does not hold the receiver. -/
  released : ∀ id ∈ m.closed, m.lease ≠ some (.session id)
  /-- The phase is the newest session's; an active session has one. -/
  shown : m.pairing ≠ none → m.shownFor = m.activated.head?
  shows : ∀ id, m.state.activeId = some id → m.pairing ≠ none ∧ m.activated.head? = some id
  /-- After a device was selected no phase of discovery is published for the session. -/
  past : ∀ id ∈ m.selected, m.shownFor = some id → ∀ phase, m.pairing = some phase → phase.discovers = false

theorem Inv.owned (hi : m.Inv) (hl : m.Live) : m.Owned where
  one := fun id id' h h' => by
    have hcurrent := hi.only id h.1 h.2.2 h.2.1
    rw [hi.only id' h'.1 h'.2.2 h'.2.1] at hcurrent
    exact (Option.some.inj hcurrent).symm
  ends := ⟨hi.once, hi.ends⟩
  released := fun id h hlease => by
    obtain ⟨hended, hdropped⟩ := hi.closed id h
    obtain ⟨hactivated, hne⟩ := (hi.ends id).1 hended
    rcases hi.lease id hlease with ⟨call, hcall, rfl, -⟩ | hactive | hdrop
    · exact (hi.calls call hcall).2 hactivated
    · exact hne hactive
    · exact hdropped hdrop
  shown := hi.shown
  shows := fun id h => ⟨hl.shows id h, hi.newest id h⟩
  past := hi.past

/-- What the handlers do to the sessions they are about, and not to the others. -/
structure Handled (m : Manager) (e : Event) (m' : Manager) : Prop where
  /-- An event of a session that is not the active one changes nothing. -/
  others : ∀ id event, e = .event id event → m.state.activeId ≠ some id → m' = m
  /-- The active session's terminal event ends it. -/
  terminal : ∀ id event, e = .event id event → m.state.activeId = some id →
    (∃ slot, event = .paired slot) ∨ (∃ error, event = .failed error) →
    m'.state = .idle ∧ m'.ended = id :: m.ended
  /-- The watcher's death ends whatever is admitted or active. -/
  death : e = .translatorStops → m'.state = .idle ∧ ∀ id, m.state.activeId = some id → m'.ended = id :: m.ended
  /-- A cancel returns after its session ended and released the receiver, and clears no other session's phase. -/
  cancels : ∀ i wait, e = .dismiss i → m.waits[i]? = some wait →
    wait.session ∈ m.ended ∧ m.lease ≠ some (.session wait.session) ∧
      (m.activated.head? ≠ some wait.session → m'.pairing = m.pairing)

theorem applySessionEvent_of_terminal (hstate : m.state = .active session) {event : PairingEvent}
    (hevent : (∃ slot, event = .paired slot) ∨ (∃ error, event = .failed error)) :
    (m.applySessionEvent session.id event).state = .idle ∧
      (m.applySessionEvent session.id event).ended = session.id :: m.ended := by
  unfold Manager.applySessionEvent
  rw [hstate]
  rcases hevent with ⟨slot, rfl⟩ | ⟨error, rfl⟩
  · simp [translate, PairingUpdate.isTerminal, Manager.endSession, publish]
  · simp [translate, PairingUpdate.isTerminal, Manager.endSession, publish]

theorem Inv.handled (hi : m.Inv) (hl : m.Live) {e : Event} (h : Owner.step m e = some m') : Handled m e m' where
  others := by
    rintro id event rfl hne
    simp only [Owner.step] at h
    split at h
    · cases h
      unfold Manager.applySessionEvent
      split
      · rename_i session hstate
        rw [if_neg]
        rintro rfl
        exact hne (by rw [hstate]; rfl)
      · rfl
      · rfl
    · cases h
  terminal := by
    rintro id event rfl hactive hevent
    cases hstate : m.state with
    | idle => rw [hstate] at hactive; cases hactive
    | admitting other => rw [hstate] at hactive; cases hactive
    | active session =>
      rw [hstate] at hactive
      cases hactive
      simp only [Owner.step] at h
      split at h
      · cases h
        exact applySessionEvent_of_terminal hstate hevent
      · cases h
  death := by
    rintro rfl
    simp only [Owner.step] at h
    split at h
    · cases h
      unfold Manager.abort
      cases hstate : m.state with
      | idle =>
        refine ⟨rfl, ?_⟩
        rintro id ⟨⟩
      | admitting other =>
        refine ⟨rfl, ?_⟩
        rintro id ⟨⟩
      | active session =>
        refine ⟨rfl, ?_⟩
        rintro id ⟨⟩
        rfl
    · cases h
  cancels := by
    rintro i wait rfl hget
    simp only [Owner.step, hget] at h
    split at h
    · rename_i hclosed
      cases h
      refine ⟨(hi.closed _ hclosed.1).1, (hi.owned hl).released _ hclosed.1, fun hne => ?_⟩
      unfold Manager.dismiss
      rw [if_neg]
      intro hdismissed
      have hgeneration : m.nextId = wait.generation := by
        simpa using (Bool.and_eq_true_iff.1 hdismissed).1
      exact hne ((hi.waits wait (List.mem_of_getElem? hget)).2.2 hgeneration).1
    · cases h

end Manager

end Owner
end Pairing
end OpenLogi
