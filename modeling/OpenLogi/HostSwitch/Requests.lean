import OpenLogi.HostSwitch.Safety
/-!
# Requests — an accepted host-switch request and the one transition slot

A keyboard's session that ends on a host key makes a request: it waits in the recovery that restores the keyboard, then
in the transition slot, and is begun once nothing else runs.  The slot holds one request, and a second that is ready
replaces it.  A run keeps its requests exactly when this never happens and no restore task dies with one.
-/
namespace OpenLogi
namespace HostSwitch

open Lib (run run_inv run_cons Along EveryState everyState_iff_along_of_inv)

variable {T : Type}

/-- The request waits for its keyboard's restore. -/
def Recovers (state : HostSwitchManagerState T) (r : TransitionIntent) : Prop :=
  ∃ recovery, .recovering recovery ∈ state.slots ∧ recovery.link = r.link ∧ recovery.requestedHost = some r.host

/-- The request waits for its transition, or for its keyboard's restore. -/
def Pending (state : HostSwitchManagerState T) (r : TransitionIntent) : Prop :=
  state.transition = some (.waiting r) ∨ Recovers state r

/-- No accepted request is lost. -/
def Kept (s : Sys T) : Prop := ∀ r ∈ s.accepted, Pending s.state r

/-- What holds in every run: an accepted request is of a published link while the manager goes on, the manager returns
only when it was asked to, and the keyboard of a waiting request has no slot. -/
structure Booked (s : Sys T) : Prop where
  current : ∀ r ∈ s.accepted, s.terminal = false ∧ r.link ∈ s.links
  returned : s.ended.isSome = true → s.terminal = true
  free : ∀ r, s.state.transition = some (.waiting r) → ∀ slot ∈ s.state.slots, slot.keyboard ≠ r.link.keyboard

def Recovery.request (recovery : Recovery T) : Option TransitionIntent :=
  recovery.requestedHost.map fun host => ⟨recovery.link, host⟩

namespace Sys

/-- The recovery that a restore task's end settles. -/
def recoveryOf (s : Sys T) (epoch : Nat) : Option (Recovery T) :=
  match s.state.slots.find? (HostSwitchSlot.recovers epoch) with
  | some (.recovering recovery) => some recovery
  | _ => none

/-- The request an event leaves with nothing to wait for but the transition slot. -/
def readies (s : Sys T) : Event T → Option TransitionIntent
  | .session epoch (some ⟨.switch host, none, _⟩) _ =>
    match s.tasks.find? (isSession epoch) with
    | some (.session _ link) => if !s.terminal && link ∈ s.links then some ⟨link, host⟩ else none
    | _ => none
  | .restore epoch (some .restored) _ =>
    (s.recoveryOf epoch).bind fun recovery =>
      if !s.terminal && recovery.link ∈ s.links then Recovery.request recovery else none
  | _ => none

/-- The request that dies with a restore task. -/
def takesDown (s : Sys T) : Event T → Option TransitionIntent
  | .restore epoch none _ => (s.recoveryOf epoch).bind Recovery.request
  | _ => none

/-- An event that can be taken spares the accepted requests: none of them waits in the slot when another gets ready, and
none is with a restore task that dies. -/
def Spares (s : Sys T) (event : Event T) : Prop :=
  (s.step event).isSome = true →
    ((s.readies event).isSome = true → ∀ w ∈ s.accepted, s.state.transition ≠ some (.waiting w)) ∧
      ∀ r ∈ s.takesDown event, r ∉ s.accepted

instance [DecidableEq T] (s : Sys T) (event : Event T) : Decidable (s.Spares event) :=
  inferInstanceAs (Decidable (_ → _ ∧ _))

/-- The requests that an event has the manager accept. -/
def accepts (s : Sys T) : Event T → List TransitionIntent
  | .session epoch result _ =>
    match s.tasks.find? (isSession epoch) with
    | some (.session _ link) => s.acceptedRequest link result
    | _ => []
  | _ => []

end Sys

/-! ## One event -/

section

variable {state : HostSwitchManagerState T} {r : TransitionIntent}

theorem Pending.mono {state' : HostSwitchManagerState T} (h : Pending state r)
    (ht : state.transition = some (.waiting r) → state'.transition = some (.waiting r))
    (hs : ∀ slot ∈ state.slots, slot.isRecovering = true → slot ∈ state'.slots) : Pending state' r := by
  rcases h with h | ⟨recovery, hm, hl, hr⟩
  · exact .inl (ht h)
  · exact .inr ⟨recovery, hs _ hm rfl, hl, hr⟩

/-- A pass over the due restores keeps the requests of published links. -/
theorem retryDue_requests {published : List HostSwitchLink} (requests : ReceiverRequestState) (now : Nat)
    (hl : r.link ∈ published) : ∀ (leases : Nat) (slots : List (HostSwitchSlot T)) (recovery : Recovery T),
    .recovering recovery ∈ slots → recovery.link = r.link → recovery.requestedHost = some r.host →
    ∃ recovery', .recovering recovery' ∈ (HostSwitchManagerState.retryDue published requests now leases slots).1 ∧
      recovery'.link = r.link ∧ recovery'.requestedHost = some r.host
  | leases, slot :: rest, recovery, hm, hk, hh => by
    have ih := fun n h => retryDue_requests requests now hl n rest recovery h hk hh
    rcases List.mem_cons.1 hm with heq | hrest
    · subst heq
      have hrec : Recovery.reconcile published recovery = recovery := by
        rw [Recovery.reconcile, if_pos (hk ▸ hl)]
      rw [HostSwitchManagerState.retryDue, hrec]
      obtain ⟨link, epoch, requestedHost, restore⟩ := recovery
      cases restore with
      | restoring => exact ⟨_, List.mem_cons_self, hk, hh⟩
      | ready token retryAt =>
        dsimp only
        split
        · exact ⟨_, List.mem_cons_self, hk, hh⟩
        · cases leases with
          | zero => exact ⟨_, List.mem_cons_self, hk, hh⟩
          | succ leases => exact ⟨_, List.mem_cons_self, hk, hh⟩
    · have hlater : ∀ n kept, ∃ recovery',
          .recovering recovery' ∈ kept :: (HostSwitchManagerState.retryDue published requests now n rest).1 ∧
            recovery'.link = r.link ∧ recovery'.requestedHost = some r.host := fun n _ => by
        obtain ⟨found, hf, hreq⟩ := ih n hrest
        exact ⟨found, List.mem_cons_of_mem _ hf, hreq⟩
      cases slot with
      | recovering other =>
        rw [HostSwitchManagerState.retryDue]
        generalize Recovery.reconcile published other = other
        obtain ⟨link, epoch, requestedHost, restore⟩ := other
        cases restore with
        | restoring => exact hlater leases _
        | ready token retryAt =>
          dsimp only
          split
          · exact hlater leases _
          · cases leases with
            | zero => exact ⟨recovery, List.mem_cons_of_mem _ hrest, hk, hh⟩
            | succ leases => exact hlater leases _
      | running session => exact hlater leases _
      | restarting link retryAt => exact hlater leases _
      | departing link deadline => exact hlater leases _

end

/-! ## A pass -/

/-- A part of a pass that leaves the requests where they are. -/
structure Passes (s s' : Sys T) : Prop where
  terminal : s'.terminal = s.terminal
  links : s'.links = s.links
  accepted : s'.accepted = s.accepted
  begun : s'.begun = s.begun
  ended : s'.ended = s.ended
  /-- While a request waits, the pass makes no slot. -/
  waits : ∀ r, s'.state.transition = some (.waiting r) → s.state.transition = some (.waiting r) ∧
    ∀ slot ∈ s'.state.slots, ∃ other ∈ s.state.slots, other.keyboard = slot.keyboard ∧
      other.isRunning = slot.isRunning ∧ other.isRecovering = slot.isRecovering
  keeps : ∀ r : TransitionIntent, s.terminal = false → r.link ∈ s.links →
    s.state.transition = some (.waiting r) → s'.state.transition = some (.waiting r)
  recovers : ∀ r : TransitionIntent, r.link ∈ s.links → Recovers s.state r → Recovers s'.state r

namespace Passes

variable {s t u : Sys T}

theorem refl (s : Sys T) : Passes s s :=
  ⟨rfl, rfl, rfl, rfl, rfl, fun _ h => ⟨h, fun slot hm => ⟨slot, hm, rfl, rfl, rfl⟩⟩, fun _ _ _ h => h, fun _ _ h => h⟩

theorem pending (h : Passes s t) {r : TransitionIntent} (ht : s.terminal = false) (hl : r.link ∈ s.links)
    (hp : Pending s.state r) : Pending t.state r :=
  hp.imp (h.keeps r ht hl) (h.recovers r hl)

theorem trans (h : Passes s t) (h' : Passes t u) : Passes s u where
  terminal := h'.terminal.trans h.terminal
  links := h'.links.trans h.links
  accepted := h'.accepted.trans h.accepted
  begun := h'.begun.trans h.begun
  ended := h'.ended.trans h.ended
  waits := fun r hr => by
    obtain ⟨ht, hslots'⟩ := h'.waits r hr
    obtain ⟨hs, hslots⟩ := h.waits r ht
    refine ⟨hs, fun slot hm => ?_⟩
    obtain ⟨a, ha, hak, har, hac⟩ := hslots' slot hm
    obtain ⟨b, hb, hbk, hbr, hbc⟩ := hslots a ha
    exact ⟨b, hb, hbk.trans hak, hbr.trans har, hbc.trans hac⟩
  keeps := fun r ht hl hw => h'.keeps r (h.terminal.trans ht) (h.links.symm ▸ hl) (h.keeps r ht hl hw)
  recovers := fun r hl hp => h'.recovers r (h.links.symm ▸ hl) (h.recovers r hl hp)

/-- Changing every slot to one of its kind, and no recovery. -/
theorem of_map {f : HostSwitchSlot T → HostSwitchSlot T} (hf : ∀ slot, HostSwitchSlot.Same (f slot) slot)
    (hr : ∀ recovery, ∃ restore, f (.recovering recovery) = .recovering { recovery with restore := restore }) :
    Passes s { s with state := { s.state with slots := s.state.slots.map f } } where
  terminal := rfl
  links := rfl
  accepted := rfl
  begun := rfl
  ended := rfl
  waits := fun _ ht => ⟨ht, fun slot hm => by
    obtain ⟨a, ha, rfl⟩ := List.mem_map.1 hm
    exact ⟨a, ha, (congrArg HostSwitchLink.keyboard (hf a).link).symm, (hf a).running.symm, (hf a).recovering.symm⟩⟩
  keeps := fun _ _ _ hw => hw
  recovers := fun _ _ ⟨recovery, hm, hl, hh⟩ => by
    obtain ⟨restore, hfr⟩ := hr recovery
    have hmem : f (.recovering recovery) ∈ s.state.slots.map f := List.mem_map_of_mem hm
    rw [hfr] at hmem
    exact ⟨_, hmem, hl, hh⟩

theorem stopSessions (s : Sys T) : Passes s s.stopSessions := by
  unfold Sys.stopSessions
  split
  · exact of_map (HostSwitchSlot.same_stopSession _ _) fun recovery => ⟨recovery.restore, rfl⟩
  · exact refl s

theorem registry (s : Sys T) (now : Nat) :
    Passes s { s with state := s.state.expeditePendingRestores now } := by
  refine of_map (HostSwitchSlot.same_expedite now) fun recovery => ?_
  obtain ⟨link, epoch, requestedHost, restore⟩ := recovery
  cases restore with
  | ready token retryAt => exact ⟨.ready token now, rfl⟩
  | restoring => exact ⟨.restoring, rfl⟩

theorem reconcileTransition (s : Sys T) : Passes s s.reconcileTransition := by
  unfold Sys.reconcileTransition HostSwitchManagerState.reconcileTransition
  split
  · rename_i intent ht
    split
    · rename_i hgone
      refine ⟨rfl, rfl, rfl, rfl, rfl, fun r hr => (by cases hr), fun r hterm hl hw => ?_, fun _ _ hr => hr⟩
      obtain rfl : intent = r := by simpa using ht.symm.trans hw
      rw [hterm] at hgone
      simp only [Bool.false_or, decide_eq_true_eq] at hgone
      exact absurd hl hgone
    · exact refl s
  · exact refl s

theorem retain (s : Sys T) (now : Nat) : Passes s (s.retain now) where
  terminal := rfl
  links := rfl
  accepted := rfl
  begun := rfl
  ended := rfl
  waits := fun _ ht => ⟨ht, fun slot hm => ⟨slot, (List.mem_filter.1 hm).1, rfl, rfl, rfl⟩⟩
  keeps := fun _ _ _ hw => hw
  recovers := fun _ _ ⟨recovery, hm, hreq⟩ => ⟨recovery, List.mem_filter.2 ⟨hm, rfl⟩, hreq⟩

theorem retryDue (s : Sys T) (now leases : Nat) : Passes s (s.retryDue now leases) := by
  have hslots := HostSwitchManagerState.retryDue_slots s.links s.requests now leases s.state.slots
  have hreq := fun (r : TransitionIntent) (hl : r.link ∈ s.links) =>
    retryDue_requests s.requests now hl leases s.state.slots
  unfold Sys.retryDue
  revert hslots hreq
  cases HostSwitchManagerState.retryDue s.links s.requests now leases s.state.slots with
  | mk slots tokens =>
    rintro ⟨hk, -, -, -, hr, hc⟩ hreq
    refine ⟨rfl, rfl, rfl, rfl, rfl, fun r ht => ⟨ht, fun slot hm => ?_⟩, fun _ _ _ hw => hw,
      fun r hl ⟨recovery, hm, hlink, hh⟩ => hreq r hl recovery hm hlink hh⟩
    obtain ⟨i, hi, rfl⟩ := List.getElem_of_mem hm
    have hlen : i < s.state.slots.length := by
      have hlen := congrArg List.length hk
      rw [List.length_map, List.length_map] at hlen
      exact hlen ▸ hi
    have hget : ∀ {β : Type} (g : HostSwitchSlot T → β), slots.map g = s.state.slots.map g →
        g s.state.slots[i] = g slots[i] := fun g hg => by
      have hget := congrArg (·[i]?) hg
      simpa [hi, hlen] using hget.symm
    exact ⟨s.state.slots[i], List.getElem_mem _, hget _ hk, hget _ hr, hget _ hc⟩

theorem reconcileRecoveries (s : Sys T) (now leases : Nat) : Passes s (s.reconcileRecoveries now leases) := by
  unfold Sys.reconcileRecoveries
  split
  · exact (retain s now).trans (retryDue _ now leases)
  · exact refl s

theorem spawnSuccessors (s : Sys T) (wanted : List HostSwitchLink) (leases : Nat) :
    Passes s (s.spawnSuccessors wanted leases) := by
  unfold Sys.spawnSuccessors
  split
  · rename_i hc
    have hnone : s.state.transition = none := by
      simp only [Bool.and_eq_true, Option.isNone_iff_eq_none] at hc
      exact hc.2
    have hslots := HostSwitchManagerState.spawnSuccessors_slots leases wanted s.state
    revert hslots
    cases HostSwitchManagerState.spawnSuccessors leases wanted s.state with
    | mk state starts =>
      rintro ⟨-, -, -, ht, -, hkeep⟩
      rw [hnone] at ht
      refine ⟨rfl, rfl, rfl, rfl, rfl, fun r hr => ?_, fun r _ _ h => ?_,
        fun r _ ⟨recovery, hm, hreq⟩ => ⟨recovery, hkeep _ hm, hreq⟩⟩
      · change state.transition = _ at hr
        rw [ht] at hr
        cases hr
      · rw [hnone] at h
        cases h
  · exact refl s

/-- **A pass, up to its end, leaves the requests where they are.** -/
theorem reconcile (s : Sys T) (now leases leases' : Nat) :
    ∃ t, Passes s t ∧ s.reconcile now leases leases' = t.finish :=
  ⟨_, ((((reconcileTransition s).trans (stopSessions _)).trans (reconcileRecoveries _ now leases)).trans
    (spawnSuccessors _ _ leases')), rfl⟩

end Passes

section

variable {s s' : Sys T}

theorem Booked.passes (h : Booked s) (hp : Passes s s') : Booked s' where
  current := fun r hr => by
    rw [hp.terminal, hp.links]
    exact h.current r (hp.accepted ▸ hr)
  returned := fun he => by
    rw [hp.terminal]
    exact h.returned (hp.ended ▸ he)
  free := fun r hr slot hm => by
    obtain ⟨ht, hslots⟩ := hp.waits r hr
    obtain ⟨other, ho, hk, -⟩ := hslots slot hm
    rw [← hk]
    exact h.free r ht other ho

theorem Kept.passes (h : Kept s) (hb : Booked s) (hp : Passes s s') : Kept s' := fun r hr => by
  rw [hp.accepted] at hr
  obtain ⟨ht, hl⟩ := hb.current r hr
  exact hp.pending ht hl (h r hr)

/-- The end of a pass begins a waiting request or leaves everything as it is. -/
theorem finish_requests (hb : Booked s) : Booked s.finish ∧ (Kept s → Kept s.finish) := by
  unfold Sys.finish
  split
  · rename_i completion hc
    refine ⟨⟨hb.current, fun _ => ?_, hb.free⟩, fun hk => hk⟩
    unfold HostSwitchManagerState.terminalCompletion at hc
    split at hc
    · rename_i hall
      simp only [Bool.and_eq_true] at hall
      exact hall.1.1.1
    · cases hc
  · split
    · exact ⟨hb, fun hk => hk⟩
    · rename_i intent state hbegin
      unfold HostSwitchManagerState.beginTransition at hbegin
      split at hbegin
      · cases hbegin
      · split at hbegin
        · rename_i waiting ht
          cases hbegin
          refine ⟨⟨fun r hr => hb.current r (List.mem_filter.1 hr).1, hb.returned, fun r hr => (by cases hr)⟩,
            fun hk r hr => ?_⟩
          obtain ⟨hr, hne⟩ := List.mem_filter.1 hr
          refine (hk r hr).mono (fun hw => ?_) fun slot hm _ => hm
          obtain rfl : intent = r := by simpa using ht.symm.trans hw
          exact absurd rfl (of_decide_eq_true hne)
        · cases hbegin

/-- **What a completed session leaves**: no request, one with the restore of its keyboard, or one in the slot. -/
theorem session_outcome {session : RunningSession} (epoch : Nat) (result : Option (SessionResult T)) (now : Nat)
    (ht : s.tasks.find? (Sys.isSession epoch) = some (.session epoch session.link))
    (hf : s.state.slots.find? (HostSwitchSlot.runs epoch) = some (.running session)) :
    let state := s.state.handleSessionCompletion epoch result s.links s.terminal now
    let slots := s.state.slots.eraseP (HostSwitchSlot.runs epoch)
    (s.acceptedRequest session.link result = [] ∧ s.readies (.session epoch result now) = none ∧
      state.transition = s.state.transition ∧
      ∃ left, state.slots = slots ++ left ∧ ∀ slot ∈ left, slot.link = session.link) ∨
    ∃ host, s.acceptedRequest session.link result = [⟨session.link, host⟩] ∧ s.terminal = false ∧
      session.link ∈ s.links ∧
      ((s.readies (.session epoch result now) = none ∧ state.transition = s.state.transition ∧
        ∃ restore, state.slots = slots ++ [.recovering ⟨session.link, session.epoch, some host, restore⟩]) ∨
      (s.readies (.session epoch result now) = some ⟨session.link, host⟩ ∧
        state.transition = some (.waiting ⟨session.link, host⟩) ∧ state.slots = slots)) := by
  have hnone : ∀ l : List (HostSwitchSlot T), ∃ left, l = l ++ left ∧ ∀ slot ∈ left, slot.link = session.link :=
    fun l => ⟨[], (List.append_nil l).symm, fun _ hm => (by cases hm)⟩
  have hone : ∀ (l : List (HostSwitchSlot T)) (slot : HostSwitchSlot T), slot.link = session.link →
      ∃ left, l ++ [slot] = l ++ left ∧ ∀ slot ∈ left, slot.link = session.link :=
    fun l slot hl => ⟨[slot], rfl, fun other hm => by rw [List.mem_singleton.1 hm, hl]⟩
  simp only [HostSwitchManagerState.handleSessionCompletion, hf]
  cases result with
  | none => exact .inl ⟨rfl, rfl, rfl, hnone _⟩
  | some result =>
    obtain ⟨followUp, pendingRestore, failed⟩ := result
    cases followUp with
    | rearm =>
      left
      refine ⟨rfl, rfl, ?_⟩
      cases pendingRestore with
      | some token => exact ⟨rfl, hone _ _ rfl⟩
      | none =>
        simp only [HostSwitchManagerState.settleSession, reduceCtorEq, decide_false, Bool.false_and,
          Bool.false_eq_true, if_false]
        split
        · exact ⟨rfl, hone _ _ rfl⟩
        · exact ⟨rfl, hnone _⟩
    | awaitDeparture =>
      left
      refine ⟨rfl, rfl, ?_⟩
      cases pendingRestore with
      | some token => exact ⟨rfl, hone _ _ rfl⟩
      | none =>
        simp only [HostSwitchManagerState.settleSession]
        split
        · exact ⟨rfl, hone _ _ rfl⟩
        · split
          · exact ⟨rfl, hone _ _ rfl⟩
          · exact ⟨rfl, hnone _⟩
    | switch host =>
      by_cases hcur : (!s.terminal && decide (session.link ∈ s.links)) = true
      · right
        have hboth : s.terminal = false ∧ session.link ∈ s.links := by simpa using hcur
        refine ⟨host, by simp only [Sys.acceptedRequest, hcur, if_true], hboth.1, hboth.2, ?_⟩
        cases pendingRestore with
        | some token =>
          left
          refine ⟨rfl, rfl, ?_⟩
          simp only [HostSwitchManagerState.settleSession, hcur, if_true]
          exact ⟨_, rfl⟩
        | none =>
          right
          simp only [Sys.readies, ht, HostSwitchManagerState.settleSession, hcur, if_true, and_self]
      · left
        refine ⟨by simp only [Sys.acceptedRequest, if_neg hcur], ?_⟩
        cases pendingRestore with
        | some token => exact ⟨rfl, rfl, hone _ _ rfl⟩
        | none =>
          refine ⟨by simp only [Sys.readies, ht, if_neg hcur], ?_⟩
          simp only [HostSwitchManagerState.settleSession, if_neg hcur, reduceCtorEq, decide_false, Bool.false_and,
            Bool.false_eq_true, if_false]
          split
          · exact ⟨rfl, hone _ _ rfl⟩
          · exact ⟨rfl, hnone _⟩

/-- **What a restore's end leaves**: the restore again, its request in the slot, nothing, or nothing of a task that
died. -/
theorem restore_outcome {recovery : Recovery T} (epoch : Nat) (result : Option (HostSwitchRestoreOutcome T)) (now : Nat)
    (hf : s.state.slots.find? (HostSwitchSlot.recovers epoch) = some (.recovering recovery)) :
    let state := s.state.handleRestoreCompletion epoch result s.links s.terminal now
    let slots := s.state.slots.eraseP (HostSwitchSlot.recovers epoch)
    let event : Event T := .restore epoch result now
    (s.readies event = none ∧ s.takesDown event = none ∧ state.transition = s.state.transition ∧
      ∃ restore, state.slots = slots ++ [.recovering { recovery with restore := restore }]) ∨
    (∃ host, recovery.requestedHost = some host ∧ s.readies event = some ⟨recovery.link, host⟩ ∧
      s.takesDown event = none ∧ state.transition = some (.waiting ⟨recovery.link, host⟩) ∧ state.slots = slots) ∨
    (s.readies event = none ∧ s.takesDown event = none ∧ state.transition = s.state.transition ∧ state.slots = slots ∧
      (recovery.requestedHost = none ∨ ¬(s.terminal = false ∧ recovery.link ∈ s.links))) ∨
    (s.readies event = none ∧ s.takesDown event = recovery.request ∧ state.transition = s.state.transition ∧
      state.slots = slots) := by
  have hrec : s.recoveryOf epoch = some recovery := by simp only [Sys.recoveryOf, hf]
  simp only [HostSwitchManagerState.handleRestoreCompletion, hf]
  cases result with
  | none =>
    right; right; right
    refine ⟨rfl, ?_, rfl, rfl⟩
    rw [Sys.takesDown, hrec, Option.bind_some]
  | some outcome =>
    cases outcome with
    | restorePending token => exact .inl ⟨rfl, rfl, rfl, .ready token _, rfl⟩
    | restored =>
      right
      by_cases hcur : (!s.terminal && decide (recovery.link ∈ s.links)) = true
      · cases hhost : recovery.requestedHost with
        | none =>
          right; left
          refine ⟨?_, rfl, rfl, rfl, .inl rfl⟩
          simp only [Sys.readies, hrec, Option.bind_some, if_pos hcur, Recovery.request, hhost, Option.map_none]
        | some host =>
          left
          refine ⟨host, rfl, ?_, rfl, ?_⟩
          · simp only [Sys.readies, hrec, Option.bind_some, if_pos hcur, Recovery.request, hhost, Option.map_some]
          · simp only [hcur, Option.filter_some, if_true, and_self]
      · right; left
        refine ⟨?_, rfl, ?_⟩
        · simp only [Sys.readies, hrec, Option.bind_some, if_neg hcur]
        · have hno :
              (recovery.requestedHost.filter fun _ => !s.terminal && decide (recovery.link ∈ s.links)) = none := by
            cases recovery.requestedHost with
            | none => rfl
            | some host => simp [hcur]
          simp only [hno, true_and]
          exact .inr fun h => hcur (by simp [h.1, h.2])

/-- The list without its first element that passes a test. -/
theorem mem_eraseP_or {α : Type} {p : α → Bool} {l : List α} {a : α} (h : l.find? p = some a) :
    a ∈ l ∧ (∀ b ∈ l, b = a ∨ b ∈ l.eraseP p) ∧ ∀ b ∈ l.eraseP p, b ∈ l := by
  refine ⟨List.mem_of_find?_eq_some h, fun b hb => ?_, fun b hb => List.mem_of_mem_eraseP hb⟩
  obtain ⟨pre, c, post, hl, -, hfind, herase⟩ := split_first ⟨a, List.mem_of_find?_eq_some h, List.find?_some h⟩
  obtain rfl := Option.some.inj (hfind.symm.trans h)
  rw [herase]
  rw [hl] at hb
  rcases List.mem_append.1 hb with hb | hb
  · exact .inr (List.mem_append_left _ hb)
  · exact (List.mem_cons.1 hb).imp_right (List.mem_append_right _)

section

variable {slot : HostSwitchSlot T} {slots : List (HostSwitchSlot T)} {tasks : List (Task T)}
  {state : HostSwitchManagerState T}

/-- A settled slot that leaves the transition slot alone. -/
theorem Booked.settle_stays (hb : Booked s) (hm : slot ∈ s.state.slots) (hsub : ∀ other ∈ slots, other ∈ s.state.slots)
    {left : List (HostSwitchSlot T)} (ht : state.transition = s.state.transition) (hs : state.slots = slots ++ left)
    (hleft : ∀ other ∈ left, other.link = slot.link) :
    ∀ r, state.transition = some (.waiting r) → ∀ other ∈ state.slots, other.keyboard ≠ r.link.keyboard := by
  intro r hr other ho
  rw [ht] at hr
  rw [hs] at ho
  rcases List.mem_append.1 ho with ho | ho
  · exact hb.free r hr other (hsub other ho)
  · have hk : other.keyboard = slot.keyboard := congrArg HostSwitchLink.keyboard (hleft other ho)
    rw [hk]
    exact hb.free r hr slot hm

/-- A settled slot whose request goes to the transition slot. -/
theorem Sound.Settles.waits (hset : Sound.Settles s slot slots tasks) {host : UInt8}
    (ht : state.transition = some (.waiting ⟨slot.link, host⟩)) (hs : state.slots = slots) :
    ∀ r, state.transition = some (.waiting r) → ∀ other ∈ state.slots, other.keyboard ≠ r.link.keyboard := by
  intro r hr other ho
  obtain rfl : ⟨slot.link, host⟩ = r := by simpa using ht.symm.trans hr
  exact hset.keyboard other (hs ▸ ho)

theorem Kept.settle_stays (hk : Kept s) (hpart : ∀ other ∈ s.state.slots, other = slot ∨ other ∈ slots)
    (ht : state.transition = s.state.transition) (hs : ∀ other ∈ slots, other ∈ state.slots)
    (hslot : ∀ recovery, slot = .recovering recovery → ∀ r ∈ s.accepted, recovery.link = r.link →
      recovery.requestedHost = some r.host → Pending state r) :
    ∀ r ∈ s.accepted, Pending state r := fun r hr => by
  rcases hk r hr with hw | ⟨recovery, hm, hl, hh⟩
  · exact .inl (ht.trans hw)
  · rcases hpart _ hm with heq | hm
    · exact hslot recovery heq.symm r hr hl hh
    · exact .inr ⟨recovery, hs _ hm, hl, hh⟩

/-- **A request that gets the transition slot loses exactly the one that waited in it.** -/
theorem Kept.settle_waits (hk : Kept s) (hb : Booked s) (hm : slot ∈ s.state.slots)
    (hpart : ∀ other ∈ s.state.slots, other = slot ∨ other ∈ slots) (hsub : ∀ other ∈ slots, other ∈ s.state.slots)
    {host : UInt8} (ht : state.transition = some (.waiting ⟨slot.link, host⟩)) (hs : state.slots = slots)
    (hslot : ∀ recovery, slot = .recovering recovery → recovery.requestedHost = some host) :
    (∀ r ∈ s.accepted, Pending state r) ↔ ∀ w ∈ s.accepted, s.state.transition ≠ some (.waiting w) := by
  constructor
  · intro h w hw hwait
    rcases h w hw with hp | ⟨recovery, hrm, hl, -⟩
    · obtain rfl : ⟨slot.link, host⟩ = w := by simpa using ht.symm.trans hp
      exact hb.free _ hwait slot hm rfl
    · rw [hs] at hrm
      exact hb.free w hwait _ (hsub _ hrm) (congrArg HostSwitchLink.keyboard hl)
  · intro h r hr
    rcases hk r hr with hw | ⟨recovery, hrm, hl, hh⟩
    · exact absurd hw (h r hr)
    · rcases hpart _ hrm with heq | hrm
      · left
        have hhost : host = r.host := Option.some.inj ((hslot recovery heq.symm).symm.trans hh)
        rw [ht, ← heq, hhost]
        exact congrArg (fun link => some (TransitionPhase.waiting ⟨link, r.host⟩)) hl
      · exact .inr ⟨recovery, hs ▸ hrm, hl, hh⟩

end

/-- A completed session loses a request exactly when its own gets ready while another waits. -/
theorem session_requests (hs : Sound s) (hb : Booked s) {epoch e : Nat} {link : HostSwitchLink}
    (ht : s.tasks.find? (Sys.isSession epoch) = some (.session e link)) (result : Option (SessionResult T)) (now : Nat)
    (hs' : s.step (.session epoch result now) = some s') : Booked s' ∧ (Kept s → (Kept s' ↔
      ((s.readies (.session epoch result now)).isSome = true →
        ∀ w ∈ s.accepted, s.state.transition ≠ some (.waiting w)))) := by
  obtain ⟨session, rfl, rfl, hf, hset⟩ := hs.handle_session ht
  have hee : e = session.epoch := by simpa [Sys.isSession] using List.find?_some ht
  rw [hee] at ht
  obtain ⟨hm, hpart, hsub⟩ := mem_eraseP_or hf
  have hout := session_outcome session.epoch result now ht hf
  unfold Sys.step at hs'
  split at hs'
  · cases hs'
  · simp only [ht] at hs'
    cases hs'
    rcases hout with ⟨hacc, hready, htr, left, hslots, hleft⟩ | ⟨host, hacc, hterm, hlink, hout⟩
    · rw [hready]
      refine ⟨⟨?_, hb.returned, hb.settle_stays hm hsub htr hslots hleft⟩,
        fun hk => ⟨fun _ h => (by cases h), fun _ => ?_⟩⟩
      · rw [hacc]
        exact hb.current
      · show ∀ r ∈ s.acceptedRequest session.link result ++ s.accepted, Pending _ r
        rw [hacc]
        refine hk.settle_stays hpart htr (fun other ho => ?_) fun recovery heq => (by cases heq)
        rw [hslots]
        exact List.mem_append_left _ ho
    · have hcurrent : ∀ r ∈ s.acceptedRequest session.link result ++ s.accepted,
          s.terminal = false ∧ r.link ∈ s.links := fun r hr => by
        rw [hacc] at hr
        rcases List.mem_append.1 hr with hr | hr
        · rw [List.mem_singleton.1 hr]
          exact ⟨hterm, hlink⟩
        · exact hb.current r hr
      rcases hout with ⟨hready, htr, restore, hslots⟩ | ⟨hready, htr, hslots⟩
      · rw [hready]
        refine ⟨⟨hcurrent, hb.returned, hb.settle_stays hm hsub htr hslots fun other ho => ?_⟩,
          fun hk => ⟨fun _ h => (by cases h), fun _ r hr => ?_⟩⟩
        · rw [List.mem_singleton.1 ho]
          rfl
        · change r ∈ s.acceptedRequest session.link result ++ s.accepted at hr
          rw [hacc] at hr
          rcases List.mem_append.1 hr with hr | hr
          · rw [List.mem_singleton.1 hr]
            refine .inr ⟨⟨session.link, session.epoch, some host, restore⟩, ?_, rfl, rfl⟩
            rw [hslots]
            exact List.mem_append_right _ (List.mem_singleton.2 rfl)
          · refine hk.settle_stays hpart htr (fun other ho => ?_) (fun recovery heq => (by cases heq)) r hr
            rw [hslots]
            exact List.mem_append_left _ ho
      · rw [hready]
        refine ⟨⟨hcurrent, hb.returned, hset.waits htr hslots⟩, fun hk => ?_⟩
        have hwaits := hk.settle_waits hb hm hpart hsub htr hslots fun recovery heq => (by cases heq)
        refine ⟨fun h _ => hwaits.1 fun r hr => h r (List.mem_append_right _ hr), fun h r hr => ?_⟩
        change r ∈ s.acceptedRequest session.link result ++ s.accepted at hr
        rw [hacc] at hr
        rcases List.mem_append.1 hr with hr | hr
        · rw [List.mem_singleton.1 hr]
          exact .inl htr
        · exact hwaits.2 (h rfl) r hr

/-- A restore's end loses a request exactly when its own gets ready while another waits, or when its task died with an
accepted one. -/
theorem restore_requests (hs : Sound s) (hb : Booked s) {epoch : Nat}
    (ht : s.tasks.any (Sys.isRestore epoch) = true) (result : Option (HostSwitchRestoreOutcome T)) (now : Nat)
    (hs' : s.step (.restore epoch result now) = some s') : Booked s' ∧ (Kept s → (Kept s' ↔
      (((s.readies (.restore epoch result now)).isSome = true →
        ∀ w ∈ s.accepted, s.state.transition ≠ some (.waiting w)) ∧
        ∀ r ∈ s.takesDown (.restore epoch result now), r ∉ s.accepted))) := by
  obtain ⟨recovery, rfl, -, hf, hset⟩ := hs.handle_restore ht
  obtain ⟨hm, hpart, hsub⟩ := mem_eraseP_or hf
  have hout := restore_outcome recovery.epoch result now hf
  unfold Sys.step at hs'
  split at hs'
  · cases hs'
  · simp only [ht, if_true] at hs'
    cases hs'
    rcases hout with ⟨hready, hdown, htr, restore, hslots⟩ | ⟨host, hhost, hready, hdown, htr, hslots⟩ |
      ⟨hready, hdown, htr, hslots, hgone⟩ | ⟨hready, hdown, htr, hslots⟩
    · rw [hready, hdown]
      refine ⟨⟨hb.current, hb.returned, hb.settle_stays hm hsub htr hslots fun other ho => ?_⟩,
        fun hk => ⟨fun _ => ⟨fun h => (by cases h), fun _ h => (by cases h)⟩, fun _ => ?_⟩⟩
      · rw [List.mem_singleton.1 ho]
        rfl
      · refine hk.settle_stays hpart htr (fun other ho => ?_) fun other heq r _ hl hh => ?_
        · rw [hslots]
          exact List.mem_append_left _ ho
        · cases heq
          refine .inr ⟨{ recovery with restore := restore }, ?_, hl, hh⟩
          rw [hslots]
          exact List.mem_append_right _ (List.mem_singleton.2 rfl)
    · rw [hready, hdown]
      refine ⟨⟨hb.current, hb.returned, hset.waits htr hslots⟩, fun hk => ?_⟩
      have hwaits := hk.settle_waits hb hm hpart hsub htr hslots fun other heq => (by cases heq; exact hhost)
      exact ⟨fun h => ⟨fun _ => hwaits.1 h, fun _ hr => (by cases hr)⟩, fun h => hwaits.2 (h.1 rfl)⟩
    · rw [hready, hdown]
      refine ⟨⟨hb.current, hb.returned, hb.settle_stays hm hsub htr (hslots.trans (List.append_nil _).symm)
        fun _ ho => (by cases ho)⟩, fun hk => ⟨fun _ => ⟨fun h => (by cases h), fun _ h => (by cases h)⟩, fun _ => ?_⟩⟩
      refine hk.settle_stays hpart htr (fun other ho => hslots ▸ ho) fun other heq r hr hl hh => ?_
      cases heq
      rcases hgone with hgone | hgone
      · rw [hgone] at hh
        cases hh
      · rw [hl] at hgone
        exact absurd (hb.current r hr) hgone
    · rw [hready, hdown]
      refine ⟨⟨hb.current, hb.returned, hb.settle_stays hm hsub htr (hslots.trans (List.append_nil _).symm)
        fun _ ho => (by cases ho)⟩, fun hk => ⟨fun h => ⟨fun h => (by cases h), fun r hr hacc => ?_⟩, fun h => ?_⟩⟩
      · -- the request was with the one slot of its keyboard
        have hrequest : recovery.requestedHost = some r.host ∧ recovery.link = r.link := by
          obtain ⟨host, hhost, rfl⟩ := Option.map_eq_some_iff.1 hr
          exact ⟨hhost, rfl⟩
        rcases h r hacc with hw | ⟨other, ho, hl, -⟩
        · exact hb.free r (htr.symm.trans hw) _ hm (congrArg HostSwitchLink.keyboard hrequest.2)
        · rw [hslots] at ho
          refine hset.keyboard _ ho ?_
          exact congrArg HostSwitchLink.keyboard (hl.trans hrequest.2.symm)
      · refine hk.settle_stays hpart htr (fun other ho => hslots ▸ ho) fun other heq r hr hl hh => ?_
        cases heq
        refine absurd hr (h.2 r ?_)
        refine Option.map_eq_some_iff.2 ⟨r.host, hh, ?_⟩
        rw [hl]

/-- **An event loses an accepted request exactly when it does not spare it.** -/
theorem step_requests (hs : Sound s) (hb : Booked s) {event : Event T} (hs' : s.step event = some s') :
    Booked s' ∧ (Kept s → (Kept s' ↔ s.Spares event)) := by
  have hsome : (s.step event).isSome = true := by rw [hs']; rfl
  have hspare : s.readies event = none → s.takesDown event = none → s.Spares event := fun hr hd _ => by
    rw [hr, hd]
    exact ⟨fun h => (by cases h), fun _ h => (by cases h)⟩
  have hplain : s.readies event = none → s.takesDown event = none → Booked s' ∧ (Kept s → Kept s') →
      Booked s' ∧ (Kept s → (Kept s' ↔ s.Spares event)) := fun hr hd h =>
    ⟨h.1, fun hk => ⟨fun _ => hspare hr hd, fun _ => h.2 hk⟩⟩
  cases event with
  | session epoch result now =>
    cases ht : s.tasks.find? (Sys.isSession epoch) with
    | none =>
      simp only [Sys.step, ht] at hs'
      split at hs' <;> cases hs'
    | some task =>
      cases task with
      | session e link =>
        obtain ⟨hb', hiff⟩ := session_requests hs hb ht result now hs'
        refine ⟨hb', fun hk => (hiff hk).trans ⟨fun h _ => ⟨h, fun _ hr => (by cases hr)⟩, fun h => (h hsome).1⟩⟩
      | restore e token => exact absurd (List.find?_some ht) (by simp [Sys.isSession])
      | transition intent => exact absurd (List.find?_some ht) (by simp [Sys.isSession])
  | restore epoch result now =>
    cases ht : s.tasks.any (Sys.isRestore epoch) with
    | false =>
      simp only [Sys.step, ht] at hs'
      split at hs' <;> cases hs'
    | true =>
      obtain ⟨hb', hiff⟩ := restore_requests hs hb ht result now hs'
      exact ⟨hb', fun hk => (hiff hk).trans ⟨fun h _ => h, fun h => h hsome⟩⟩
  | publish links =>
    refine hplain rfl rfl ?_
    unfold Sys.step at hs'
    split at hs'
    · cases hs'
    · cases hs'
      refine ⟨⟨fun r hr => ?_, hb.returned, hb.free⟩, fun hk r hr => hk r (List.mem_filter.1 hr).1⟩
      obtain ⟨hr, hl⟩ := List.mem_filter.1 hr
      exact ⟨(hb.current r hr).1, of_decide_eq_true hl⟩
  | receiver requests =>
    refine hplain rfl rfl ?_
    unfold Sys.step at hs'
    split at hs'
    · cases hs'
    · cases hs'
      exact ⟨⟨hb.current, hb.returned, hb.free⟩, fun hk => hk⟩
  | deviceIo allowed =>
    refine hplain rfl rfl ?_
    unfold Sys.step at hs'
    split at hs'
    · cases hs'
    · cases hs'
      exact ⟨⟨hb.current, hb.returned, hb.free⟩, fun hk => hk⟩
  | shutdown =>
    refine hplain rfl rfl ?_
    unfold Sys.step at hs'
    split at hs'
    · cases hs'
    · dsimp only at hs'
      split at hs'
      · cases hs'
      · cases hs'
        exact ⟨⟨fun _ hr => (by cases hr), fun _ => rfl, hb.free⟩, fun _ _ hr => (by cases hr)⟩
  | registry now =>
    refine hplain rfl rfl ?_
    unfold Sys.step at hs'
    split at hs'
    · cases hs'
    · cases hs'
      exact ⟨hb.passes (.registry s now), fun hk => hk.passes hb (.registry s now)⟩
  | reconcile now leases leases' =>
    refine hplain rfl rfl ?_
    unfold Sys.step at hs'
    split at hs'
    · cases hs'
    · cases hs'
      obtain ⟨t, hp, heq⟩ := Passes.reconcile s now leases leases'
      rw [heq]
      exact ⟨(finish_requests (hb.passes hp)).1, fun hk => (finish_requests (hb.passes hp)).2 (hk.passes hb hp)⟩
  | transition ok =>
    refine hplain rfl rfl ?_
    have hrunning : s.tasks.any Sys.isTransition = true → s.state.transition = some .running := fun ht => by
      obtain ⟨task, hm, hi⟩ := List.any_eq_true.1 ht
      refine hs.running_of_key (List.mem_map.2 ⟨task, hm, ?_⟩)
      cases task with
      | transition intent => rfl
      | session e link => cases hi
      | restore e token => cases hi
    unfold Sys.step at hs'
    split at hs'
    · cases hs'
    · dsimp only at hs'
      split at hs'
      · rename_i ht
        cases hs'
        refine ⟨⟨hb.current, hb.returned, fun r hr => (by cases hr)⟩, fun hk r hr => ?_⟩
        refine (hk r hr).mono (fun hw => ?_) fun slot hm _ => hm
        rw [hrunning ht] at hw
        cases hw
      · cases hs'

end

/-! ## Every run -/

theorem booked_start : Booked (.start : Sys T) where
  current := fun _ h => by cases h
  returned := fun h => by cases h
  free := fun _ h => by cases h

theorem booked_run {events : List (Event T)} {s : Sys T} (h : run Sys.step .start events = some s) :
    Sound s ∧ Booked s :=
  run_inv (fun s => Sound s ∧ Booked s) (fun _ _ _ h hs => ⟨h.1.step hs, (step_requests h.1 h.2 hs).1⟩) events _ s
    ⟨sound_start, booked_start⟩ h

/-- **A run keeps its requests exactly when its events spare them.** -/
theorem kept_iff (events : List (Event T)) :
    EveryState Sys.step Kept .start events ↔ Along Sys.step Sys.Spares .start events := by
  refine everyState_iff_along_of_inv (fun s => Sound s ∧ Booked s) Kept Sys.Spares (fun s event s' h hk hs => ?_)
    (fun s event h hsome => ?_) events .start ⟨sound_start, booked_start⟩ fun _ h => (by cases h)
  · obtain ⟨hb', hiff⟩ := step_requests h.1 h.2 hs
    exact ⟨⟨h.1.step hs, hb'⟩, hiff hk⟩
  · rw [h] at hsome
    cases hsome

section

variable {s s' : Sys T} {r : TransitionIntent}

theorem finish_accepted (hr : r ∈ s.accepted) :
    ∃ new, s.finish.begun = new ++ s.begun ∧ (r ∈ s.finish.accepted ∨ r ∈ new) := by
  unfold Sys.finish
  split
  · exact ⟨[], rfl, .inl hr⟩
  · split
    · exact ⟨[], rfl, .inl hr⟩
    · rename_i intent state _
      refine ⟨[intent], rfl, ?_⟩
      by_cases h : r = intent
      · exact .inr (List.mem_singleton.2 h)
      · exact .inl (List.mem_filter.2 ⟨hr, decide_eq_true h⟩)

variable {event : Event T}

theorem accepts_step (h : s.step event = some s') (hr : r ∈ s.accepts event) : r ∈ s'.accepted := by
  cases event with
  | session epoch result now =>
    unfold Sys.step at h
    unfold Sys.accepts at hr
    split at h
    · cases h
    · dsimp only at h hr
      split at h
      · rename_i e link ht
        cases h
        rw [ht] at hr
        exact List.mem_append_left _ hr
      · cases h
  | publish links => cases hr
  | receiver requests => cases hr
  | deviceIo allowed => cases hr
  | shutdown => cases hr
  | registry now => cases hr
  | reconcile now leases leases' => cases hr
  | restore epoch result now => cases hr
  | transition ok => cases hr

theorem begun_step (h : s.step event = some s') : ∃ new, s'.begun = new ++ s.begun := by
  unfold Sys.step at h
  split at h
  · cases h
  · cases event with
    | reconcile now leases leases' =>
      cases h
      obtain ⟨t, hp, heq⟩ := Passes.reconcile s now leases leases'
      rw [heq, ← hp.begun]
      unfold Sys.finish
      split
      · exact ⟨[], rfl⟩
      · split
        · exact ⟨[], rfl⟩
        · exact ⟨[_], rfl⟩
    | publish links => cases h; exact ⟨[], rfl⟩
    | receiver requests => cases h; exact ⟨[], rfl⟩
    | deviceIo allowed => cases h; exact ⟨[], rfl⟩
    | shutdown =>
      dsimp only at h
      split at h
      · cases h
      · cases h; exact ⟨[], rfl⟩
    | registry now => cases h; exact ⟨[], rfl⟩
    | session epoch result now =>
      dsimp only at h
      split at h
      · cases h; exact ⟨[], rfl⟩
      · cases h
    | restore epoch result now =>
      dsimp only at h
      split at h
      · cases h; exact ⟨[], rfl⟩
      · cases h
    | transition ok =>
      dsimp only at h
      split at h
      · cases h; exact ⟨[], rfl⟩
      · cases h

theorem begun_run : ∀ {events : List (Event T)} {s s' : Sys T}, run Sys.step s events = some s' →
    ∃ new, s'.begun = new ++ s.begun
  | [], s, s', h => by
    cases h
    exact ⟨[], rfl⟩
  | event :: events, s, s', h => by
    obtain ⟨t, ht, hrun⟩ := run_cons h
    obtain ⟨new, hnew⟩ := begun_step ht
    obtain ⟨new', hnew'⟩ := begun_run hrun
    exact ⟨new' ++ new, by rw [hnew', hnew, List.append_assoc]⟩

/-- An accepted request stays accepted, or is begun, as long as its link stays published and the manager goes on. -/
theorem accepted_step (h : s.step event = some s') (hr : r ∈ s.accepted)
    (hgoes : s'.terminal = false ∧ r.link ∈ s'.links) :
    ∃ new, s'.begun = new ++ s.begun ∧ (r ∈ s'.accepted ∨ r ∈ new) := by
  unfold Sys.step at h
  split at h
  · cases h
  · cases event with
    | publish links =>
      cases h
      exact ⟨[], rfl, .inl (List.mem_filter.2 ⟨hr, decide_eq_true hgoes.2⟩)⟩
    | receiver requests =>
      cases h
      exact ⟨[], rfl, .inl hr⟩
    | deviceIo allowed =>
      cases h
      exact ⟨[], rfl, .inl hr⟩
    | shutdown =>
      dsimp only at h
      split at h
      · cases h
      · cases h
        cases hgoes.1
    | registry now =>
      cases h
      exact ⟨[], rfl, .inl hr⟩
    | reconcile now leases leases' =>
      cases h
      obtain ⟨t, hp, heq⟩ := Passes.reconcile s now leases leases'
      rw [heq, ← hp.begun]
      exact finish_accepted (hp.accepted.symm ▸ hr)
    | session epoch result now =>
      dsimp only at h
      split at h
      · cases h
        exact ⟨[], rfl, .inl (List.mem_append_right _ hr)⟩
      · cases h
    | restore epoch result now =>
      dsimp only at h
      split at h
      · cases h
        exact ⟨[], rfl, .inl hr⟩
      · cases h
    | transition ok =>
      dsimp only at h
      split at h
      · cases h
        exact ⟨[], rfl, .inl hr⟩
      · cases h

theorem accepted_run : ∀ {events : List (Event T)} {s s' : Sys T}, run Sys.step s events = some s' →
    EveryState Sys.step (fun u => u.terminal = false ∧ r.link ∈ u.links) s events → r ∈ s.accepted →
    ∃ new, s'.begun = new ++ s.begun ∧ (r ∈ s'.accepted ∨ r ∈ new)
  | [], s, s', h, _, hr => by
    cases h
    exact ⟨[], rfl, .inl hr⟩
  | event :: events, s, s', h, hgoes, hr => by
    obtain ⟨t, ht, hrun⟩ := run_cons h
    have hgoes' := (Lib.everyState_cons.1 hgoes).2 t ht
    obtain ⟨new, hnew, hm⟩ := accepted_step ht hr (hgoes' [] t List.nil_prefix rfl)
    rcases hm with hm | hm
    · obtain ⟨new', hnew', hm⟩ := accepted_run hrun hgoes' hm
      refine ⟨new' ++ new, ?_, hm.imp_right (List.mem_append_left _)⟩
      rw [hnew', hnew, List.append_assoc]
    · -- begun once, it stays begun
      obtain ⟨new', hnew'⟩ := begun_run hrun
      refine ⟨new' ++ new, ?_, .inr (List.mem_append_right _ hm)⟩
      rw [hnew', hnew, List.append_assoc]

/-- **A request that waits while nothing runs and nothing is owed is begun by the next pass.** -/
theorem begun_by_pass (hb : Booked s) (hr : r ∈ s.accepted) (hp : Pending s.state r)
    (hrun : s.state.hasRunningSessions = false) (hrec : s.state.hasPendingRestores = false) (now leases leases' : Nat) :
    ∃ s', s.step (.reconcile now leases leases') = some s' ∧ s'.begun = r :: s.begun := by
  obtain ⟨hterm, hl⟩ := hb.current r hr
  have hnot : s.ended.isSome = false := by
    cases he : s.ended.isSome with
    | false => rfl
    | true =>
      rw [hb.returned he] at hterm
      cases hterm
  refine ⟨_, by rw [Sys.step, hnot]; rfl, ?_⟩
  obtain ⟨t, hpass, heq⟩ := Passes.reconcile s now leases leases'
  rw [heq]
  have hidle := HostSwitchManagerState.hasPendingRestores_eq_false.1 hrec
  have hwaits : t.state.transition = some (.waiting r) := by
    rcases hp with hw | ⟨recovery, hm, -⟩
    · exact hpass.keeps r hterm hl hw
    · exact absurd (hidle _ hm) Bool.noConfusion
  obtain ⟨-, hslots⟩ := hpass.waits r hwaits
  have hrun' : t.state.hasRunningSessions = false :=
    HostSwitchManagerState.hasRunningSessions_eq_false.2 fun slot hm => by
      obtain ⟨other, ho, -, hor, -⟩ := hslots slot hm
      rw [← hor]
      exact HostSwitchManagerState.hasRunningSessions_eq_false.1 hrun other ho
  have hrec' : t.state.hasPendingRestores = false :=
    HostSwitchManagerState.hasPendingRestores_eq_false.2 fun slot hm => by
      obtain ⟨other, ho, -, -, hoc⟩ := hslots slot hm
      rw [← hoc]
      exact hidle other ho
  have hterm' : t.terminal = false := hpass.terminal.trans hterm
  simp only [Sys.finish, HostSwitchManagerState.terminalCompletion, HostSwitchManagerState.beginTransition, hterm',
    hrun', hrec', hwaits, Bool.false_and, Bool.false_eq_true, if_false, Bool.or_self, hpass.begun]

end

/-- **Exactly the runs whose events spare the accepted requests lose none**, and there a request whose link stays
published is begun or waits, and is begun by the first pass at which no session runs and no restore is owed. -/
theorem requests_kept_iff (events : List (Event T)) :
    (EveryState Sys.step Kept .start events ↔ Along Sys.step Sys.Spares .start events) ∧
    (Along Sys.step Sys.Spares .start events → ∀ before event after s s' t r, events = before ++ event :: after →
      run Sys.step .start before = some s → r ∈ s.accepts event → s.step event = some s' →
      run Sys.step s' after = some t →
      EveryState Sys.step (fun u => u.terminal = false ∧ r.link ∈ u.links) s' after →
      (∃ new, t.begun = new ++ s'.begun ∧ r ∈ new) ∨ Pending t.state r ∧
        (t.state.hasRunningSessions = false → t.state.hasPendingRestores = false → ∀ now leases leases',
          ∃ t', t.step (.reconcile now leases leases') = some t' ∧ t'.begun = r :: t.begun)) := by
  refine ⟨kept_iff events, fun h before event after s s' t r heq hs hr hs' ht hgoes => ?_⟩
  have hrun : run Sys.step .start (before ++ event :: after) = some t := by
    rw [Lib.run_append, hs, Option.bind_some, Lib.run_of_step hs']
    exact ht
  have hkept := (kept_iff events).2 h
  have hbooked : Booked t := (booked_run hrun).2
  obtain ⟨new, hnew, hm⟩ := accepted_run ht hgoes (accepts_step hs' hr)
  rcases hm with hm | hm
  · have hp : Pending t.state r := hkept events t List.prefix_rfl (heq ▸ hrun) r hm
    exact .inr ⟨hp, begun_by_pass hbooked hm hp⟩
  · exact .inl ⟨new, hnew, hm⟩

/-! ## Two keyboards, one slot -/

/-- Two armed keyboards. -/
def sampleArmed : List (Event Unit) := [.publish [sampleLink 1, sampleLink 2], .reconcile 0 0 2]

/-- The request of the first keyboard waits for its restore, which is then done. -/
def sampleRestored : List (Event Unit) := [.reconcile 2000000000 1 0, .restore 1 (some .restored) 2000000001]

def sampleSpared : List (Event Unit) :=
  sampleArmed ++ [.session 2 (some ⟨.awaitDeparture, none, false⟩) 1] ++
    .session 1 (some ⟨.switch 1, some (), false⟩) 2 :: sampleRestored

theorem requests_kept_iff_restored : ∃ t, run Sys.step .start sampleSpared = some t ∧
    ∃ t', t.step (.reconcile 2000000002 0 0) = some t' ∧ t'.begun = [⟨sampleLink 1, 1⟩] := by
  refine ⟨_, rfl, ?_⟩
  have h := requests_kept_iff sampleSpared
  have hspared : Along Sys.step Sys.Spares .start sampleSpared := by decide
  rcases h.2 hspared _ _ _ _ _ _ ⟨sampleLink 1, 1⟩ rfl rfl (by decide) rfl rfl (by decide) with ⟨new, hb, hm⟩ | ⟨-, hb⟩
  · have hnil : [] = new ++ [] := hb
    rw [List.append_nil] at hnil
    rw [← hnil] at hm
    cases hm
  · exact hb rfl rfl 2000000002 0 0

/-- Both keyboards ask before the slot is free: the first request is never begun. -/
def sampleLost : List (Event Unit) :=
  sampleArmed ++ [.session 1 (some ⟨.switch 1, none, false⟩) 1, .session 2 (some ⟨.switch 2, none, false⟩) 2,
    .reconcile 3 0 0, .transition true]

theorem request_lost : ¬ EveryState Sys.step Kept .start sampleLost ∧
    ∃ s, run Sys.step .start sampleLost = some s ∧ s.links = [sampleLink 1, sampleLink 2] ∧ s.tasks = [] ∧
      s.state.slots = [] ∧ s.state.transition = none ∧ ⟨sampleLink 1, 1⟩ ∈ s.accepted ∧
      s.begun = [⟨sampleLink 2, 2⟩] := by
  refine ⟨fun h => ?_, _, rfl, rfl, rfl, rfl, rfl, by decide, rfl⟩
  have hk : Kept _ := h sampleLost _ List.prefix_rfl rfl
  rcases hk ⟨sampleLink 1, 1⟩ (by decide) with hw | ⟨recovery, hm, -⟩
  · cases hw
  · cases hm

end HostSwitch
end OpenLogi
