import OpenLogi.HostSwitch.Manager
import Mathlib.Data.List.Perm.Basic
import Mathlib.Data.List.Nodup
/-!
# Safety — who may touch a keyboard

Every task the manager spawned has the slot, or the running transition, that waits for it, and every such slot has its
task.  With the keyboards of the slots distinct, no keyboard has two sessions, a transition runs alone, and a token
that was handed over is in a slot or in the task that writes it.
-/
namespace OpenLogi
namespace HostSwitch

open Hid (DeviceRoute)
open Lib (run run_inv)

variable {T : Type}

/-- What tells two tasks apart. -/
inductive TaskKey where
  | session (epoch : Nat) (link : HostSwitchLink)
  | restore (epoch : Nat)
  | transition
  deriving DecidableEq

namespace TaskKey

/-- The keyboard a session task watches. -/
def sessionOf : TaskKey → Option DeviceRoute
  | .session _ link => some link.keyboard
  | _ => none

end TaskKey

namespace Task

def key : Task T → TaskKey
  | .session epoch link => .session epoch link
  | .restore epoch _ => .restore epoch
  | .transition _ => .transition

end Task

namespace HostSwitchSlot

/-- The task whose completion the slot waits for. -/
def expects : HostSwitchSlot T → Option TaskKey
  | .running session => some (.session session.epoch session.link)
  | .recovering ⟨_, epoch, _, .restoring⟩ => some (.restore epoch)
  | _ => none

/-- The token the slot holds, with its epoch. -/
def holds : HostSwitchSlot T → Option (Nat × T)
  | .recovering ⟨_, epoch, _, .ready token _⟩ => some (epoch, token)
  | _ => none

/-- Two slots that differ only in what no other part of the system relies on. -/
structure Same (a b : HostSwitchSlot T) : Prop where
  link : a.link = b.link
  epoch : a.epoch? = b.epoch?
  expects : a.expects = b.expects
  holds : a.holds = b.holds
  running : a.isRunning = b.isRunning
  recovering : a.isRecovering = b.isRecovering

theorem Same.refl (a : HostSwitchSlot T) : Same a a := ⟨rfl, rfl, rfl, rfl, rfl, rfl⟩

theorem same_stopSession (wanted : List HostSwitchLink) (terminal : Bool) (slot : HostSwitchSlot T) :
    Same (HostSwitchManagerState.stopSession wanted terminal slot) slot := by
  cases slot with
  | running session =>
    simp only [HostSwitchManagerState.stopSession]
    split <;> exact ⟨rfl, rfl, rfl, rfl, rfl, rfl⟩
  | recovering recovery => exact .refl _
  | restarting link retryAt => exact .refl _
  | departing link deadline => exact .refl _

theorem same_expedite (now : Nat) (slot : HostSwitchSlot T) : Same (HostSwitchManagerState.expedite now slot) slot := by
  cases slot with
  | recovering recovery =>
    obtain ⟨link, epoch, requestedHost, restore⟩ := recovery
    cases restore <;> exact ⟨rfl, rfl, rfl, rfl, rfl, rfl⟩
  | running session => exact .refl _
  | restarting link retryAt => exact .refl _
  | departing link deadline => exact .refl _

theorem epoch_of_expects {slot : HostSwitchSlot T} {key : TaskKey} (h : slot.expects = some key) :
    (∃ epoch link, key = .session epoch link ∧ slot.epoch? = some epoch ∧ slot.link = link ∧ slot.isRunning = true) ∨
      ∃ epoch, key = .restore epoch ∧ slot.epoch? = some epoch ∧ slot.isRecovering = true := by
  cases slot with
  | running session =>
    cases h
    exact .inl ⟨_, _, rfl, rfl, rfl, rfl⟩
  | recovering recovery =>
    obtain ⟨link, epoch, requestedHost, restore⟩ := recovery
    cases restore with
    | ready token retryAt => cases h
    | restoring =>
      cases h
      exact .inr ⟨_, rfl, rfl, rfl⟩
  | restarting link retryAt => cases h
  | departing link deadline => cases h

end HostSwitchSlot

/-- The task a transition phase waits for. -/
def TransitionPhase.expects : Option TransitionPhase → List TaskKey
  | some .running => [.transition]
  | _ => []

/-! ## The slots of a state -/

namespace HostSwitchManagerState

/-- A keyboard and a session have one slot each, and every session was counted. -/
structure Distinct (s : HostSwitchManagerState T) : Prop where
  keyboards : (s.slots.map HostSwitchSlot.keyboard).Nodup
  epochs : (s.slots.filterMap HostSwitchSlot.epoch?).Nodup
  counted : ∀ e ∈ s.slots.filterMap HostSwitchSlot.epoch?, e ≤ s.lastEpoch

/-- The tasks the state waits for. -/
def expects (s : HostSwitchManagerState T) : List TaskKey :=
  s.slots.filterMap HostSwitchSlot.expects ++ TransitionPhase.expects s.transition

/-- While a transition runs, no session runs and no restore is owed. -/
def Alone (s : HostSwitchManagerState T) : Prop :=
  s.transition = some .running → ∀ slot ∈ s.slots, slot.isRunning = false ∧ slot.isRecovering = false

/-- The tokens the slots hold. -/
def tokens (s : HostSwitchManagerState T) : List (Nat × T) := s.slots.filterMap HostSwitchSlot.holds

variable {s : HostSwitchManagerState T}

theorem hasRunningSessions_eq_false :
    s.hasRunningSessions = false ↔ ∀ slot ∈ s.slots, slot.isRunning = false := by
  simp [hasRunningSessions]

theorem hasPendingRestores_eq_false :
    s.hasPendingRestores = false ↔ ∀ slot ∈ s.slots, slot.isRecovering = false := by
  simp [hasPendingRestores]

/-- A session's slot is the only one of its epoch. -/
theorem Distinct.eq_of_epoch (h : s.Distinct) {a b : HostSwitchSlot T} {epoch : Nat} (ha : a ∈ s.slots)
    (hb : b ∈ s.slots) (hae : a.epoch? = some epoch) (hbe : b.epoch? = some epoch) : a = b := by
  have hn := h.epochs
  obtain ⟨pre, post, hs⟩ := List.append_of_mem ha
  rw [hs] at hb hn
  rw [List.filterMap_append, List.filterMap_cons_some hae, List.nodup_append] at hn
  obtain ⟨-, hpost, hdis⟩ := hn
  rw [List.nodup_cons] at hpost
  rcases List.mem_append.1 hb with hb | hb
  · exact absurd rfl (hdis epoch (List.mem_filterMap.2 ⟨b, hb, hbe⟩) epoch List.mem_cons_self)
  · rcases List.mem_cons.1 hb with rfl | hb
    · rfl
    · exact absurd (List.mem_filterMap.2 ⟨b, hb, hbe⟩) hpost.1

section

variable {s : HostSwitchManagerState T} {f : HostSwitchSlot T → HostSwitchSlot T}

/-- Changing every slot to one of the same kind changes nothing the rest relies on. -/
theorem map_slots (hf : ∀ slot, HostSwitchSlot.Same (f slot) slot) :
    ({ s with slots := s.slots.map f } : HostSwitchManagerState T).expects = s.expects ∧
      ({ s with slots := s.slots.map f } : HostSwitchManagerState T).tokens = s.tokens ∧
      (s.Distinct → ({ s with slots := s.slots.map f } : HostSwitchManagerState T).Distinct) ∧
      (s.Alone → ({ s with slots := s.slots.map f } : HostSwitchManagerState T).Alone) := by
  have hx : (HostSwitchSlot.expects ∘ f : HostSwitchSlot T → Option TaskKey) = HostSwitchSlot.expects :=
    funext fun slot => (hf slot).expects
  have hh : (HostSwitchSlot.holds ∘ f : HostSwitchSlot T → Option (Nat × T)) = HostSwitchSlot.holds :=
    funext fun slot => (hf slot).holds
  have he : (HostSwitchSlot.epoch? ∘ f : HostSwitchSlot T → Option Nat) = HostSwitchSlot.epoch? :=
    funext fun slot => (hf slot).epoch
  have hk : (HostSwitchSlot.keyboard ∘ f : HostSwitchSlot T → DeviceRoute) = HostSwitchSlot.keyboard :=
    funext fun slot => congrArg HostSwitchLink.keyboard (hf slot).link
  refine ⟨?_, ?_, fun h => ⟨?_, ?_, ?_⟩, fun h ht slot hs => ?_⟩
  · simp only [expects, List.filterMap_map, hx]
  · simp only [tokens, List.filterMap_map, hh]
  · simpa only [List.map_map, hk] using h.keyboards
  · simpa only [List.filterMap_map, he] using h.epochs
  · simpa only [List.filterMap_map, he] using h.counted
  · obtain ⟨slot, hm, rfl⟩ := List.mem_map.1 hs
    rw [(hf slot).running, (hf slot).recovering]
    exact h ht slot hm

end

/-- Dropping slots that no session belongs to changes nothing the rest relies on. -/
theorem filter_slots {p : HostSwitchSlot T → Bool} (hp : ∀ slot, p slot = false → slot.epoch? = none) :
    ({ s with slots := s.slots.filter p } : HostSwitchManagerState T).expects = s.expects ∧
      ({ s with slots := s.slots.filter p } : HostSwitchManagerState T).tokens = s.tokens ∧
      (s.Distinct → ({ s with slots := s.slots.filter p } : HostSwitchManagerState T).Distinct) ∧
      (s.Alone → ({ s with slots := s.slots.filter p } : HostSwitchManagerState T).Alone) := by
  have hnone : ∀ {β : Type} (g : HostSwitchSlot T → Option β), (∀ slot, slot.epoch? = none → g slot = none) →
      (s.slots.filter p).filterMap g = s.slots.filterMap g := by
    intro β g hg
    rw [List.filterMap_filter]
    refine List.filterMap_congr fun slot _ => ?_
    cases h : p slot with
    | true => simp
    | false => simp [hg slot (hp slot h)]
  have hx : ∀ slot : HostSwitchSlot T, slot.epoch? = none → slot.expects = none := fun slot h => by
    cases slot with
    | running session => cases h
    | recovering recovery => cases h
    | restarting link retryAt => rfl
    | departing link deadline => rfl
  have hh : ∀ slot : HostSwitchSlot T, slot.epoch? = none → slot.holds = none := fun slot h => by
    cases slot with
    | running session => cases h
    | recovering recovery => cases h
    | restarting link retryAt => rfl
    | departing link deadline => rfl
  refine ⟨?_, hnone _ hh, fun h => ⟨?_, ?_, ?_⟩, fun h ht slot hs => h ht slot (List.mem_filter.1 hs).1⟩
  · simp only [expects, hnone _ hx]
  · exact h.keyboards.sublist (List.filter_sublist.map _)
  · simpa only [hnone _ fun _ he => he] using h.epochs
  · simpa only [hnone _ fun _ he => he] using h.counted

/-- **What a pass over the due restores does**: a slot whose restore starts gives its token to a task. -/
theorem retryDue_slots (published : List HostSwitchLink) (requests : ReceiverRequestState) (now : Nat) :
    ∀ (leases : Nat) (slots : List (HostSwitchSlot T)),
      let (slots', tokens) := retryDue published requests now leases slots
      slots'.map HostSwitchSlot.keyboard = slots.map HostSwitchSlot.keyboard ∧
        slots'.filterMap HostSwitchSlot.epoch? = slots.filterMap HostSwitchSlot.epoch? ∧
        (slots'.filterMap HostSwitchSlot.expects).Perm
          (slots.filterMap HostSwitchSlot.expects ++ tokens.map fun token => .restore token.1) ∧
        (slots.filterMap HostSwitchSlot.holds).Perm (slots'.filterMap HostSwitchSlot.holds ++ tokens) ∧
        slots'.map HostSwitchSlot.isRunning = slots.map HostSwitchSlot.isRunning ∧
        slots'.map HostSwitchSlot.isRecovering = slots.map HostSwitchSlot.isRecovering
  | leases, [] => by simp [retryDue]
  | leases, .recovering recovery :: rest => by
    have ih := fun n => retryDue_slots published requests now n rest
    have hreq : Recovery.reconcile published recovery = ⟨recovery.link, recovery.epoch,
        (Recovery.reconcile published recovery).requestedHost, recovery.restore⟩ := by
      unfold Recovery.reconcile
      split <;> rfl
    obtain ⟨link, epoch, requestedHost, restore⟩ := recovery
    rw [retryDue]
    generalize (Recovery.reconcile published ⟨link, epoch, requestedHost, restore⟩).requestedHost = host at hreq
    rw [hreq]
    cases restore with
    | restoring =>
      obtain ⟨hk, he, hx, hh, hr, hc⟩ := ih leases
      refine ⟨?_, ?_, ?_, ?_, ?_, ?_⟩
      · exact congrArg (link.keyboard :: ·) hk
      · exact congrArg (epoch :: ·) he
      · exact hx.cons _
      · exact hh
      · exact congrArg (false :: ·) hr
      · exact congrArg (true :: ·) hc
    | ready token retryAt =>
      dsimp only
      split
      · obtain ⟨hk, he, hx, hh, hr, hc⟩ := ih leases
        refine ⟨?_, ?_, ?_, ?_, ?_, ?_⟩
        · exact congrArg (link.keyboard :: ·) hk
        · exact congrArg (epoch :: ·) he
        · exact hx
        · exact hh.cons _
        · exact congrArg (false :: ·) hr
        · exact congrArg (true :: ·) hc
      · cases leases with
        | zero =>
          refine ⟨rfl, rfl, ?_, ?_, rfl, rfl⟩
          · exact .of_eq (List.append_nil _).symm
          · exact .of_eq (List.append_nil _).symm
        | succ leases =>
          obtain ⟨hk, he, hx, hh, hr, hc⟩ := ih leases
          refine ⟨?_, ?_, ?_, ?_, ?_, ?_⟩
          · exact congrArg (link.keyboard :: ·) hk
          · exact congrArg (epoch :: ·) he
          · exact (hx.cons (TaskKey.restore epoch)).trans List.perm_middle.symm
          · exact (hh.cons (epoch, token)).trans List.perm_middle.symm
          · exact congrArg (false :: ·) hr
          · exact congrArg (true :: ·) hc
  | leases, .running session :: rest => by
    obtain ⟨hk, he, hx, hh, hr, hc⟩ := retryDue_slots published requests now leases rest
    refine ⟨?_, ?_, ?_, hh, ?_, ?_⟩
    · exact congrArg (session.link.keyboard :: ·) hk
    · exact congrArg (session.epoch :: ·) he
    · exact hx.cons _
    · exact congrArg (true :: ·) hr
    · exact congrArg (false :: ·) hc
  | leases, .restarting link retryAt :: rest => by
    obtain ⟨hk, he, hx, hh, hr, hc⟩ := retryDue_slots published requests now leases rest
    refine ⟨?_, he, hx, hh, ?_, ?_⟩
    · exact congrArg (link.keyboard :: ·) hk
    · exact congrArg (false :: ·) hr
    · exact congrArg (false :: ·) hc
  | leases, .departing link deadline :: rest => by
    obtain ⟨hk, he, hx, hh, hr, hc⟩ := retryDue_slots published requests now leases rest
    refine ⟨?_, he, hx, hh, ?_, ?_⟩
    · exact congrArg (link.keyboard :: ·) hk
    · exact congrArg (false :: ·) hr
    · exact congrArg (false :: ·) hc

/-- A slot for a keyboard that has none, of a session that was just counted. -/
theorem Distinct.push (h : s.Distinct) (link : HostSwitchLink) (ho : s.ownsKeyboard link.keyboard = false) :
    ({ s with lastEpoch := s.lastEpoch + 1, slots := s.slots ++ [.running ⟨link, s.lastEpoch + 1, .active⟩] } :
      HostSwitchManagerState T).Distinct := by
  have hk : link.keyboard ∉ s.slots.map HostSwitchSlot.keyboard := by
    simpa [ownsKeyboard] using ho
  have he : s.lastEpoch + 1 ∉ s.slots.filterMap HostSwitchSlot.epoch? := fun hm => by
    have hle := h.counted _ hm
    omega
  refine ⟨?_, ?_, fun e hm => ?_⟩
  · rw [List.map_append, List.nodup_append_comm]
    exact List.nodup_cons.2 ⟨hk, h.keyboards⟩
  · rw [List.filterMap_append, List.nodup_append_comm]
    exact List.nodup_cons.2 ⟨he, h.epochs⟩
  · rw [List.filterMap_append] at hm
    rcases List.mem_append.1 hm with hm | hm
    · have hle := h.counted e hm
      exact Nat.le_succ_of_le hle
    · exact Nat.le_of_eq (List.mem_singleton.1 hm)

/-- **What starting sessions does**: each gets a slot of its own, and is started while no slot has its keyboard. -/
theorem spawnSuccessors_slots : ∀ (leases : Nat) (wanted : List HostSwitchLink) (s : HostSwitchManagerState T),
    let (s', starts) := spawnSuccessors leases wanted s
    (s.Distinct → s'.Distinct) ∧
      (s'.slots.filterMap HostSwitchSlot.expects =
        s.slots.filterMap HostSwitchSlot.expects ++ starts.map fun start => .session (start.2.lastEpoch + 1) start.1) ∧
      s'.tokens = s.tokens ∧ s'.transition = s.transition ∧
      (∀ start ∈ starts, start.2.transition = s.transition ∧
        ∀ slot ∈ start.2.slots, slot.keyboard ≠ start.1.keyboard) ∧
      ∀ slot ∈ s.slots, slot ∈ s'.slots
  | leases, [], s => by simp [spawnSuccessors]
  | leases, link :: wanted, s => by
    unfold spawnSuccessors
    cases ho : s.ownsKeyboard link.keyboard with
    | true =>
      rw [if_pos rfl]
      exact spawnSuccessors_slots leases wanted s
    | false =>
      rw [if_neg Bool.false_ne_true]
      cases leases with
      | zero => simp
      | succ leases =>
        have ih := spawnSuccessors_slots leases wanted
          { s with lastEpoch := s.lastEpoch + 1, slots := s.slots ++ [.running ⟨link, s.lastEpoch + 1, .active⟩] }
        obtain ⟨hd, hx, hh, ht, hstart, hkeep⟩ := ih
        refine ⟨fun h => hd (h.push link ho), ?_, ?_, ht, fun start hm => ?_, fun slot hs => ?_⟩
        · rw [hx, List.filterMap_append, List.append_assoc]
          rfl
        · rw [hh]
          simp [tokens, HostSwitchSlot.holds]
        · rcases List.mem_cons.1 hm with rfl | hm
          · refine ⟨rfl, fun slot hs he => ?_⟩
            have howns : s.ownsKeyboard link.keyboard = true := List.any_eq_true.2 ⟨slot, hs, by simpa using he⟩
            rw [ho] at howns
            cases howns
          · exact hstart start hm
        · exact hkeep slot (List.mem_append_left _ hs)

end HostSwitchManagerState

/-! ## The invariant -/

/-- Each task has the slot, or the transition, that waits for it; an owed token is in a slot or with its task. -/
structure Sound (s : Sys T) : Prop where
  distinct : s.state.Distinct
  alone : s.state.Alone
  balance : (s.tasks.map Task.key).Perm s.state.expects
  owed : ∀ token ∈ s.owed, token ∈ s.state.tokens ∨ .restore token.1 token.2 ∈ s.tasks
  starts : ∀ start ∈ s.starts, start.2.transition = none ∧ ∀ slot ∈ start.2.slots, slot.keyboard ≠ start.1.keyboard

/-- The manager that returned had nothing left to do. -/
def Done (s : Sys T) : Prop :=
  s.ended.isSome = true →
    s.state.transition = none ∧ ∀ slot ∈ s.state.slots, slot.isRunning = false ∧ slot.isRecovering = false

theorem sound_start : Sound (.start : Sys T) where
  distinct := ⟨List.nodup_nil, List.nodup_nil, fun _ h => by cases h⟩
  alone := fun h => by cases h
  balance := .refl _
  owed := fun _ h => by cases h
  starts := fun _ h => by cases h

/-- The first element that passes a test, and the list without it. -/
theorem split_first {α : Type} {p : α → Bool} {l : List α} (h : ∃ a ∈ l, p a = true) :
    ∃ pre a post, l = pre ++ a :: post ∧ p a = true ∧ l.find? p = some a ∧ l.eraseP p = pre ++ post := by
  obtain ⟨b, hb, hp⟩ := h
  obtain ⟨a, pre, post, hpre, ha, rfl, he⟩ := List.exists_of_eraseP hb hp
  refine ⟨pre, a, post, rfl, ha, ?_, he⟩
  rw [List.find?_append, List.find?_eq_none.2 fun x hx => by simpa using hpre x hx, List.find?_cons_of_pos ha]
  rfl

namespace Sound

variable {s : Sys T}

/-- A change of the state that the tasks do not see. -/
theorem of_state (h : Sound s) {state : HostSwitchManagerState T} (hx : state.expects = s.state.expects)
    (hh : state.tokens = s.state.tokens) (hd : s.state.Distinct → state.Distinct) (ha : s.state.Alone → state.Alone) :
    Sound { s with state := state } where
  distinct := hd h.distinct
  alone := ha h.alone
  balance := by
    show (s.tasks.map Task.key).Perm state.expects
    rw [hx]
    exact h.balance
  owed := fun token hm => by
    show token ∈ state.tokens ∨ _
    rw [hh]
    exact h.owed token hm
  starts := h.starts

theorem reconcileTransition (h : Sound s) : Sound s.reconcileTransition := by
  unfold Sys.reconcileTransition HostSwitchManagerState.reconcileTransition
  split
  · rename_i intent ht
    split
    · refine h.of_state ?_ rfl (fun hd => ⟨hd.1, hd.2, hd.3⟩) (fun _ hr => by cases hr)
      simp only [HostSwitchManagerState.expects, ht, TransitionPhase.expects]
    · exact h
  · exact h

theorem stopSessions (h : Sound s) : Sound s.stopSessions := by
  unfold Sys.stopSessions
  split
  · obtain ⟨hx, hh, hd, ha⟩ := HostSwitchManagerState.map_slots (s := s.state)
      (HostSwitchSlot.same_stopSession s.wanted s.terminal)
    exact h.of_state hx hh hd ha
  · exact h

theorem retain (h : Sound s) (now : Nat) : Sound (s.retain now) := by
  obtain ⟨hx, hh, hd, ha⟩ := HostSwitchManagerState.filter_slots (s := s.state)
    (p := HostSwitchManagerState.retains s.links s.requests s.terminal now) (fun slot hp => by
      cases slot with
      | running session => cases hp
      | recovering recovery => cases hp
      | restarting link retryAt => rfl
      | departing link deadline => rfl)
  exact h.of_state hx hh hd ha

theorem retryDue (h : Sound s) (now leases : Nat) : Sound (s.retryDue now leases) := by
  unfold Sys.retryDue
  have hslots := HostSwitchManagerState.retryDue_slots s.links s.requests now leases s.state.slots
  revert hslots
  cases HostSwitchManagerState.retryDue s.links s.requests now leases s.state.slots with
  | mk slots tokens =>
    rintro ⟨hk, he, hx, hh, hr, hc⟩
    have hkey : (tokens.map fun token => (Task.restore token.1 token.2 : Task T)).map Task.key =
        tokens.map fun token => .restore token.1 := by
      rw [List.map_map]
      rfl
    refine ⟨⟨?_, ?_, ?_⟩, fun ht slot hs => ?_, ?_, fun token hm => ?_, h.starts⟩
    · show (slots.map _).Nodup
      rw [hk]
      exact h.distinct.keyboards
    · show (slots.filterMap _).Nodup
      rw [he]
      exact h.distinct.epochs
    · show ∀ e ∈ slots.filterMap _, _
      rw [he]
      exact h.distinct.counted
    · -- the kinds of the slots stay what they were
      have hall := h.alone ht
      constructor
      · have hm : slot.isRunning ∈ slots.map HostSwitchSlot.isRunning := List.mem_map_of_mem hs
        rw [hr] at hm
        obtain ⟨a, ha, hae⟩ := List.mem_map.1 hm
        rw [← hae]
        exact (hall a ha).1
      · have hm : slot.isRecovering ∈ slots.map HostSwitchSlot.isRecovering := List.mem_map_of_mem hs
        rw [hc] at hm
        obtain ⟨a, ha, hae⟩ := List.mem_map.1 hm
        rw [← hae]
        exact (hall a ha).2
    · show ((s.tasks ++ _).map Task.key).Perm (slots.filterMap _ ++ _)
      rw [List.map_append, hkey]
      refine (h.balance.append_right _).trans ?_
      show ((s.state.slots.filterMap _ ++ _) ++ _).Perm _
      rw [List.append_assoc]
      refine (List.Perm.append_left _ List.perm_append_comm).trans ?_
      rw [← List.append_assoc]
      exact hx.symm.append_right _
    · rcases h.owed token hm with hm | hm
      · rcases List.mem_append.1 (hh.mem_iff.1 hm) with hm | hm
        · exact .inl hm
        · exact .inr (List.mem_append_right _ (List.mem_map.2 ⟨token, hm, rfl⟩))
      · exact .inr (List.mem_append_left _ hm)

theorem reconcileRecoveries (h : Sound s) (now leases : Nat) : Sound (s.reconcileRecoveries now leases) := by
  unfold Sys.reconcileRecoveries
  split
  · exact (h.retain now).retryDue now leases
  · exact h

theorem spawnSuccessors (h : Sound s) (wanted : List HostSwitchLink) (leases : Nat) :
    Sound (s.spawnSuccessors wanted leases) := by
  unfold Sys.spawnSuccessors
  split
  · rename_i hc
    have hnone : s.state.transition = none := by
      simp only [Bool.and_eq_true, Option.isNone_iff_eq_none] at hc
      exact hc.2
    have hslots := HostSwitchManagerState.spawnSuccessors_slots leases wanted s.state
    revert hslots
    cases HostSwitchManagerState.spawnSuccessors leases wanted s.state with
    | mk state starts =>
      rintro ⟨hd, hx, hh, ht, hstart, -⟩
      rw [hnone] at ht hstart
      have hkey : (starts.map fun start => (Task.session (start.2.lastEpoch + 1) start.1 : Task T)).map Task.key =
          starts.map fun start => .session (start.2.lastEpoch + 1) start.1 := by
        rw [List.map_map]
        rfl
      refine ⟨hd h.distinct, fun hr => ?_, ?_, fun token hm => ?_, fun start hm => ?_⟩
      · change state.transition = _ at hr
        rw [ht] at hr
        cases hr
      · have hb := h.balance
        simp only [HostSwitchManagerState.expects, hnone, TransitionPhase.expects, List.append_nil] at hb
        simp only [HostSwitchManagerState.expects, ht, TransitionPhase.expects, List.append_nil, List.map_append,
          hkey, hx]
        exact hb.append_right _
      · rcases h.owed token hm with hm | hm
        · left
          show token ∈ state.tokens
          rw [hh]
          exact hm
        · exact .inr (List.mem_append_left _ hm)
      · rcases List.mem_append.1 hm with hm | hm
        · exact hstart start hm
        · exact h.starts start hm
  · exact h

/-- The slot a completion settles, and the system without it and its task. -/
structure Settles (s : Sys T) (slot : HostSwitchSlot T) (slots : List (HostSwitchSlot T)) (tasks : List (Task T)) :
    Prop where
  distinct : ({ s.state with slots := slots } : HostSwitchManagerState T).Distinct
  notRunning : s.state.transition ≠ some .running
  balance : (tasks.map Task.key).Perm (slots.filterMap HostSwitchSlot.expects)
  keyboard : ∀ other ∈ slots, other.keyboard ≠ slot.keyboard
  epoch : ∀ e ∈ slot.epoch?, e ≤ s.state.lastEpoch ∧ ∀ other ∈ slots, other.epoch? ≠ some e
  tokens : slots.filterMap HostSwitchSlot.holds = s.state.tokens

/-- **A task that ends settles the slot that waits for it.** -/
theorem settles (h : Sound s) {slot : HostSwitchSlot T} {pre post : List (HostSwitchSlot T)} {task : Task T}
    {before after : List (Task T)} (hs : s.state.slots = pre ++ slot :: post) (ht : s.tasks = before ++ task :: after)
    (hk : slot.expects = some task.key) : Settles s slot (pre ++ post) (before ++ after) := by
  have hepoch : slot.epoch?.isSome = true ∧ slot.holds = none ∧ (slot.isRunning || slot.isRecovering) = true := by
    cases slot with
    | running session => exact ⟨rfl, rfl, rfl⟩
    | recovering recovery =>
      obtain ⟨link, epoch, requestedHost, restore⟩ := recovery
      cases restore with
      | ready token retryAt => cases hk
      | restoring => exact ⟨rfl, rfl, rfl⟩
    | restarting link retryAt => cases hk
    | departing link deadline => cases hk
  obtain ⟨e, he⟩ := Option.isSome_iff_exists.1 hepoch.1
  have hsub : (pre ++ post).Sublist s.state.slots := by
    rw [hs]
    exact (List.sublist_cons_self slot post).append_left pre
  have hd := h.distinct
  have hmem : slot ∈ s.state.slots := by rw [hs]; simp
  have hnot : s.state.transition ≠ some .running := fun hr => by
    obtain ⟨h1, h2⟩ := h.alone hr slot hmem
    have hkind := hepoch.2.2
    rw [h1, h2] at hkind
    cases hkind
  refine ⟨⟨?_, ?_, ?_⟩, hnot, ?_, fun other ho heq => ?_, fun e' he' => ?_, ?_⟩
  · exact hd.keyboards.sublist (hsub.map _)
  · exact hd.epochs.sublist (hsub.filterMap _)
  · exact fun e hm => hd.counted e ((hsub.filterMap _).subset hm)
  · have hb := h.balance
    have hx : TransitionPhase.expects s.state.transition = [] := by
      cases hp : s.state.transition with
      | none => rfl
      | some phase =>
        cases phase with
        | waiting intent => rfl
        | running => exact absurd hp hnot
    rw [HostSwitchManagerState.expects, hx, List.append_nil, hs, ht, List.filterMap_append,
      List.filterMap_cons_some hk, List.map_append, List.map_cons] at hb
    rw [List.map_append, List.filterMap_append]
    exact (List.perm_cons _).1 (List.perm_middle.symm.trans (hb.trans List.perm_middle))
  · have hn := hd.keyboards
    rw [hs, List.map_append, List.map_cons, List.nodup_middle] at hn
    have hmap := (List.nodup_cons.1 hn).1
    rw [← List.map_append] at hmap
    exact hmap (List.mem_map.2 ⟨other, ho, heq⟩)
  · obtain rfl := Option.some.inj (he.symm.trans he')
    refine ⟨hd.counted e (List.mem_filterMap.2 ⟨slot, hmem, he⟩), fun other ho heq => ?_⟩
    have hn := hd.epochs
    rw [hs, List.filterMap_append, List.filterMap_cons_some he, List.nodup_middle] at hn
    have hmap := (List.nodup_cons.1 hn).1
    rw [← List.filterMap_append] at hmap
    exact hmap (List.mem_filterMap.2 ⟨other, ho, heq⟩)
  · rw [HostSwitchManagerState.tokens, hs, List.filterMap_append, List.filterMap_append,
      List.filterMap_cons_none hepoch.2.1]

/-- What a settled slot may leave behind: nothing, a transition that waits, or a slot that no task belongs to. -/
inductive Leaves (s : Sys T) (slot : HostSwitchSlot T) (slots : List (HostSwitchSlot T)) :
    HostSwitchManagerState T → List (Nat × T) → Prop
  | nothing (failed : Bool) : Leaves s slot slots { s.state with slots := slots, taskFailed := failed } []
  | waits (intent : TransitionIntent) :
    Leaves s slot slots { s.state with slots := slots, transition := some (.waiting intent) } []
  | pushes (left : HostSwitchSlot T) (link : left.link = slot.link)
    (epoch : left.epoch? = none ∨ left.epoch? = slot.epoch?) (expects : left.expects = none) :
    Leaves s slot slots { s.state with slots := slots ++ [left] } left.holds.toList

variable {slots : List (HostSwitchSlot T)}

/-- **Whatever a settled slot leaves, the invariant stays.** -/
theorem leaves {slot : HostSwitchSlot T} {tasks : List (Task T)} {state : HostSwitchManagerState T}
    {tokens owed : List (Nat × T)} (accepted : List TransitionIntent) (h : Sound s) (hs : Settles s slot slots tasks)
    (hl : Leaves s slot slots state tokens)
    (howed : ∀ token ∈ owed, token ∈ s.owed ∧ (.restore token.1 token.2 ∈ s.tasks → .restore token.1 token.2 ∈ tasks)) :
    Sound { s with state := state, tasks := tasks, owed := tokens ++ owed, accepted := accepted } := by
  have hx : TransitionPhase.expects s.state.transition = [] := by
    cases hp : s.state.transition with
    | none => rfl
    | some phase =>
      cases phase with
      | waiting intent => rfl
      | running => exact absurd hp hs.notRunning
  have hkept : ∀ token ∈ owed, token ∈ slots.filterMap HostSwitchSlot.holds ∨ .restore token.1 token.2 ∈ tasks :=
    fun token hm => by
      obtain ⟨ho, ht⟩ := howed token hm
      rw [hs.tokens]
      exact (h.owed token ho).imp_right ht
  cases hl with
  | nothing failed =>
    refine ⟨⟨hs.distinct.1, hs.distinct.2, hs.distinct.3⟩, fun hr => absurd hr hs.notRunning, ?_, hkept, h.starts⟩
    simp only [HostSwitchManagerState.expects, hx, List.append_nil]
    exact hs.balance
  | waits intent =>
    refine ⟨⟨hs.distinct.1, hs.distinct.2, hs.distinct.3⟩, fun hr => (by cases hr), ?_, hkept, h.starts⟩
    simp only [HostSwitchManagerState.expects, TransitionPhase.expects, List.append_nil]
    exact hs.balance
  | pushes left link epoch expects =>
    have hkey : left.keyboard = slot.keyboard := congrArg HostSwitchLink.keyboard link
    have hone : ∀ e ∈ [left].filterMap HostSwitchSlot.epoch?, slot.epoch? = some e := fun e he => by
      obtain ⟨a, ha, hae⟩ := List.mem_filterMap.1 he
      rw [List.mem_singleton.1 ha] at hae
      rcases epoch with hn | hn
      · rw [hn] at hae
        cases hae
      · rw [← hn]
        exact hae
    refine ⟨⟨?_, ?_, fun e he => ?_⟩, fun hr => absurd hr hs.notRunning, ?_, fun token hm => ?_, h.starts⟩
    · rw [List.map_append, List.nodup_append_comm]
      refine List.nodup_cons.2 ⟨fun hm => ?_, hs.distinct.keyboards⟩
      obtain ⟨other, ho, heq⟩ := List.mem_map.1 hm
      exact hs.keyboard other ho (heq.trans hkey)
    · show ((slots ++ [left]).filterMap HostSwitchSlot.epoch?).Nodup
      rw [List.filterMap_append, List.nodup_append]
      refine ⟨hs.distinct.epochs, ?_, fun e he e' he' heq => ?_⟩
      · rw [List.filterMap_cons]
        split <;> simp
      · obtain ⟨other, ho, hoe⟩ := List.mem_filterMap.1 he
        exact (hs.epoch e' (hone e' he')).2 other ho (heq ▸ hoe)
    · rw [List.filterMap_append] at he
      rcases List.mem_append.1 he with he | he
      · exact hs.distinct.counted e he
      · exact (hs.epoch e (hone e he)).1
    · simp only [HostSwitchManagerState.expects, hx, List.append_nil, List.filterMap_append,
        List.filterMap_cons_none expects, List.filterMap_nil]
      exact hs.balance
    · rcases List.mem_append.1 hm with hm | hm
      · left
        show token ∈ (slots ++ [left]).filterMap HostSwitchSlot.holds
        exact List.mem_filterMap.2 ⟨left, by simp, Option.mem_toList.1 hm⟩
      · rcases hkept token hm with hm | hm
        · left
          show token ∈ (slots ++ [left]).filterMap HostSwitchSlot.holds
          rw [List.filterMap_append]
          exact List.mem_append_left _ hm
        · exact .inr hm

theorem leaves_session {session : RunningSession} (epoch : Nat) (result : Option (SessionResult T)) (now : Nat)
    (hf : s.state.slots.find? (HostSwitchSlot.runs epoch) = some (.running session))
    (he : s.state.slots.eraseP (HostSwitchSlot.runs epoch) = slots) :
    Leaves s (.running session) slots (s.state.handleSessionCompletion epoch result s.links s.terminal now)
      (Sys.handsOver session.epoch result) := by
  simp only [HostSwitchManagerState.handleSessionCompletion, hf, he]
  cases result with
  | none => exact .nothing true
  | some result =>
    obtain ⟨followUp, pendingRestore, failed⟩ := result
    cases pendingRestore with
    | some token => exact .pushes (.recovering ⟨session.link, session.epoch, _, .ready token _⟩) rfl (.inr rfl) rfl
    | none =>
      simp only [HostSwitchManagerState.settleSession, Sys.handsOver]
      split
      · exact .waits _
      · split
        · exact .pushes (.departing session.link _) rfl (.inl rfl) rfl
        · split
          · exact .pushes (.restarting session.link _) rfl (.inl rfl) rfl
          · exact .nothing s.state.taskFailed

theorem leaves_restore {recovery : Recovery T} (epoch : Nat) (result : Option (HostSwitchRestoreOutcome T)) (now : Nat)
    (hf : s.state.slots.find? (HostSwitchSlot.recovers epoch) = some (.recovering recovery))
    (he : s.state.slots.eraseP (HostSwitchSlot.recovers epoch) = slots) :
    Leaves s (.recovering recovery) slots (s.state.handleRestoreCompletion epoch result s.links s.terminal now)
      (Sys.givesBack recovery.epoch result) := by
  simp only [HostSwitchManagerState.handleRestoreCompletion, hf, he]
  cases result with
  | none => exact .nothing true
  | some outcome =>
    cases outcome with
    | restorePending token =>
      exact .pushes (.recovering { recovery with restore := .ready token _ }) rfl (.inr rfl) rfl
    | restored =>
      simp only [Sys.givesBack]
      split
      · exact .waits _
      · exact .nothing s.state.taskFailed

/-- A transition task runs only while the state says so. -/
theorem running_of_key (h : Sound s) (hk : TaskKey.transition ∈ s.tasks.map Task.key) :
    s.state.transition = some .running := by
  rcases List.mem_append.1 (h.balance.mem_iff.1 hk) with hm | hm
  · obtain ⟨slot, -, hx⟩ := List.mem_filterMap.1 hm
    rcases HostSwitchSlot.epoch_of_expects hx with ⟨_, _, hc, -⟩ | ⟨_, hc, -⟩ <;> cases hc
  · revert hm
    cases s.state.transition with
    | none => intro hm; cases hm
    | some phase =>
      cases phase with
      | waiting intent => intro hm; cases hm
      | running => intro; rfl

/-- **Every session and every restore task has the slot that waits for it.** -/
theorem slot_of_task (h : Sound s) {task : Task T} (ht : task ∈ s.tasks) (hk : task.key ≠ .transition) :
    ∃ slot ∈ s.state.slots, slot.expects = some task.key := by
  have hkey : task.key ∈ s.state.expects := h.balance.mem_iff.1 (List.mem_map_of_mem ht)
  rcases List.mem_append.1 hkey with hm | hm
  · exact List.mem_filterMap.1 hm
  · revert hm
    cases s.state.transition with
    | none => intro hm; cases hm
    | some phase =>
      cases phase with
      | waiting intent => intro hm; cases hm
      | running => exact fun hm => absurd (List.mem_singleton.1 hm) hk

theorem handle_session (h : Sound s) {epoch : Nat} {link : HostSwitchLink} {e : Nat}
    (ht : s.tasks.find? (Sys.isSession epoch) = some (.session e link)) :
    ∃ session, session.epoch = epoch ∧ session.link = link ∧
      s.state.slots.find? (HostSwitchSlot.runs epoch) = some (.running session) ∧
      Settles s (.running session) (s.state.slots.eraseP (HostSwitchSlot.runs epoch))
        (s.tasks.eraseP (Sys.isSession epoch)) := by
  obtain ⟨before, task, after, hts, hp, hfind, herase⟩ :=
    split_first (p := Sys.isSession (T := T) epoch) ⟨_, List.mem_of_find?_eq_some ht, List.find?_some ht⟩
  obtain rfl := Option.some.inj (hfind.symm.trans ht)
  have hee : e = epoch := by simpa [Sys.isSession] using hp
  subst hee
  obtain ⟨slot, hm, hx⟩ := h.slot_of_task (List.mem_of_find?_eq_some ht) (by simp [Task.key])
  have hrun : ∃ session : RunningSession, slot = .running session ∧ session.epoch = e ∧ session.link = link := by
    cases slot with
    | running session =>
      cases hx
      exact ⟨session, rfl, rfl, rfl⟩
    | recovering recovery =>
      obtain ⟨l, e', requestedHost, restore⟩ := recovery
      cases restore <;> cases hx
    | restarting l retryAt => cases hx
    | departing l deadline => cases hx
  obtain ⟨session, rfl, rfl, rfl⟩ := hrun
  obtain ⟨pre, a, post, hs, ha, hfind', herase'⟩ :=
    split_first (p := HostSwitchSlot.runs (T := T) session.epoch) ⟨_, hm, by simp [HostSwitchSlot.runs]⟩
  have hae : a.epoch? = some session.epoch := by
    cases a with
    | running other => simpa [HostSwitchSlot.runs, HostSwitchSlot.epoch?] using ha
    | recovering recovery => cases ha
    | restarting l retryAt => cases ha
    | departing l deadline => cases ha
  obtain rfl := h.distinct.eq_of_epoch (by rw [hs]; simp) hm hae rfl
  refine ⟨session, rfl, rfl, hfind', ?_⟩
  rw [herase, herase']
  exact h.settles hs hts rfl

theorem handle_restore (h : Sound s) {epoch : Nat} (ht : s.tasks.any (Sys.isRestore epoch) = true) :
    ∃ recovery, recovery.epoch = epoch ∧ recovery.restore = .restoring ∧
      s.state.slots.find? (HostSwitchSlot.recovers epoch) = some (.recovering recovery) ∧
      Settles s (.recovering recovery) (s.state.slots.eraseP (HostSwitchSlot.recovers epoch))
        (s.tasks.eraseP (Sys.isRestore epoch)) := by
  obtain ⟨before, task, after, hts, hp, -, herase⟩ := split_first (List.any_eq_true.1 ht)
  have htask : task.key = .restore epoch := by
    cases task with
    | session e link => cases hp
    | restore e token =>
      have hee : e = epoch := by simpa [Sys.isRestore] using hp
      rw [Task.key, hee]
    | transition intent => cases hp
  have htm : task ∈ s.tasks := by rw [hts]; simp
  obtain ⟨slot, hm, hx⟩ := h.slot_of_task htm (by simp [htask])
  rw [htask] at hx
  have hrun : ∃ recovery : Recovery T, slot = .recovering recovery ∧ recovery.epoch = epoch ∧
      recovery.restore = .restoring := by
    cases slot with
    | running session => cases hx
    | recovering recovery =>
      obtain ⟨l, e', requestedHost, restore⟩ := recovery
      cases restore with
      | ready token retryAt => cases hx
      | restoring =>
        cases hx
        exact ⟨_, rfl, rfl, rfl⟩
    | restarting l retryAt => cases hx
    | departing l deadline => cases hx
  obtain ⟨recovery, rfl, rfl, hrestoring⟩ := hrun
  obtain ⟨pre, a, post, hs, ha, hfind', herase'⟩ :=
    split_first (p := HostSwitchSlot.recovers (T := T) recovery.epoch) ⟨_, hm, by simp [HostSwitchSlot.recovers]⟩
  have hae : a.epoch? = some recovery.epoch := by
    cases a with
    | running other => cases ha
    | recovering other => simpa [HostSwitchSlot.recovers, HostSwitchSlot.epoch?] using ha
    | restarting l retryAt => cases ha
    | departing l deadline => cases ha
  obtain rfl := h.distinct.eq_of_epoch (by rw [hs]; simp) hm hae rfl
  refine ⟨recovery, rfl, hrestoring, hfind', ?_⟩
  rw [herase, herase']
  exact h.settles hs hts (hx.trans (congrArg some htask.symm))

/-- The transition task ends: nothing else was going on. -/
theorem handle_transition (h : Sound s) (ok : Bool) (ht : s.tasks.any Sys.isTransition = true) :
    Sound { s with state := s.state.handleTransition ok, tasks := s.tasks.eraseP Sys.isTransition } := by
  obtain ⟨before, task, after, hts, hp, -, herase⟩ := split_first (List.any_eq_true.1 ht)
  have htask : task.key = .transition := by
    cases task with
    | session e link => cases hp
    | restore e token => cases hp
    | transition intent => rfl
  have hrun : s.state.transition = some .running := h.running_of_key (by rw [hts]; simp [htask])
  refine ⟨⟨h.distinct.1, h.distinct.2, h.distinct.3⟩, fun hr => (by cases hr), ?_, fun token hm => ?_, h.starts⟩
  · have hb := h.balance
    simp only [HostSwitchManagerState.expects, hrun, TransitionPhase.expects, hts, List.map_append, List.map_cons,
      htask] at hb
    simp only [HostSwitchManagerState.handleTransition, HostSwitchManagerState.expects, TransitionPhase.expects,
      List.append_nil, herase, List.map_append]
    refine (List.perm_cons TaskKey.transition).1 (List.perm_middle.symm.trans (hb.trans ?_))
    exact List.perm_append_comm
  · rcases h.owed token hm with hm | hm
    · exact .inl hm
    · right
      show _ ∈ s.tasks.eraseP _
      rw [hts] at hm
      rw [herase]
      rcases List.mem_append.1 hm with hm | hm
      · exact List.mem_append_left _ hm
      · rcases List.mem_cons.1 hm with rfl | hm
        · cases hp
        · exact List.mem_append_right _ hm

theorem finish (h : Sound s) : Sound s.finish := by
  unfold Sys.finish
  split
  · exact ⟨h.1, h.2, h.3, h.4, h.5⟩
  · split
    · exact h
    · rename_i intent state hb
      unfold HostSwitchManagerState.beginTransition at hb
      split at hb
      · cases hb
      · rename_i hc
        simp only [Bool.or_eq_true, not_or, Bool.not_eq_true] at hc
        obtain ⟨⟨-, hrun⟩, hrec⟩ := hc
        have hidle : ∀ slot ∈ s.state.slots, slot.isRunning = false ∧ slot.isRecovering = false := fun slot hm =>
          ⟨HostSwitchManagerState.hasRunningSessions_eq_false.1 hrun slot hm,
            HostSwitchManagerState.hasPendingRestores_eq_false.1 hrec slot hm⟩
        split at hb
        · rename_i waiting ht
          cases hb
          refine ⟨⟨h.distinct.1, h.distinct.2, h.distinct.3⟩, fun _ => hidle, ?_, fun token hm => ?_, h.starts⟩
          · have hbal := h.balance
            simp only [HostSwitchManagerState.expects, ht, TransitionPhase.expects, List.append_nil] at hbal
            simp only [HostSwitchManagerState.expects, TransitionPhase.expects, List.map_append]
            exact hbal.append_right _
          · exact (h.owed token hm).imp_right fun hm => List.mem_append_left _ hm
        · cases hb

theorem reconcile (h : Sound s) (now leases leases' : Nat) : Sound (s.reconcile now leases leases') :=
  (((h.reconcileTransition.stopSessions).reconcileRecoveries now leases).spawnSuccessors _ leases').finish

/-- **Every step keeps the invariant.** -/
theorem step (h : Sound s) {event : Event T} {s' : Sys T} (hs : s.step event = some s') : Sound s' := by
  unfold Sys.step at hs
  split at hs
  · cases hs
  · cases event with
    | publish links =>
      cases hs
      exact ⟨h.1, h.2, h.3, h.4, h.5⟩
    | receiver requests =>
      cases hs
      exact ⟨h.1, h.2, h.3, h.4, h.5⟩
    | deviceIo allowed =>
      cases hs
      exact ⟨h.1, h.2, h.3, h.4, h.5⟩
    | shutdown =>
      dsimp only at hs
      split at hs
      · cases hs
      · cases hs
        exact ⟨h.1, h.2, h.3, h.4, h.5⟩
    | registry now =>
      cases hs
      obtain ⟨hx, hh, hd, ha⟩ := HostSwitchManagerState.map_slots (s := s.state) (HostSwitchSlot.same_expedite now)
      exact h.of_state hx hh hd ha
    | reconcile now leases leases' =>
      cases hs
      exact h.reconcile now leases leases'
    | session epoch result now =>
      dsimp only at hs
      split at hs
      · rename_i e link ht
        cases hs
        obtain ⟨session, rfl, rfl, hf, hset⟩ := h.handle_session ht
        refine h.leaves _ hset (leaves_session session.epoch result now hf rfl) fun token hm => ⟨hm, fun hr => ?_⟩
        obtain ⟨before, task, after, hts, hp, -, herase⟩ :=
          split_first (p := Sys.isSession (T := T) session.epoch) ⟨_, List.mem_of_find?_eq_some ht, List.find?_some ht⟩
        rw [herase]
        rw [hts] at hr
        rcases List.mem_append.1 hr with hr | hr
        · exact List.mem_append_left _ hr
        · rcases List.mem_cons.1 hr with rfl | hr
          · cases hp
          · exact List.mem_append_right _ hr
      · cases hs
    | restore epoch result now =>
      dsimp only at hs
      split at hs
      · rename_i ht
        cases hs
        obtain ⟨recovery, rfl, -, hf, hset⟩ := h.handle_restore ht
        refine h.leaves s.accepted hset (leaves_restore recovery.epoch result now hf rfl) fun token hm => ?_
        obtain ⟨hm, hne⟩ := List.mem_filter.1 hm
        refine ⟨hm, fun hr => ?_⟩
        obtain ⟨before, task, after, hts, hp, -, herase⟩ := split_first (List.any_eq_true.1 ht)
        rw [herase]
        rw [hts] at hr
        rcases List.mem_append.1 hr with hr | hr
        · exact List.mem_append_left _ hr
        · rcases List.mem_cons.1 hr with rfl | hr
          · exact absurd (by simpa [Sys.isRestore] using hp) (of_decide_eq_true hne)
          · exact List.mem_append_right _ hr
      · cases hs
    | transition ok =>
      dsimp only at hs
      split at hs
      · rename_i ht
        cases hs
        exact h.handle_transition ok ht
      · cases hs

end Sound

variable {s : Sys T}

theorem done_finish (he : s.ended = none) : Done s.finish := by
  unfold Sys.finish
  split
  · rename_i completion hc
    unfold HostSwitchManagerState.terminalCompletion at hc
    split at hc
    · rename_i hall
      simp only [Bool.and_eq_true, Bool.not_eq_true', Option.isNone_iff_eq_none] at hall
      obtain ⟨⟨⟨-, hrun⟩, hrec⟩, ht⟩ := hall
      exact fun _ => ⟨ht, fun slot hm => ⟨HostSwitchManagerState.hasRunningSessions_eq_false.1 hrun slot hm,
        HostSwitchManagerState.hasPendingRestores_eq_false.1 hrec slot hm⟩⟩
    · cases hc
  · intro hd
    split at hd
    · rw [he] at hd
      cases hd
    · change s.ended.isSome = true at hd
      rw [he] at hd
      cases hd

@[simp] theorem ended_stopSessions (s : Sys T) : s.stopSessions.ended = s.ended := by
  unfold Sys.stopSessions
  split <;> rfl

@[simp] theorem ended_reconcileRecoveries (s : Sys T) (now leases : Nat) :
    (s.reconcileRecoveries now leases).ended = s.ended := by
  unfold Sys.reconcileRecoveries
  split <;> rfl

@[simp] theorem ended_spawnSuccessors (s : Sys T) (wanted : List HostSwitchLink) (leases : Nat) :
    (s.spawnSuccessors wanted leases).ended = s.ended := by
  unfold Sys.spawnSuccessors
  split <;> rfl

/-- A manager returns only with nothing left to do. -/
theorem done_step {s' : Sys T} {event : Event T} (hs : s.step event = some s') : Done s' := by
  unfold Sys.step at hs
  split at hs
  · cases hs
  · rename_i he
    have hnone : s.ended = none := by simpa using he
    have hkeep : s'.ended = s.ended → Done s' := fun heq hd => by
      rw [heq, hnone] at hd
      cases hd
    cases event with
    | reconcile now leases leases' =>
      cases hs
      exact done_finish (by simp [Sys.reconcileTransition, hnone])
    | publish links => cases hs; exact hkeep rfl
    | receiver requests => cases hs; exact hkeep rfl
    | deviceIo allowed => cases hs; exact hkeep rfl
    | shutdown =>
      dsimp only at hs
      split at hs
      · cases hs
      · cases hs; exact hkeep rfl
    | registry now => cases hs; exact hkeep rfl
    | session epoch result now =>
      dsimp only at hs
      split at hs
      · cases hs; exact hkeep rfl
      · cases hs
    | restore epoch result now =>
      dsimp only at hs
      split at hs
      · cases hs; exact hkeep rfl
      · cases hs
    | transition ok =>
      dsimp only at hs
      split at hs
      · cases hs; exact hkeep rfl
      · cases hs

/-! ## Every run -/

/-- The keyboard a session task watches. -/
def Task.watches : Task T → Option DeviceRoute
  | .session _ link => some link.keyboard
  | _ => none

theorem sound_run {events : List (Event T)} (h : run Sys.step .start events = some s) : Sound s :=
  run_inv Sound (fun _ _ _ hs h => hs.step h) events _ s sound_start h

theorem done_run {events : List (Event T)} (h : run Sys.step .start events = some s) : Done s :=
  run_inv Done (fun _ _ _ _ h => done_step h) events _ s (fun hd => by cases hd) h

theorem Sound.watches (h : Sound s) : (s.tasks.filterMap Task.watches).Nodup := by
  have hw : s.tasks.filterMap Task.watches = (s.tasks.map Task.key).filterMap TaskKey.sessionOf := by
    rw [List.filterMap_map]
    exact List.filterMap_congr fun task _ => by cases task <;> rfl
  have hp := h.balance.filterMap TaskKey.sessionOf
  rw [hw, hp.nodup_iff, HostSwitchManagerState.expects, List.filterMap_append]
  have ht : (TransitionPhase.expects s.state.transition).filterMap TaskKey.sessionOf = [] := by
    cases s.state.transition with
    | none => rfl
    | some phase => cases phase <;> rfl
  rw [ht, List.append_nil, List.filterMap_filterMap]
  -- the keyboards of the running slots are among the keyboards of all slots
  refine h.distinct.keyboards.sublist ?_
  generalize s.state.slots = slots
  induction slots with
  | nil => exact .slnil
  | cons slot rest ih =>
    rw [List.map_cons, List.filterMap_cons]
    split
    · exact ih.cons _
    · rename_i keyboard hk
      have hkey : slot.keyboard = keyboard := by
        cases slot with
        | running session => exact Option.some.inj hk
        | recovering recovery =>
          obtain ⟨l, e, requestedHost, restore⟩ := recovery
          cases restore <;> cases hk
        | restarting l retryAt => cases hk
        | departing l deadline => cases hk
      rw [hkey]
      exact ih.cons_cons _

/-- Slots that neither run nor recover wait for no task. -/
theorem expects_of_idle {slots : List (HostSwitchSlot T)}
    (hidle : ∀ slot ∈ slots, slot.isRunning = false ∧ slot.isRecovering = false) :
    slots.filterMap HostSwitchSlot.expects = [] := by
  refine List.filterMap_eq_nil_iff.2 fun slot hm => ?_
  cases hx : slot.expects with
  | none => rfl
  | some key =>
    obtain ⟨h1, h2⟩ := hidle slot hm
    rcases HostSwitchSlot.epoch_of_expects hx with ⟨_, _, -, -, -, hr⟩ | ⟨_, -, -, hr⟩
    · rw [h1] at hr
      cases hr
    · rw [h2] at hr
      cases hr

/-- A transition that runs has no other task beside it. -/
theorem Sound.alone_task (h : Sound s) {intent : TransitionIntent} (ht : .transition intent ∈ s.tasks) :
    s.state.transition = some .running ∧ s.tasks = [.transition intent] := by
  have hrun : s.state.transition = some .running := h.running_of_key (List.mem_map.2 ⟨_, ht, rfl⟩)
  have hslots := expects_of_idle (h.alone hrun)
  have hb := h.balance
  rw [HostSwitchManagerState.expects, hslots, hrun] at hb
  have hlen : s.tasks.length = 1 := by
    simpa [TransitionPhase.expects] using hb.length_eq
  obtain ⟨task, htask⟩ := List.length_eq_one_iff.1 hlen
  rw [htask] at ht
  exact ⟨hrun, by rw [htask, List.mem_singleton.1 ht]⟩

/-- Nothing running and nothing waited for leaves no task. -/
theorem Sound.no_task (h : Sound s) (ht : s.state.transition = none)
    (hidle : ∀ slot ∈ s.state.slots, slot.isRunning = false ∧ slot.isRecovering = false) :
    s.tasks = [] ∧ s.owed = [] := by
  have hslots := expects_of_idle hidle
  have htokens : s.state.tokens = [] := by
    refine List.filterMap_eq_nil_iff.2 fun slot hm => ?_
    cases slot with
    | recovering recovery => exact absurd (hidle _ hm).2 Bool.noConfusion
    | running session => rfl
    | restarting l retryAt => rfl
    | departing l deadline => rfl
  have hb := h.balance
  rw [HostSwitchManagerState.expects, hslots, ht] at hb
  have htasks : s.tasks = [] := List.map_eq_nil_iff.1 hb.eq_nil
  refine ⟨htasks, List.eq_nil_iff_forall_not_mem.2 fun token hm => ?_⟩
  rcases h.owed token hm with hm | hm
  · rw [htokens] at hm
    cases hm
  · rw [htasks] at hm
    cases hm

/-- **The host-switch manager is safe in every run.**  No keyboard has two sessions; a transition runs beside no session
and no restore; a session is started with no transition waiting or running, and with no slot, in particular no owed
restore, for its keyboard; a token handed over and not restored is in a slot or with the task that writes it; and the
manager returns with nothing running, waiting or owed. -/
theorem manager_safe {events : List (Event T)} {s : Sys T} (h : run Sys.step .start events = some s) :
    (s.tasks.filterMap Task.watches).Nodup ∧
    (∀ intent, .transition intent ∈ s.tasks → s.tasks = [.transition intent]) ∧
    (∀ start ∈ s.starts, start.2.transition = none ∧ ∀ slot ∈ start.2.slots, slot.keyboard ≠ start.1.keyboard) ∧
    (∀ token ∈ s.owed, (∃ recovery retryAt, .recovering recovery ∈ s.state.slots ∧ recovery.epoch = token.1 ∧
      recovery.restore = .ready token.2 retryAt) ∨ .restore token.1 token.2 ∈ s.tasks) ∧
    (s.ended.isSome = true → s.tasks = [] ∧ s.owed = [] ∧ s.state.transition = none ∧
      s.state.hasRunningSessions = false ∧ s.state.hasPendingRestores = false) := by
  have hs := sound_run h
  refine ⟨hs.watches, fun intent ht => (hs.alone_task ht).2, hs.starts, fun token hm => ?_, fun he => ?_⟩
  · refine (hs.owed token hm).imp_left fun hm => ?_
    obtain ⟨slot, hslot, hx⟩ := List.mem_filterMap.1 hm
    cases slot with
    | recovering recovery =>
      obtain ⟨l, e, requestedHost, restore⟩ := recovery
      cases restore with
      | ready token' retryAt =>
        cases hx
        exact ⟨_, retryAt, hslot, rfl, rfl⟩
      | restoring => cases hx
    | running session => cases hx
    | restarting l retryAt => cases hx
    | departing l deadline => cases hx
  · obtain ⟨ht, hidle⟩ := done_run h he
    obtain ⟨htasks, howed⟩ := hs.no_task ht hidle
    exact ⟨htasks, howed, ht,
      HostSwitchManagerState.hasRunningSessions_eq_false.2 fun slot hm => (hidle slot hm).1,
      HostSwitchManagerState.hasPendingRestores_eq_false.2 fun slot hm => (hidle slot hm).2⟩

/-! ## Two keyboards -/

def sampleLink (slot : UInt8) : HostSwitchLink := ⟨.bolt "cafe" slot, [.bolt "cafe" 9]⟩

/-- The first keyboard's session ends and owes a restore; the next pass is refused the lease for it. -/
def sampleOwed : List (Event Unit) :=
  [.publish [sampleLink 1], .reconcile 0 0 1, .session 1 (some ⟨.rearm, some (), true⟩) 1, .reconcile 2 0 1]

/-- The restore comes back pending and is then done; a request of the second keyboard becomes a transition; the manager
is asked to stop and returns. -/
def sampleDrain : List (Event Unit) :=
  [.publish [sampleLink 2], .registry 3, .reconcile 3 1 1, .restore 1 (some (.restorePending ())) 4, .registry 5,
    .reconcile 5 1 1, .restore 1 (some .restored) 6, .session 2 (some ⟨.switch 2, none, false⟩) 7, .reconcile 8 0 1,
    .shutdown, .reconcile 9 0 0, .transition true, .reconcile 10 0 0]

theorem manager_safe_drained : ∃ s, run Sys.step .start (sampleOwed ++ sampleDrain) = some s ∧
    s.ended = some .graceful ∧ s.begun = [⟨sampleLink 2, 2⟩] ∧ s.tasks = [] ∧ s.owed = [] := by
  refine ⟨_, rfl, rfl, rfl, ?_⟩
  have hsafe := @manager_safe Unit (sampleOwed ++ sampleDrain) _ rfl
  exact ⟨(hsafe.2.2.2.2 rfl).1, (hsafe.2.2.2.2 rfl).2.1⟩

/-- A session of one keyboard is started while the restore of another is owed. -/
theorem started_while_owed : ∃ s, run Sys.step .start (sampleOwed ++ [.publish [sampleLink 1, sampleLink 2],
    .reconcile 3 0 1] : List (Event Unit)) = some s ∧
    ∃ start ∈ s.starts, start.1 = sampleLink 2 ∧ start.2.hasPendingRestores = true :=
  ⟨_, rfl, _, List.mem_cons_self, rfl, rfl⟩

end HostSwitch
end OpenLogi
