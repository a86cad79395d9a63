import OpenLogi.Agent.Inventory
/-!
# Budgets — how often a device is confirmed

A device whose settings were just applied is confirmed a bounded number of times, since the first write may race its
boot; a keyboard whose manual request failed recovers as boundedly.  Budgets are kept by stable identity and carried
from one device list to the next by lifecycle.
-/
namespace OpenLogi
namespace Agent

open OpenLogi.Core
open Hid (DeviceRoute)
open Lib (Map Along run)

/-- Remaining attempts by identity. -/
abbrev Budgets := Map DeviceStableId Nat

def volatileReapplyConfirmRetries : Nat := 4
def reconnectReapplyConfirmRetries : Nat := 1

/-- A device that can be written to. -/
def AgentDevice.isReachable (dev : AgentDevice) : Bool := dev.online && dev.route.isSome

/-- The entry of the previous list that a device continues. -/
def lifecycleIn (prev : List AgentDevice) (dev : AgentDevice) : Option AgentDevice :=
  prev.find? fun old => sameDeviceLifecycle old dev

/-- Remaining attempts survive an enriched identity, and neither a replacement nor a removal. -/
def carryLifecycleBudgets (previous next : List AgentDevice) (budgets : Budgets) : Budgets :=
  next.foldl (fun carried device =>
    match (lifecycleIn previous device).bind fun old => budgets.get old.stableId with
    | some remaining => carried.put device.stableId remaining
    | none => carried) .empty

/-- The budget that a device which needs its settings applied is queued with: the larger of a fresh one and what this
pass leaves of the old one. -/
def queuedBudget (prev : List AgentDevice) (followup : Budgets) (forced : Option Nat) (confirm : Bool)
    (dev : AgentDevice) : Nat :=
  let newIdentity := !prev.any fun p => sameDeviceLifecycle p dev
  let budget := if newIdentity then volatileReapplyConfirmRetries else forced.getD reconnectReapplyConfirmRetries
  let carried := if newIdentity then 0
    else (followup.get dev.stableId).elim 0 fun remaining => remaining - confirm.toNat
  Nat.max budget carried

def queueFollowup (budget : AgentDevice → Nat) (queued : Budgets) (row : AgentDevice × Nat) : Budgets :=
  if 0 < budget row.1 then queued.put row.1.stableId (budget row.1) else queued

/-- A device that is not targeted yet and has a budget left is confirmed on a confirmation pass and waits on another. -/
def confirmOne (budgets : Budgets) (confirm : Bool) (planned : List Nat × Budgets) (row : AgentDevice × Nat) :
    List Nat × Budgets :=
  if row.1.isReachable && row.2 ∉ planned.1 then
    match budgets.get row.1.stableId with
    | some remaining =>
      if confirm then
        (planned.1 ++ [row.2], if 1 < remaining then planned.2.put row.1.stableId (remaining - 1) else planned.2)
      else (planned.1, planned.2.put row.1.stableId remaining)
    | none => planned
  else planned

/-- The rows of the devices whose settings are to be applied, whatever their budget. -/
def dueRows (prev next : List AgentDevice) (forced : Option Nat) : List (AgentDevice × Nat) :=
  next.zipIdx.filter fun row => needsReapply prev forced.isSome row.1

/-- The devices of `next` whose settings this refresh applies, and the budgets it leaves. -/
def planReapply (prev next : List AgentDevice) (followup : Budgets) (forced : Option Nat) (confirm : Bool) :
    List Nat × Budgets :=
  let followup := carryLifecycleBudgets prev next followup
  let due := dueRows prev next forced
  let queued := due.foldl (queueFollowup (queuedBudget prev followup forced confirm)) .empty
  next.zipIdx.foldl (confirmOne followup confirm) (due.map Prod.snd, queued)

def recoverOne (recovery : Budgets) (confirm : Bool) (planned : List Nat × Budgets) (row : AgentDevice × Nat) :
    List Nat × Budgets :=
  match recovery.get row.1.stableId with
  | none => planned
  | some remaining =>
    if !row.1.isReachable then planned
    else if confirm then
      (planned.1 ++ [row.2], if 1 < remaining then planned.2.put row.1.stableId (remaining - 1) else planned.2)
    else (planned.1, planned.2.put row.1.stableId remaining)

/-- The confirming writes of failed or cancelled Disable Keys requests. -/
def planDisabledKeysRecovery (devices : List AgentDevice) (recovery : Budgets) (confirm : Bool) :
    List Nat × Budgets :=
  devices.zipIdx.foldl (recoverOne recovery confirm) ([], .empty)

/-! ## The refresh -/

/-- `schedule_recovery` answers once for a route whose abandoned request asks for a recovery. -/
def scheduleOne (asked : List DeviceRoute × Budgets) (dev : AgentDevice) : List DeviceRoute × Budgets :=
  match dev.route with
  | some route =>
    if dev.online && route ∈ asked.1 then
      (asked.1.filter (· ≠ route), asked.2.put dev.stableId
        (Nat.max ((asked.2.get dev.stableId).getD 0) volatileReapplyConfirmRetries))
    else asked
  | none => asked

/-- One inventory refresh: its devices, the routes whose abandoned request asks for a recovery, and whether it is the
delayed one that confirms. -/
structure RefreshPass where
  devices : List AgentDevice
  requested : List DeviceRoute
  confirm : Bool

structure ReapplyState where
  devices : List AgentDevice := []
  forcedReapplyBudget : Option Nat := none
  reapplyFollowup : Budgets := .empty
  disabledKeysRecovery : Budgets := .empty

namespace ReapplyState

variable (s : ReapplyState) (pass : RefreshPass)

def forceReapply (confirmRetries : Nat) : ReapplyState :=
  { s with forcedReapplyBudget := some (Nat.max (s.forcedReapplyBudget.getD 0) confirmRetries) }

def reapplyVolatileOnNextRefresh : ReapplyState := s.forceReapply volatileReapplyConfirmRetries

def reapplyReconnectedOnNextRefresh : ReapplyState := s.forceReapply reconnectReapplyConfirmRetries

/-- The recoveries that a refresh plans from. -/
def recoveries : Budgets :=
  (pass.devices.foldl scheduleOne
    (pass.requested, carryLifecycleBudgets s.devices pass.devices s.disabledKeysRecovery)).2

def plannedReapply : List Nat × Budgets :=
  planReapply s.devices pass.devices s.reapplyFollowup s.forcedReapplyBudget pass.confirm

def plannedRecovery : List Nat × Budgets :=
  planDisabledKeysRecovery pass.devices (s.recoveries pass) pass.confirm

def refreshInventory : ReapplyState where
  devices := pass.devices
  forcedReapplyBudget := none
  reapplyFollowup := (s.plannedReapply pass).2
  disabledKeysRecovery := (s.plannedRecovery pass).2

/-- The devices written to: a recovery of a device whose settings are applied is queued with them. -/
def written : List Nat :=
  (s.plannedReapply pass).1 ++ (s.plannedRecovery pass).1.filter (· ∉ (s.plannedReapply pass).1)

def needsReapplyConfirmation : Bool := !s.reapplyFollowup.rows.isEmpty || !s.disabledKeysRecovery.rows.isEmpty

end ReapplyState

inductive ReapplyEvent where
  | refresh (pass : RefreshPass)
  | reapplyVolatile
  | reapplyReconnected

def ReapplyState.next (s : ReapplyState) : ReapplyEvent → ReapplyState
  | .refresh pass => s.refreshInventory pass
  | .reapplyVolatile => s.reapplyVolatileOnNextRefresh
  | .reapplyReconnected => s.reapplyReconnectedOnNextRefresh

/-! ## Where a budget comes from -/

variable {budgets : Budgets} {devices : List AgentDevice} {due : AgentDevice → Bool} {fresh : AgentDevice → Nat}
  {planned : List Nat × Budgets}

/-- **A carried budget is that of a predecessor.** -/
theorem get_carryLifecycleBudgets {previous next : List AgentDevice} {id : DeviceStableId} :
    ∀ remaining, (carryLifecycleBudgets previous next budgets).get id = some remaining →
      ∃ dev ∈ next, dev.stableId = id ∧ ∃ old, lifecycleIn previous dev = some old ∧
        budgets.get old.stableId = some remaining := by
  apply List.foldlRecOn (motive := fun carried : Budgets => ∀ remaining, carried.get id = some remaining →
    ∃ dev ∈ next, dev.stableId = id ∧ ∃ old, lifecycleIn previous dev = some old ∧
      budgets.get old.stableId = some remaining)
  · intro remaining hnone
    cases hnone
  · intro carried hcarried device hdevice remaining hget
    split at hget
    · rename_i kept hkept
      rw [Map.get_put] at hget
      by_cases hid : device.stableId = id
      · rw [if_pos hid] at hget
        obtain rfl := Option.some.inj hget
        obtain ⟨old, hold, hbudget⟩ := Option.bind_eq_some_iff.1 hkept
        exact ⟨device, hdevice, hid, old, hold, hbudget⟩
      · rw [if_neg hid] at hget
        exact hcarried remaining hget
    · exact hcarried remaining hget

theorem get_queueFollowup {budget : AgentDevice → Nat} {due : List (AgentDevice × Nat)} {id : DeviceStableId} :
    ∀ remaining, (due.foldl (queueFollowup budget) .empty).get id = some remaining →
      ∃ row ∈ due, row.1.stableId = id ∧ remaining = budget row.1 ∧ 0 < remaining := by
  apply List.foldlRecOn (motive := fun queued : Budgets => ∀ remaining, queued.get id = some remaining →
    ∃ row ∈ due, row.1.stableId = id ∧ remaining = budget row.1 ∧ 0 < remaining)
  · intro remaining hnone
    cases hnone
  · intro queued hqueued row hrow remaining hget
    unfold queueFollowup at hget
    by_cases hpos : 0 < budget row.1
    · rw [if_pos hpos, Map.get_put] at hget
      by_cases hid : row.1.stableId = id
      · rw [if_pos hid] at hget
        obtain rfl := Option.some.inj hget
        exact ⟨row, hrow, hid, rfl, hpos⟩
      · rw [if_neg hid] at hget
        exact hqueued remaining hget
    · rw [if_neg hpos] at hget
      exact hqueued remaining hget

/-! ## What a plan does

Both schedulers confirm the devices with a budget; `due` is what one of them targets whatever the budget, and `fresh`
what it queues that with. -/

structure PlannedFrom (devices : List AgentDevice) (due : AgentDevice → Bool) (fresh : AgentDevice → Nat)
    (budgets : Budgets) (confirm : Bool) (planned : List Nat × Budgets) : Prop where
  once : planned.1.Nodup
  targeted : ∀ idx ∈ planned.1, ∃ dev, devices[idx]? = some dev ∧ dev.isReachable = true ∧
    (due dev = true ∨ confirm = true ∧ (budgets.get dev.stableId).isSome = true)
  left : ∀ id remaining, planned.2.get id = some remaining →
    ∃ dev ∈ devices, dev.stableId = id ∧ dev.isReachable = true ∧
      (due dev = true ∧ remaining = fresh dev ∧ 0 < remaining ∨
        due dev = false ∧ budgets.get id = some (remaining + confirm.toNat) ∧ (confirm = true → 0 < remaining))

theorem nodup_zipIdx_snd (devices : List AgentDevice) : (devices.zipIdx.map Prod.snd).Nodup := by
  rw [List.zipIdx_map_snd]
  exact List.nodup_range'

/-- One device of the confirming pass. -/
theorem PlannedFrom.confirmOne {confirm : Bool} (h : PlannedFrom devices due fresh budgets confirm planned)
    {row : AgentDevice × Nat} (hrow : row ∈ devices.zipIdx) (hdue : due row.1 = true → row.2 ∈ planned.1) :
    PlannedFrom devices due fresh budgets confirm (confirmOne budgets confirm planned row) := by
  have hget : devices[row.2]? = some row.1 := List.mk_mem_zipIdx_iff_getElem?.1 hrow
  have hmem : row.1 ∈ devices := List.mem_of_getElem? hget
  unfold Agent.confirmOne
  by_cases hfree : (row.1.isReachable && decide (row.2 ∉ planned.1)) = true
  · rw [if_pos hfree]
    obtain ⟨hreach, hfree⟩ := Bool.and_eq_true_iff.1 hfree
    have hfree : row.2 ∉ planned.1 := of_decide_eq_true hfree
    have hidle : due row.1 = false := by
      cases hd : due row.1 with
      | false => rfl
      | true => exact absurd (hdue hd) hfree
    cases hbudget : budgets.get row.1.stableId with
    | none => exact h
    | some remaining =>
      -- what the row leaves under its own identity
      have hput : ∀ kept, remaining = kept + confirm.toNat → (confirm = true → 0 < kept) →
          ∀ id left, (planned.2.put row.1.stableId kept).get id = some left →
            ∃ dev ∈ devices, dev.stableId = id ∧ dev.isReachable = true ∧
              (due dev = true ∧ left = fresh dev ∧ 0 < left ∨
                due dev = false ∧ budgets.get id = some (left + confirm.toNat) ∧ (confirm = true → 0 < left)) := by
        intro kept hkept hpos id left hleft
        rw [Map.get_put] at hleft
        by_cases hid : row.1.stableId = id
        · rw [if_pos hid] at hleft
          obtain rfl := Option.some.inj hleft
          exact ⟨row.1, hmem, hid, hreach, Or.inr ⟨hidle, by rw [← hid, hbudget, hkept], hpos⟩⟩
        · rw [if_neg hid] at hleft
          exact h.left id left hleft
      cases confirm with
      | false => exact ⟨h.once, h.targeted, hput remaining rfl (fun hc => by cases hc)⟩
      | true =>
        refine ⟨?_, ?_, ?_⟩
        · exact List.nodup_append.2 ⟨h.once, List.nodup_singleton _, fun a ha b hb hab => by
            rw [List.mem_singleton.1 hb] at hab
            exact hfree (hab ▸ ha)⟩
        · intro idx hidx
          rcases List.mem_append.1 hidx with hidx | hidx
          · exact h.targeted idx hidx
          · rw [List.mem_singleton.1 hidx]
            exact ⟨row.1, hget, hreach, Or.inr ⟨rfl, by rw [hbudget]; rfl⟩⟩
        · dsimp only
          rw [if_pos rfl]
          by_cases hlast : 1 < remaining
          · rw [if_pos hlast]
            exact hput (remaining - 1) (Nat.sub_add_cancel (Nat.le_of_lt hlast)).symm fun _ => Nat.sub_pos_of_lt hlast
          · rw [if_neg hlast]
            exact h.left
  · rw [if_neg hfree]
    exact h

/-- **A whole plan**: what is due, and then a confirming pass over the rest. -/
theorem plannedFrom_foldl (budgets : Budgets) (confirm : Bool) (hdue : ∀ dev, due dev = true → dev.isReachable = true) :
    PlannedFrom devices due fresh budgets confirm (devices.zipIdx.foldl (confirmOne budgets confirm)
      ((devices.zipIdx.filter fun row => due row.1).map Prod.snd,
        (devices.zipIdx.filter fun row => due row.1).foldl (queueFollowup fresh) .empty)) := by
  have hstart : PlannedFrom devices due fresh budgets confirm
      ((devices.zipIdx.filter fun row => due row.1).map Prod.snd,
        (devices.zipIdx.filter fun row => due row.1).foldl (queueFollowup fresh) .empty) := by
    refine ⟨?_, ?_, ?_⟩
    · exact (nodup_zipIdx_snd devices).sublist (List.filter_sublist.map _)
    · intro idx hidx
      obtain ⟨row, hrow, rfl⟩ := List.mem_map.1 hidx
      obtain ⟨hrow, hd⟩ := List.mem_filter.1 hrow
      exact ⟨row.1, List.mk_mem_zipIdx_iff_getElem?.1 hrow, hdue row.1 hd, Or.inl hd⟩
    · intro id remaining hget
      obtain ⟨row, hrow, hid, hfresh, hpos⟩ := get_queueFollowup remaining hget
      obtain ⟨hrow, hd⟩ := List.mem_filter.1 hrow
      exact ⟨row.1, List.mem_of_getElem? (List.mk_mem_zipIdx_iff_getElem?.1 hrow), hid, hdue row.1 hd,
        Or.inl ⟨hd, hfresh, hpos⟩⟩
  refine (List.foldlRecOn (motive := fun planned : List Nat × Budgets =>
    PlannedFrom devices due fresh budgets confirm planned ∧
      ∀ row ∈ devices.zipIdx, due row.1 = true → row.2 ∈ planned.1) _ _ ⟨hstart, ?_⟩ ?_).1
  · intro row hrow hd
    exact List.mem_map_of_mem (List.mem_filter.2 ⟨hrow, hd⟩)
  · rintro planned ⟨hplanned, hcovers⟩ row hrow
    refine ⟨hplanned.confirmOne hrow (hcovers row hrow), fun other hother hd => ?_⟩
    -- a target stays one
    have hkept : ∀ idx ∈ planned.1, idx ∈ (confirmOne budgets confirm planned row).1 := by
      intro idx hidx
      unfold confirmOne
      split
      · split
        · split
          · exact List.mem_append_left _ hidx
          · exact hidx
        · exact hidx
      · exact hidx
    exact hkept other.2 (hcovers other hother hd)

theorem isReachable_of_needsReapply {prev : List AgentDevice} {reapplyAll : Bool} {dev : AgentDevice}
    (h : needsReapply prev reapplyAll dev = true) : dev.isReachable = true :=
  (Bool.and_eq_true_iff.1 h).1

theorem plannedFrom_planReapply (prev next : List AgentDevice) (followup : Budgets) (forced : Option Nat)
    (confirm : Bool) :
    PlannedFrom next (needsReapply prev forced.isSome)
      (queuedBudget prev (carryLifecycleBudgets prev next followup) forced confirm)
      (carryLifecycleBudgets prev next followup) confirm (planReapply prev next followup forced confirm) :=
  plannedFrom_foldl _ confirm fun _ => isReachable_of_needsReapply

/-- The recovery is the same pass over rows that no target names yet. -/
theorem foldl_recoverOne (recovery : Budgets) (confirm : Bool) : ∀ (rows : List (AgentDevice × Nat))
    (planned : List Nat × Budgets), (rows.map Prod.snd).Nodup → (∀ row ∈ rows, row.2 ∉ planned.1) →
      rows.foldl (recoverOne recovery confirm) planned = rows.foldl (confirmOne recovery confirm) planned
  | [], _, _, _ => rfl
  | row :: rows, planned, hnodup, hfree => by
    rw [List.map_cons, List.nodup_cons] at hnodup
    have hsame : recoverOne recovery confirm planned row = confirmOne recovery confirm planned row := by
      unfold recoverOne confirmOne
      rw [decide_eq_true (hfree row List.mem_cons_self), Bool.and_true]
      cases recovery.get row.1.stableId with
      | none => rw [ite_self]
      | some remaining => cases row.1.isReachable <;> rfl
    rw [List.foldl_cons, List.foldl_cons, hsame]
    refine foldl_recoverOne recovery confirm rows _ hnodup.2 fun other hother => ?_
    have hne : other.2 ≠ row.2 := fun h => hnodup.1 (h ▸ List.mem_map_of_mem hother)
    have hold : other.2 ∉ planned.1 := hfree other (List.mem_cons_of_mem _ hother)
    unfold confirmOne
    split
    · split
      · split
        · simp [hne, hold]
        · exact hold
      · exact hold
    · exact hold

theorem plannedFrom_planDisabledKeysRecovery (devices : List AgentDevice) (recovery : Budgets) (confirm : Bool) :
    PlannedFrom devices (fun _ => false) (fun _ => 0) recovery confirm
      (planDisabledKeysRecovery devices recovery confirm) := by
  unfold planDisabledKeysRecovery
  rw [foldl_recoverOne recovery confirm devices.zipIdx _ (nodup_zipIdx_snd devices) fun _ _ => List.not_mem_nil]
  have h := @plannedFrom_foldl devices (fun _ => false) (fun _ => 0) recovery confirm fun _ hfalse => by cases hfalse
  rwa [List.filter_eq_nil_iff.2 fun _ _ => Bool.false_ne_true] at h

/-! ## Bounds -/

/-- Every attempt counts down from at most `n`, and none is spent. -/
def Within (budgets : Budgets) (n : Nat) : Prop := ∀ id remaining, budgets.get id = some remaining →
  0 < remaining ∧ remaining ≤ n

theorem within_empty (n : Nat) : Within .empty n := fun _ _ h => by cases h

theorem Within.carry {n : Nat} (h : Within budgets n) (previous next : List AgentDevice) :
    Within (carryLifecycleBudgets previous next budgets) n := by
  intro id remaining hget
  obtain ⟨-, -, -, old, -, hbudget⟩ := get_carryLifecycleBudgets remaining hget
  exact h old.stableId remaining hbudget

/-- Nothing within no attempts is left at all. -/
theorem Within.isEmpty (h : Within budgets 0) : budgets.rows.isEmpty = true := by
  cases hrows : budgets.rows with
  | nil => rfl
  | cons row rows =>
    have hget : budgets.get row.1 = some row.2 := Map.get_eq_some.2 (by
      change row ∈ budgets.rows
      rw [hrows]
      exact List.mem_cons_self)
    have := h row.1 row.2 hget
    omega

/-- **A pass over budgets within `n`** leaves them within what a confirmation takes off, fresh ones apart. -/
theorem PlannedFrom.within {confirm : Bool} {m n : Nat} (h : PlannedFrom devices due fresh budgets confirm planned)
    (hbudgets : Within budgets n) (hfresh : ∀ dev ∈ devices, due dev = true → fresh dev ≤ m)
    (hmn : n - confirm.toNat ≤ m) : Within planned.2 m := by
  intro id remaining hget
  obtain ⟨dev, hdev, -, -, ⟨hdue, rfl, hpos⟩ | ⟨-, hold, hpos⟩⟩ := h.left id remaining hget
  · exact ⟨hpos, hfresh dev hdev hdue⟩
  · have hbound := hbudgets id _ hold
    cases confirm with
    | false => exact ⟨hbound.1, Nat.le_trans hbound.2 hmn⟩
    | true =>
      have hle : remaining + 1 ≤ n := hbound.2
      have hmn : n - 1 ≤ m := hmn
      exact ⟨hpos rfl, by omega⟩

/-! ## What a refresh does -/

/-- Some reachable device of the pass asks for a recovery under the identity. -/
def RefreshPass.RequestedFor (pass : RefreshPass) (id : DeviceStableId) : Prop :=
  ∃ dev ∈ pass.devices, dev.stableId = id ∧ dev.online = true ∧ ∃ route ∈ pass.requested, dev.route = some route

namespace ReapplyState

variable {s : ReapplyState} {pass : RefreshPass}

theorem recoveries_get (hs : Within s.disabledKeysRecovery volatileReapplyConfirmRetries) {id : DeviceStableId} :
    ∀ remaining, (s.recoveries pass).get id = some remaining →
      (0 < remaining ∧ remaining ≤ volatileReapplyConfirmRetries) ∧
        ((carryLifecycleBudgets s.devices pass.devices s.disabledKeysRecovery).get id = some remaining ∨
          pass.RequestedFor id) := by
  refine (List.foldlRecOn (motive := fun asked : List DeviceRoute × Budgets =>
    (∀ route ∈ asked.1, route ∈ pass.requested) ∧ ∀ id remaining, asked.2.get id = some remaining →
      (0 < remaining ∧ remaining ≤ volatileReapplyConfirmRetries) ∧
        ((carryLifecycleBudgets s.devices pass.devices s.disabledKeysRecovery).get id = some remaining ∨
          pass.RequestedFor id)) _ _ ⟨fun _ h => h, ?_⟩ ?_).2 id
  · intro id remaining hget
    exact ⟨(hs.carry s.devices pass.devices) id remaining hget, Or.inl hget⟩
  · rintro asked ⟨hroutes, hbudgets⟩ dev hdev
    unfold scheduleOne
    cases hroute : dev.route with
    | none => exact ⟨hroutes, hbudgets⟩
    | some route =>
      dsimp only
      by_cases hasked : (dev.online && decide (route ∈ asked.1)) = true
      · rw [if_pos hasked]
        obtain ⟨honline, hasked⟩ := Bool.and_eq_true_iff.1 hasked
        refine ⟨fun other hother => hroutes other (List.mem_filter.1 hother).1, fun id remaining hget => ?_⟩
        rw [Map.get_put] at hget
        by_cases hid : dev.stableId = id
        · rw [if_pos hid] at hget
          obtain rfl := Option.some.inj hget
          refine ⟨?_, Or.inr ⟨dev, hdev, hid, honline, route, hroutes route (of_decide_eq_true hasked), hroute⟩⟩
          have hold : (asked.2.get dev.stableId).getD 0 ≤ volatileReapplyConfirmRetries := by
            cases hget : asked.2.get dev.stableId with
            | none => exact Nat.zero_le _
            | some kept => exact (hbudgets _ kept hget).1.2
          have hmax : Nat.max ((asked.2.get dev.stableId).getD 0) volatileReapplyConfirmRetries =
              volatileReapplyConfirmRetries := Nat.max_eq_right hold
          rw [hmax]
          decide
        · rw [if_neg hid] at hget
          exact hbudgets id remaining hget
      · rw [if_neg hasked]
        exact ⟨hroutes, hbudgets⟩

/-- What every reachable state keeps. -/
structure Bounded (s : ReapplyState) : Prop where
  forced : ∀ budget, s.forcedReapplyBudget = some budget → budget ≤ volatileReapplyConfirmRetries
  followup : Within s.reapplyFollowup volatileReapplyConfirmRetries
  recovery : Within s.disabledKeysRecovery volatileReapplyConfirmRetries

theorem plannedReapply_from (s : ReapplyState) (pass : RefreshPass) :
    PlannedFrom pass.devices (needsReapply s.devices s.forcedReapplyBudget.isSome)
      (queuedBudget s.devices (carryLifecycleBudgets s.devices pass.devices s.reapplyFollowup) s.forcedReapplyBudget
        pass.confirm)
      (carryLifecycleBudgets s.devices pass.devices s.reapplyFollowup) pass.confirm (s.plannedReapply pass) :=
  plannedFrom_planReapply ..

theorem plannedRecovery_from (s : ReapplyState) (pass : RefreshPass) :
    PlannedFrom pass.devices (fun _ => false) (fun _ => 0) (s.recoveries pass) pass.confirm (s.plannedRecovery pass) :=
  plannedFrom_planDisabledKeysRecovery ..

theorem any_sameDeviceLifecycle (prev : List AgentDevice) (dev : AgentDevice) :
    (prev.any fun p => sameDeviceLifecycle p dev) = (lifecycleIn prev dev).isSome := by
  rw [Bool.eq_iff_iff, List.any_eq_true, lifecycleIn, List.find?_isSome]

/-- An arrival is queued with the boot ladder. -/
theorem queuedBudget_arrival {prev : List AgentDevice} {dev : AgentDevice} (h : lifecycleIn prev dev = none)
    (followup : Budgets) (forced : Option Nat) (confirm : Bool) :
    queuedBudget prev followup forced confirm dev = volatileReapplyConfirmRetries := by
  unfold queuedBudget
  rw [any_sameDeviceLifecycle, h]
  rfl

theorem queuedBudget_le {prev : List AgentDevice} {followup : Budgets} {forced : Option Nat} (confirm : Bool)
    (dev : AgentDevice) (hforced : ∀ budget, forced = some budget → budget ≤ volatileReapplyConfirmRetries)
    (hfollowup : Within followup volatileReapplyConfirmRetries) :
    queuedBudget prev followup forced confirm dev ≤ volatileReapplyConfirmRetries := by
  cases hknown : lifecycleIn prev dev with
  | none => exact Nat.le_of_eq (queuedBudget_arrival hknown ..)
  | some old =>
    have hbudget : forced.getD reconnectReapplyConfirmRetries ≤ volatileReapplyConfirmRetries := by
      cases forced with
      | none => decide
      | some budget => exact hforced budget rfl
    have hcarried : ((followup.get dev.stableId).elim 0 fun remaining => remaining - confirm.toNat) ≤
        volatileReapplyConfirmRetries := by
      cases hget : followup.get dev.stableId with
      | none => exact Nat.zero_le _
      | some remaining => exact Nat.le_trans (Nat.sub_le ..) (hfollowup _ remaining hget).2
    unfold queuedBudget
    rw [any_sameDeviceLifecycle, hknown]
    exact Nat.max_le.2 ⟨hbudget, hcarried⟩

theorem within_recoveries (h : Bounded s) : Within (s.recoveries pass) volatileReapplyConfirmRetries :=
  fun _ remaining hget => (recoveries_get h.recovery remaining hget).1

theorem bounded_refreshInventory (h : Bounded s) (pass : RefreshPass) : Bounded (s.refreshInventory pass) where
  forced _ hnone := by cases hnone
  followup := (s.plannedReapply_from pass).within (h.followup.carry _ _)
    (fun dev _ _ => queuedBudget_le _ dev h.forced (h.followup.carry _ _)) (Nat.sub_le ..)
  recovery := (s.plannedRecovery_from pass).within (within_recoveries h) (fun _ _ hdue => by cases hdue) (Nat.sub_le ..)

theorem bounded_forceReapply (h : Bounded s) {retries : Nat} (hretries : retries ≤ volatileReapplyConfirmRetries) :
    Bounded (s.forceReapply retries) := by
  refine ⟨fun budget hbudget => ?_, h.followup, h.recovery⟩
  obtain rfl := Option.some.inj hbudget
  refine Nat.max_le.2 ⟨?_, hretries⟩
  cases hforced : s.forcedReapplyBudget with
  | none => exact Nat.zero_le _
  | some old => exact h.forced old hforced

theorem bounded_next (h : Bounded s) : ∀ event, Bounded (s.next event)
  | .refresh pass => bounded_refreshInventory h pass
  | .reapplyVolatile => bounded_forceReapply h (Nat.le_refl _)
  | .reapplyReconnected => bounded_forceReapply h (by decide)

theorem bounded_init : Bounded {} := ⟨fun _ h => (by cases h), within_empty _, within_empty _⟩

theorem bounded_reachable (history : List ReapplyEvent) : Bounded (history.foldl next {}) :=
  List.foldlRecOn history next bounded_init fun _ h event _ => bounded_next h event

end ReapplyState

/-! ## Following an identity -/

/-- A refresh, and the identity that the followed device has in it. -/
abbrev Sighting := RefreshPass × DeviceStableId

def followStep (p : ReapplyState × DeviceStableId) (seen : Sighting) : Option (ReapplyState × DeviceStableId) :=
  some (p.1.refreshInventory seen.1, seen.2)

/-- What is listed under the new identity continues nothing but what was listed under the old one. -/
def Follows (p : ReapplyState × DeviceStableId) (seen : Sighting) : Prop :=
  ∀ dev ∈ seen.1.devices, dev.stableId = seen.2 → ∀ old ∈ lifecycleIn p.1.devices dev, old.stableId = p.2

/-- No trigger: nothing is forced, and every reachable device of the identity was online before, so that none arrived,
reconnected or replaced another. -/
structure Undisturbed (p : ReapplyState × DeviceStableId) (seen : Sighting) : Prop where
  follows : Follows p seen
  unforced : p.1.forcedReapplyBudget = none
  stayed : ∀ dev ∈ seen.1.devices, dev.stableId = seen.2 → dev.isReachable = true →
    (lifecycleIn p.1.devices dev).any AgentDevice.online = true

/-- No abandoned request asks for a recovery. -/
structure Unrequested (p : ReapplyState × DeviceStableId) (seen : Sighting) : Prop where
  follows : Follows p seen
  unrequested : ¬seen.1.RequestedFor seen.2

/-- Some device with the identity is targeted. -/
def RefreshPass.targets (pass : RefreshPass) (id : DeviceStableId) (planned : List Nat) : Bool :=
  planned.any fun idx => (pass.devices[idx]?).any fun dev => decide (dev.stableId = id)

/-- The passes in which a device with the followed identity is targeted. -/
def targetedPasses (plan : ReapplyState → RefreshPass → List Nat × Budgets) :
    ReapplyState → List Sighting → List RefreshPass
  | _, [] => []
  | s, (pass, id) :: rest =>
    let later := targetedPasses plan (s.refreshInventory pass) rest
    if pass.targets id (plan s pass).1 then pass :: later else later

/-- **One pass without a trigger** takes what it targets off the budget, and targets only to confirm. -/
theorem PlannedFrom.spend {pass : RefreshPass} {n : Nat}
    (h : PlannedFrom pass.devices due fresh budgets pass.confirm planned) (hbudgets : Within budgets n)
    (id : DeviceStableId) (hidle : ∀ dev ∈ pass.devices, dev.stableId = id → due dev = false) :
    (pass.targets id planned.1).toNat + (planned.2.get id).getD 0 ≤ (budgets.get id).getD 0 ∧
      (pass.targets id planned.1 = true → pass.confirm = true) := by
  have hleft : ∀ remaining, planned.2.get id = some remaining →
      budgets.get id = some (remaining + pass.confirm.toNat) := by
    intro remaining hget
    obtain ⟨dev, hdev, hid, -, ⟨hdue, -⟩ | ⟨-, hold, -⟩⟩ := h.left id remaining hget
    · rw [hidle dev hdev hid] at hdue
      cases hdue
    · exact hold
  cases htargets : pass.targets id planned.1 with
  | false =>
    refine ⟨?_, fun hfalse => by cases hfalse⟩
    cases hget : planned.2.get id with
    | none => exact Nat.zero_le _
    | some remaining =>
      rw [hleft remaining hget, Bool.toNat_false, Nat.zero_add]
      exact Nat.le_add_right ..
  | true =>
    obtain ⟨idx, hidx, hany⟩ := List.any_eq_true.1 htargets
    obtain ⟨dev, hdev, hid⟩ := (Option.any_eq_true _ _).1 hany
    obtain rfl := of_decide_eq_true hid
    obtain ⟨dev', hdev', -, hcause⟩ := h.targeted idx hidx
    obtain rfl := Option.some.inj (hdev.symm.trans hdev')
    rw [hidle dev (List.mem_of_getElem? hdev) rfl] at hcause
    obtain ⟨hconfirm, hsome⟩ := hcause.resolve_left Bool.false_ne_true
    refine ⟨?_, fun _ => hconfirm⟩
    obtain ⟨remaining, hremaining⟩ := Option.isSome_iff_exists.1 hsome
    have hpos := (hbudgets _ remaining hremaining).1
    cases hget : planned.2.get dev.stableId with
    | none =>
      rw [hremaining]
      exact hpos
    | some kept =>
      rw [hleft kept hget, hconfirm, Bool.toNat_true, Nat.add_comm]
      exact Nat.le_refl _

namespace ReapplyState

variable {p : ReapplyState × DeviceStableId} {seen : Sighting}

theorem carry_le (h : Follows p seen) (budgets : Budgets) :
    ((carryLifecycleBudgets p.1.devices seen.1.devices budgets).get seen.2).getD 0 ≤ (budgets.get p.2).getD 0 := by
  cases hget : (carryLifecycleBudgets p.1.devices seen.1.devices budgets).get seen.2 with
  | none => exact Nat.zero_le _
  | some remaining =>
    obtain ⟨dev, hdev, hid, old, hold, hbudget⟩ := get_carryLifecycleBudgets remaining hget
    rw [← h dev hdev hid old hold, hbudget]

theorem not_needsReapply {prev : List AgentDevice} {dev : AgentDevice}
    (h : dev.isReachable = true → (lifecycleIn prev dev).any AgentDevice.online = true) :
    needsReapply prev false dev = false := by
  cases hneeds : needsReapply prev false dev with
  | false => rfl
  | true =>
    obtain ⟨old, hold, honline⟩ := (Option.any_eq_true _ _).1 (h (isReachable_of_needsReapply hneeds))
    have hoffline := (Bool.and_eq_true_iff.1 hneeds).2
    rw [Bool.false_or] at hoffline
    have hnot := (Option.all_eq_true _ _).1 hoffline old hold
    rw [honline] at hnot
    cases hnot

theorem spend_reapply (hp : Bounded p.1) (h : Undisturbed p seen) :
    (seen.1.targets seen.2 (p.1.plannedReapply seen.1).1).toNat +
        (((p.1.refreshInventory seen.1).reapplyFollowup).get seen.2).getD 0 ≤ (p.1.reapplyFollowup.get p.2).getD 0 ∧
      (seen.1.targets seen.2 (p.1.plannedReapply seen.1).1 = true → seen.1.confirm = true) := by
  have hspend := (p.1.plannedReapply_from seen.1).spend (hp.followup.carry _ _) seen.2 fun dev hdev hid => by
    rw [h.unforced]
    exact not_needsReapply (h.stayed dev hdev hid)
  exact ⟨Nat.le_trans hspend.1 (carry_le h.follows _), hspend.2⟩

theorem spend_recovery (hp : Bounded p.1) (h : Unrequested p seen) :
    (seen.1.targets seen.2 (p.1.plannedRecovery seen.1).1).toNat +
        (((p.1.refreshInventory seen.1).disabledKeysRecovery).get seen.2).getD 0 ≤
          (p.1.disabledKeysRecovery.get p.2).getD 0 ∧
      (seen.1.targets seen.2 (p.1.plannedRecovery seen.1).1 = true → seen.1.confirm = true) := by
  have hspend := (p.1.plannedRecovery_from seen.1).spend (within_recoveries hp) seen.2 fun _ _ _ => rfl
  refine ⟨Nat.le_trans hspend.1 (Nat.le_trans ?_ (carry_le h.follows p.1.disabledKeysRecovery)), hspend.2⟩
  cases hget : (p.1.recoveries seen.1).get seen.2 with
  | none => exact Nat.zero_le _
  | some remaining =>
    rw [(recoveries_get hp.recovery remaining hget).2.resolve_right h.unrequested]

/-- **A whole run without a trigger**, by what each pass spends. -/
theorem targetedPasses_le {plan : ReapplyState → RefreshPass → List Nat × Budgets}
    (budget : ReapplyState → DeviceStableId → Nat) {G : ReapplyState × DeviceStableId → Sighting → Prop}
    (hspend : ∀ p seen, Bounded p.1 → G p seen →
      (seen.1.targets seen.2 (plan p.1 seen.1).1).toNat + budget (p.1.refreshInventory seen.1) seen.2 ≤
          budget p.1 p.2 ∧
        (seen.1.targets seen.2 (plan p.1 seen.1).1 = true → seen.1.confirm = true)) :
    ∀ (sightings : List Sighting) (p q : ReapplyState × DeviceStableId), Bounded p.1 →
      Along followStep G p sightings → run followStep p sightings = some q →
        (targetedPasses plan p.1 sightings).length + budget q.1 q.2 ≤ budget p.1 p.2 ∧
          ∀ pass ∈ targetedPasses plan p.1 sightings, pass.confirm = true
  | [], p, q, _, _, hrun => by
    cases hrun
    exact ⟨Nat.le_of_eq (Nat.zero_add _), fun _ hpass => absurd hpass List.not_mem_nil⟩
  | (pass, id) :: rest, p, q, hp, hquiet, hrun => by
    obtain ⟨hone, honly⟩ := hspend p (pass, id) hp hquiet.1
    obtain ⟨hrest, hlater⟩ := targetedPasses_le budget hspend rest (p.1.refreshInventory pass, id) q
      (bounded_refreshInventory hp pass) (hquiet.2 _ rfl) hrun
    unfold targetedPasses
    dsimp only at hone honly hrest hlater ⊢
    cases htargets : pass.targets id (plan p.1 pass).1 with
    | false =>
      rw [htargets, Bool.toNat_false, Nat.zero_add] at hone
      exact ⟨Nat.le_trans hrest hone, hlater⟩
    | true =>
      rw [htargets, Bool.toNat_true] at hone
      rw [if_pos rfl, List.length_cons]
      refine ⟨by omega, fun other hother => ?_⟩
      rcases List.mem_cons.1 hother with rfl | hother
      · exact honly htargets
      · exact hlater other hother

/-! ## Draining -/

def refreshStep (s : ReapplyState) (pass : RefreshPass) : Option ReapplyState := some (s.refreshInventory pass)

/-- A pass with no trigger for any device. -/
structure Quiet (s : ReapplyState) (pass : RefreshPass) : Prop where
  unforced : s.forcedReapplyBudget = none
  stayed : ∀ dev ∈ pass.devices, dev.isReachable = true → (lifecycleIn s.devices dev).any AgentDevice.online = true
  unrequested : ∀ id, ¬pass.RequestedFor id

theorem within_refreshInventory {s : ReapplyState} {pass : RefreshPass} {n : Nat} (hs : Bounded s) (h : Quiet s pass)
    (hfollowup : Within s.reapplyFollowup n) (hrecovery : Within s.disabledKeysRecovery n) :
    Within (s.refreshInventory pass).reapplyFollowup (n - pass.confirm.toNat) ∧
      Within (s.refreshInventory pass).disabledKeysRecovery (n - pass.confirm.toNat) := by
  constructor
  · refine (s.plannedReapply_from pass).within (hfollowup.carry _ _) (fun dev hdev hdue => ?_) (Nat.le_refl _)
    rw [h.unforced, Option.isSome_none, not_needsReapply (h.stayed dev hdev)] at hdue
    cases hdue
  · refine (s.plannedRecovery_from pass).within (fun id remaining hget => ?_) (fun _ _ hdue => by cases hdue)
      (Nat.le_refl _)
    exact (hrecovery.carry _ _) id remaining
      ((recoveries_get hs.recovery remaining hget).2.resolve_right (h.unrequested id))

/-- **Every confirmation pass takes one off the largest budget.** -/
theorem drained : ∀ (passes : List RefreshPass) (s t : ReapplyState) (n : Nat), Bounded s →
    Within s.reapplyFollowup n → Within s.disabledKeysRecovery n → Along refreshStep Quiet s passes →
      run refreshStep s passes = some t → n ≤ (passes.filter RefreshPass.confirm).length →
        t.needsReapplyConfirmation = false
  | [], s, t, n, _, hfollowup, hrecovery, _, hrun, hn => by
    cases hrun
    obtain rfl := Nat.le_zero.1 hn
    unfold needsReapplyConfirmation
    rw [hfollowup.isEmpty, hrecovery.isEmpty]
    rfl
  | pass :: passes, s, t, n, hs, hfollowup, hrecovery, hquiet, hrun, hn => by
    obtain ⟨hfollowup, hrecovery⟩ := within_refreshInventory hs hquiet.1 hfollowup hrecovery
    refine drained passes (s.refreshInventory pass) t _ (bounded_refreshInventory hs pass) hfollowup hrecovery
      (hquiet.2 _ rfl) hrun ?_
    cases hconfirm : pass.confirm with
    | false =>
      rw [List.filter_cons_of_neg (by rw [hconfirm]; decide)] at hn
      exact Nat.le_trans (Nat.sub_le ..) hn
    | true =>
      rw [List.filter_cons_of_pos hconfirm, List.length_cons] at hn
      exact Nat.sub_le_of_le_add hn

/-! ## Confirming boundedly -/

/-- What one refresh may do. -/
structure ConfirmsOnce (s : ReapplyState) (pass : RefreshPass) : Prop where
  once : (s.written pass).Nodup
  reapplied : ∀ idx ∈ (s.plannedReapply pass).1, ∃ dev, pass.devices[idx]? = some dev ∧ dev.isReachable = true ∧
    (needsReapply s.devices s.forcedReapplyBudget.isSome dev = true ∨ pass.confirm = true ∧
      ((carryLifecycleBudgets s.devices pass.devices s.reapplyFollowup).get dev.stableId).isSome = true)
  recovered : ∀ idx ∈ (s.plannedRecovery pass).1, ∃ dev, pass.devices[idx]? = some dev ∧ dev.isReachable = true ∧
    pass.confirm = true ∧ ((s.recoveries pass).get dev.stableId).isSome = true
  bounded : Bounded (s.refreshInventory pass)
  /-- Neither budget survives the device going offline or being removed. -/
  gone : ∀ id, (∀ dev ∈ pass.devices, dev.stableId = id → dev.isReachable = false) →
    (s.refreshInventory pass).reapplyFollowup.get id = none ∧
      (s.refreshInventory pass).disabledKeysRecovery.get id = none
  /-- Nor its replacement: a replacement starts from the ladder of an arrival, and with no recovery. -/
  replaced : ∀ id, (∀ dev ∈ pass.devices, dev.stableId = id → lifecycleIn s.devices dev = none) →
    (∀ remaining ∈ (s.refreshInventory pass).reapplyFollowup.get id, remaining = volatileReapplyConfirmRetries) ∧
      (¬pass.RequestedFor id → (s.refreshInventory pass).disabledKeysRecovery.get id = none)

/-- What holds from a state on, whatever is listed next. -/
structure ConfirmsBoundedly (s : ReapplyState) : Prop where
  pass : ∀ pass, ConfirmsOnce s pass
  reapplied : ∀ id sightings q, Along followStep Undisturbed (s, id) sightings →
    run followStep (s, id) sightings = some q →
      (targetedPasses plannedReapply s sightings).length + (q.1.reapplyFollowup.get q.2).getD 0 ≤
          (s.reapplyFollowup.get id).getD 0 ∧
        ∀ pass ∈ targetedPasses plannedReapply s sightings, pass.confirm = true
  recovered : ∀ id sightings q, Along followStep Unrequested (s, id) sightings →
    run followStep (s, id) sightings = some q →
      (targetedPasses plannedRecovery s sightings).length + (q.1.disabledKeysRecovery.get q.2).getD 0 ≤
          (s.disabledKeysRecovery.get id).getD 0 ∧
        ∀ pass ∈ targetedPasses plannedRecovery s sightings, pass.confirm = true
  drained : ∀ passes t, Along refreshStep Quiet s passes → run refreshStep s passes = some t →
    volatileReapplyConfirmRetries ≤ (passes.filter RefreshPass.confirm).length → t.needsReapplyConfirmation = false

theorem nodup_written (s : ReapplyState) (pass : RefreshPass) : (s.written pass).Nodup := by
  refine List.nodup_append.2 ⟨(s.plannedReapply_from pass).once,
    (s.plannedRecovery_from pass).once.sublist List.filter_sublist, fun a ha b hb hab => ?_⟩
  have hfree := (List.mem_filter.1 hb).2
  exact of_decide_eq_true hfree (hab ▸ ha)

theorem confirmsOnce {s : ReapplyState} (hs : Bounded s) (pass : RefreshPass) : ConfirmsOnce s pass where
  once := nodup_written s pass
  reapplied := (s.plannedReapply_from pass).targeted
  recovered idx hidx := by
    obtain ⟨dev, hdev, hreach, hcause⟩ := (s.plannedRecovery_from pass).targeted idx hidx
    exact ⟨dev, hdev, hreach, hcause.resolve_left Bool.false_ne_true⟩
  bounded := bounded_refreshInventory hs pass
  gone id hgone := by
    have hnone : ∀ {due : AgentDevice → Bool} {fresh : AgentDevice → Nat} {budgets : Budgets}
        {planned : List Nat × Budgets}, PlannedFrom pass.devices due fresh budgets pass.confirm planned →
          planned.2.get id = none := by
      intro due fresh budgets planned hplanned
      cases hget : planned.2.get id with
      | none => rfl
      | some remaining =>
        obtain ⟨dev, hdev, hid, hreach, -⟩ := hplanned.left id remaining hget
        rw [hgone dev hdev hid] at hreach
        cases hreach
    exact ⟨hnone (s.plannedReapply_from pass), hnone (s.plannedRecovery_from pass)⟩
  replaced id hnew := by
    have hcarried : ∀ budgets, (carryLifecycleBudgets s.devices pass.devices budgets).get id = none := by
      intro budgets
      cases hget : (carryLifecycleBudgets s.devices pass.devices budgets).get id with
      | none => rfl
      | some remaining =>
        obtain ⟨dev, hdev, hid, old, hold, -⟩ := get_carryLifecycleBudgets remaining hget
        rw [hnew dev hdev hid] at hold
        cases hold
    refine ⟨fun remaining hget => ?_, fun hrequested => ?_⟩
    · obtain ⟨dev, hdev, hid, -, ⟨-, hfresh, -⟩ | ⟨-, hold, -⟩⟩ := (s.plannedReapply_from pass).left id remaining hget
      · rw [hfresh, queuedBudget_arrival (hnew dev hdev hid)]
      · rw [hcarried] at hold
        cases hold
    · cases hget : (s.refreshInventory pass).disabledKeysRecovery.get id with
      | none => rfl
      | some remaining =>
        obtain ⟨-, -, -, -, ⟨hdue, -⟩ | ⟨-, hold, -⟩⟩ := (s.plannedRecovery_from pass).left id remaining hget
        · cases hdue
        · have hkept := (recoveries_get hs.recovery _ hold).2.resolve_right hrequested
          rw [hcarried] at hkept
          cases hkept

/-- **Confirmation budgets**: after every history, whatever snapshots follow. -/
theorem confirmations_bounded (history : List ReapplyEvent) : ConfirmsBoundedly (history.foldl next {}) :=
  have hs := bounded_reachable history
  { pass := confirmsOnce hs
    reapplied := fun id sightings q =>
      targetedPasses_le (fun s id => (s.reapplyFollowup.get id).getD 0)
        (fun _ _ hp => spend_reapply hp) sightings (_, id) q hs
    recovered := fun id sightings q =>
      targetedPasses_le (fun s id => (s.disabledKeysRecovery.get id).getD 0)
        (fun _ _ hp => spend_recovery hp) sightings (_, id) q hs
    drained := fun passes t => drained passes _ t _ hs hs.followup hs.recovery }

/-- A mouse that has just arrived at its receiver. -/
def boltMouse : AgentDevice where
  configKey := "bolt:ab:1"
  modelKey := "0b034"
  route := some (.bolt "ab" 1)
  slot := 1
  serial := none
  unitId := Flow.toBeBytes 0
  capabilities := none
  kind := .mouse
  lightCapabilities := none
  online := true

/-- Listed on with nothing new. -/
def listedOn : List RefreshPass := List.replicate 6 ⟨[boltMouse], [], true⟩

/-- It is confirmed four times in all, and its budget is spent. -/
theorem confirmed_out : ∃ t, run refreshStep (refreshInventory {} ⟨[boltMouse], [], false⟩) listedOn = some t ∧
    t.needsReapplyConfirmation = false ∧ (targetedPasses plannedReapply (refreshInventory {} ⟨[boltMouse], [], false⟩)
      (listedOn.map fun pass => (pass, boltMouse.stableId))).length = 4 := by
  obtain ⟨t, ht⟩ : ∃ t, run refreshStep (refreshInventory {} ⟨[boltMouse], [], false⟩) listedOn = some t := ⟨_, rfl⟩
  refine ⟨t, ht, (confirmations_bounded [.refresh ⟨[boltMouse], [], false⟩]).drained listedOn t ?_ ht (by decide),
    by decide +kernel⟩
  have hrequested : ∀ id, ¬RefreshPass.RequestedFor ⟨[boltMouse], [], true⟩ id :=
    fun _ ⟨_, _, _, _, _, hroute, _⟩ => absurd hroute List.not_mem_nil
  iterate 6 refine Lib.along_cons rfl ⟨rfl, by decide +kernel, hrequested⟩ ?_
  trivial

end ReapplyState

end Agent
end OpenLogi
