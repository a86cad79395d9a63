import OpenLogi.Lib.Run
import OpenLogi.WriteOrder.Queue
/-!
# Admission — who has the turn of a route

Reservations are made, waited for and dropped by any tasks over any routes.  A drop is two actions of its task: it
finishes the number under the lock, and then notifies the waiters.  A wait is two as well: it enables its notification,
and then reads whose turn it is.  `Sys.live` is the Rust ownership of the reservations: a number is dropped once.
-/
namespace OpenLogi
namespace WriteOrder

open Lib (run run_inv)
open Hid (DeviceRoute)

/-- A task inside `ReservedTurn::wait`: its notification is enabled, and it is parked once it has read that the turn is
not its own. -/
structure Waiter where
  route : String
  number : Nat
  parked : Bool
  notified : Bool

structure Sys where
  queue : String → Finished
  live : Finset (String × Nat)
  waiters : Nat → Option Waiter
  /-- Drops that have finished their number and not notified yet. -/
  notifying : String → Nat
  /-- The turns waits were granted, newest first. -/
  granted : List (String × Nat)

namespace Sys

def init : Sys := ⟨fun _ => Finished.default, ∅, fun _ => none, fun _ => 0, []⟩

/-- Number `number` of the route has been handed out. -/
def Reserved (s : Sys) (route : DeviceRoute) (number : Nat) : Prop :=
  1 ≤ number ∧ number ≤ (s.queue (toString route)).issued

/-- The last handle of the reservation has been dropped. -/
def IsFinished (s : Sys) (route : DeviceRoute) (number : Nat) : Prop :=
  s.Reserved route number ∧ (toString route, number) ∉ s.live

def Unfinished (s : Sys) (route : DeviceRoute) (number : Nat) : Prop :=
  (toString route, number) ∈ s.live

def IsTurn (s : Sys) (route : DeviceRoute) (number : Nat) : Prop :=
  (s.queue (toString route)).isTurnOf number = true

/-- The turns of the route that waits were granted, newest first. -/
def grants (s : Sys) (route : DeviceRoute) : List Nat :=
  (s.granted.filter fun g => g.1 == toString route).map Prod.snd

end Sys

inductive Ev where
  | reserve (route : DeviceRoute)
  | enable (task : Nat) (route : DeviceRoute) (number : Nat)
  | check (task : Nat)
  | drop (route : DeviceRoute) (number : Nat)
  | notify (route : DeviceRoute)
  | cancel (task : Nat)

/-- `Notify::notify_waiters`: every enabled notification of the route is delivered. -/
def notifyWaiters (key : String) (waiters : Nat → Option Waiter) (task : Nat) : Option Waiter :=
  (waiters task).map fun w => if w.route = key then { w with notified := true } else w

/-- The wait may enable a notification: it has none, or the one it was parked on has been delivered. -/
def mayEnable : Option Waiter → Bool
  | none => true
  | some w => w.parked && w.notified

def step (s : Sys) : Ev → Option Sys
  | .reserve route =>
    let key := toString route
    let (number, f) := (s.queue key).reserve
    some { s with queue := Function.update s.queue key f, live := insert (key, number) s.live }
  | .enable task route number =>
    if (toString route, number) ∈ s.live ∧ mayEnable (s.waiters task) = true then
      some { s with waiters := Function.update s.waiters task (some ⟨toString route, number, false, false⟩) }
    else none
  | .check task =>
    match s.waiters task with
    | none => none
    | some w =>
      -- a wait borrows its reservation, so the reservation is not dropped yet
      if w.parked = false ∧ (w.route, w.number) ∈ s.live then
        if (s.queue w.route).isTurnOf w.number then
          some { s with
            waiters := Function.update s.waiters task none
            granted := (w.route, w.number) :: s.granted }
        else some { s with waiters := Function.update s.waiters task (some { w with parked := true }) }
      else none
  | .drop route number =>
    let key := toString route
    if (key, number) ∈ s.live then
      some { s with
        queue := Function.update s.queue key ((s.queue key).finish number)
        live := s.live.erase (key, number)
        notifying := Function.update s.notifying key (s.notifying key + 1) }
    else none
  | .notify route =>
    let key := toString route
    if 0 < s.notifying key then
      some { s with
        waiters := notifyWaiters key s.waiters
        notifying := Function.update s.notifying key (s.notifying key - 1) }
    else none
  | .cancel task => some { s with waiters := Function.update s.waiters task none }

/-! ## The invariant -/

/-- The watermark of every route covers exactly its finished numbers, and a delivered turn leaves no wait behind. -/
structure Inv (s : Sys) : Prop where
  tight : ∀ key, (s.queue key).Tight
  covers : ∀ key n, (s.queue key).Covers n ↔ n = 0 ∨ (n ≤ (s.queue key).issued ∧ (key, n) ∉ s.live)
  live : ∀ key n, (key, n) ∈ s.live → 1 ≤ n ∧ n ≤ (s.queue key).issued
  parked : ∀ task w, s.waiters task = some w → w.parked = true → w.notified = false →
    (s.queue w.route).isTurnOf w.number = true → 0 < s.notifying w.route
  granted : ∀ key n, (key, n) ∈ s.granted → ∀ m, m < n → (s.queue key).Covers m
  ordered : ∀ key, ((s.granted.filter fun g => g.1 == key).map Prod.snd).Pairwise (fun a b => b ≤ a)

theorem inv_init : Inv Sys.init where
  tight := fun _ n hn => absurd hn (Finset.notMem_empty n)
  covers := fun key n => by
    simp [Sys.init, Finished.default, Lib.Watermark.Covers]
  live := fun _ _ h => absurd h (Finset.notMem_empty _)
  parked := fun _ _ h => by cases h
  granted := fun _ _ h => by cases h
  ordered := fun _ => List.Pairwise.nil

variable {s : Sys} {route : DeviceRoute}

theorem isTurnOf_iff (hs : Inv s) (key : String) (n : Nat) :
    (s.queue key).isTurnOf n = true ↔ ∀ m, m < n → (s.queue key).Covers m := by
  rw [Finished.isTurnOf, decide_eq_true_eq]
  exact Lib.Watermark.le_through_succ_iff _ (hs.tight key) n

theorem not_covers_of_live (hs : Inv s) {key : String} {n : Nat} (h : (key, n) ∈ s.live) :
    ¬ (s.queue key).Covers n := by
  rw [hs.covers]
  rintro (h0 | ⟨_, hn⟩)
  · have := (hs.live key n h).1
    omega
  · exact hn h

theorem inv_reserve {s' : Sys} (hs : Inv s) (h : step s (.reserve route) = some s') :
    Inv s' := by
  simp only [step, Finished.reserve, Option.some.injEq] at h
  subst h
  generalize toString route = k
  refine ⟨fun key => ?_, fun key n => ?_, fun key n hn => ?_, fun task w hw hp hn ht => ?_, fun key n hn m hm => ?_,
    hs.ordered⟩
  · by_cases hk : key = k
    · subst hk; simpa using hs.tight key
    · simpa [hk] using hs.tight key
  · by_cases hk : key = k
    · subst hk
      simp only [Function.update_self, Finset.mem_insert, Prod.mk.injEq, true_and, not_or]
      show (s.queue key).Covers n ↔ _
      rw [hs.covers]
      constructor
      · rintro (h0 | ⟨hle, hl⟩)
        · exact Or.inl h0
        · exact Or.inr ⟨by omega, by omega, hl⟩
      · rintro (h0 | ⟨hle, hne, hl⟩)
        · exact Or.inl h0
        · exact Or.inr ⟨by omega, hl⟩
    · simpa [hk] using hs.covers key n
  · by_cases hk : key = k
    · subst hk
      simp only [Finset.mem_insert, Prod.mk.injEq, true_and] at hn
      simp only [Function.update_self]
      rcases hn with rfl | hn
      · exact ⟨by omega, Nat.le_refl _⟩
      · have := hs.live key n hn
        omega
    · simp only [Finset.mem_insert, Prod.mk.injEq, hk, false_and, false_or] at hn
      simpa [hk] using hs.live key n hn
  · refine hs.parked task w hw hp hn ?_
    by_cases hk : w.route = k
    · subst hk; simpa [Finished.isTurnOf] using ht
    · simpa [hk] using ht
  · by_cases hk : key = k
    · subst hk
      simpa [Lib.Watermark.Covers] using hs.granted key n hn m hm
    · simpa [hk] using hs.granted key n hn m hm

theorem inv_waiters (hs : Inv s) (task : Nat) (w : Option Waiter)
    (hw : ∀ v, w = some v → v.parked = true → v.notified = false → (s.queue v.route).isTurnOf v.number = false) :
    Inv { s with waiters := Function.update s.waiters task w } where
  tight := hs.tight
  covers := hs.covers
  live := hs.live
  parked := fun t v hv hp hn ht => by
    by_cases he : t = task
    · subst he
      simp only [Function.update_self] at hv
      rw [hw v hv hp hn] at ht
      cases ht
    · simp only [Function.update_of_ne he] at hv
      exact hs.parked t v hv hp hn ht
  granted := hs.granted
  ordered := hs.ordered

theorem inv_grant (hs : Inv s) {key : String} {number : Nat} (hl : (key, number) ∈ s.live)
    (ht : (s.queue key).isTurnOf number = true) : Inv { s with granted := (key, number) :: s.granted } where
  tight := hs.tight
  covers := hs.covers
  live := hs.live
  parked := hs.parked
  granted := fun k n hn m hm => by
    rcases List.mem_cons.1 hn with he | hn
    · cases he
      exact (isTurnOf_iff hs _ _).1 ht m hm
    · exact hs.granted k n hn m hm
  ordered := fun k => by
    by_cases hk : key = k
    · subst hk
      simp only [List.filter_cons, beq_self_eq_true, if_true, List.map_cons]
      refine List.Pairwise.cons (fun n hn => Nat.not_lt.1 fun hlt => ?_) (hs.ordered key)
      -- an older grant of a later number would have finished this one
      obtain ⟨⟨k, n'⟩, hf, rfl⟩ := List.mem_map.1 hn
      obtain ⟨hg, hk⟩ := List.mem_filter.1 hf
      have hk : k = key := by simpa using hk
      exact not_covers_of_live hs hl (hs.granted key n' (hk ▸ hg) number hlt)
    · have hb : (key == k) = false := by simpa using hk
      simpa [List.filter_cons, hb] using hs.ordered k

theorem inv_check {s' : Sys} {task : Nat} (hs : Inv s) (h : step s (.check task) = some s') : Inv s' := by
  simp only [step] at h
  split at h
  · cases h
  rename_i w hw
  split at h
  · rename_i hl
    split at h
    · rename_i ht
      cases h
      exact inv_waiters (inv_grant hs hl.2 ht) task none (fun _ hv => by cases hv)
    · rename_i ht
      cases h
      refine inv_waiters hs task _ (fun v hv _ _ => ?_)
      cases hv
      simpa using ht
  · cases h

theorem inv_drop {s' : Sys} {number : Nat} (hs : Inv s) (h : step s (.drop route number) = some s') : Inv s' := by
  simp only [step] at h
  split at h
  swap
  · cases h
  rename_i hl
  cases h
  generalize toString route = k at hl
  have hc : ∀ n, ((s.queue k).finish number).Covers n ↔ (s.queue k).Covers n ∨ n = number := fun n =>
    Lib.Watermark.covers_mark _ number n
  refine ⟨fun key => ?_, fun key n => ?_, fun key n hn => ?_, fun task w hw hp hn ht => ?_, fun key n hn m hm => ?_,
    hs.ordered⟩
  · by_cases hk : key = k
    · subst hk
      simpa using Lib.Watermark.tight_mark _ number (hs.tight key) (not_covers_of_live hs hl)
    · simpa [hk] using hs.tight key
  · by_cases hk : key = k
    · subst hk
      simp only [Function.update_self, Finset.mem_erase, ne_eq, Prod.mk.injEq, true_and, not_and]
      rw [hc, hs.covers, Finished.finish_issued]
      have := hs.live key number hl
      constructor
      · rintro ((h0 | ⟨hle, hn⟩) | rfl)
        · exact Or.inl h0
        · exact Or.inr ⟨hle, fun _ => hn⟩
        · exact Or.inr ⟨this.2, fun he => absurd rfl he⟩
      · rintro (h0 | ⟨hle, hn⟩)
        · exact Or.inl (Or.inl h0)
        · by_cases he : n = number
          · exact Or.inr he
          · exact Or.inl (Or.inr ⟨hle, hn he⟩)
    · simpa [hk] using hs.covers key n
  · have := hs.live key n (Finset.mem_of_mem_erase hn)
    by_cases hk : key = k
    · subst hk; simpa using this
    · simpa [hk] using this
  · by_cases hk : w.route = k
    · subst hk; simp
    · simp only [Function.update_of_ne hk] at ht ⊢
      exact hs.parked task w hw hp hn ht
  · have := hs.granted key n hn m hm
    by_cases hk : key = k
    · subst hk
      simp only [Function.update_self]
      exact (hc m).2 (Or.inl this)
    · simpa [hk] using this

theorem inv_notify {s' : Sys} (hs : Inv s) (h : step s (.notify route) = some s') :
    Inv s' := by
  simp only [step] at h
  split at h
  swap
  · cases h
  cases h
  generalize toString route = k
  refine ⟨hs.tight, hs.covers, hs.live, fun task w hw hp hn ht => ?_, hs.granted, hs.ordered⟩
  simp only [notifyWaiters, Option.map_eq_some_iff] at hw
  obtain ⟨v, hv, rfl⟩ := hw
  by_cases hk : v.route = k
  · rw [if_pos hk] at hn
    cases hn
  · rw [if_neg hk] at hp hn ht ⊢
    simp only [Function.update_of_ne hk]
    exact hs.parked task v hv hp hn ht

theorem inv_step (s : Sys) (e : Ev) (s' : Sys) (hs : Inv s) (h : step s e = some s') : Inv s' := by
  cases e with
  | reserve route => exact inv_reserve hs h
  | enable task route number =>
    simp only [step] at h
    split at h
    · cases h
      exact inv_waiters hs task _ (fun v hv hp _ => by cases hv; cases hp)
    · cases h
  | check task => exact inv_check hs h
  | drop route number => exact inv_drop hs h
  | notify route => exact inv_notify hs h
  | cancel task =>
    cases h
    exact inv_waiters hs task none (fun _ hv => by cases hv)

theorem inv_run {es : List Ev} (h : run step Sys.init es = some s) : Inv s :=
  run_inv Inv inv_step es Sys.init s inv_init h

/-! ## Who has the turn -/

theorem isTurn_iff (hs : Inv s) {n : Nat} (hn : s.Reserved route n) :
    s.IsTurn route n ↔ ∀ m, s.Reserved route m → m < n → s.IsFinished route m := by
  rw [Sys.IsTurn, isTurnOf_iff hs]
  constructor
  · intro h m hm hlt
    rcases (hs.covers _ m).1 (h m hlt) with h0 | ⟨_, hl⟩
    · exact absurd hm.1 (by omega)
    · exact ⟨hm, hl⟩
  · intro h m hlt
    by_cases h0 : m = 0
    · exact (hs.covers _ m).2 (Or.inl h0)
    · have hm : s.Reserved route m := ⟨by omega, by have := hn.2; omega⟩
      exact (hs.covers _ m).2 (Or.inr ⟨hm.2, (h m hm hlt).2⟩)

theorem reserved_of_unfinished (hs : Inv s) {n : Nat} (h : s.Unfinished route n) :
    s.Reserved route n := hs.live _ n h

/-- Two unfinished reservations that both had the turn would each be finished for the other. -/
theorem isTurn_unique (hs : Inv s) {n m : Nat} (hn : s.Unfinished route n) (hm : s.Unfinished route m)
    (htn : s.IsTurn route n) (htm : s.IsTurn route m) : n = m := by
  have hrn := reserved_of_unfinished hs hn
  have hrm := reserved_of_unfinished hs hm
  rcases Nat.lt_trichotomy n m with hlt | he | hlt
  · exact absurd hn ((isTurn_iff hs hrm).1 htm n hrn hlt).2
  · exact he
  · exact absurd hm ((isTurn_iff hs hrn).1 htn m hrm hlt).2

/-- The oldest unfinished reservation has the turn. -/
theorem exists_isTurn (hs : Inv s) : ∀ n, s.Unfinished route n →
    ∃ m, m ≤ n ∧ s.Unfinished route m ∧ s.IsTurn route m := by
  intro n
  induction n using Nat.strongRecOn with
  | ind n ih =>
    intro hn
    by_cases hex : ∃ m, m < n ∧ s.Unfinished route m
    · obtain ⟨m, hlt, hm⟩ := hex
      obtain ⟨k, hk, hu, ht⟩ := ih m hlt hm
      exact ⟨k, by omega, hu, ht⟩
    · refine ⟨n, Nat.le_refl n, hn, (isTurn_iff hs (reserved_of_unfinished hs hn)).2 fun m hm hlt => ⟨hm, ?_⟩⟩
      exact fun hu => hex ⟨m, hlt, hu⟩

/-- **A reservation has the turn exactly when every earlier reservation of its route has finished.**  So at most one
unfinished reservation has it, waits are granted in reservation order, the oldest unfinished reservation always has it,
and a parked wait whose turn has come has a notification on its way. -/
theorem turn_iff_earlier_finished {es : List Ev} {s : Sys} (h : run step Sys.init es = some s) (route : DeviceRoute) :
    (∀ n, s.Reserved route n →
      (s.IsTurn route n ↔ ∀ m, s.Reserved route m → m < n → s.IsFinished route m)) ∧
    (∀ n m, s.Unfinished route n → s.Unfinished route m → s.IsTurn route n → s.IsTurn route m → n = m) ∧
    (s.grants route).Pairwise (fun later earlier => earlier ≤ later) ∧
    (∀ n, s.Unfinished route n → ∃ m, m ≤ n ∧ s.Unfinished route m ∧ s.IsTurn route m) ∧
    (∀ task w, s.waiters task = some w → w.route = toString route → w.parked = true → w.notified = false →
      s.IsTurn route w.number → 0 < s.notifying (toString route)) := by
  have hs := inv_run h
  refine ⟨fun n hn => isTurn_iff hs hn, fun n m hn hm => isTurn_unique hs hn hm, hs.ordered (toString route),
    exists_isTurn hs, fun task w hw hr hp hn ht => ?_⟩
  rw [← hr]
  refine hs.parked task w hw hp hn ?_
  rw [hr]
  exact ht

/-- The third reservation has the turn once the second and then the first have been dropped. -/
theorem third_turn_after_drops : ∃ s, run step Sys.init
      [.reserve (.direct 1133 45108), .reserve (.direct 1133 45108), .reserve (.direct 1133 45108),
        .drop (.direct 1133 45108) 2, .drop (.direct 1133 45108) 1] = some s ∧
    s.IsTurn (.direct 1133 45108) 3 := by
  generalize DeviceRoute.direct 1133 45108 = route
  obtain ⟨s, hs⟩ : ∃ s, run step Sys.init
      [.reserve route, .reserve route, .reserve route, .drop route 2, .drop route 1] = some s := by
    simp [run, step, Sys.init, Finished.default, Finished.reserve]
  have hi : (s.queue (toString route)).issued = 3 ∧ ∀ m, (toString route, m) ∈ s.live → m = 3 := by
    simp only [run, step, Sys.init, Finished.default, Finished.reserve] at hs
    simp only [Option.bind_some, Finset.mem_insert] at hs
    simp at hs
    subst hs
    simp
    omega
  refine ⟨s, hs, ((turn_iff_earlier_finished hs route).1 3 ?_).2 fun m hm hlt => ⟨hm, fun hl => ?_⟩⟩
  · simp [Sys.Reserved, hi.1]
  · have := hi.2 m hl
    omega

end WriteOrder
end OpenLogi
