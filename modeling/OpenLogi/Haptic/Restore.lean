import Mathlib.Data.List.Nodup
import Mathlib.Data.List.Perm.Basic
import OpenLogi.Hid.Route
import OpenLogi.Lib.Run
import OpenLogi.Scroll.Number
/-!
# Restore — the haptic enables that are owed back

Arming a ring session may turn a device's haptic engine on.  The ledger holds the enables to hand back, at most one a
device, and when each is due; the worker that takes them hands back to the ledger those it could not deliver.
-/
namespace OpenLogi
namespace Haptic

open Hid (DeviceRoute)
open Lib (run run_inv)
open Scroll (millis)

variable {R : Type}

def displayLifetime : Nat := millis 15000

def sessionGrace : Nat := millis 3000

def sessionLifetime : Nat := displayLifetime + sessionGrace

/-- How long a restore that did not reach its device waits. -/
def restoreRetry : Nat := millis 10000

structure Owed (R : Type) where
  route : DeviceRoute
  restore : R
  /-- The newest session that may still play on the engine. -/
  session : Nat
  due : Nat
  deriving DecidableEq

structure RestoreLedger (R : Type) where
  owed : List (Owed R) := []
  deriving DecidableEq

/-- The first entry of a route, changed. -/
def updateRoute (route : DeviceRoute) (f : Owed R → Owed R) : List (Owed R) → List (Owed R)
  | [] => []
  | owed :: rest => if owed.route = route then f owed :: rest else owed :: updateRoute route f rest

/-- `Vec::swap_remove`. -/
def swapRemove {α : Type} (l : List α) (index : Nat) : List α :=
  match l.getLast? with
  | none => l
  | some last => (l.set index last).dropLast

namespace RestoreLedger

variable (ledger : RestoreLedger R)

def opened (session : Nat) (route : DeviceRoute) (restore : Option R) (now : Nat) : RestoreLedger R :=
  let ends := now + sessionLifetime
  let owed := ledger.owed.map fun owed => if owed.route ≠ route then { owed with due := min owed.due now } else owed
  if owed.any fun owed => owed.route = route then
    ⟨updateRoute route (fun owed => { owed with session, due := ends, restore := restore.getD owed.restore }) owed⟩
  else
    match restore with
    | some restore => ⟨owed ++ [⟨route, restore, session, ends⟩]⟩
    | none => ⟨owed⟩

def closed (session now : Nat) : RestoreLedger R :=
  ⟨ledger.owed.map fun owed => if owed.session ≤ session then { owed with due := min owed.due now } else owed⟩

def leaving (now : Nat) : RestoreLedger R := ⟨ledger.owed.map fun owed => { owed with due := min owed.due now }⟩

def nextDue : Option Nat := (ledger.owed.map Owed.due).min?

def takeDue (now : Nat) : Option (Owed R × RestoreLedger R) :=
  (ledger.owed.findIdx? fun owed => owed.due ≤ now).bind fun index =>
    ledger.owed[index]?.map fun owed => (owed, ⟨swapRemove ledger.owed index⟩)

def retry (owed : Owed R) (now : Nat) : RestoreLedger R :=
  if ledger.owed.any fun newer => newer.route = owed.route then ledger
  else ⟨ledger.owed ++ [{ owed with due := now + restoreRetry }]⟩

end RestoreLedger

/-! ## Runs -/

/-- What is known of a route: a session opened on it, or a restore on it failed and is owed again. -/
inductive Fact where
  | opened (session : Nat) (route : DeviceRoute) (now : Nat)
  | failed (route : DeviceRoute) (now : Nat)
  deriving DecidableEq

def Fact.route : Fact → DeviceRoute
  | .opened _ route _ | .failed route _ => route

/-- When a restore is due at the latest, after the newest fact of its route. -/
def Fact.deadline : Fact → Nat
  | .opened _ _ now => now + sessionLifetime
  | .failed _ now => now + restoreRetry

/-- The ledger, with the restores that are taken and not yet handed back, and the facts, newest first. -/
structure Desk (R : Type) where
  ledger : RestoreLedger R := {}
  hand : List (Owed R) := []
  facts : List Fact := []
  deriving DecidableEq

inductive Ev (R : Type) where
  | opened (session : Nat) (route : DeviceRoute) (restore : Option R) (now : Nat)
  | closed (session now : Nat)
  | leaving (now : Nat)
  | takeDue (now : Nat)
  /-- The restore at `index` of the hand did not reach its device. -/
  | retry (index now : Nat)
  /-- It did, or was refused. -/
  | answered (index : Nat)

namespace Desk

def step (desk : Desk R) : Ev R → Option (Desk R)
  | .opened session route restore now =>
    some { desk with
      ledger := desk.ledger.opened session route restore now, facts := .opened session route now :: desk.facts }
  | .closed session now => some { desk with ledger := desk.ledger.closed session now }
  | .leaving now => some { desk with ledger := desk.ledger.leaving now }
  | .takeDue now =>
    match desk.ledger.takeDue now with
    | some (owed, ledger) => some { desk with ledger, hand := desk.hand ++ [owed] }
    | none => some desk
  | .retry index now =>
    desk.hand[index]?.map fun owed =>
      { ledger := desk.ledger.retry owed now
        hand := desk.hand.eraseIdx index
        facts := if desk.ledger.owed.any fun newer => newer.route = owed.route then desk.facts
          else .failed owed.route now :: desk.facts }
  | .answered index => desk.hand[index]?.map fun _ => { desk with hand := desk.hand.eraseIdx index }

end Desk

/-! ## What each operation does -/

/-- `swapRemove` takes one entry out. -/
theorem swapRemove_perm {α : Type} {l : List α} {index : Nat} {x : α} (h : l[index]? = some x) :
    (x :: swapRemove l index).Perm l := by
  rcases List.eq_nil_or_concat l with rfl | ⟨init, last, rfl⟩
  · cases h
  · rw [List.concat_eq_append] at h ⊢
    unfold swapRemove
    rw [List.getLast?_concat]
    dsimp only
    by_cases hindex : index < init.length
    · rw [List.getElem?_append_left hindex, List.getElem?_eq_some_iff] at h
      obtain ⟨_, rfl⟩ := h
      rw [List.set_append_left _ _ hindex, List.dropLast_concat]
      have hset := (List.set_perm_cons_eraseIdx hindex last).cons init[index]
      refine hset.trans ((List.Perm.swap ..).trans ?_)
      exact ((List.getElem_cons_eraseIdx_perm hindex).cons last).trans (List.perm_append_singleton last init).symm
    · have hlen : index - init.length = 0 := by
        have hlt := (List.getElem?_eq_some_iff.1 h).1
        rw [List.length_append, List.length_singleton] at hlt
        omega
      rw [List.getElem?_append_right (Nat.le_of_not_lt hindex), hlen] at h
      obtain rfl : last = x := Option.some.inj h
      rw [List.set_append_right _ _ (Nat.le_of_not_lt hindex), hlen, List.set_cons_zero, List.dropLast_concat]
      exact (List.perm_append_singleton last init).symm

theorem updateRoute_eq_map (route : DeviceRoute) (f : Owed R → Owed R) {l : List (Owed R)}
    (h : (l.map Owed.route).Nodup) :
    updateRoute route f l = l.map fun owed => if owed.route = route then f owed else owed := by
  induction l with
  | nil => rfl
  | cons owed rest ih =>
    rw [List.map_cons, List.nodup_cons] at h
    rw [updateRoute, List.map_cons, ih h.2]
    by_cases hroute : owed.route = route
    · rw [if_pos hroute, if_pos hroute]
      congr 1
      refine (List.map_id _).symm.trans (List.map_congr_left fun other hother => (if_neg fun hc => ?_).symm)
      exact h.1 (List.mem_map.2 ⟨other, hother, hc.trans hroute.symm⟩)
    · rw [if_neg hroute, if_neg hroute]

/-- What a session that opens does to an entry. -/
def Owed.turned (session : Nat) (route : DeviceRoute) (restore : Option R) (now : Nat) (owed : Owed R) : Owed R :=
  if owed.route = route then
    { owed with session, due := now + sessionLifetime, restore := restore.getD owed.restore }
  else { owed with due := min owed.due now }

theorem Owed.turned_route (session : Nat) (route : DeviceRoute) (restore : Option R) (now : Nat) (owed : Owed R) :
    (owed.turned session route restore now).route = owed.route := by
  unfold Owed.turned
  split <;> rfl

namespace RestoreLedger

variable {ledger : RestoreLedger R}

/-- The entries after a session opened. -/
theorem opened_owed (h : (ledger.owed.map Owed.route).Nodup) (session : Nat) (route : DeviceRoute)
    (restore : Option R) (now : Nat) : (ledger.opened session route restore now).owed =
      ledger.owed.map (Owed.turned session route restore now) ++
        if route ∈ ledger.owed.map Owed.route then []
        else restore.toList.map fun restore => ⟨route, restore, session, now + sessionLifetime⟩ := by
  have hroute : ∀ owed : Owed R,
      (if owed.route ≠ route then { owed with due := min owed.due now } else owed).route = owed.route := by
    intro owed
    split <;> rfl
  have hroutes : (ledger.owed.map fun owed => if owed.route ≠ route then { owed with due := min owed.due now }
      else owed).map Owed.route = ledger.owed.map Owed.route := by
    rw [List.map_map]
    exact List.map_congr_left fun owed _ => hroute owed
  have hany : (ledger.owed.map fun owed => if owed.route ≠ route then { owed with due := min owed.due now }
      else owed).any (fun owed => owed.route = route) = true ↔ route ∈ ledger.owed.map Owed.route := by
    rw [← hroutes, List.mem_map]
    simp only [List.any_eq_true, decide_eq_true_eq]
  unfold opened
  dsimp only
  split
  · rename_i hmem
    rw [if_pos (hany.1 hmem), List.append_nil]
    rw [← hroutes] at h
    rw [updateRoute_eq_map _ _ h, List.map_map]
    refine List.map_congr_left fun owed _ => ?_
    unfold Owed.turned
    by_cases ho : owed.route = route <;> simp [ho]
  · rename_i hmem
    have hnot : route ∉ ledger.owed.map Owed.route := fun hc => hmem (hany.2 hc)
    rw [if_neg hnot]
    have hmap : (ledger.owed.map fun owed => if owed.route ≠ route then { owed with due := min owed.due now }
        else owed) = ledger.owed.map (Owed.turned session route restore now) := by
      refine List.map_congr_left fun owed howed => ?_
      have hne : owed.route ≠ route := fun hc => hnot (hc ▸ List.mem_map_of_mem howed)
      unfold Owed.turned
      rw [if_pos hne, if_neg hne]
    rw [hmap]
    cases restore with
    | some restore => rfl
    | none => exact (List.append_nil _).symm

theorem takeDue_some {now : Nat} {owed : Owed R} {rest : RestoreLedger R} (h : ledger.takeDue now = some (owed, rest)) :
    owed.due ≤ now ∧ (owed :: rest.owed).Perm ledger.owed := by
  unfold takeDue at h
  obtain ⟨index, hindex, h⟩ := Option.bind_eq_some_iff.1 h
  obtain ⟨found, hfound, heq⟩ := Option.map_eq_some_iff.1 h
  cases heq
  refine ⟨?_, swapRemove_perm hfound⟩
  obtain ⟨hlt, hdue, -⟩ := List.findIdx?_eq_some_iff_getElem.1 hindex
  rw [List.getElem?_eq_getElem hlt] at hfound
  cases hfound
  exact of_decide_eq_true hdue

end RestoreLedger

/-! ## Runs keep the ledger in order -/

/-- The newest fact of a route. -/
def newest (facts : List Fact) (route : DeviceRoute) : Option Fact := facts.find? fun fact => fact.route = route

/-- The facts since then, all of other routes. -/
def since (facts : List Fact) (route : DeviceRoute) : List Fact := facts.takeWhile fun fact => fact.route ≠ route

theorem newest_cons_self (fact : Fact) (facts : List Fact) : newest (fact :: facts) fact.route = some fact :=
  List.find?_cons_of_pos (decide_eq_true rfl)

theorem newest_cons_of_ne {fact : Fact} {route : DeviceRoute} (h : fact.route ≠ route) (facts : List Fact) :
    newest (fact :: facts) route = newest facts route :=
  List.find?_cons_of_neg (by simpa using h)

theorem since_cons_self (fact : Fact) (facts : List Fact) : since (fact :: facts) fact.route = [] :=
  List.takeWhile_cons_of_neg (by simp)

theorem since_cons_of_ne {fact : Fact} {route : DeviceRoute} (h : fact.route ≠ route) (facts : List Fact) :
    since (fact :: facts) route = fact :: since facts route :=
  List.takeWhile_cons_of_pos (by simpa using h)

/-- An entry is dated by the newest fact of its route, and is due once another route's session opened since. -/
structure Owed.Dated (owed : Owed R) (facts : List Fact) : Prop where
  deadline : ∃ fact, newest facts owed.route = some fact ∧ owed.due ≤ fact.deadline ∧
    ∀ session now, fact = .opened session owed.route now → owed.session = session
  overtaken : ∀ session other now, .opened session other now ∈ since facts owed.route → owed.due ≤ now

namespace Owed.Dated

variable {owed owed' : Owed R} {facts : List Fact}

/-- An entry may be due sooner. -/
theorem sooner (h : owed.Dated facts) (hroute : owed'.route = owed.route) (hsession : owed'.session = owed.session)
    (hdue : owed'.due ≤ owed.due) : owed'.Dated facts := by
  obtain ⟨fact, hnewest, hdeadline, hopened⟩ := h.deadline
  refine ⟨⟨fact, hroute ▸ hnewest, Nat.le_trans hdue hdeadline, fun session now hfact => ?_⟩,
    fun session other now hmem => ?_⟩
  · exact hsession.trans (hopened session now (hroute ▸ hfact))
  · exact Nat.le_trans hdue (h.overtaken session other now (hroute ▸ hmem))

/-- A fact of another route, which a session that opened makes the entry due. -/
theorem cons (h : owed.Dated facts) {fact : Fact} (hne : fact.route ≠ owed.route)
    (hdue : ∀ session other now, fact = .opened session other now → owed.due ≤ now) : owed.Dated (fact :: facts) := by
  refine ⟨?_, fun session other now hmem => ?_⟩
  · rw [newest_cons_of_ne hne]
    exact h.deadline
  · rw [since_cons_of_ne hne] at hmem
    rcases List.mem_cons.1 hmem with heq | hmem
    · exact hdue session other now heq.symm
    · exact h.overtaken session other now hmem

/-- A fact of its own route dates it anew. -/
theorem anew {fact : Fact} (hroute : fact.route = owed.route) (hdue : owed.due ≤ fact.deadline)
    (hopened : ∀ session now, fact = .opened session owed.route now → owed.session = session) (facts : List Fact) :
    owed.Dated (fact :: facts) := by
  rw [← hroute] at hopened
  refine ⟨⟨fact, ?_, hdue, ?_⟩, fun session other now hmem => ?_⟩
  · rw [← hroute]
    exact newest_cons_self fact facts
  · rw [← hroute]
    exact hopened
  · rw [← hroute, since_cons_self] at hmem
    cases hmem

end Owed.Dated

/-- **What every run keeps.** -/
structure Desk.Kept (desk : Desk R) : Prop where
  /-- A route owes one restore at most. -/
  once : (desk.ledger.owed.map Owed.route).Nodup
  dated : ∀ owed ∈ desk.ledger.owed, owed.Dated desk.facts

namespace Desk

variable {desk desk' : Desk R}

theorem Kept.opened (h : desk.Kept) (session : Nat) (route : DeviceRoute) (restore : Option R) (now : Nat) :
    Desk.Kept { desk with
      ledger := desk.ledger.opened session route restore now, facts := .opened session route now :: desk.facts } := by
  refine ⟨?_, fun owed howed => ?_⟩
  · rw [RestoreLedger.opened_owed h.once, List.map_append, List.map_map]
    have hroutes : desk.ledger.owed.map (Owed.route ∘ Owed.turned session route restore now) =
        desk.ledger.owed.map Owed.route :=
      List.map_congr_left fun owed _ => Owed.turned_route session route restore now owed
    rw [hroutes]
    split
    · rw [List.map_nil, List.append_nil]
      exact h.once
    · rename_i hnew
      cases restore with
      | none =>
        rw [Option.toList_none, List.map_nil, List.map_nil, List.append_nil]
        exact h.once
      | some restore =>
        exact List.Nodup.append h.once (List.nodup_singleton route) (List.disjoint_singleton.2 hnew)
  · rw [RestoreLedger.opened_owed h.once] at howed
    rcases List.mem_append.1 howed with howed | howed
    · obtain ⟨before, hbefore, rfl⟩ := List.mem_map.1 howed
      have hdated := h.dated before hbefore
      unfold Owed.turned
      by_cases hroute : before.route = route
      · rw [if_pos hroute]
        refine Owed.Dated.anew ?_ (Nat.le_refl _) (fun other at_ hfact => ?_) desk.facts
        · exact hroute.symm
        · injection hfact
      · rw [if_neg hroute]
        have hsooner : Owed.Dated { before with due := min before.due now } desk.facts :=
          hdated.sooner rfl rfl (Nat.min_le_left ..)
        have hne : (Fact.opened session route now).route ≠ before.route := fun hc => hroute hc.symm
        refine hsooner.cons hne fun other at_ now' hfact => ?_
        injection hfact with hsession hother hnow
        exact hnow ▸ Nat.min_le_right ..
    · split at howed
      · cases howed
      · obtain ⟨restore, -, rfl⟩ := List.mem_map.1 howed
        refine Owed.Dated.anew ?_ (Nat.le_refl _) (fun other at_ hfact => ?_) desk.facts
        · rfl
        · injection hfact

/-- Entries that may be due sooner. -/
theorem Kept.map (h : desk.Kept) {f : Owed R → Owed R} (hf : ∀ owed : Owed R, (f owed).route = owed.route ∧
    (f owed).session = owed.session ∧ (f owed).due ≤ owed.due) :
    Desk.Kept { desk with ledger := ⟨desk.ledger.owed.map f⟩ } := by
  refine ⟨?_, fun owed howed => ?_⟩
  · rw [List.map_map]
    exact (List.map_congr_left fun owed _ => (hf owed).1).symm ▸ h.once
  · obtain ⟨before, hbefore, rfl⟩ := List.mem_map.1 howed
    exact (h.dated before hbefore).sooner (hf before).1 (hf before).2.1 (hf before).2.2

theorem Kept.closed (h : desk.Kept) (session now : Nat) :
    Desk.Kept { desk with ledger := desk.ledger.closed session now } := by
  refine h.map fun owed => ?_
  split
  · exact ⟨rfl, rfl, Nat.min_le_left ..⟩
  · exact ⟨rfl, rfl, Nat.le_refl _⟩

theorem Kept.taken (h : desk.Kept) {now : Nat} {owed : Owed R} {ledger : RestoreLedger R}
    (htake : desk.ledger.takeDue now = some (owed, ledger)) (hand : List (Owed R)) :
    Desk.Kept { desk with ledger, hand } := by
  obtain ⟨-, hperm⟩ := RestoreLedger.takeDue_some htake
  have hnodup := (hperm.map Owed.route).nodup_iff.2 h.once
  exact ⟨(List.nodup_cons.1 hnodup).2,
    fun other hother => h.dated other (hperm.mem_iff.1 (List.mem_cons_of_mem _ hother))⟩

theorem Kept.retry (h : desk.Kept) {owed : Owed R} (hnew : ∀ newer ∈ desk.ledger.owed, newer.route ≠ owed.route)
    (now : Nat) (hand : List (Owed R)) :
    Desk.Kept
      ⟨⟨desk.ledger.owed ++ [{ owed with due := now + restoreRetry }]⟩, hand, .failed owed.route now :: desk.facts⟩ := by
  refine ⟨?_, fun other hother => ?_⟩
  · rw [List.map_append]
    refine List.Nodup.append h.once (List.nodup_singleton owed.route) (List.disjoint_singleton.2 fun hmem => ?_)
    obtain ⟨newer, hnewer, hroute⟩ := List.mem_map.1 hmem
    exact hnew newer hnewer hroute
  · rcases List.mem_append.1 hother with hother | hother
    · refine (h.dated other hother).cons (fun hc => hnew other hother hc.symm) fun session at_ now' hfact => ?_
      cases hfact
    · cases List.mem_singleton.1 hother
      refine Owed.Dated.anew ?_ (Nat.le_refl _) (fun session at_ hfact => ?_) desk.facts
      · rfl
      · cases hfact

theorem Kept.step (h : desk.Kept) {e : Ev R} (hstep : desk.step e = some desk') : desk'.Kept := by
  cases e with
  | opened session route restore now =>
    cases hstep
    exact h.opened session route restore now
  | closed session now =>
    cases hstep
    exact h.closed session now
  | leaving now =>
    cases hstep
    exact h.map fun owed => ⟨rfl, rfl, Nat.min_le_left ..⟩
  | takeDue now =>
    cases htake : desk.ledger.takeDue now with
    | none =>
      simp only [Desk.step, htake, Option.some.injEq] at hstep
      exact hstep ▸ h
    | some taken =>
      simp only [Desk.step, htake, Option.some.injEq] at hstep
      exact hstep ▸ h.taken htake _
  | retry index now =>
    obtain ⟨owed, -, rfl⟩ := Option.map_eq_some_iff.1 hstep
    unfold RestoreLedger.retry
    by_cases hnewer : (desk.ledger.owed.any fun newer => newer.route = owed.route) = true
    · rw [if_pos hnewer, if_pos hnewer]
      exact ⟨h.once, h.dated⟩
    · rw [if_neg hnewer, if_neg hnewer]
      refine h.retry (fun newer hmem hroute => hnewer ?_) now _
      exact List.any_eq_true.2 ⟨newer, hmem, decide_eq_true hroute⟩
  | answered index =>
    obtain ⟨owed, -, rfl⟩ := Option.map_eq_some_iff.1 hstep
    exact ⟨h.once, h.dated⟩

theorem kept_init : Desk.Kept ({} : Desk R) := ⟨List.nodup_nil, fun _ howed => absurd howed List.not_mem_nil⟩

end Desk

/-! ## What becomes of a restore -/

/-- One step, seen from the restores that are handed in and owed. -/
structure Desk.Moves (desk : Desk R) (e : Ev R) (desk' : Desk R) : Prop where
  /-- A restore stays owed until it is taken, or a session that opens on its route brings a newer one. -/
  stays : ∀ owed ∈ desk.ledger.owed,
    (∃ owed' ∈ desk'.ledger.owed, owed'.route = owed.route ∧ owed'.restore = owed.restore) ∨
    (∃ now, e = .takeDue now ∧ owed.due ≤ now ∧ owed ∈ desk'.hand) ∨
    ∃ session restore now, e = .opened session owed.route (some restore) now
  /-- A restore that a session hands in is owed for it. -/
  handed : ∀ session route restore now, e = .opened session route (some restore) now →
    ∃ owed ∈ desk'.ledger.owed, owed.route = route ∧ owed.restore = restore ∧ owed.session = session
  /-- One that comes back is owed again, unless its route owes another by then. -/
  back : ∀ index now owed, e = .retry index now → desk.hand[index]? = some owed →
    ∃ owed' ∈ desk'.ledger.owed, owed'.route = owed.route ∧ (owed'.restore = owed.restore ∨ owed' ∈ desk.ledger.owed)
  /-- The close of an older session changes nothing. -/
  late : ∀ session now, e = .closed session now → ∀ owed ∈ desk.ledger.owed, session < owed.session →
    owed ∈ desk'.ledger.owed

namespace Desk

variable {desk desk' : Desk R}

theorem Kept.moves_opened (h : desk.Kept) (session : Nat) (route : DeviceRoute) (restore : Option R) (now : Nat) :
    Moves desk (.opened session route restore now) { desk with
      ledger := desk.ledger.opened session route restore now, facts := .opened session route now :: desk.facts } where
  stays := by
    intro owed howed
    have hturned : owed.turned session route restore now ∈ (desk.ledger.opened session route restore now).owed := by
      rw [RestoreLedger.opened_owed h.once]
      exact List.mem_append_left _ (List.mem_map_of_mem howed)
    by_cases hroute : owed.route = route
    · cases restore with
      | some restore => exact .inr (.inr ⟨session, restore, now, by rw [hroute]⟩)
      | none =>
        refine .inl ⟨_, hturned, Owed.turned_route .., ?_⟩
        rw [Owed.turned, if_pos hroute]
        rfl
    · refine .inl ⟨_, hturned, Owed.turned_route .., ?_⟩
      rw [Owed.turned, if_neg hroute]
  handed := by
    intro session' route' restore' now' he
    injection he with hsession hroute hrestore hnow
    subst hsession hroute hrestore hnow
    rw [RestoreLedger.opened_owed h.once]
    by_cases hmem : route ∈ desk.ledger.owed.map Owed.route
    · obtain ⟨owed, howed, hroute⟩ := List.mem_map.1 hmem
      refine ⟨_, List.mem_append_left _ (List.mem_map_of_mem howed), ?_⟩
      rw [Owed.turned, if_pos hroute]
      exact ⟨hroute, rfl, rfl⟩
    · rw [if_neg hmem]
      exact ⟨_, List.mem_append_right _ List.mem_cons_self, rfl, rfl, rfl⟩
  back := by rintro _ _ _ ⟨⟩
  late := by rintro _ _ ⟨⟩

/-- Entries that are due sooner, as long as the newer ones stay. -/
theorem moves_map {e : Ev R} {f : Owed R → Owed R} (hf : ∀ owed : Owed R, (f owed).route = owed.route ∧
    (f owed).restore = owed.restore) (hopened : ∀ session route restore now, e ≠ .opened session route restore now)
    (hretry : ∀ index now, e ≠ .retry index now)
    (hlate : ∀ session now, e = .closed session now → ∀ owed : Owed R, session < owed.session → f owed = owed) :
    Moves desk e { desk with ledger := ⟨desk.ledger.owed.map f⟩ } where
  stays owed howed := .inl ⟨f owed, List.mem_map_of_mem howed, hf owed⟩
  handed _ _ _ _ he := (hopened _ _ _ _ he).elim
  back _ _ _ he := (hretry _ _ he).elim
  late session now he owed howed hnewer := List.mem_map.2 ⟨owed, howed, hlate session now he owed hnewer⟩

theorem moves_takeDue {now : Nat} {owed : Owed R} {ledger : RestoreLedger R}
    (h : desk.ledger.takeDue now = some (owed, ledger)) :
    Moves desk (.takeDue now) { desk with ledger, hand := desk.hand ++ [owed] } where
  stays other hother := by
    obtain ⟨hdue, hperm⟩ := RestoreLedger.takeDue_some h
    rcases List.mem_cons.1 (hperm.mem_iff.2 hother) with rfl | hother
    · exact .inr (.inl ⟨now, rfl, hdue, List.mem_append_right _ List.mem_cons_self⟩)
    · exact .inl ⟨other, hother, rfl, rfl⟩
  handed := by rintro _ _ _ _ ⟨⟩
  back := by rintro _ _ _ ⟨⟩
  late := by rintro _ _ ⟨⟩

/-- A step that leaves what is owed. -/
theorem moves_of_eq {e : Ev R} (h : desk'.ledger = desk.ledger)
    (hopened : ∀ session route restore now, e ≠ .opened session route restore now)
    (hretry : ∀ index now, e ≠ .retry index now) : Moves desk e desk' where
  stays _ howed := .inl ⟨_, h ▸ howed, rfl, rfl⟩
  handed _ _ _ _ he := (hopened _ _ _ _ he).elim
  back _ _ _ he := (hretry _ _ he).elim
  late _ _ _ _ howed _ := h ▸ howed

theorem moves_retry {index now : Nat} {owed : Owed R} (h : desk.hand[index]? = some owed) (hand : List (Owed R))
    (facts : List Fact) : Moves desk (.retry index now) ⟨desk.ledger.retry owed now, hand, facts⟩ := by
  have hstays : ∀ other ∈ desk.ledger.owed, other ∈ (desk.ledger.retry owed now).owed := by
    intro other hother
    unfold RestoreLedger.retry
    split
    · exact hother
    · exact List.mem_append_left _ hother
  refine ⟨fun other hother => .inl ⟨other, hstays other hother, rfl, rfl⟩, by rintro _ _ _ _ ⟨⟩,
    fun index' now' owed' he howed => ?_, by rintro _ _ ⟨⟩⟩
  injection he with hindex hnow
  subst hindex
  cases h.symm.trans howed
  unfold RestoreLedger.retry
  split
  · rename_i hnewer
    obtain ⟨newer, hmem, hroute⟩ := List.any_eq_true.1 hnewer
    exact ⟨newer, hmem, of_decide_eq_true hroute, .inr hmem⟩
  · exact ⟨_, List.mem_append_right _ List.mem_cons_self, rfl, .inl rfl⟩

theorem Kept.moves (h : desk.Kept) {e : Ev R} (hstep : desk.step e = some desk') : desk.Moves e desk' := by
  cases e with
  | opened session route restore now =>
    cases hstep
    exact h.moves_opened session route restore now
  | closed session now =>
    cases hstep
    refine moves_map (fun owed => ?_) (by rintro _ _ _ _ ⟨⟩) (by rintro _ _ ⟨⟩) fun session' now' he owed hnewer => ?_
    · split <;> exact ⟨rfl, rfl⟩
    · injection he with hsession
      exact if_neg (Nat.not_le_of_lt (hsession ▸ hnewer))
  | leaving now =>
    cases hstep
    exact moves_map (fun owed => ⟨rfl, rfl⟩) (by rintro _ _ _ _ ⟨⟩) (by rintro _ _ ⟨⟩) (by rintro _ _ ⟨⟩)
  | takeDue now =>
    cases htake : desk.ledger.takeDue now with
    | none =>
      simp only [Desk.step, htake, Option.some.injEq] at hstep
      exact moves_of_eq (hstep ▸ rfl) (by rintro _ _ _ _ ⟨⟩) (by rintro _ _ ⟨⟩)
    | some taken =>
      simp only [Desk.step, htake, Option.some.injEq] at hstep
      exact hstep ▸ moves_takeDue htake
  | retry index now =>
    obtain ⟨owed, howed, rfl⟩ := Option.map_eq_some_iff.1 hstep
    exact moves_retry howed _ _
  | answered index =>
    obtain ⟨owed, -, rfl⟩ := Option.map_eq_some_iff.1 hstep
    exact moves_of_eq rfl (by rintro _ _ _ _ ⟨⟩) (by rintro _ _ ⟨⟩)

end Desk

/-- **In every run a route owes one restore at most, due in time, and no restore is lost.** -/
theorem restore_ledger_keeps {events : List (Ev R)} {desk : Desk R} (h : run Desk.step {} events = some desk) :
    desk.Kept ∧ ∀ e desk', desk.step e = some desk' → desk.Moves e desk' := by
  have hkept := run_inv Desk.Kept (fun _ _ _ hs ht => hs.step ht) events {} desk Desk.kept_init h
  exact ⟨hkept, fun e desk' hstep => hkept.moves hstep⟩

def mouse : DeviceRoute := .direct 0x046d 0xb042

def otherMouse : DeviceRoute := .direct 0x046d 0xb034

/-- A restore that was due because another mouse opened a ring, and failed. -/
def failedRun : List (Ev Nat) := [.opened 1 mouse (some 7) 0, .opened 2 otherMouse none 5, .takeDue 5, .retry 0 5]

def failedDesk : Desk Nat where
  ledger := ⟨[⟨mouse, 7, 1, 5 + restoreRetry⟩]⟩
  facts := [.failed mouse 5, .opened 2 otherMouse 5, .opened 1 mouse 0]

theorem restore_ledger_keeps_failed :
    failedDesk.Kept ∧ ∀ e desk', failedDesk.step e = some desk' → failedDesk.Moves e desk' :=
  restore_ledger_keeps (show run Desk.step {} failedRun = some failedDesk by decide)

/-- Two restores of one mouse, taken one after the other and handed back in that order. -/
def twiceRun : List (Ev Nat) := [.opened 1 mouse (some 7) 0, .closed 1 0, .takeDue 0, .opened 2 mouse (some 8) 0,
  .closed 2 0, .takeDue 0, .retry 0 0]

def twiceDesk : Desk Nat where
  ledger := ⟨[⟨mouse, 7, 1, restoreRetry⟩]⟩
  hand := [⟨mouse, 8, 2, 0⟩]
  facts := [.failed mouse 0, .opened 2 mouse 0, .opened 1 mouse 0]

/-- A failed restore waits although another session has overtaken its own, and one that comes back after an older one
is dropped. -/
theorem failed_restore_waits :
    (¬ ∀ (events : List (Ev Nat)) (desk : Desk Nat), run Desk.step {} events = some desk →
      ∀ owed ∈ desk.ledger.owed, ∀ session other now, .opened session other now ∈ desk.facts → other ≠ owed.route →
        owed.session < session → owed.due ≤ now) ∧
    ¬ ∀ (events : List (Ev Nat)) (desk desk' : Desk Nat) (index now : Nat), run Desk.step {} events = some desk →
      desk.step (.retry index now) = some desk' → ∀ owed, desk.hand[index]? = some owed →
        ∃ owed' ∈ desk'.ledger.owed, owed'.route = owed.route ∧
          (owed'.restore = owed.restore ∨ owed.session < owed'.session) := by
  constructor
  · intro h
    have hdue := h failedRun failedDesk (by decide) ⟨mouse, 7, 1, 5 + restoreRetry⟩ (by decide) 2 otherMouse 5
      (by decide) (by decide) (by decide)
    revert hdue
    decide
  · intro h
    have hback := h twiceRun twiceDesk { twiceDesk with hand := [] } 0 0 (by decide) (by decide) ⟨mouse, 8, 2, 0⟩
      (by decide)
    revert hback
    decide

end Haptic
end OpenLogi
