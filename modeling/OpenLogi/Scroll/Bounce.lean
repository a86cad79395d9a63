import Mathlib.Data.List.Induction
import Mathlib.Algebra.Order.Ring.Rat
import Mathlib.Algebra.Order.Group.Abs
import Mathlib.Algebra.BigOperators.Group.List.Basic
import OpenLogi.Scroll.ReverseLock
/-!
# Bounce — what the reverse lock loses

Every tick is scrolled in its turn, is still held, or was dropped with the ticks next to it as one step back.
-/
namespace OpenLogi
namespace Scroll

variable {F P : Type} [F64 F]

/-- One call of the lock. -/
structure LockTick (F P : Type) where
  notches : F
  now : Nat
  lock : Nat
  payload : P

def LockTick.direction (tick : LockTick F P) : F := F64.signum tick.notches

/-- What becomes of ticks that came one after the other. -/
inductive Stretch (T : Type) where
  | scrolled (ticks : List T)
  | dropped (ticks : List T)

section

variable {T : Type}

def Stretch.ticks : Stretch T → List T
  | .scrolled ticks | .dropped ticks => ticks

def Stretch.scrolls : Stretch T → List T
  | .scrolled ticks => ticks
  | .dropped _ => []

/-- The ticks that are scrolled now. -/
def Admit.scrolls : Admit T → List T
  | .pass tick => [tick]
  | .hold => []
  | .release ticks => ticks

/-- The stretches that an answer ends, `held` being what was held before it. -/
def Admit.stretches : Admit T → List T → List (Stretch T)
  | .pass tick, [] => [.scrolled [tick]]
  | .pass tick, held => [.dropped held, .scrolled [tick]]
  | .hold, _ => []
  | .release ticks, _ => [.scrolled ticks]

theorem Admit.flatMap_scrolls (decision : Admit T) (held : List T) :
    (decision.stretches held).flatMap Stretch.scrolls = decision.scrolls := by
  cases decision with
  | pass tick => cases held <;> rfl
  | hold => rfl
  | release ticks => exact List.append_nil ticks

theorem scrolls_sublist (stretches : List (Stretch T)) :
    (stretches.flatMap Stretch.scrolls).Sublist (stretches.flatMap Stretch.ticks) := by
  induction stretches with
  | nil => exact List.Sublist.refl []
  | cons stretch stretches ih =>
    rw [List.flatMap_cons, List.flatMap_cons]
    refine List.Sublist.append ?_ ih
    cases stretch with
    | scrolled ticks => exact List.Sublist.refl ticks
    | dropped ticks => exact List.nil_sublist ticks

end

/-- A lock with what it answered so far. -/
structure LockRun (F P : Type) [F64 F] where
  lock : ReverseLock F (LockTick F P) := {}
  answers : List (Admit (LockTick F P)) := []
  stretches : List (Stretch (LockTick F P)) := []

namespace LockRun

def handle (run : LockRun F P) (tick : LockTick F P) : LockRun F P :=
  let (answer, lock) := run.lock.admitTick tick.notches tick.now tick.lock tick
  { lock
    answers := run.answers ++ [answer]
    stretches := run.stretches ++ answer.stretches run.lock.held }

/-- The run of a new lock over ticks. -/
def ofTicks (ticks : List (LockTick F P)) : LockRun F P := ticks.foldl handle {}

/-- The ticks that were passed or released, in the order they were. -/
def scrolled (run : LockRun F P) : List (LockTick F P) := run.answers.flatMap Admit.scrolls

end LockRun

/-- How far ticks turn the wheel, added up as the lock does. -/
def totalNotches (ticks : List (LockTick F P)) : F :=
  ticks.foldl (fun total tick => total + F64.abs tick.notches) (F64.lit 0)

/-- Ticks that turn the wheel away from `last`, by one notch at most. -/
structure Rebound (last : LockTick F P) (ticks : List (LockTick F P)) : Prop where
  opposite : ∀ tick ∈ ticks, F64.lt (F64.lit 0) (tick.direction * last.direction) = false
  small : ticks ≠ [] → F64.lt bounceMaxNotches (totalNotches ticks) = false

/-- Scrolled ticks, with a step back dropped between two of them here and there; `last` is the last one scrolled. -/
inductive Accounted : List (Stretch (LockTick F P)) → Option (LockTick F P) → Prop where
  | start : Accounted [] none
  | scroll {stretches : List (Stretch (LockTick F P))} {last : Option (LockTick F P)} (h : Accounted stretches last)
      (ticks : List (LockTick F P)) (tick : LockTick F P) :
      Accounted (stretches ++ [.scrolled (ticks ++ [tick])]) (some tick)
  | rebound {stretches : List (Stretch (LockTick F P))} {last : LockTick F P} (h : Accounted stretches (some last))
      {ticks : List (LockTick F P)} (hne : ticks ≠ []) (hticks : Rebound last ticks) (tick : LockTick F P) :
      Accounted (stretches ++ [.dropped ticks, .scrolled [tick]]) (some tick)

/-- **What a run of the lock keeps.** -/
structure LockRun.Kept (run : LockRun F P) (ticks : List (LockTick F P)) : Prop where
  whole : ticks = run.stretches.flatMap Stretch.ticks ++ run.lock.held
  answered : run.scrolled = run.stretches.flatMap Stretch.scrolls
  last : ∃ last, Accounted run.stretches last ∧ run.lock.last = last.map (fun tick => (tick.direction, tick.now)) ∧
    ∀ tick ∈ last, Rebound tick run.lock.held
  first : run.lock.last = none → run.lock.held = []
  total : run.lock.heldNotches = totalNotches run.lock.held

theorem totalNotches_concat (ticks : List (LockTick F P)) (tick : LockTick F P) :
    totalNotches (ticks ++ [tick]) = totalNotches ticks + F64.abs tick.notches := by
  unfold totalNotches
  rw [List.foldl_append]
  rfl

theorem rebound_nil (last : LockTick F P) : Rebound last [] :=
  ⟨fun _ htick => absurd htick List.not_mem_nil, fun hne => absurd rfl hne⟩

namespace LockRun

variable {run : LockRun F P} {ticks : List (LockTick F P)} {tick : LockTick F P}

/-- A tick that passes leaves nothing held, and what was held is dropped. -/
theorem Kept.pass (h : run.Kept ticks) {notches : F} (hnotches : notches = F64.lit 0) :
    LockRun.Kept
      { lock := ⟨some (tick.direction, tick.now), [], notches⟩
        answers := run.answers ++ [.pass tick]
        stretches := run.stretches ++ (Admit.pass tick).stretches run.lock.held } (ticks ++ [tick]) := by
  obtain ⟨last, haccounted, hlast, hrebound⟩ := h.last
  refine ⟨?_, ?_, ⟨some tick, ?_, rfl, ?_⟩, fun hnone => ?_, hnotches⟩
  · rw [h.whole, List.flatMap_append, List.append_nil, List.append_assoc]
    cases run.lock.held <;> simp [Admit.stretches, Stretch.ticks]
  · unfold scrolled
    rw [List.flatMap_append, List.flatMap_append, Admit.flatMap_scrolls, List.flatMap_singleton]
    exact congrArg (· ++ _) h.answered
  · cases hheld : run.lock.held with
    | nil => exact haccounted.scroll [] tick
    | cons first rest =>
      cases last with
      | none => exact absurd (h.first hlast) (by rw [hheld]; exact List.cons_ne_nil _ _)
      | some last =>
        have hticks := hrebound last rfl
        rw [hheld] at hticks
        exact haccounted.rebound (List.cons_ne_nil _ _) hticks tick
  · rintro _ ⟨⟩
    exact rebound_nil tick
  · cases hnone

/-- A reversal scrolls everything that was held. -/
theorem Kept.release (h : run.Kept ticks) :
    LockRun.Kept
      { lock := ⟨some (tick.direction, tick.now), [], F64.lit 0⟩
        answers := run.answers ++ [.release (run.lock.held ++ [tick])]
        stretches := run.stretches ++ [.scrolled (run.lock.held ++ [tick])] } (ticks ++ [tick]) := by
  obtain ⟨last, haccounted, hlast, hrebound⟩ := h.last
  refine ⟨?_, ?_, ⟨some tick, haccounted.scroll run.lock.held tick, rfl, ?_⟩, fun hnone => ?_, rfl⟩
  · rw [h.whole, List.flatMap_append, List.append_nil, List.append_assoc]
    simp [Stretch.ticks]
  · unfold scrolled
    rw [List.flatMap_append, List.flatMap_append, List.flatMap_singleton, List.flatMap_singleton]
    exact congrArg (· ++ _) h.answered
  · rintro _ ⟨⟩
    exact rebound_nil tick
  · cases hnone

/-- A tick that is held turns back, and what is held stays within one notch. -/
theorem Kept.hold (h : run.Kept ticks) {direction : F} {instant : Nat}
    (hlast : run.lock.last = some (direction, instant))
    (hback : F64.lt (F64.lit 0) (tick.direction * direction) = false)
    (hsmall : F64.lt bounceMaxNotches (run.lock.heldNotches + F64.abs tick.notches) = false) :
    LockRun.Kept
      { lock := ⟨run.lock.last, run.lock.held ++ [tick], run.lock.heldNotches + F64.abs tick.notches⟩
        answers := run.answers ++ [.hold]
        stretches := run.stretches ++ [] } (ticks ++ [tick]) := by
  obtain ⟨last, haccounted, hlast', hrebound⟩ := h.last
  have htotal : run.lock.heldNotches + F64.abs tick.notches = totalNotches (run.lock.held ++ [tick]) := by
    rw [totalNotches_concat, h.total]
  rw [List.append_nil]
  refine ⟨?_, ?_, ⟨last, haccounted, hlast', fun before hbefore => ⟨fun other hother => ?_, fun _ => ?_⟩⟩,
    fun hnone => ?_, htotal⟩
  · rw [← List.append_assoc, ← h.whole]
  · unfold scrolled
    rw [List.flatMap_append]
    exact (List.append_nil _).trans h.answered
  · cases hbefore
    rcases List.mem_append.1 hother with hother | hother
    · exact (hrebound before rfl).opposite other hother
    · cases List.mem_singleton.1 hother
      rw [hlast] at hlast'
      cases hlast'
      exact hback
  · rw [← htotal]
    exact hsmall
  · cases hlast.symm.trans hnone

/-- **One tick keeps the account.** -/
theorem Kept.handle (h : run.Kept ticks) (tick : LockTick F P) : (run.handle tick).Kept (ticks ++ [tick]) := by
  unfold LockRun.handle ReverseLock.admitTick
  cases hlast : run.lock.last with
  | none =>
    have hheld := h.first hlast
    have hnotches : run.lock.heldNotches = F64.lit 0 := by
      rw [h.total, hheld]
      rfl
    have hlock : ({ run.lock with last := some (tick.direction, tick.now) } : ReverseLock F (LockTick F P)) =
        ⟨some (tick.direction, tick.now), [], run.lock.heldNotches⟩ := by
      rw [← hheld]
    change LockRun.Kept ⟨{ run.lock with last := some (tick.direction, tick.now) }, _, _⟩ _
    rw [hlock]
    exact h.pass hnotches
  | some last =>
    dsimp only
    split
    · exact h.pass rfl
    · rename_i hturns
      rw [Bool.not_eq_true, Bool.or_eq_false_iff] at hturns
      split
      · exact h.release
      · rename_i hsmall
        have hheld := h.hold hlast hturns.1 (Bool.eq_false_iff.2 hsmall)
        rw [hlast] at hheld
        exact hheld

theorem Kept.of_ticks (ticks : List (LockTick F P)) : (ofTicks ticks).Kept ticks := by
  induction ticks using List.reverseRecOn with
  | nil => exact ⟨rfl, rfl, ⟨none, .start, rfl, by rintro _ ⟨⟩⟩, fun _ => rfl, rfl⟩
  | append_singleton ticks tick ih =>
    unfold ofTicks
    rw [List.foldl_append]
    exact ih.handle tick

end LockRun

/-- Where the last entry of a list is, seen from another one. -/
theorem concat_eq_append_cons {α : Type} {xs ys zs : List α} {x y : α} (h : xs ++ [x] = ys ++ y :: zs) :
    zs = [] ∧ xs = ys ∧ x = y ∨ ∃ zs', zs = zs' ++ [x] ∧ xs = ys ++ y :: zs' := by
  rcases List.eq_nil_or_concat zs with rfl | ⟨zs', z, rfl⟩
  · obtain ⟨hinit, hlast⟩ := List.append_inj' h rfl
    exact .inl ⟨rfl, hinit, List.head_eq_of_cons_eq hlast⟩
  · rw [List.concat_eq_append, ← List.cons_append, ← List.append_assoc] at h
    obtain ⟨hinit, hlast⟩ := List.append_inj' h rfl
    cases hlast
    exact .inr ⟨zs', List.concat_eq_append, hinit⟩

/-- A rebound is dropped between two scrolled stretches. -/
structure DroppedBetween (before after : List (Stretch (LockTick F P))) (ticks : List (LockTick F P)) : Prop where
  some_ticks : ticks ≠ []
  scrolled_before : ∃ run tick, before.getLast? = some (.scrolled run) ∧ run.getLast? = some tick ∧ Rebound tick ticks
  scrolled_after : ∃ run, after.head? = some (.scrolled run)

namespace Accounted

variable {stretches before after : List (Stretch (LockTick F P))} {ticks : List (LockTick F P)}

theorem scrolled_last {last : LockTick F P} (h : Accounted stretches (some last)) :
    ∃ run, stretches.getLast? = some (.scrolled run) ∧ run.getLast? = some last := by
  cases h with
  | scroll _ ticks => exact ⟨ticks ++ [last], List.getLast?_concat, List.getLast?_concat⟩
  | rebound => exact ⟨[last], by simp, rfl⟩

theorem dropped {last : Option (LockTick F P)} (h : Accounted stretches last)
    (hsplit : stretches = before ++ .dropped ticks :: after) : DroppedBetween before after ticks := by
  induction h generalizing after with
  | start => cases before <;> cases hsplit
  | scroll h run tick ih =>
    rcases concat_eq_append_cons hsplit with ⟨-, -, hlast⟩ | ⟨after', rfl, hinit⟩
    · cases hlast
    · obtain ⟨hne, hbefore, next, hnext⟩ := ih hinit
      exact ⟨hne, hbefore, next, by rw [List.head?_append, hnext]; rfl⟩
  | @rebound stretches last h batch hbatch hrebound tick ih =>
    rw [← List.singleton_append, ← List.append_assoc] at hsplit
    rcases concat_eq_append_cons hsplit with ⟨-, -, hlast⟩ | ⟨after', rfl, hinit⟩
    · cases hlast
    rcases concat_eq_append_cons hinit with ⟨rfl, rfl, hlast⟩ | ⟨after'', rfl, hearlier⟩
    · cases hlast
      obtain ⟨run, hrun, hlast⟩ := h.scrolled_last
      exact ⟨hbatch, ⟨run, last, hrun, hlast, hrebound⟩, [tick], rfl⟩
    · obtain ⟨hne, hbefore, next, hnext⟩ := ih hearlier
      exact ⟨hne, hbefore, next, by rw [List.append_assoc, List.head?_append, hnext]; rfl⟩

end Accounted

/-! ## Signs -/

/-- What `f64` promises of the signs of numbers that are neither zero nor NaN. -/
class LawfulSign (F : Type) [F64 F] : Prop where
  signum_cases : ∀ x : F, F64.isFinite x = true → F64.eq x (F64.lit 0) = false →
    F64.signum x = F64.lit 1 ∨ F64.signum x = F64.lit (-1)
  positive_square : F64.lt (F64.lit 0) (F64.lit 1 * F64.lit 1 : F) = true
  negative_square : F64.lt (F64.lit 0) (F64.lit (-1) * F64.lit (-1) : F) = true

/-- A tick that turns the wheel. -/
def LockTick.Turns (tick : LockTick F P) : Prop :=
  F64.isFinite tick.notches = true ∧ F64.eq tick.notches (F64.lit 0) = false

/-- One turns the wheel up and the other down. -/
def LockTick.Opposes (tick last : LockTick F P) : Prop :=
  tick.direction = F64.lit 1 ∧ last.direction = F64.lit (-1) ∨ tick.direction = F64.lit (-1) ∧ last.direction = F64.lit 1

theorem LockTick.opposes_of_back [LawfulSign F] {tick last : LockTick F P} (htick : tick.Turns) (hlast : last.Turns)
    (hback : F64.lt (F64.lit 0) (tick.direction * last.direction) = false) : tick.Opposes last := by
  rcases LawfulSign.signum_cases tick.notches htick.1 htick.2 with ht | ht <;>
    rcases LawfulSign.signum_cases last.notches hlast.1 hlast.2 with hl | hl
  · rw [LockTick.direction, LockTick.direction, ht, hl, LawfulSign.positive_square] at hback
    cases hback
  · exact .inl ⟨ht, hl⟩
  · exact .inr ⟨ht, hl⟩
  · rw [LockTick.direction, LockTick.direction, ht, hl, LawfulSign.negative_square] at hback
    cases hback

/-- Ticks that turn back from the last tick scrolled before them, by one notch at most. -/
def StepsBack (before : List (Stretch (LockTick F P))) (batch : List (LockTick F P)) : Prop :=
  ∃ scrolled last, before.getLast? = some (.scrolled scrolled) ∧ scrolled.getLast? = some last ∧
    (∀ tick ∈ batch, tick.Opposes last) ∧ F64.lt bounceMaxNotches (totalNotches batch) = false

/-- What a lock may do to the ticks it is given. -/
structure LosesRebounds (ticks : List (LockTick F P)) (run : LockRun F P) : Prop where
  /-- Nothing is scrolled twice or out of order. -/
  ordered : run.scrolled.Sublist ticks
  /-- A tick is scrolled, dropped or still held, in the order they came. -/
  whole : ticks = run.stretches.flatMap Stretch.ticks ++ run.lock.held
  answered : run.scrolled = run.stretches.flatMap Stretch.scrolls
  dropped : ∀ before batch after, run.stretches = before ++ .dropped batch :: after →
    StepsBack before batch ∧ ∃ scrolled, after.head? = some (.scrolled scrolled)
  held : run.lock.held ≠ [] → StepsBack run.stretches run.lock.held

theorem Rebound.stepsBack [LawfulSign F] {before : List (Stretch (LockTick F P))} {batch scrolled : List (LockTick F P)}
    {last : LockTick F P} (h : Rebound last batch) (hne : batch ≠ []) (hbefore : before.getLast? = some (.scrolled scrolled))
    (hlast : scrolled.getLast? = some last) (hturns : ∀ tick ∈ before.flatMap Stretch.ticks ++ batch, tick.Turns) :
    StepsBack before batch := by
  have hscrolled : last ∈ before.flatMap Stretch.ticks :=
    List.mem_flatMap.2 ⟨_, List.mem_of_getLast? hbefore, List.mem_of_getLast? hlast⟩
  refine ⟨scrolled, last, hbefore, hlast, fun tick htick => ?_, h.small hne⟩
  exact LockTick.opposes_of_back (hturns tick (List.mem_append_right _ htick))
    (hturns last (List.mem_append_left _ hscrolled)) (h.opposite tick htick)

/-- **The lock loses nothing but a step back of one notch**, whatever the ticks and the locks, and holds no more. -/
theorem reverse_lock_loses_rebounds [LawfulSign F] (ticks : List (LockTick F P)) (h : ∀ tick ∈ ticks, tick.Turns) :
    LosesRebounds ticks (LockRun.ofTicks ticks) := by
  have hkept := LockRun.Kept.of_ticks ticks
  obtain ⟨last, haccounted, hnone, hrebound⟩ := hkept.last
  refine ⟨?_, hkept.whole, hkept.answered, fun before batch after hsplit => ?_, fun hne => ?_⟩
  · rw [hkept.answered]
    refine (scrolls_sublist _).trans ?_
    conv_rhs => rw [hkept.whole]
    exact List.sublist_append_left _ _
  · obtain ⟨hne, ⟨scrolled, last, hbefore, hlast, hrebound⟩, hafter⟩ := haccounted.dropped hsplit
    refine ⟨hrebound.stepsBack hne hbefore hlast fun tick htick => h tick ?_, hafter⟩
    rw [hkept.whole, hsplit, List.flatMap_append, List.flatMap_cons, ← List.append_assoc (before.flatMap _)]
    exact List.mem_append_left _ (List.mem_append_left _ htick)
  · cases last with
    | none => exact absurd (hkept.first hnone) hne
    | some last =>
      obtain ⟨scrolled, hscrolled, hlast⟩ := haccounted.scrolled_last
      refine (hrebound last rfl).stepsBack hne hscrolled hlast fun tick htick => h tick ?_
      rw [hkept.whole]
      exact htick

section

attribute [local instance] plainRationals

instance : LawfulSign ℚ where
  signum_cases x _ _ := by
    change (if x < 0 then (-1 : ℚ) else 1) = 1 ∨ (if x < 0 then (-1 : ℚ) else 1) = -1
    split
    · exact .inr rfl
    · exact .inl rfl
  positive_square := by decide +kernel
  negative_square := by decide +kernel

/-- Two steps down, half a step back and another step down. -/
def reboundTicks : List (LockTick ℚ Unit) :=
  [⟨-1, 0, 100, ()⟩, ⟨-1, 8, 100, ()⟩, ⟨1 / 2, 60, 100, ()⟩, ⟨-1, 80, 100, ()⟩]

theorem loses_half_a_step : LosesRebounds reboundTicks (LockRun.ofTicks reboundTicks) :=
  reverse_lock_loses_rebounds reboundTicks (by unfold LockTick.Turns; decide +kernel)

end

end Scroll
end OpenLogi
