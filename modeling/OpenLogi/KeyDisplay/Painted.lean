import Mathlib.Algebra.Group.Nat.Defs
import OpenLogi.Hid.Route
import OpenLogi.Lib.Table
/-!
# Painted — what a keypad's LCD keys show

Which keys are to be painted, which faces the device acknowledged, and when a keypad that refuses a face is tried again.
Instants and durations are nanoseconds.
-/
namespace OpenLogi
namespace KeyDisplay

open Hid (DeviceRoute)
open Lib (Map)

inductive GridKey where
  | topLeft | topMiddle | topRight
  | middleLeft | middle | middleRight
  | bottomLeft | bottomMiddle | bottomRight
  deriving DecidableEq

def GridKey.all : List GridKey :=
  [.topLeft, .topMiddle, .topRight, .middleLeft, .middle, .middleRight, .bottomLeft, .bottomMiddle, .bottomRight]

theorem GridKey.mem_all (key : GridKey) : key ∈ GridKey.all := by
  cases key <;> decide

/-- What one key shows: the glyph of its action, or nothing. -/
inductive KeyFace (Icon : Type) where
  | blank
  | icon (icon : Icon)
  deriving DecidableEq

/-- What one keypad's keys should show: every grid key has a face.  Its display is the one its route names. -/
structure KeyDisplaySpec (Icon : Type) where
  route : DeviceRoute
  generation : UInt64
  faces : GridKey → KeyFace Icon

structure Paint (Icon : Type) where
  spec : KeyDisplaySpec Icon
  key : GridKey
  face : KeyFace Icon

structure PaintedPanel (Icon : Type) where
  generation : UInt64
  faces : Map GridKey (KeyFace Icon)

/-- A keypad whose writes fail, and when to try it again. -/
structure FailingPanel where
  generation : UInt64
  /-- How many delays its backoff yielded. -/
  attempts : Nat
  retryAt : Nat

structure Painted (Icon : Type) where
  panels : Map DeviceRoute (PaintedPanel Icon) := .empty
  failing : Map DeviceRoute FailingPanel := .empty

def retryDelay : Nat := 10 ^ 9

def maxRetryDelay : Nat := 60 * 10 ^ 9

variable {Icon : Type}

/-- The keys of `spec` not known to be showing their face. -/
def unpainted [DecidableEq Icon] (panels : Map DeviceRoute (PaintedPanel Icon)) (spec : KeyDisplaySpec Icon) :
    List (Paint Icon) :=
  let painted := panels.get spec.route
  (GridKey.all.filter fun key => painted.bind (fun panel => panel.faces.get key) ≠ some (spec.faces key)).map fun key =>
    { spec, key, face := spec.faces key }

theorem mem_unpainted [DecidableEq Icon] {panels : Map DeviceRoute (PaintedPanel Icon)} {spec : KeyDisplaySpec Icon}
    {paint : Paint Icon} :
    paint ∈ unpainted panels spec ↔ paint.spec = spec ∧ paint.face = spec.faces paint.key ∧
      (panels.get spec.route).bind (fun panel => panel.faces.get paint.key) ≠ some (spec.faces paint.key) := by
  unfold unpainted
  rw [List.mem_map]
  constructor
  · rintro ⟨key, hkey, rfl⟩
    exact ⟨rfl, rfl, of_decide_eq_true (List.mem_filter.1 hkey).2⟩
  · obtain ⟨other, key, face⟩ := paint
    rintro ⟨hspec, hface, hdiffers⟩
    obtain rfl : other = spec := hspec
    obtain rfl : face = other.faces key := hface
    exact ⟨key, List.mem_filter.2 ⟨key.mem_all, decide_eq_true hdiffers⟩, rfl⟩

namespace Painted

/-- What is known to be on a key. -/
def faceAt (s : Painted Icon) (route : DeviceRoute) (key : GridKey) : Option (KeyFace Icon) :=
  (s.panels.get route).bind fun panel => panel.faces.get key

/-- The keys that `specs` wants and that are not known to be showing their face, those of a failing keypad left out
until its deadline. -/
def plan [DecidableEq Icon] (s : Painted Icon) (specs : List (KeyDisplaySpec Icon)) (now : Nat) :
    List (Paint Icon) × Painted Icon :=
  let current := fun (route : DeviceRoute) (generation : UInt64) =>
    specs.any fun spec => spec.route = route && spec.generation = generation
  let s : Painted Icon :=
    { panels := s.panels.filter fun row => current row.1 row.2.generation
      failing := s.failing.filter fun row => current row.1 row.2.generation }
  ((specs.filter fun spec => !(s.failing.get spec.route).any fun failing => now < failing.retryAt).flatMap
    (unpainted s.panels), s)

/-- The device acknowledged `paint`. -/
def record (s : Painted Icon) (paint : Paint Icon) : Painted Icon where
  failing := s.failing.erase paint.spec.route
  panels :=
    match s.panels.get paint.spec.route with
    | some panel =>
      if panel.generation = paint.spec.generation then
        s.panels.put paint.spec.route { panel with faces := panel.faces.put paint.key paint.face }
      else s.panels
    | none =>
      s.panels.put paint.spec.route
        { generation := paint.spec.generation, faces := Map.empty.put paint.key paint.face }

/-- The next delay of a backoff that yielded `attempts` of them. -/
def nextDelay (delays : Nat → Option Nat) (attempts : Nat) : Nat := (delays attempts).getD maxRetryDelay

/-- The write of `paint` failed at `now`. -/
def failed (delays : Nat → Option Nat) (s : Painted Icon) (paint : Paint Icon) (now : Nat) : Painted Icon where
  panels :=
    match s.panels.get paint.spec.route with
    | some panel => s.panels.put paint.spec.route { panel with faces := panel.faces.erase paint.key }
    | none => s.panels
  failing :=
    match s.failing.get paint.spec.route with
    | some failing =>
      s.failing.put paint.spec.route
        { failing with attempts := failing.attempts + 1, retryAt := now + nextDelay delays failing.attempts }
    | none =>
      s.failing.put paint.spec.route
        { generation := paint.spec.generation, attempts := 1, retryAt := now + nextDelay delays 0 }

def nextRetry (s : Painted Icon) : Option Nat := (s.failing.values.map FailingPanel.retryAt).min?

/-! ## One operation -/

section Plan

variable [DecidableEq Icon] (s : Painted Icon) (specs : List (KeyDisplaySpec Icon)) (now : Nat)

/-- A panel is kept while a spec has its generation. -/
theorem panels_plan {route : DeviceRoute} {panel : PaintedPanel Icon} :
    (s.plan specs now).2.panels.get route = some panel ↔
      s.panels.get route = some panel ∧ ∃ spec ∈ specs, spec.route = route ∧ spec.generation = panel.generation := by
  unfold plan
  dsimp only
  rw [Map.get_filter, Option.filter_eq_some_iff, List.any_eq_true]
  refine and_congr_right fun _ => exists_congr fun spec => and_congr_right fun _ => ?_
  rw [Bool.and_eq_true, decide_eq_true_eq, decide_eq_true_eq]

theorem failing_plan {route : DeviceRoute} {failing : FailingPanel} :
    (s.plan specs now).2.failing.get route = some failing ↔
      s.failing.get route = some failing ∧
        ∃ spec ∈ specs, spec.route = route ∧ spec.generation = failing.generation := by
  unfold plan
  dsimp only
  rw [Map.get_filter, Option.filter_eq_some_iff, List.any_eq_true]
  refine and_congr_right fun _ => exists_congr fun spec => and_congr_right fun _ => ?_
  rw [Bool.and_eq_true, decide_eq_true_eq, decide_eq_true_eq]

/-- **What is planned**: the keys without their face, of every spec that no deadline holds back. -/
theorem mem_plan {paint : Paint Icon} :
    paint ∈ (s.plan specs now).1 ↔ paint.spec ∈ specs ∧
      (∀ failing, (s.plan specs now).2.failing.get paint.spec.route = some failing → failing.retryAt ≤ now) ∧
      paint.face = paint.spec.faces paint.key ∧
      (s.plan specs now).2.faceAt paint.spec.route paint.key ≠ some paint.face := by
  have hheld : ∀ held : Option FailingPanel,
      (!held.any fun failing => decide (now < failing.retryAt)) = true ↔
        ∀ failing, held = some failing → failing.retryAt ≤ now := by
    intro held
    cases held with
    | none => exact ⟨fun _ _ h => (by cases h), fun _ => rfl⟩
    | some failing =>
      rw [Option.any_some, Bool.not_eq_true', decide_eq_false_iff_not, Nat.not_lt]
      exact ⟨fun h other hother => Option.some.inj hother ▸ h, fun h => h failing rfl⟩
  unfold plan
  dsimp only
  rw [List.mem_flatMap]
  constructor
  · rintro ⟨spec, hspec, hpaint⟩
    obtain ⟨rfl, hface, hdiffers⟩ := mem_unpainted.1 hpaint
    obtain ⟨hspec, hdue⟩ := List.mem_filter.1 hspec
    exact ⟨hspec, (hheld _).1 hdue, hface, hface ▸ hdiffers⟩
  · rintro ⟨hspec, hdue, hface, hdiffers⟩
    exact ⟨paint.spec, List.mem_filter.2 ⟨hspec, (hheld _).2 hdue⟩, mem_unpainted.2 ⟨rfl, hface, hface ▸ hdiffers⟩⟩

end Plan

/-! What an acknowledged and a failed write leave of each key and each keypad. -/

section Write

variable (s : Painted Icon) (paint : Paint Icon)

theorem failing_record (route : DeviceRoute) :
    (s.record paint).failing.get route = if paint.spec.route = route then none else s.failing.get route :=
  Map.get_erase _ _ _

variable {route : DeviceRoute}

theorem panels_record_of_ne (h : paint.spec.route ≠ route) :
    (s.record paint).panels.get route = s.panels.get route := by
  unfold record
  dsimp only
  split
  · split
    · rw [Map.get_put, if_neg h]
    · rfl
  · rw [Map.get_put, if_neg h]

/-- The panel of an acknowledged key: the key joins it, unless its generation moved on. -/
theorem panels_record_self :
    (∃ panel, s.panels.get paint.spec.route = some panel ∧ panel.generation = paint.spec.generation ∧
        (s.record paint).panels.get paint.spec.route =
          some { panel with faces := panel.faces.put paint.key paint.face }) ∨
      (∃ panel, s.panels.get paint.spec.route = some panel ∧ panel.generation ≠ paint.spec.generation ∧
        (s.record paint).panels.get paint.spec.route = some panel) ∨
      s.panels.get paint.spec.route = none ∧ (s.record paint).panels.get paint.spec.route =
        some { generation := paint.spec.generation, faces := Map.empty.put paint.key paint.face } := by
  unfold record
  dsimp only
  cases hpanel : s.panels.get paint.spec.route with
  | none =>
    refine .inr (.inr ⟨rfl, ?_⟩)
    rw [Map.get_put, if_pos rfl]
  | some panel =>
    dsimp only
    by_cases hcurrent : panel.generation = paint.spec.generation
    · rw [if_pos hcurrent, Map.get_put, if_pos rfl]
      exact .inl ⟨panel, rfl, hcurrent, rfl⟩
    · rw [if_neg hcurrent]
      exact .inr (.inl ⟨panel, rfl, hcurrent, hpanel⟩)

theorem faceAt_record_of_ne (h : paint.spec.route ≠ route) (key : GridKey) :
    (s.record paint).faceAt route key = s.faceAt route key := by
  unfold faceAt
  rw [s.panels_record_of_ne paint h]

/-- An acknowledged key shows its face, where the panel is in the spec's generation. -/
theorem faceAt_record_self (hcurrent : ∀ panel, s.panels.get paint.spec.route = some panel →
    panel.generation = paint.spec.generation) (key : GridKey) :
    (s.record paint).faceAt paint.spec.route key =
      if paint.key = key then some paint.face else s.faceAt paint.spec.route key := by
  unfold faceAt
  rcases s.panels_record_self paint with ⟨panel, hpanel, -, hnew⟩ | ⟨panel, hpanel, hmoved, -⟩ | ⟨hpanel, hnew⟩
  · rw [hnew, hpanel]
    exact Map.get_put _ _ _ _
  · exact absurd (hcurrent panel hpanel) hmoved
  · rw [hnew, hpanel]
    exact Map.get_put _ _ _ _

/-- The keypads that fail after an acknowledged write are others. -/
theorem failing_of_record {failing : FailingPanel} (h : (s.record paint).failing.get route = some failing) :
    paint.spec.route ≠ route ∧ s.failing.get route = some failing := by
  rw [failing_record] at h
  split at h
  · cases h
  · exact ⟨‹_›, h⟩

variable (delays : Nat → Option Nat) (now : Nat)

theorem panels_failed (route : DeviceRoute) :
    (s.failed delays paint now).panels.get route =
      if paint.spec.route = route then
        (s.panels.get route).map fun panel => { panel with faces := panel.faces.erase paint.key }
      else s.panels.get route := by
  unfold failed
  dsimp only
  by_cases hroute : paint.spec.route = route
  · subst hroute
    rw [if_pos rfl]
    cases hpanel : s.panels.get paint.spec.route with
    | none => exact hpanel
    | some panel => exact (Map.get_put _ _ _ _).trans (if_pos rfl)
  · rw [if_neg hroute]
    split
    · rw [Map.get_put, if_neg hroute]
    · rfl

/-- A failed write moves the keypad's deadline by a delay of its backoff. -/
theorem failing_failed (route : DeviceRoute) :
    ∃ failing attempts, failing.retryAt = now + nextDelay delays attempts ∧
      (s.failed delays paint now).failing.get route =
        if paint.spec.route = route then some failing else s.failing.get route := by
  unfold failed
  dsimp only
  cases hfailing : s.failing.get paint.spec.route with
  | none => exact ⟨_, 0, rfl, Map.get_put _ _ _ _⟩
  | some failing => exact ⟨_, failing.attempts, rfl, Map.get_put _ _ _ _⟩

theorem faceAt_failed (route : DeviceRoute) (key : GridKey) :
    (s.failed delays paint now).faceAt route key =
      if paint.spec.route = route ∧ paint.key = key then none else s.faceAt route key := by
  unfold faceAt
  rw [panels_failed]
  by_cases hroute : paint.spec.route = route
  · rw [if_pos hroute]
    by_cases hkey : paint.key = key
    · rw [if_pos ⟨hroute, hkey⟩]
      cases s.panels.get route with
      | none => rfl
      | some panel => exact (Map.get_erase _ _ _).trans (if_pos hkey)
    · rw [if_neg fun h => hkey h.2]
      cases s.panels.get route with
      | none => rfl
      | some panel => exact (Map.get_erase _ _ _).trans (if_neg hkey)
  · rw [if_neg hroute, if_neg fun h => hroute h.1]

end Write

end Painted

end KeyDisplay
end OpenLogi
