import OpenLogi.Core.Binding
/-!
# Swipe — a held gesture's travel

`SwipeAccumulator`, the state machine that turns the motion during a hold into swipes.  Travel is `i32`, kept in range
by saturation; instants are nanoseconds.
-/
namespace OpenLogi
namespace Core

def gestureSwipeThreshold : Int := 50

def gestureSwipeDeadzone : Int := 40

def gestureRepeatDistance : Int := 12 * gestureSwipeThreshold

def gestureRearmPause : Nat := 250000000

def gestureHoldForSwipe : Nat := 160000000

/-! ## Saturating `i32` -/

def i32Min : Int := -2147483648

def i32Max : Int := 2147483647

def saturate (n : Int) : Int := max i32Min (min n i32Max)

def saturatingAdd (a b : Int) : Int := saturate (a + b)

def saturatingSub (a b : Int) : Int := saturate (a - b)

def saturatingMul (a b : Int) : Int := saturate (a * b)

def saturatingNeg (a : Int) : Int := saturate (-a)

def saturatingAbs (a : Int) : Int := saturate a.natAbs

/-! ## Directions -/

/-- The swipe that the running travel has committed to. -/
def detectSwipe (dx dy : Int) : Option GestureDirection :=
  let absX := saturatingAbs dx
  let absY := saturatingAbs dy
  let dominant := max absX absY
  if dominant < gestureSwipeThreshold then none
  else
    let crossLimit := max gestureSwipeDeadzone ((saturatingMul dominant 35).tdiv 100)
    if absX > absY then
      if absY > crossLimit then none else some (if dx > 0 then .right else .left)
    else if absX > crossLimit then none
    else some (if dy > 0 then .down else .up)

/-- The component of a report along `direction`. -/
def along (direction : GestureDirection) (dx dy : Int) : Int :=
  match direction with
  | .left => saturatingNeg dx
  | .right => dx
  | .up => saturatingNeg dy
  | .down => dy
  | .click => 0

/-- The component of a report across `direction`. -/
def across (direction : GestureDirection) (dx dy : Int) : Int :=
  match direction with
  | .left | .right => dy
  | .up | .down => dx
  | .click => 0

/-- How far the travel has moved back against `direction`. -/
def reversal (direction : GestureDirection) (dx dy : Int) : Int :=
  max 0 (match direction with
    | .left => dx
    | .right => saturatingNeg dx
    | .up => dy
    | .down => saturatingNeg dy
    | .click => 0)

def continues (direction : GestureDirection) (dx dy : Int) : Bool :=
  match direction with
  | .left => dx < 0 ∧ saturatingAbs dx ≥ saturatingAbs dy
  | .right => dx > 0 ∧ saturatingAbs dx ≥ saturatingAbs dy
  | .up => dy < 0 ∧ saturatingAbs dy ≥ saturatingAbs dx
  | .down => dy > 0 ∧ saturatingAbs dy ≥ saturatingAbs dx
  | .click => false

/-! ## The accumulator -/

structure SwipeAccumulator where
  heldSince : Option Nat := none
  dx : Int := 0
  dy : Int := 0
  fired : Bool := false
  last : Option GestureDirection := none
  repeated : Int := 0
  repeatCross : Int := 0
  movedAt : Option Nat := none

namespace SwipeAccumulator

def begin (now : Nat) : SwipeAccumulator := { heldSince := some now }

/-- A rest ends the stroke; travel that the new report heads against is dropped. -/
def rest (s : SwipeAccumulator) (dx dy : Int) (now : Nat) : SwipeAccumulator :=
  if s.movedAt.any fun t => gestureRearmPause ≤ now - t then
    let s := if s.dx * dx + s.dy * dy < 0 then { s with dx := 0, dy := 0 } else s
    { s with last := none, repeated := 0, repeatCross := 0 }
  else s

/-- The travel that a report adds, and the swipe it commits. -/
def travel (s : SwipeAccumulator) (dx dy : Int) (heldSince now : Nat) :
    Option GestureDirection × SwipeAccumulator :=
  let s := { s with dx := saturatingAdd s.dx dx, dy := saturatingAdd s.dy dy }
  -- backtracking never banks travel past the turning point
  let s := match s.last with
    | some .right => { s with dx := min s.dx 0 }
    | some .left => { s with dx := max s.dx 0 }
    | some .down => { s with dy := min s.dy 0 }
    | some .up => { s with dy := max s.dy 0 }
    | some .click | none => s
  if gestureHoldForSwipe ≤ now - heldSince then
    match detectSwipe s.dx s.dy with
    | some dir =>
      (some dir, { s with fired := true, last := some dir, repeated := 0, repeatCross := 0, dx := 0, dy := 0 })
    | none => (none, s)
  else (none, s)

/-- A report while `dir` has committed: its progress along it, which may repeat it. -/
def progress (s : SwipeAccumulator) (dir : GestureDirection) (dx dy : Int) (heldSince now : Nat) :
    Option GestureDirection × SwipeAccumulator :=
  let a := along dir dx dy
  let c := across dir dx dy
  let earlier := s.repeated
  let total := saturatingAdd earlier a
  let s := { s with
    repeatCross := if a < 0 ∧ total ≤ 0 then 0 else saturatingAdd s.repeatCross c
    repeated := max total 0 }
  if continues dir dx dy then
    if gestureRepeatDistance ≤ s.repeated ∧ detectSwipe s.repeated s.repeatCross = some .right then
      let excess := s.repeated - gestureRepeatDistance
      let tail := min excess a
      let carried := (c * tail).tdiv a +
        if excess > a ∧ earlier > 0 then (saturatingSub s.repeatCross c * (excess - a)).tdiv earlier else 0
      (some dir, { s with repeated := excess, repeatCross := saturate carried, dx := 0, dy := 0 })
    else if reversal dir s.dx s.dy = 0 then (none, s)
    else s.travel dx dy heldSince now
  else s.travel dx dy heldSince now

/-- One motion report; the hold's age is read at `later`. -/
def accumulate (s : SwipeAccumulator) (dx dy : Int) (now later : Nat) : Option GestureDirection × SwipeAccumulator :=
  match s.heldSince with
  | none => (none, s)
  | some heldSince =>
    let s := { s.rest dx dy now with movedAt := some now }
    match s.last with
    | some dir => s.progress dir dx dy heldSince later
    | none => s.travel dx dy heldSince later

/-- The end of a hold, and whether it was a click. -/
def ended (s : SwipeAccumulator) : Bool × SwipeAccumulator :=
  (s.heldSince.isSome && !s.fired, { s with heldSince := none })

/-! ## What a hold keeps -/

theorem detectSwipe_ne_click (dx dy : Int) : detectSwipe dx dy ≠ some .click := by
  unfold detectSwipe
  dsimp only
  split
  · intro h
    cases h
  · split <;> split
    · intro h
      cases h
    · split <;> intro h <;> cases h
    · intro h
      cases h
    · split <;> intro h <;> cases h

/-- A swipe under way: it is held, and a stroke goes on only after a direction was committed. -/
structure UnderWay (s : SwipeAccumulator) : Prop where
  held : s.heldSince.isSome = true
  stroke : ∀ dir, s.last = some dir → dir ≠ .click ∧ s.fired = true

/-- What a report may add to a swipe: no direction, or one that is recorded. -/
structure Adds (s : SwipeAccumulator) (now : Nat) (added : Option GestureDirection × SwipeAccumulator) : Prop where
  underWay : added.2.UnderWay
  moved : added.2.movedAt = some now
  fired : added.2.fired = (s.fired || added.1.isSome)
  direction : added.1 ≠ some .click

/-- The travel with a report added. -/
def banked (s : SwipeAccumulator) (dx dy : Int) : SwipeAccumulator :=
  let s := { s with dx := saturatingAdd s.dx dx, dy := saturatingAdd s.dy dy }
  match s.last with
  | some .right => { s with dx := min s.dx 0 }
  | some .left => { s with dx := max s.dx 0 }
  | some .down => { s with dy := min s.dy 0 }
  | some .up => { s with dy := max s.dy 0 }
  | some .click | none => s

/-- The swipe that the travel commits once the hold is long enough. -/
def committing (s : SwipeAccumulator) (heldSince now : Nat) : Option GestureDirection × SwipeAccumulator :=
  if gestureHoldForSwipe ≤ now - heldSince then
    match detectSwipe s.dx s.dy with
    | some dir =>
      (some dir, { s with fired := true, last := some dir, repeated := 0, repeatCross := 0, dx := 0, dy := 0 })
    | none => (none, s)
  else (none, s)

theorem travel_eq (s : SwipeAccumulator) (dx dy : Int) (heldSince now : Nat) :
    s.travel dx dy heldSince now = (s.banked dx dy).committing heldSince now := rfl

theorem banked_eq (s : SwipeAccumulator) (dx dy : Int) :
    ∃ dx' dy', s.banked dx dy = { s with dx := dx', dy := dy' } := by
  unfold banked
  dsimp only
  split <;> exact ⟨_, _, rfl⟩

variable {s : SwipeAccumulator}

theorem committing_adds (hs : s.UnderWay) {now : Nat} (hmoved : s.movedAt = some now) (heldSince later : Nat) :
    s.Adds now (s.committing heldSince later) := by
  have hnone : s.Adds now (none, s) := {
    underWay := hs
    moved := hmoved
    fired := (Bool.or_false _).symm
    direction := fun h => by cases h }
  unfold committing
  split
  · split
    · rename_i dir hdir
      have hclick : dir ≠ .click := fun h => detectSwipe_ne_click s.dx s.dy (h ▸ hdir)
      exact {
        underWay := ⟨hs.held, fun other h => ⟨Option.some.inj h ▸ hclick, rfl⟩⟩
        moved := hmoved
        fired := (Bool.or_true _).symm
        direction := fun h => hclick (Option.some.inj h) }
    · exact hnone
  · exact hnone

theorem travel_adds (hs : s.UnderWay) {now : Nat} (hmoved : s.movedAt = some now) (dx dy : Int)
    (heldSince later : Nat) : s.Adds now (s.travel dx dy heldSince later) := by
  obtain ⟨dx', dy', hbanked⟩ := s.banked_eq dx dy
  rw [travel_eq, hbanked]
  have hadds := committing_adds (s := { s with dx := dx', dy := dy' }) ⟨hs.held, hs.stroke⟩ hmoved heldSince later
  exact ⟨hadds.underWay, hadds.moved, hadds.fired, hadds.direction⟩

theorem progress_adds (hs : s.UnderWay) {now : Nat} (hmoved : s.movedAt = some now) {dir : GestureDirection}
    (hdir : s.last = some dir) (dx dy : Int) (heldSince later : Nat) :
    s.Adds now (s.progress dir dx dy heldSince later) := by
  obtain ⟨hclick, hfired⟩ := hs.stroke dir hdir
  have hkept : ∀ total cross, s.Adds now
      ({ s with repeated := total, repeatCross := cross }.travel dx dy heldSince later) := by
    intro total cross
    have hadds := travel_adds (s := { s with repeated := total, repeatCross := cross }) ⟨hs.held, hs.stroke⟩ hmoved dx dy
      heldSince later
    exact ⟨hadds.underWay, hadds.moved, hadds.fired, hadds.direction⟩
  unfold progress
  dsimp only
  generalize max (saturatingAdd s.repeated (along dir dx dy)) 0 = total
  generalize (if along dir dx dy < 0 ∧ saturatingAdd s.repeated (along dir dx dy) ≤ 0 then 0
    else saturatingAdd s.repeatCross (across dir dx dy)) = cross
  by_cases hon : continues dir dx dy = true
  · rw [if_pos hon]
    by_cases hrepeat : gestureRepeatDistance ≤ total ∧ detectSwipe total cross = some .right
    · rw [if_pos hrepeat]
      exact {
        underWay := ⟨hs.held, hs.stroke⟩
        moved := hmoved
        fired := hfired.trans (Bool.or_true _).symm
        direction := fun h => hclick (Option.some.inj h) }
    · rw [if_neg hrepeat]
      split
      · exact {
          underWay := ⟨hs.held, hs.stroke⟩
          moved := hmoved
          fired := (Bool.or_false _).symm
          direction := fun h => by cases h }
      · exact hkept _ _
  · rw [if_neg hon]
    exact hkept _ _

/-- **A report during a hold** is recorded, and a direction that it commits is no click and is remembered. -/
theorem accumulate_adds (hs : s.UnderWay) (dx dy : Int) (now later : Nat) :
    s.Adds now (s.accumulate dx dy now later) := by
  obtain ⟨heldSince, hheld⟩ := Option.isSome_iff_exists.1 hs.held
  have hrest : (s.rest dx dy now).UnderWay ∧ (s.rest dx dy now).fired = s.fired := by
    unfold rest
    split
    · split <;> exact ⟨⟨hs.held, fun _ h => by cases h⟩, rfl⟩
    · exact ⟨hs, rfl⟩
  obtain ⟨⟨hheld', hstroke⟩, hfired⟩ := hrest
  unfold accumulate
  rw [hheld]
  dsimp only
  split
  · rename_i dir hlast
    have hadds := progress_adds (s := { s.rest dx dy now with movedAt := some now }) ⟨hheld', hstroke⟩ rfl hlast dx dy
      heldSince later
    exact ⟨hadds.underWay, hadds.moved, hfired ▸ hadds.fired, hadds.direction⟩
  · have hadds := travel_adds (s := { s.rest dx dy now with movedAt := some now }) ⟨hheld', hstroke⟩ rfl dx dy
      heldSince later
    exact ⟨hadds.underWay, hadds.moved, hfired ▸ hadds.fired, hadds.direction⟩

end SwipeAccumulator

end Core
end OpenLogi
