import OpenLogi.Scroll.Number
/-!
# ReverseLock — holding back the wheel's spring-back

For a short lock period after the last tick in one direction, the first step the other way is held instead of
scrolled.  More than one step is a reversal and is released whole; a held step is dropped once the wheel turns forward
again or the lock has run out.
-/
namespace OpenLogi
namespace Scroll

variable {F T : Type} [F64 F]

/-- The most opposite-direction motion that a spring-back is. -/
def bounceMaxNotches : F := F64.lit 1

inductive Admit (T : Type) where
  | pass (tick : T)
  | hold
  | release (ticks : List T)

structure ReverseLock (F T : Type) [F64 F] where
  /-- Direction and instant of the last tick that scrolled. -/
  last : Option (F × Nat) := none
  held : List T := []
  heldNotches : F := F64.lit 0

def ReverseLock.dropHeld (s : ReverseLock F T) : ReverseLock F T := { s with held := [], heldNotches := F64.lit 0 }

/-- Decide on a tick of signed `notches` at `now`; a zero `lock` turns the lock off. -/
def ReverseLock.admitTick (s : ReverseLock F T) (notches : F) (now lock : Nat) (payload : T) :
    Admit T × ReverseLock F T :=
  let direction := F64.signum notches
  match s.last with
  | none => (.pass payload, { s with last := some (direction, now) })
  | some (lastDirection, lastAt) =>
    let locked : Bool := lock ≠ 0 ∧ now - lastAt < lock
    if F64.lt (F64.lit 0) (direction * lastDirection) || !locked then
      (.pass payload, { s.dropHeld with last := some (direction, now) })
    else
      let held := s.held ++ [payload]
      let heldNotches := s.heldNotches + F64.abs notches
      if F64.lt bounceMaxNotches heldNotches then
        (.release held, ⟨some (direction, now), [], F64.lit 0⟩)
      else (.hold, { s with held := held, heldNotches := heldNotches })

end Scroll
end OpenLogi
