import Mathlib.Data.Rat.Init
/-!
# Number — the floating-point operations of the scroll runtime

The operations that the scroll runtime uses on `f64`, with no law at all: what is proved over them holds of rounding,
overflow and NaN too.  An instant or a duration is a number of nanoseconds.
-/
namespace OpenLogi
namespace Scroll

/-- The operations of `f64`; `eq`, `lt` and `le` are its own comparisons, false on NaN. -/
class F64 (F : Type) extends Add F, Sub F, Mul F, Div F, Neg F where
  /-- The value of a literal. -/
  lit : ℚ → F
  eq : F → F → Bool
  lt : F → F → Bool
  le : F → F → Bool
  isFinite : F → Bool
  abs : F → F
  signum : F → F
  max : F → F → F
  min : F → F → F
  clamp : F → F → F → F
  exp : F → F
  powf : F → F → F
  powi : F → Int → F
  /-- `Duration::as_secs_f64`. -/
  secs : Nat → F
  /-- `Duration::from_secs_f64`. -/
  ofSecs : F → Nat

def millis (n : Nat) : Nat := n * 1000000

/-- `Instant::checked_sub`. -/
def checkedSub (instant window : Nat) : Option Nat := if window ≤ instant then some (instant - window) else none

/-- Exact rationals, with the two functions that have no rational value given. -/
abbrev exactRationals (exp : ℚ → ℚ) (powf : ℚ → ℚ → ℚ) : F64 ℚ where
  lit q := q
  eq a b := a = b
  lt a b := a < b
  le a b := a ≤ b
  isFinite _ := true
  abs a := if a < 0 then -a else a
  signum a := if a < 0 then -1 else 1
  max a b := if a < b then b else a
  min a b := if b < a then b else a
  clamp a low high := if a < low then low else if high < a then high else a
  exp := exp
  powf := powf
  powi a n := a ^ n
  secs n := n / 1000000000
  ofSecs a := (a * 1000000000).floor.toNat

/-- Exact rationals for runs that reach neither of the two. -/
abbrev plainRationals : F64 ℚ := exactRationals (fun _ => 1) fun _ _ => 1

end Scroll
end OpenLogi
