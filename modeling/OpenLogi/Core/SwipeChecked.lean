import OpenLogi.Core.Swipe
import OpenLogi.Lib.Checked
import OpenLogi.Lib.Run
/-!
# SwipeChecked — a held gesture's arithmetic in the types it is done in

`SwipeAccumulator` with every operation of the source that can fault checked in its own type: `i32` for the travel and
its excess, `i64` for products and their sums.
-/
namespace OpenLogi
namespace Core

open Lib (ArithFault Fits addChecked subChecked mulChecked divChecked)

/-- The type `i32`. -/
abbrev I32 : Type := { n : Int // Fits 32 n }

def detectSwipeChecked (dx dy : Int) : Except ArithFault (Option GestureDirection) :=
  let absX := saturatingAbs dx
  let absY := saturatingAbs dy
  let dominant := max absX absY
  if dominant < gestureSwipeThreshold then .ok none
  else do
    let share ← divChecked 32 (saturatingMul dominant 35) 100
    let crossLimit := max gestureSwipeDeadzone share
    if absX > absY then
      return if absY > crossLimit then none else some (if dx > 0 then .right else .left)
    else
      return if absX > crossLimit then none else some (if dy > 0 then .down else .up)

/-- The drift that the stroke's tail keeps when it repeats: the report's share, then that of earlier travel. -/
def carriedChecked (a c earlier repeatCross excess : Int) : Except ArithFault Int := do
  let tail := min excess a
  let carried ← divChecked 64 (← mulChecked 64 c tail) a
  if excess > a ∧ earlier > 0 then
    let drift ← mulChecked 64 (saturatingSub repeatCross c) (← subChecked 32 excess a)
    addChecked 64 carried (← divChecked 64 drift earlier)
  else return carried

namespace SwipeAccumulator

/-- Whether the pointer rested before a report. -/
def rested (s : SwipeAccumulator) (now : Nat) : Bool := s.movedAt.any fun t => gestureRearmPause ≤ now - t

def restChecked (s : SwipeAccumulator) (dx dy : Int) (now : Nat) : Except ArithFault SwipeAccumulator :=
  if s.rested now then do
    let against ← addChecked 64 (← mulChecked 64 s.dx dx) (← mulChecked 64 s.dy dy)
    let s := if against < 0 then { s with dx := 0, dy := 0 } else s
    return { s with last := none, repeated := 0, repeatCross := 0 }
  else .ok s

def committingChecked (s : SwipeAccumulator) (heldSince now : Nat) :
    Except ArithFault (Option GestureDirection × SwipeAccumulator) :=
  if gestureHoldForSwipe ≤ now - heldSince then do
    match ← detectSwipeChecked s.dx s.dy with
    | some dir =>
      return (some dir,
        { s with fired := true, last := some dir, repeated := 0, repeatCross := 0, dx := 0, dy := 0 })
    | none => return (none, s)
  else .ok (none, s)

/-- The sums of the travel saturate. -/
def travelChecked (s : SwipeAccumulator) (dx dy : Int) (heldSince now : Nat) :
    Except ArithFault (Option GestureDirection × SwipeAccumulator) :=
  (s.banked dx dy).committingChecked heldSince now

def progressChecked (s : SwipeAccumulator) (dir : GestureDirection) (dx dy : Int) (heldSince now : Nat) :
    Except ArithFault (Option GestureDirection × SwipeAccumulator) :=
  let a := along dir dx dy
  let c := across dir dx dy
  let earlier := s.repeated
  let total := saturatingAdd earlier a
  let s := { s with
    repeatCross := if a < 0 ∧ total ≤ 0 then 0 else saturatingAdd s.repeatCross c
    repeated := max total 0 }
  if continues dir dx dy then do
    let straight ← detectSwipeChecked s.repeated s.repeatCross
    if gestureRepeatDistance ≤ s.repeated ∧ straight = some .right then
      let excess ← subChecked 32 s.repeated gestureRepeatDistance
      let carried ← carriedChecked a c earlier s.repeatCross excess
      return (some dir, { s with repeated := excess, repeatCross := saturate carried, dx := 0, dy := 0 })
    else if reversal dir s.dx s.dy = 0 then return (none, s)
    else s.travelChecked dx dy heldSince now
  else s.travelChecked dx dy heldSince now

def accumulateChecked (s : SwipeAccumulator) (dx dy : Int) (now later : Nat) :
    Except ArithFault (Option GestureDirection × SwipeAccumulator) :=
  match s.heldSince with
  | none => .ok (none, s)
  | some heldSince => do
    let s := { ← s.restChecked dx dy now with movedAt := some now }
    match s.last with
    | some dir => s.progressChecked dir dx dy heldSince later
    | none => s.travelChecked dx dy heldSince later

end SwipeAccumulator

/-! ## Values of the type -/

theorem half_i32 : Lib.half 32 = 2147483648 := rfl

theorem fits_i32 {n : Int} : Fits 32 n ↔ i32Min ≤ n ∧ n ≤ i32Max := by
  unfold Fits i32Min i32Max
  rw [half_i32]
  omega

theorem fits_zero : Fits 32 0 := by decide

theorem fits_saturate (n : Int) : Fits 32 (saturate n) := by
  rw [fits_i32]
  unfold saturate i32Min i32Max
  omega

theorem fits_min {m n : Int} (hm : Fits 32 m) (hn : Fits 32 n) : Fits 32 (min m n) := by
  rcases min_choice m n with h | h <;> rw [h] <;> assumption

theorem fits_max {m n : Int} (hm : Fits 32 m) (hn : Fits 32 n) : Fits 32 (max m n) := by
  rcases max_choice m n with h | h <;> rw [h] <;> assumption

theorem fits_along (dir : GestureDirection) {dx dy : Int} (hdx : Fits 32 dx) (hdy : Fits 32 dy) :
    Fits 32 (along dir dx dy) := by
  cases dir
  case left | up => exact fits_saturate _
  case right => exact hdx
  case down => exact hdy
  case click => exact fits_zero

theorem fits_across (dir : GestureDirection) {dx dy : Int} (hdx : Fits 32 dx) (hdy : Fits 32 dy) :
    Fits 32 (across dir dx dy) := by
  cases dir
  case left | right => exact hdy
  case up | down => exact hdx
  case click => exact fits_zero

/-- What a stroke has gone beyond the distance of a repeat. -/
theorem fits_excess {total : Int} (h : Fits 32 total) (hfar : gestureRepeatDistance ≤ total) :
    Fits 32 (total - gestureRepeatDistance) := by
  rw [fits_i32] at h ⊢
  unfold gestureRepeatDistance gestureSwipeThreshold i32Min i32Max at *
  omega

/-- A report that goes on in a direction has moved along it. -/
theorem along_pos {dir : GestureDirection} {dx dy : Int} (h : continues dir dx dy = true) : 0 < along dir dx dy := by
  cases dir <;> simp only [continues, decide_eq_true_eq, Bool.false_eq_true] at h <;>
    simp only [along, saturatingNeg, saturate, i32Min, i32Max] <;> omega

/-! ## Nothing but the rest's sum faults -/

theorem detectSwipeChecked_eq (dx dy : Int) : detectSwipeChecked dx dy = .ok (detectSwipe dx dy) := by
  have hshare : ∀ dominant, divChecked 32 (saturatingMul dominant 35) 100 =
      .ok ((saturatingMul dominant 35).tdiv 100) := fun dominant =>
    Lib.divChecked_of_pos (fits_saturate _) (by decide)
  unfold detectSwipeChecked detectSwipe
  dsimp only
  split
  · rfl
  · rw [hshare, Lib.ok_bind]
    split <;> rfl

theorem carriedChecked_eq (earlier repeatCross : Int) {a c excess : Int} (ha : Fits 32 a) (hc : Fits 32 c)
    (hexcess : Fits 32 excess) (hpos : 0 < a) (hleft : 0 ≤ excess) :
    carriedChecked a c earlier repeatCross excess = .ok ((c * min excess a).tdiv a +
      if excess > a ∧ earlier > 0 then (saturatingSub repeatCross c * (excess - a)).tdiv earlier else 0) := by
  have htail : Fits 32 (min excess a) := fits_min hexcess ha
  have hshare : Fits 64 (c * min excess a) := hc.mul (by decide) htail
  unfold carriedChecked
  dsimp only
  rw [Lib.mulChecked_of_fits hshare, Lib.ok_bind, Lib.divChecked_of_pos hshare hpos, Lib.ok_bind]
  by_cases hover : excess > a ∧ earlier > 0
  · have hrest : Fits 32 (excess - a) := by
      rw [fits_i32] at hexcess ⊢
      unfold i32Min i32Max at *
      omega
    have hcross : Fits 32 (saturatingSub repeatCross c) := fits_saturate _
    have hdrift : Fits 64 (saturatingSub repeatCross c * (excess - a)) := hcross.mul (by decide) hrest
    have hsum : Fits 64 _ :=
      Lib.fits_add_shares (by decide) hc htail (by omega) hcross hrest (by omega) hpos hover.2
    rw [if_pos hover, if_pos hover, Lib.subChecked_of_fits hrest, Lib.ok_bind, Lib.mulChecked_of_fits hdrift,
      Lib.ok_bind, Lib.divChecked_of_pos hdrift hover.2, Lib.ok_bind, Lib.addChecked_of_fits hsum]
  · rw [if_neg hover, if_neg hover, add_zero]
    rfl

namespace SwipeAccumulator

theorem committingChecked_eq (s : SwipeAccumulator) (heldSince now : Nat) :
    s.committingChecked heldSince now = .ok (s.committing heldSince now) := by
  unfold committingChecked committing
  rw [detectSwipeChecked_eq, Lib.ok_bind]
  split
  · cases detectSwipe s.dx s.dy <;> rfl
  · rfl

theorem travelChecked_eq (s : SwipeAccumulator) (dx dy : Int) (heldSince now : Nat) :
    s.travelChecked dx dy heldSince now = .ok (s.travel dx dy heldSince now) :=
  (s.banked dx dy).committingChecked_eq heldSince now

theorem progressChecked_eq (s : SwipeAccumulator) (dir : GestureDirection) {dx dy : Int} (hdx : Fits 32 dx)
    (hdy : Fits 32 dy) (heldSince now : Nat) :
    s.progressChecked dir dx dy heldSince now = .ok (s.progress dir dx dy heldSince now) := by
  have hc := fits_across dir hdx hdy
  have htotal : Fits 32 (max (saturatingAdd s.repeated (along dir dx dy)) 0) := fits_max (fits_saturate _) fits_zero
  unfold progressChecked progress
  dsimp only
  generalize max (saturatingAdd s.repeated (along dir dx dy)) 0 = total at htotal ⊢
  generalize (if along dir dx dy < 0 ∧ saturatingAdd s.repeated (along dir dx dy) ≤ 0 then 0
    else saturatingAdd s.repeatCross (across dir dx dy)) = cross
  by_cases hon : continues dir dx dy = true
  · rw [if_pos hon, if_pos hon, detectSwipeChecked_eq, Lib.ok_bind]
    by_cases hrepeat : gestureRepeatDistance ≤ total ∧ detectSwipe total cross = some .right
    · have hexcess := fits_excess htotal hrepeat.1
      have hcarried := carriedChecked_eq s.repeated cross (fits_along dir hdx hdy) hc hexcess (along_pos hon)
        (sub_nonneg.2 hrepeat.1)
      rw [if_pos hrepeat, if_pos hrepeat, Lib.subChecked_of_fits hexcess, Lib.ok_bind, hcarried, Lib.ok_bind]
      rfl
    · rw [if_neg hrepeat, if_neg hrepeat]
      split
      · rfl
      · exact travelChecked_eq _ dx dy heldSince now
  · rw [if_neg hon, if_neg hon]
    exact travelChecked_eq _ dx dy heldSince now

/-! ## The sum that faults -/

/-- Every field of the type is a value of it. -/
structure InRange (s : SwipeAccumulator) : Prop where
  dx : Fits 32 s.dx
  dy : Fits 32 s.dy
  repeated : Fits 32 s.repeated
  repeatCross : Fits 32 s.repeatCross

/-- The travel and the report are the least of their type on both axes. -/
def InCorner (s : SwipeAccumulator) (dx dy : Int) : Prop :=
  s.dx = i32Min ∧ s.dy = i32Min ∧ dx = i32Min ∧ dy = i32Min

instance (s : SwipeAccumulator) (dx dy : Int) : Decidable (s.InCorner dx dy) := inferInstanceAs (Decidable (_ ∧ _))

variable {s : SwipeAccumulator}

theorem fits_against_iff (hs : s.InRange) {dx dy : Int} (hdx : Fits 32 dx) (hdy : Fits 32 dy) :
    Fits 64 (s.dx * dx + s.dy * dy) ↔ ¬ s.InCorner dx dy := by
  have hiff := Lib.fits_add_mul_iff (by decide) hs.dx hdx hs.dy hdy
  rw [half_i32] at hiff
  rw [hiff]
  unfold InCorner i32Min
  tauto

theorem rest_of_not_rested {now : Nat} (h : ¬ s.rested now = true) (dx dy : Int) :
    s.rest dx dy now = s := if_neg h

/-- What a rest leaves of a stroke. -/
theorem rest_of_rested {now : Nat} (h : s.rested now = true) (dx dy : Int) :
    s.rest dx dy now = { (if s.dx * dx + s.dy * dy < 0 then { s with dx := 0, dy := 0 } else s) with
      last := none, repeated := 0, repeatCross := 0 } := if_pos h

theorem restChecked_eq (hs : s.InRange) {dx dy : Int} (hdx : Fits 32 dx) (hdy : Fits 32 dy) (now : Nat) :
    s.restChecked dx dy now =
      if s.rested now = true ∧ s.InCorner dx dy then .error (.overflow 64) else .ok (s.rest dx dy now) := by
  have hx : Fits 64 (s.dx * dx) := hs.dx.mul (by decide) hdx
  have hy : Fits 64 (s.dy * dy) := hs.dy.mul (by decide) hdy
  unfold restChecked
  rw [Lib.mulChecked_of_fits hx, Lib.ok_bind, Lib.mulChecked_of_fits hy, Lib.ok_bind]
  by_cases hrest : s.rested now = true
  · rw [if_pos hrest, rest_of_rested hrest]
    by_cases hcorner : s.InCorner dx dy
    · have hover : ¬ Fits 64 (s.dx * dx + s.dy * dy) := fun h => (fits_against_iff hs hdx hdy).1 h hcorner
      rw [if_pos ⟨hrest, hcorner⟩, Lib.addChecked_of_not_fits hover, Lib.error_bind]
    · rw [if_neg fun h => hcorner h.2, Lib.addChecked_of_fits ((fits_against_iff hs hdx hdy).2 hcorner), Lib.ok_bind]
      rfl
  · rw [if_neg hrest, if_neg fun h => hrest h.1, rest_of_not_rested hrest]

/-- **A report's arithmetic faults in one place**: the sum that a rest compares with zero, in the corner. -/
theorem accumulateChecked_eq (hs : s.InRange) {dx dy : Int} (hdx : Fits 32 dx) (hdy : Fits 32 dy) (now later : Nat) :
    s.accumulateChecked dx dy now later =
      if s.heldSince.isSome = true ∧ s.rested now = true ∧ s.InCorner dx dy then .error (.overflow 64)
      else .ok (s.accumulate dx dy now later) := by
  unfold accumulateChecked accumulate
  cases s.heldSince with
  | none => rfl
  | some heldSince =>
    dsimp only [Option.isSome_some]
    rw [restChecked_eq hs hdx hdy]
    by_cases hcorner : s.rested now = true ∧ s.InCorner dx dy
    · rw [if_pos hcorner, if_pos ⟨rfl, hcorner⟩, Lib.error_bind]
    · rw [if_neg hcorner, if_neg fun h => hcorner h.2, Lib.ok_bind]
      cases (s.rest dx dy now).last with
      | none => exact travelChecked_eq _ dx dy heldSince later
      | some dir => exact progressChecked_eq _ dir hdx hdy heldSince later

/-! ## The range of the fields -/

theorem InRange.rest (hs : s.InRange) (dx dy : Int) (now : Nat) : (s.rest dx dy now).InRange := by
  by_cases hrest : s.rested now = true
  · rw [rest_of_rested hrest]
    split
    · exact ⟨fits_zero, fits_zero, fits_zero, fits_zero⟩
    · exact ⟨hs.dx, hs.dy, fits_zero, fits_zero⟩
  · rw [rest_of_not_rested hrest]
    exact hs

theorem inRange_travel (hr : Fits 32 s.repeated) (hc : Fits 32 s.repeatCross) (dx dy : Int) (heldSince now : Nat) :
    (s.travel dx dy heldSince now).2.InRange := by
  have hbanked : (s.banked dx dy).InRange := by
    have hx : Fits 32 (saturatingAdd s.dx dx) := fits_saturate _
    have hy : Fits 32 (saturatingAdd s.dy dy) := fits_saturate _
    unfold banked
    dsimp only
    split
    · exact ⟨fits_min hx fits_zero, hy, hr, hc⟩
    · exact ⟨fits_max hx fits_zero, hy, hr, hc⟩
    · exact ⟨hx, fits_min hy fits_zero, hr, hc⟩
    · exact ⟨hx, fits_max hy fits_zero, hr, hc⟩
    · exact ⟨hx, hy, hr, hc⟩
    · exact ⟨hx, hy, hr, hc⟩
  rw [travel_eq]
  unfold committing
  split
  · split
    · exact ⟨fits_zero, fits_zero, fits_zero, fits_zero⟩
    · exact hbanked
  · exact hbanked

theorem InRange.progress (hs : s.InRange) (dir : GestureDirection) (dx dy : Int) (heldSince now : Nat) :
    (s.progress dir dx dy heldSince now).2.InRange := by
  have htotal : Fits 32 (max (saturatingAdd s.repeated (along dir dx dy)) 0) := fits_max (fits_saturate _) fits_zero
  have hcross : Fits 32 (if along dir dx dy < 0 ∧ saturatingAdd s.repeated (along dir dx dy) ≤ 0 then 0
      else saturatingAdd s.repeatCross (across dir dx dy)) := by
    split
    · exact fits_zero
    · exact fits_saturate _
  unfold SwipeAccumulator.progress
  dsimp only
  generalize max (saturatingAdd s.repeated (along dir dx dy)) 0 = total at htotal ⊢
  generalize (if along dir dx dy < 0 ∧ saturatingAdd s.repeated (along dir dx dy) ≤ 0 then 0
    else saturatingAdd s.repeatCross (across dir dx dy)) = cross at hcross ⊢
  have hgoes := inRange_travel (s := { s with repeated := total, repeatCross := cross }) htotal hcross dx dy heldSince now
  by_cases hon : continues dir dx dy = true
  · rw [if_pos hon]
    by_cases hrepeat : gestureRepeatDistance ≤ total ∧ detectSwipe total cross = some .right
    · have hexcess := fits_excess htotal hrepeat.1
      rw [if_pos hrepeat]
      exact ⟨fits_zero, fits_zero, hexcess, fits_saturate _⟩
    · rw [if_neg hrepeat]
      split
      · exact ⟨hs.dx, hs.dy, htotal, hcross⟩
      · exact hgoes
  · rw [if_neg hon]
    exact hgoes

theorem InRange.accumulate (hs : s.InRange) (dx dy : Int) (now later : Nat) :
    (s.accumulate dx dy now later).2.InRange := by
  have hrest := hs.rest dx dy now
  unfold SwipeAccumulator.accumulate
  split
  · exact hs
  · dsimp only
    split
    · exact InRange.progress (s := { s.rest dx dy now with movedAt := some now })
        ⟨hrest.dx, hrest.dy, hrest.repeated, hrest.repeatCross⟩ _ dx dy _ later
    · exact inRange_travel (s := { s.rest dx dy now with movedAt := some now }) hrest.repeated hrest.repeatCross dx dy
        _ later

end SwipeAccumulator

/-! ## Runs -/

/-- A call on the accumulator, at the instants it reads. -/
inductive SwipeCall where
  | begin (now : Nat)
  | accumulate (dx dy : I32) (now later : Nat)
  | ended

namespace SwipeAccumulator

/-- One call in exact arithmetic. -/
def step (s : SwipeAccumulator) : SwipeCall → SwipeAccumulator
  | .begin now => begin now
  | .accumulate dx dy now later => (s.accumulate dx.val dy.val now later).2
  | .ended => s.ended.2

/-- One call, or the fault that its arithmetic ends in. -/
def take (s : SwipeAccumulator) : SwipeCall → Except ArithFault SwipeAccumulator
  | .begin now => .ok (begin now)
  | .accumulate dx dy now later => (s.accumulateChecked dx.val dy.val now later).map Prod.snd
  | .ended => .ok s.ended.2

/-- No call follows one that faulted. -/
def next (s : SwipeAccumulator) (call : SwipeCall) : Option SwipeAccumulator := (s.take call).toOption

/-- No operation of the call overflows its type or divides by zero. -/
def NoFault (s : SwipeAccumulator) (call : SwipeCall) : Prop := ∀ fault, s.take call ≠ .error fault

/-- A report after a rest that is the least of its type on both axes, as the travel of the hold is. -/
def Cornered (s : SwipeAccumulator) : SwipeCall → Prop
  | .accumulate dx dy now _ => s.heldSince.isSome = true ∧ s.rested now = true ∧ s.InCorner dx.val dy.val
  | .begin _ | .ended => False

variable {s : SwipeAccumulator} {call : SwipeCall}

theorem take_of_cornered (hs : s.InRange) (h : s.Cornered call) :
    s.take call = .error (.overflow 64) := by
  cases call with
  | begin now => exact h.elim
  | accumulate dx dy now later =>
    rw [take, (accumulateChecked_eq hs dx.property dy.property now later).trans (if_pos h)]
    rfl
  | ended => exact h.elim

theorem take_of_not_cornered (hs : s.InRange) (h : ¬ s.Cornered call) :
    s.take call = .ok (s.step call) := by
  cases call with
  | begin now => rfl
  | accumulate dx dy now later =>
    rw [take, (accumulateChecked_eq hs dx.property dy.property now later).trans (if_neg h)]
    rfl
  | ended => rfl

theorem noFault_iff (hs : s.InRange) (call : SwipeCall) : s.NoFault call ↔ ¬ s.Cornered call := by
  constructor
  · exact fun h hcorner => h _ (take_of_cornered hs hcorner)
  · intro h fault hfault
    rw [take_of_not_cornered hs h] at hfault
    cases hfault

theorem InRange.step (hs : s.InRange) (call : SwipeCall) : (s.step call).InRange := by
  cases call with
  | begin now => exact ⟨fits_zero, fits_zero, fits_zero, fits_zero⟩
  | accumulate dx dy now later => exact hs.accumulate dx.val dy.val now later
  | ended => exact ⟨hs.dx, hs.dy, hs.repeated, hs.repeatCross⟩

theorem next_of_not_cornered (hs : s.InRange) (h : ¬ s.Cornered call) :
    s.next call = some (s.step call) := by
  unfold next
  rw [take_of_not_cornered hs h]
  rfl

theorem inRange_start : InRange {} := ⟨fits_zero, fits_zero, fits_zero, fits_zero⟩

/-- **A run is free of faults exactly when no report of it goes on from the corner.** -/
theorem arithmetic_safe_iff (calls : List SwipeCall) :
    Lib.Along next NoFault {} calls ↔ Lib.Along next (fun s call => ¬ s.Cornered call) {} calls := by
  refine Lib.along_congr InRange (fun s call hs => noFault_iff hs call) ?_ inRange_start
  intro s call t hs hfault ht
  rw [next_of_not_cornered hs ((noFault_iff hs call).1 hfault)] at ht
  cases ht
  exact hs.step call

def leastMove : I32 := ⟨i32Min, by decide⟩

/-- Two reports of the least movement, a rest apart. -/
theorem cornered_report_overflows : ¬ Lib.Along next NoFault {}
    [.begin 0, .accumulate leastMove leastMove 0 0,
      .accumulate leastMove leastMove gestureRearmPause gestureRearmPause] := by
  intro h
  have hfirst := h.2 _ rfl
  have hsecond := hfirst.2 _ rfl
  exact hsecond.1 (.overflow 64) rfl

/-- **Reports of 16 bits, as the devices send them, never fault.** -/
theorem narrow_reports_safe : ∀ (calls : List SwipeCall) {s : SwipeAccumulator}, s.InRange →
    (∀ dx dy now later, SwipeCall.accumulate dx dy now later ∈ calls → Fits 16 dx.val) → Lib.Along next NoFault s calls
  | [], _, _, _ => trivial
  | call :: calls, s, hs, h => by
    have hclear : ¬ s.Cornered call := by
      cases call with
      | begin now => exact id
      | ended => exact id
      | accumulate dx dy now later =>
        rintro ⟨-, -, -, -, hleast, -⟩
        have hnarrow := h dx dy now later List.mem_cons_self
        rw [hleast] at hnarrow
        exact absurd hnarrow (by decide)
    refine ⟨(noFault_iff hs call).2 hclear, fun t ht => ?_⟩
    rw [next_of_not_cornered hs hclear] at ht
    cases ht
    exact narrow_reports_safe calls (hs.step call) fun dx dy now later hmem =>
      h dx dy now later (List.mem_cons_of_mem _ hmem)

/-- The least movement on one axis: too early for a swipe, as one after a rest, and as its repeat. -/
def restedHold : List SwipeCall :=
  [.begin 0, .accumulate ⟨7, by decide⟩ leastMove 0 0, .accumulate ⟨-9, by decide⟩ leastMove 300000000 300000000,
    .accumulate ⟨3, by decide⟩ leastMove 310000000 310000000]

theorem still_hold_safe : Lib.Along next NoFault {} restedHold ∧
    (restedHold.foldl step {}).last = some .up ∧
    (restedHold.foldl step {}).repeated = i32Max - gestureRepeatDistance := by
  refine ⟨narrow_reports_safe restedHold inRange_start fun _ _ _ _ h => ?_, by decide, by decide⟩
  simp [restedHold] at h
  rcases h with h | h | h <;> rw [h.1] <;> decide

end SwipeAccumulator

end Core
end OpenLogi
