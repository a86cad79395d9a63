import OpenLogi.Scroll.Number
/-!
# Motion — frames, eased segments and the one stream they share

The frames that leave the engine, the finite eased motion of one source evaluated from absolute time, and the output
stream, whose opening frame decides whether the gesture is a phased one.
-/
namespace OpenLogi
namespace Scroll

variable {F : Type} [F64 F]

def animationDuration : Nat := millis 100
def crispStepDuration : Nat := millis 40
def framePeriod : Nat := millis 8

/-! ## Distances -/

structure WheelDelta (F : Type) where
  x : F
  y : F
  deriving DecidableEq

namespace WheelDelta

def zero : WheelDelta F := ⟨F64.lit 0, F64.lit 0⟩

def isZero (d : WheelDelta F) : Bool := F64.eq d.x (F64.lit 0) && F64.eq d.y (F64.lit 0)

/-- Equality as `f64` compares. -/
def eq (d e : WheelDelta F) : Bool := F64.eq d.x e.x && F64.eq d.y e.y

def plus (d e : WheelDelta F) : WheelDelta F := ⟨d.x + e.x, d.y + e.y⟩

def minus (d e : WheelDelta F) : WheelDelta F := ⟨d.x - e.x, d.y - e.y⟩

def scale (d : WheelDelta F) (factor : F) : WheelDelta F := ⟨d.x * factor, d.y * factor⟩

end WheelDelta

/-! ## Frames -/

inductive SmoothScrollPhase where
  | began
  | changed
  | ended
  | cancelled
  deriving DecidableEq

/-- Smoothed wheel output, a gesture whose phases the application must see, or a glide outside the stream. -/
inductive FrameKind where
  | eased
  | phased
  | glide
  deriving DecidableEq

/-- Wheel ticks, or pixels, `perTick` to a tick. -/
inductive FrameUnit (F : Type) where
  | ticks
  | pixels (perTick : F)
  deriving DecidableEq

structure ScrollFrame (F : Type) where
  delta : WheelDelta F
  phase : SmoothScrollPhase
  kind : FrameKind
  unit : FrameUnit F
  deriving DecidableEq

namespace ScrollFrame

def new (delta : WheelDelta F) (phase : SmoothScrollPhase) (phased : Bool) : ScrollFrame F :=
  ⟨delta, phase, if phased then .phased else .eased, .ticks⟩

/-- One phaseless eased step of a wheel under momentum scrolling, outside the stream. -/
def step (ticks : WheelDelta F) (perTick : F) : ScrollFrame F :=
  ⟨ticks.scale perTick, .changed, .eased, .pixels perTick⟩

def momentum (delta : WheelDelta F) (perTick : F) : ScrollFrame F := ⟨delta, .changed, .glide, .pixels perTick⟩

end ScrollFrame

/-! ## Eased motion -/

inductive Easing where
  | smooth
  | crisp
  deriving DecidableEq

def Easing.duration : Easing → Nat
  | .smooth => animationDuration
  | .crisp => crispStepDuration

/-- Normalized distance at normalized `progress`. -/
def Easing.ease (easing : Easing) (progress : F) : F :=
  let p := F64.clamp progress (F64.lit 0) (F64.lit 1)
  match easing with
  | .smooth => p * p * (F64.lit 3 - F64.lit 2 * p)
  | .crisp => p

/-- A finite eased segment between two cumulative positions. -/
structure MotionSegment (F : Type) where
  start : WheelDelta F
  target : WheelDelta F
  startedAt : Nat
  easing : Easing

namespace MotionSegment

def positionAt (s : MotionSegment F) (now : Nat) : WheelDelta F :=
  let progress : F := F64.secs (now - s.startedAt) / F64.secs s.easing.duration
  s.start.plus ((s.target.minus s.start).scale (s.easing.ease progress))

def endsAt (s : MotionSegment F) : Nat := s.startedAt + s.easing.duration

def isCompleteAt (s : MotionSegment F) (now : Nat) : Bool := s.endsAt ≤ now

end MotionSegment

structure ActiveMotion (F : Type) where
  segment : MotionSegment F
  emitted : WheelDelta F
  nextFrame : Nat

/-- Result of evaluating one source's motion. -/
inductive MotionUpdate (F : Type) where
  | active (delta : WheelDelta F)
  | finished (delta : WheelDelta F)

namespace MotionUpdate

def isFinished : MotionUpdate F → Bool
  | .active _ => false
  | .finished _ => true

def delta : MotionUpdate F → WheelDelta F
  | .active delta | .finished delta => delta

end MotionUpdate

/-- The first frame after `now` on the grid of `next`. -/
def catchUp (next now : Nat) : Nat := if next ≤ now then next + ((now - next) / framePeriod + 1) * framePeriod else next

/-- `catchUp` is the loop that adds a frame period while the frame is due. -/
theorem catchUp_eq (next now : Nat) :
    catchUp next now = if next ≤ now then catchUp (next + framePeriod) now else next := by
  have hpos : 0 < framePeriod := by decide
  by_cases h : next ≤ now
  · rw [if_pos h]
    unfold catchUp
    rw [if_pos h]
    by_cases hagain : next + framePeriod ≤ now
    · have hdiv : (now - next) / framePeriod = (now - (next + framePeriod)) / framePeriod + 1 := by
        rw [Nat.sub_add_eq, ← Nat.div_eq_sub_div hpos (by omega)]
      rw [if_pos hagain, hdiv, Nat.add_mul _ 1, Nat.one_mul]
      omega
    · rw [if_neg hagain, Nat.div_eq_of_lt (by omega)]
      omega
  · rw [if_neg h, catchUp, if_neg h]

namespace ActiveMotion

def new (impulse : WheelDelta F) (now : Nat) (easing : Easing) : ActiveMotion F :=
  ⟨⟨.zero, impulse, now, easing⟩, .zero, now + framePeriod⟩

def deltaTo (m : ActiveMotion F) (position : WheelDelta F) : WheelDelta F × ActiveMotion F :=
  (position.minus m.emitted, { m with emitted := position })

/-- Evaluate the old segment, then restart toward the cumulative target. -/
def retarget (m : ActiveMotion F) (impulse : WheelDelta F) (now : Nat) (easing : Easing) :
    MotionUpdate F × ActiveMotion F :=
  let position := m.segment.positionAt now
  let target := m.segment.target.plus impulse
  let (delta, m) := m.deltaTo position
  if target.eq position then (.finished delta, m)
  else (.active delta, { m with segment := ⟨position, target, now, easing⟩, nextFrame := now + framePeriod })

def advance (m : ActiveMotion F) (now : Nat) : MotionUpdate F × ActiveMotion F :=
  let complete := m.segment.isCompleteAt now
  let (delta, m) := m.deltaTo (m.segment.positionAt now)
  if complete then (.finished delta, m)
  else (.active delta, { m with nextFrame := Nat.min (catchUp m.nextFrame now) m.segment.endsAt })

theorem advance_isFinished (m : ActiveMotion F) (now : Nat) :
    (m.advance now).1.isFinished = m.segment.isCompleteAt now := by
  unfold advance
  cases h : m.segment.isCompleteAt now <;> simp [MotionUpdate.isFinished]

end ActiveMotion

/-! ## The stream -/

/-- The one phase stream that the foreground application sees, whichever sources move. -/
inductive OutputStream where
  | idle
  | active (phased : Bool)
  deriving DecidableEq

namespace OutputStream

def progress (s : OutputStream) (delta : WheelDelta F) (phased : Bool) : List (ScrollFrame F) × OutputStream :=
  if delta.isZero then ([], s)
  else match s with
    | .idle => ([.new delta .began phased], .active phased)
    | .active phased => ([.new delta .changed phased], .active phased)

def finish (s : OutputStream) (delta : WheelDelta F) (phased : Bool) : List (ScrollFrame F) × OutputStream :=
  match s with
  | .idle => (if delta.isZero then [] else [.new delta .began phased, .new .zero .ended phased], .idle)
  | .active phased => ([.new delta .ended phased], .idle)

def cancel (s : OutputStream) : List (ScrollFrame F) × OutputStream :=
  match s with
  | .idle => ([], .idle)
  | .active phased => ([.new .zero .cancelled phased], .idle)

end OutputStream

end Scroll
end OpenLogi
