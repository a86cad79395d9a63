import OpenLogi.Scroll.FreeSpin
import OpenLogi.Scroll.Motion
import OpenLogi.Scroll.ReverseLock
/-!
# Glide — momentum scrolling of one wheel

The curve that a glide slows along, how fast a free spin launches one, and the state that a smoothed main wheel keeps
from one free spin to the next.
-/
namespace OpenLogi
namespace Scroll

variable {F : Type} [F64 F]

def repeatMinSpeed : F := F64.lit 400
def flickPeakedAfter : Nat := millis 250
def repeatWindow : Nat := millis 600
def springBackLock : Nat := millis 100

/-! ## Settings -/

inductive GlideShape where
  | sharp
  | linear
  | smooth
  | floaty
  deriving DecidableEq

def GlideShape.exponent : GlideShape → F
  | .sharp => F64.lit (1 / 2)
  | .linear => F64.lit 1
  | .smooth => F64.lit 2
  | .floaty => F64.lit 4

structure MomentumParams (F : Type) where
  pixelsPerNotch : F
  glideShape : GlideShape
  maxGlideSpeed : F
  glideLength : Nat
  repeatBoost : F

/-! ## The curve -/

/-- A glide whose speed falls from `startSpeed` to zero as `(1 - t/T)^p` over `T = length * (p + 1)`. -/
structure GlideCurve (F : Type) where
  startSpeed : F
  exponent : F
  length : F

namespace GlideCurve

def new (startSpeed : F) (shape : GlideShape) (length : Nat) : GlideCurve F :=
  ⟨startSpeed, shape.exponent, F64.secs length⟩

def duration (c : GlideCurve F) : Nat := F64.ofSecs (c.length * (c.exponent + F64.lit 1))

def distance (c : GlideCurve F) : F := c.startSpeed * c.length

/-- The share of its duration left. -/
def remaining (c : GlideCurve F) (elapsed : Nat) : F :=
  if c.duration ≤ elapsed then F64.lit 0
  else F64.clamp (F64.lit 1 - F64.secs elapsed / F64.secs c.duration) (F64.lit 0) (F64.lit 1)

def speedAt (c : GlideCurve F) (elapsed : Nat) : F := c.startSpeed * F64.powf (c.remaining elapsed) c.exponent

def positionAt (c : GlideCurve F) (elapsed : Nat) : F :=
  c.distance * (F64.lit 1 - F64.powf (c.remaining elapsed) (c.exponent + F64.lit 1))

end GlideCurve

/-! ## Launching -/

def gentleSpin : F := F64.lit 80
def hardSpin : F := F64.lit 250
def flickMax : F := F64.lit 3
def flickGamma : F := F64.lit 2
def riseS : F := F64.lit (3 / 100)
def maxChainBoost : F := F64.lit 3

/-- The speed multiplier of a spin, eased in from a gentle one to a hard one. -/
def flickResponse (wheelSpeed : F) : F :=
  let hardness := F64.clamp ((wheelSpeed - gentleSpin) / (hardSpin - gentleSpin)) (F64.lit 0) (F64.lit 1)
  F64.lit 1 + (flickMax - F64.lit 1) * F64.powf hardness flickGamma

def pace (wheelSpeed sensitivity : F) (params : MomentumParams F) : F :=
  if !F64.isFinite wheelSpeed || F64.le wheelSpeed (F64.lit 0) then F64.lit 0
  else wheelSpeed * params.pixelsPerNotch * sensitivity

def launchSpeed (wheelSpeed sensitivity : F) (params : MomentumParams F) : F :=
  let pace := pace wheelSpeed sensitivity params
  if F64.eq pace (F64.lit 0) then F64.lit 0 else F64.min (pace * flickResponse wheelSpeed) params.maxGlideSpeed

/-- The speed-up after `chain` repeated spins; the exponent is an `i32`. -/
def chainBoost (params : MomentumParams F) (chain : Nat) : F :=
  F64.min (F64.powi params.repeatBoost (Nat.min chain 2147483647)) maxChainBoost

def curve (speed : F) (params : MomentumParams F) : GlideCurve F :=
  .new (F64.max speed (F64.lit 0)) params.glideShape params.glideLength

/-! ## A glide -/

inductive Direction where
  | up
  | down
  deriving DecidableEq

/-- The direction of a vertical distance; none for zero. -/
def Direction.of (y : F) : Option Direction :=
  if F64.lt (F64.lit 0) y then some .up else if F64.lt y (F64.lit 0) then some .down else none

def Direction.sign : Direction → F
  | .up => F64.lit 1
  | .down => F64.lit (-1)

/-- How far the spin that launches a glide has got: its top speed so far and when, or peaked. -/
inductive Flick (F : Type) where
  | rising (top : F) (since : Nat)
  | peaked

def Flick.start (now : Nat) : Flick F := .rising (F64.lit 0) now

def Flick.follow (flick : Flick F) (speed : F) (now : Nat) : Flick F :=
  match flick with
  | .rising top since =>
    if F64.lt top speed then .rising speed now else if flickPeakedAfter ≤ now - since then .peaked else flick
  | .peaked => .peaked

/-- One curve, eased into from `rise` below its start speed. -/
structure Glide (F : Type) where
  direction : Direction
  sensitivity : F
  boost : F
  curve : GlideCurve F
  rise : F
  began : Nat
  emitted : F
  flick : Flick F
  nextFrame : Nat

namespace Glide

/-- A glide launching at `speed` off a page that scrolls at `pace`. -/
def new (direction : Direction) (sensitivity boost pace speed : F) (momentum : MomentumParams F) (now : Nat) :
    Glide F :=
  let curve := Scroll.curve speed momentum
  { direction := direction, sensitivity := sensitivity, boost := boost, curve := curve
    rise := F64.max (curve.startSpeed - pace) (F64.lit 0)
    began := now, emitted := F64.lit 0, flick := .start now, nextFrame := now + framePeriod }

def speed (g : Glide F) (now : Nat) : F :=
  let elapsed := now - g.began
  let shortfall := g.rise * F64.exp (-F64.secs elapsed / riseS)
  F64.max (g.curve.speedAt elapsed - shortfall) (F64.lit 0)

def position (g : Glide F) (now : Nat) : F :=
  let elapsed := now - g.began
  let eased := F64.lit 1 - F64.exp (-F64.secs elapsed / riseS)
  g.curve.positionAt elapsed - g.rise * riseS * eased

def finished (g : Glide F) (now : Nat) : Bool := g.curve.duration ≤ now - g.began

/-- The frame that carries the glide to `now`, if it moved; never backwards. -/
def advance (g : Glide F) (now : Nat) (perTick : F) : Option (ScrollFrame F) × Glide F :=
  let position := g.position now
  if F64.le position g.emitted then (none, g)
  else
    let pixels := (position - g.emitted) * g.direction.sign
    (if F64.isFinite pixels then some (.momentum ⟨F64.lit 0, pixels⟩ perTick) else none, { g with emitted := position })

/-- Glide on along a new curve, easing up into it from the speed it is at. -/
def relaunch (g : Glide F) (speed : F) (momentum : MomentumParams F) (now : Nat) : Glide F :=
  let curve := Scroll.curve speed momentum
  { g with curve := curve, rise := F64.max (curve.startSpeed - g.speed now) (F64.lit 0), began := now
           emitted := F64.lit 0 }

end Glide

/-! ## The wheel -/

structure GlideEnd (F : Type) where
  instant : Nat
  direction : Direction
  speed : F

/-- A finger stopped or turned the wheel, or the glide ran its course with the wheel still spinning or quiet. -/
inductive GlideStop where
  | touched
  | ranOutSpinning
  | ranOut
  deriving DecidableEq

/-- A wheel's glide, from one free spin to the next; a spent spin must not start another. -/
inductive GlideState (F : Type) where
  | idle (last : Option (GlideEnd F))
  | gliding (glide : Glide F)
  | spent (last : GlideEnd F) (nextCheck : Nat)

def GlideState.nextTick : GlideState F → Option Nat
  | .gliding glide => some glide.nextFrame
  | .spent _ nextCheck => some nextCheck
  | .idle _ => none

/-- One main-wheel tick: the scaled impulse and the raw signed notches. -/
structure WheelTick (F : Type) where
  impulse : WheelDelta F
  notches : F

structure WheelState (F : Type) [F64 F] where
  momentum : MomentumParams F
  springBack : ReverseLock F (WheelTick F) := {}
  detector : FreeSpinDetector F := {}
  glide : GlideState F := .idle none
  /-- Spins chained onto the glide. -/
  chain : Nat := 0

namespace WheelState

def new (momentum : MomentumParams F) : WheelState F := { momentum := momentum }

def gliding (s : WheelState F) : Option (Glide F) :=
  match s.glide with
  | .gliding glide => some glide
  | .idle _ | .spent _ _ => none

/-- End a running glide the way `stop` says. -/
def endGlide (s : WheelState F) (now : Nat) (stop : GlideStop) : WheelState F :=
  match s.glide with
  | .gliding glide =>
    let last := ⟨now, glide.direction, glide.speed now⟩
    { s with glide := match stop with
      | .ranOutSpinning => .spent last (now + framePeriod)
      | .touched | .ranOut => .idle (some last) }
  | .idle _ | .spent _ _ => s

/-- A push onto a glide that still goes strong the same way. -/
def pushedWhileGliding (s : WheelState F) (direction : Option Direction) (now : Nat) : Bool :=
  s.detector.phase = .ratchet &&
    s.gliding.any fun glide => F64.le repeatMinSpeed (glide.speed now) && direction = some glide.direction

/-- Keep gliding through a push, faster once the spin before it has peaked. -/
def push (s : WheelState F) (momentum : MomentumParams F) (now : Nat) : Option (ScrollFrame F) × WheelState F :=
  let s := { s with detector := s.detector.resumeFreeSpin now }
  match s.glide with
  | .gliding glide =>
    match glide.flick with
    | .peaked =>
      let (frame, glide) := glide.advance now momentum.pixelsPerNotch
      let chain := s.chain + 1
      let glide := { glide with boost := chainBoost momentum chain }
      let launch := launchSpeed (s.detector.speed now) glide.sensitivity momentum
      let glide := glide.relaunch (F64.max (launch * glide.boost) (glide.speed now)) momentum now
      (frame, { s with chain := chain, glide := .gliding { glide with flick := .start now } })
    | .rising _ _ => (none, s)
  | .idle _ | .spent _ _ => (none, s)

/-- Ratchet scrolling ends a glide, and a spent spin. -/
def ratchet (s : WheelState F) (now : Nat) : WheelState F :=
  let s := s.endGlide now .touched
  match s.glide with
  | .spent last _ => { s with glide := .idle (some last) }
  | .idle _ | .gliding _ => s

/-- Launch a glide off a free spin.  A spin soon after the last glide ended, the same way, builds on its chain and never
glides slower than the glide it caught. -/
def launch (s : WheelState F) (tick : WheelTick F) (last : Option (GlideEnd F)) (direction : Direction)
    (momentum : MomentumParams F) (now : Nat) : WheelState F :=
  let sensitivity := F64.abs (tick.impulse.y / tick.notches)
  let wheelSpeed := s.detector.speed now
  let pace := pace wheelSpeed sensitivity momentum
  let launch := launchSpeed wheelSpeed sensitivity momentum
  let again := last.filter fun last => now - last.instant ≤ repeatWindow ∧ last.direction = direction
  let chain := if again.isSome then s.chain + 1 else 0
  let boost := chainBoost momentum chain
  let caught := again.elim (F64.lit 0) GlideEnd.speed
  { s with
    chain := chain
    glide := .gliding (.new direction sensitivity boost pace (F64.max (launch * boost) caught) momentum now) }

/-- One frame of a spent spin: its detector is ticked so that a catch still reads as a stop. -/
def checkSpent (s : WheelState F) (last : GlideEnd F) (nextCheck now : Nat) : WheelState F :=
  if nextCheck ≤ now then
    let s := { s with detector := s.detector.tick now }
    match s.detector.phase with
    | .freeSpin => { s with glide := .spent last (now + framePeriod) }
    | .stopped _ | .ratchet => { s with glide := .idle (some last) }
  else s

/-- One frame of a glide whose wheel the detector, just ticked, does not find stopped. -/
def advanceGlide (s : WheelState F) (glide : Glide F) (now : Nat) : Option (ScrollFrame F) × WheelState F :=
  let wheelSpeed := if s.detector.phase = .freeSpin then s.detector.speed now else F64.lit 0
  if now < glide.nextFrame then (none, s)
  else
    let (frame, glide) := { glide with nextFrame := now + framePeriod }.advance now s.momentum.pixelsPerNotch
    let glide := match glide.flick with
      | .rising _ _ =>
        let launch := launchSpeed wheelSpeed glide.sensitivity s.momentum * glide.boost
        if F64.lt glide.curve.startSpeed (Scroll.curve launch s.momentum).startSpeed then
          glide.relaunch launch s.momentum now
        else glide
      | .peaked => glide
    let glide := { glide with flick := glide.flick.follow wheelSpeed now }
    let s := { s with glide := .gliding glide }
    let stop := if s.detector.phase = .freeSpin then .ranOutSpinning else .ranOut
    (frame, if glide.finished now then s.endGlide now stop else s)

end WheelState

end Scroll
end OpenLogi
