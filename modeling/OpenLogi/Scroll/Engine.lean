import OpenLogi.Button.Press
import OpenLogi.Lib.Run
import OpenLogi.Scroll.Glide
/-!
# Engine — the scroll engine, one operation at a time

The sources' eased motions, phased gestures and momentum-scrolling wheels, and the one stream they share.  `emit` is a
log of its own: each frame with the source it is emitted for, the end of a shared gesture with none.
-/
namespace OpenLogi
namespace Scroll

open Button (HidppSessionId)
open Lib (Table)

variable {F : Type} [F64 F]

def phasedIdle : Nat := millis 120

/-! ## State -/

inductive HidppWheel where
  | main
  | thumb
  deriving DecidableEq

/-- One physical producer: a hook thread, or one wheel of a HID++ session. -/
inductive ScrollSource where
  | osHook (thread : Nat)
  | hidpp (session : HidppSessionId) (wheel : HidppWheel)
  deriving DecidableEq

def ScrollSource.inSession (source : ScrollSource) (session : HidppSessionId) : Bool :=
  match source with
  | .osHook _ => false
  | .hidpp own _ => own = session

/-- A hash map keyed by source. -/
abbrev Sources (α : Type) := Table (Prod.fst : ScrollSource × α → ScrollSource)

structure ScrollEngine (F : Type) [F64 F] where
  active : Sources (ActiveMotion F) := .empty _
  /-- Sources inside a phased gesture, each with the instant its idle window closes. -/
  phased : Sources Nat := .empty _
  output : OutputStream := .idle
  wheels : Sources (WheelState F) := .empty _
  emitted : List (Option ScrollSource × ScrollFrame F) := []

namespace ScrollEngine

/-! ## Emitting -/

def emit (e : ScrollEngine F) (source : Option ScrollSource) (frames : List (ScrollFrame F)) : ScrollEngine F :=
  { e with emitted := e.emitted ++ frames.map fun frame => (source, frame) }

/-- What an operation of the stream emits and leaves. -/
def onStream (e : ScrollEngine F) (source : Option ScrollSource) (out : List (ScrollFrame F) × OutputStream) :
    ScrollEngine F :=
  { e.emit source out.1 with output := out.2 }

/-- The pixels per tick of a wheel under momentum scrolling; every other source scrolls in ticks. -/
def pixelsFor (e : ScrollEngine F) (source : ScrollSource) : Option F :=
  (e.wheels.get? source).map fun row => row.2.momentum.pixelsPerNotch

/-- Nothing on the stream moves: no phased gesture, and no motion but the wheels' whose steps stay off it. -/
def streamIdle (e : ScrollEngine F) : Bool :=
  e.phased.rows.isEmpty && e.active.rows.all fun row => (e.pixelsFor row.1).isSome

def emitUpdate (e : ScrollEngine F) (source : ScrollSource) (update : MotionUpdate F) (pixels : Option F) :
    ScrollEngine F :=
  match pixels with
  | some perTick => e.emit (some source) (if update.delta.isZero then [] else [.step update.delta perTick])
  | none =>
    if update.isFinished && e.streamIdle then e.onStream (some source) (e.output.finish update.delta false)
    else e.onStream (some source) (e.output.progress update.delta false)

/-! ## Easing -/

/-- A motion already complete is finished before the impulse starts another. -/
def settle (e : ScrollEngine F) (source : ScrollSource) (now : Nat) (pixels : Option F) : ScrollEngine F :=
  match e.active.get? source with
  | none => e
  | some (_, motion) =>
    if motion.segment.isCompleteAt now then
      { e with active := e.active.erase source }.emitUpdate source (motion.advance now).1 pixels
    else e

def impulse (e : ScrollEngine F) (source : ScrollSource) (impulse : WheelDelta F) (now : Nat) : ScrollEngine F :=
  let pixels := e.pixelsFor source
  let easing := if pixels.isSome then .crisp else .smooth
  let e := e.settle source now pixels
  match e.active.get? source with
  | none => { e with active := e.active.insert (source, .new impulse now easing) }
  | some (_, motion) =>
    let (update, motion) := motion.retarget impulse now easing
    let active := if update.isFinished then e.active.erase source else e.active.insert (source, motion)
    { e with active := active }.emitUpdate source update pixels

/-- Drop an eased motion unfinished, cancelling the stream if nothing on it is left moving. -/
def dropMotion (e : ScrollEngine F) (source : ScrollSource) : ScrollEngine F :=
  match e.active.get? source with
  | none => e
  | some _ =>
    let e := { e with active := e.active.erase source }
    if e.streamIdle then e.onStream (some source) e.output.cancel else e

/-! ## Wheels -/

def putWheel (e : ScrollEngine F) (source : ScrollSource) (state : WheelState F) : ScrollEngine F :=
  { e with wheels := e.wheels.insert (source, state) }

/-- The state of a wheel, made anew for a source that has none. -/
def wheel (e : ScrollEngine F) (source : ScrollSource) (momentum : MomentumParams F) : WheelState F :=
  (e.wheels.get? source).elim (.new momentum) Prod.snd

def stopWheel (e : ScrollEngine F) (source : ScrollSource) (now : Nat) : ScrollEngine F :=
  let e := match e.wheels.get? source with
    | none => e
    | some (_, state) => e.putWheel source (state.endGlide now .touched)
  e.dropMotion source

/-- One admitted tick: eased while ratcheting, a glide once the wheel spins freely, swallowed after a stop. -/
def wheelTick (e : ScrollEngine F) (source : ScrollSource) (tick : WheelTick F) (now : Nat)
    (momentum : MomentumParams F) : ScrollEngine F :=
  let state := e.wheel source momentum
  let state := { state with detector := state.detector.report now tick.notches }
  let direction := Direction.of tick.impulse.y
  if state.pushedWhileGliding direction now then
    let (frame, state) := state.push momentum now
    (e.putWheel source state).emit (some source) frame.toList
  else match state.detector.phase, state.glide, direction with
    | .ratchet, _, _ => (e.putWheel source (state.ratchet now)).impulse source tick.impulse now
    | .freeSpin, .idle last, some direction =>
      (e.putWheel source (state.launch tick last direction momentum now)).dropMotion source
    | .freeSpin, _, _ => e.putWheel source state
    | .stopped _, _, _ => (e.putWheel source state).stopWheel source now

def wheelImpulse (e : ScrollEngine F) (source : ScrollSource) (impulse : WheelDelta F) (notches : F)
    (momentum : Option (MomentumParams F)) (now : Nat) : ScrollEngine F :=
  match momentum with
  -- off for this wheel's device
  | none => { e with wheels := e.wheels.erase source }.impulse source impulse now
  | some momentum =>
    if F64.eq notches (F64.lit 0) then e.impulse source impulse now
    else
      let state := { e.wheel source momentum with momentum := momentum }
      let lock := if state.detector.phase = .ratchet then 0 else springBackLock
      let (admitted, springBack) := state.springBack.admitTick notches now lock ⟨impulse, notches⟩
      let e := e.putWheel source { state with springBack := springBack }
      match admitted with
      | .pass tick => e.wheelTick source tick now momentum
      | .hold => e
      | .release ticks => ticks.foldl (fun e tick => e.wheelTick source tick now momentum) e

/-! ## Frames -/

/-- One due frame of a wheel's glide, or one check of its spent spin. -/
def advanceWheel (now : Nat) (e : ScrollEngine F) (source : ScrollSource) : ScrollEngine F :=
  match e.wheels.get? source with
  | none => e
  | some (_, state) =>
    match state.glide with
    | .spent last nextCheck => e.putWheel source (state.checkSpent last nextCheck now)
    | .idle _ | .gliding _ =>
      let state := { state with detector := state.detector.tick now }
      match state.detector.phase, state.glide with
      | .stopped _, _ => (e.putWheel source state).stopWheel source now
      | .ratchet, .gliding glide | .freeSpin, .gliding glide =>
        let (frame, state) := state.advanceGlide glide now
        (e.putWheel source state).emit (some source) frame.toList
      | .ratchet, _ | .freeSpin, _ => e.putWheel source state

def advanceGlides (e : ScrollEngine F) (now : Nat) : ScrollEngine F :=
  ((e.wheels.rows.filter fun row => row.2.glide.nextTick.isSome).map Prod.fst).foldl (advanceWheel now) e

/-- One due frame of an eased motion. -/
def advanceMotion (now : Nat) (e : ScrollEngine F) (source : ScrollSource) : ScrollEngine F :=
  match e.active.get? source with
  | none => e
  | some (_, motion) =>
    let (update, motion) := motion.advance now
    let active := if update.isFinished then e.active.erase source else e.active.insert (source, motion)
    { e with active := active }.emitUpdate source update (e.pixelsFor source)

def advanceSegments (e : ScrollEngine F) (now : Nat) : ScrollEngine F :=
  ((e.active.rows.filter fun row => row.2.nextFrame ≤ now).map Prod.fst).foldl (advanceMotion now) e

/-- Close the gesture once every phased source has been idle past its deadline. -/
def endIdlePhased (e : ScrollEngine F) (now : Nat) : ScrollEngine F :=
  let before := e.phased.rows.length
  let e := { e with phased := e.phased.filter fun row => now < row.2 }
  if e.phased.rows.length ≠ before && e.streamIdle then e.onStream none (e.output.finish .zero true) else e

/-- One tick at once inside a phased gesture; the idle deadline is pushed back. -/
def phasedImpulse (e : ScrollEngine F) (source : ScrollSource) (impulse : WheelDelta F) (now : Nat) : ScrollEngine F :=
  let e := e.endIdlePhased now
  let e := e.onStream (some source) (e.output.progress impulse true)
  { e with phased := e.phased.insert (source, now + phasedIdle) }

def advanceDue (e : ScrollEngine F) (now : Nat) : ScrollEngine F :=
  ((e.endIdlePhased now).advanceGlides now).advanceSegments now

/-! ## Cancelling -/

def cancelWhere (e : ScrollEngine F) (cancelled : ScrollSource → Bool) : ScrollEngine F :=
  let before := (e.active.rows.length, e.phased.rows.length)
  let e := { e with
    wheels := e.wheels.filter fun row => !cancelled row.1
    active := e.active.filter fun row => !cancelled row.1
    phased := e.phased.filter fun row => !cancelled row.1 }
  let removed : Bool := (e.active.rows.length, e.phased.rows.length) ≠ before
  if removed && e.streamIdle then e.onStream none e.output.cancel else e

def cancelSource (e : ScrollEngine F) (source : ScrollSource) : ScrollEngine F := e.cancelWhere fun own => own = source

/-- Cancel both wheels of a HID++ session. -/
def cancelSession (e : ScrollEngine F) (session : HidppSessionId) : ScrollEngine F :=
  e.cancelWhere fun own => own.inSession session

def cancelAll (e : ScrollEngine F) : ScrollEngine F :=
  { e with wheels := .empty _, active := .empty _, phased := .empty _ }.onStream none e.output.cancel

end ScrollEngine

/-! ## The machine -/

inductive Op (F : Type) [F64 F] where
  | wheelImpulse (source : ScrollSource) (impulse : WheelDelta F) (notches : F) (momentum : Option (MomentumParams F))
    (now : Nat)
  | impulse (source : ScrollSource) (impulse : WheelDelta F) (now : Nat)
  | phasedImpulse (source : ScrollSource) (impulse : WheelDelta F) (now : Nat)
  | endIdlePhased (now : Nat)
  | advanceDue (now : Nat)
  | cancelSource (source : ScrollSource)
  | cancelSession (session : HidppSessionId)
  | cancelAll
  /-- The hash maps iterate in another order from now on. -/
  | rehash (active wheels : List ScrollSource)

/-- One operation of the engine, or a change of the order in which its maps are iterated. -/
def step (e : ScrollEngine F) : Op F → Option (ScrollEngine F)
  | .wheelImpulse source impulse notches momentum now => some (e.wheelImpulse source impulse notches momentum now)
  | .impulse source impulse now => some (e.impulse source impulse now)
  | .phasedImpulse source impulse now => some (e.phasedImpulse source impulse now)
  | .endIdlePhased now => some (e.endIdlePhased now)
  | .advanceDue now => some (e.advanceDue now)
  | .cancelSource source => some (e.cancelSource source)
  | .cancelSession session => some (e.cancelSession session)
  | .cancelAll => some e.cancelAll
  | .rehash active wheels =>
    if h : active.Perm (e.active.rows.map Prod.fst) ∧ wheels.Perm (e.wheels.rows.map Prod.fst) then
      some { e with active := e.active.reorder active h.1, wheels := e.wheels.reorder wheels h.2 }
    else none

end Scroll
end OpenLogi
