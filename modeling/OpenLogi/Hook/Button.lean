import OpenLogi.Hook.Maps
import OpenLogi.Lib.Run
/-!
# Button — the button path of one hook thread

`handleButton` and the state of one callback thread that it reads: the gesture hold, the presses it has suppressed and
the presses it has judged against a diversion.  An edge comes with what the callback reads on the way: the maps, or
`none` where a rebuild holds the lock, and the dispatcher's answer to a down.
-/
namespace OpenLogi
namespace Hook

open OpenLogi.Core (Action Binding ButtonId GestureDirection SwipeAccumulator)
open Button (ActionDispatchTarget PressToken)

inductive EventDisposition where
  | passThrough
  | suppress
  deriving DecidableEq

/-- Both edges of a diverted press get the same disposition. -/
def DivertedPress.disposition : DivertedPress → EventDisposition
  | .echo => .suppress
  | .otherDevice => .passThrough

/-! ## The gesture hold -/

def holdStaleAfter : Nat := 10000000000

structure GestureHold where
  button : ButtonId
  startedAt : Nat
  press : PressToken

structure HoldState where
  current : Option GestureHold := none
  swipe : SwipeAccumulator := {}

inductive HoldAdmission where
  | begin
  | replace (press : PressToken)
  | refuse

namespace HoldState

/-- The hold is of `button`. -/
def holds (s : HoldState) (button : ButtonId) : Bool := s.current.any fun held => held.button = button

/-- The first live hold wins; a press of the held button and a stale hold mean that its release was lost. -/
def prepareBegin (s : HoldState) (button : ButtonId) (now : Nat) : HoldAdmission × HoldState :=
  match s.current with
  | none => (.begin, s)
  | some held =>
    if held.button ≠ button ∧ now - held.startedAt < holdStaleAfter then (.refuse, s)
    else (if held.button = button then .begin else .replace held.press, ⟨none, s.swipe.ended.2⟩)

def begin (button : ButtonId) (press : PressToken) (now : Nat) : HoldState :=
  ⟨some ⟨button, now, press⟩, .begin now⟩

def accumulate (s : HoldState) (dx dy : Int) (now later : Nat) :
    Option (PressToken × ButtonId × GestureDirection) × HoldState :=
  match s.current with
  | none => (none, s)
  | some held =>
    let (dir, swipe) := s.swipe.accumulate dx dy now later
    (dir.map fun dir => (held.press, held.button, dir), { s with swipe := swipe })

/-- The end of the hold of `button`, and whether it was a click. -/
def ended (s : HoldState) (button : ButtonId) : Option (PressToken × Bool) × HoldState :=
  match s.current with
  | none => (none, s)
  | some held =>
    if held.button = button then (some (held.press, s.swipe.ended.1), ⟨none, s.swipe.ended.2⟩) else (none, s)

def cancel (s : HoldState) : HoldState := ⟨none, s.swipe.ended.2⟩

end HoldState

/-! ## The thread -/

/-- What one callback thread keeps between events. -/
structure ThreadState where
  hold : HoldState := {}
  suppressedPresses : Finset ButtonId := ∅
  divertedPresses : ButtonId → Option DivertedPress := fun _ => none

inductive DispatcherCall where
  | cancelStaleHookPress (press : PressToken)
  | tryHookButtonDown (button : ButtonId) (binding : Option Binding) (target : ActionDispatchTarget)
  | tryDispatchWhilePressed (press : PressToken) (action : Action)
  | tryHookButtonUp (button : ButtonId)
  | cancelHookThreadButtons

/-- One edge of a button.  The maps are read twice; `accepted` is the token of a down that the dispatcher takes. -/
structure ButtonEdge where
  id : ButtonId
  pressed : Bool
  device : Option EventDevice := none
  maps : Option HookMaps := none
  mapsLater : Option HookMaps := none
  captureSafariPid : Option Int := none
  accepted : Option PressToken := none
  now : Nat := 0

/-- A press takes the verdict and remembers it; a release takes what its press was given. -/
def divertedEdge (id : ButtonId) (pressed : Bool) (verdict : Option DivertedPress)
    (judged : ButtonId → Option DivertedPress) : Option DivertedPress × (ButtonId → Option DivertedPress) :=
  if pressed then (verdict, Function.update judged id verdict) else (judged id, Function.update judged id none)

def remappedPressDisposition (id : ButtonId) (queued : Bool) (suppressed : Finset ButtonId) :
    EventDisposition × Finset ButtonId :=
  if queued then (.suppress, insert id suppressed) else (.passThrough, suppressed.erase id)

def remappedReleaseDisposition (id : ButtonId) (suppressed : Finset ButtonId) : EventDisposition × Finset ButtonId :=
  if id ∈ suppressed then (.suppress, suppressed.erase id) else (.passThrough, suppressed)

namespace ThreadState

/-- The disposition of a press that may not start a hold, remembered for its release. -/
def remapPress (s : ThreadState) (id : ButtonId) (queued : Bool) : EventDisposition × ThreadState :=
  let (disposition, suppressed) := remappedPressDisposition id queued s.suppressedPresses
  (disposition, { s with suppressedPresses := suppressed })

/-- A press that starts no hold: its binding's single action, or native. -/
def handleSingle (s : ThreadState) (e : ButtonEdge) (binding : Option Binding) (target : ActionDispatchTarget) :
    EventDisposition × List DispatcherCall × ThreadState :=
  match binding with
  | none => ((s.remapPress e.id false).1, [], (s.remapPress e.id false).2)
  | some binding =>
    if bindingIsNativeClick e.id binding then ((s.remapPress e.id false).1, [], (s.remapPress e.id false).2)
    else
      ((s.remapPress e.id e.accepted.isSome).1, [.tryHookButtonDown e.id (some binding) target],
        (s.remapPress e.id e.accepted.isSome).2)

/-- A press of a gesture button that the hold admits. -/
def handleHold (s : ThreadState) (e : ButtonEdge) (stale : List DispatcherCall) (target : ActionDispatchTarget) :
    EventDisposition × List DispatcherCall × ThreadState :=
  let calls := stale ++ [.tryHookButtonDown e.id none target]
  match e.accepted with
  | some press => (.suppress, calls, { s with hold := .begin e.id press e.now })
  | none => ((s.remapPress e.id false).1, calls, (s.remapPress e.id false).2)

def handlePress (s : ThreadState) (e : ButtonEdge) : EventDisposition × List DispatcherCall × ThreadState :=
  let (binding, isGesture) := match e.maps with
    | some maps => maps.pressBinding e.id
    | none => (none, false)
  let target := forPointer (e.maps.bind fun maps => maps.pointerPress e.id) e.captureSafariPid
  if isGesture then
    let (admission, hold) := s.hold.prepareBegin e.id e.now
    let s := { s with hold := hold }
    match admission with
    | .begin => s.handleHold e [] target
    | .replace stale => s.handleHold e [.cancelStaleHookPress stale] target
    | .refuse => s.handleSingle e binding target
  else s.handleSingle e binding target

def handleRelease (s : ThreadState) (e : ButtonEdge) : EventDisposition × List DispatcherCall × ThreadState :=
  match s.hold.ended e.id with
  | (some (press, wasClick), hold) =>
    let click := if wasClick then
      (e.mapsLater.map fun maps => DispatcherCall.tryDispatchWhilePressed press
        (resolveGestureClick maps.gestures e.id)).toList
    else []
    (.suppress, click ++ [.tryHookButtonUp e.id], { s with hold := hold })
  | (none, hold) =>
    let (disposition, suppressed) := remappedReleaseDisposition e.id s.suppressedPresses
    (disposition, if disposition = .suppress then [.tryHookButtonUp e.id] else [],
      { s with hold := hold, suppressedPresses := suppressed })

/-- The remap path of the OS-hook buttons; `macos` is the platform. -/
def handleButton (macos : Bool) (s : ThreadState) (e : ButtonEdge) :
    EventDisposition × List DispatcherCall × ThreadState :=
  if !e.id.isOsHookButton || !buttonSourceMayRemap macos e.device then (.passThrough, [], s)
  else
    let verdict := e.maps.bind fun maps => maps.divertedPress e.id e.device
    let (diverted, judged) := divertedEdge e.id e.pressed verdict s.divertedPresses
    let s := { s with divertedPresses := judged }
    match diverted with
    | some diverted => (diverted.disposition, [], s)
    | none => if e.pressed then s.handlePress e else s.handleRelease e

/-- Motion feeds the hold and always passes. -/
def handleMoved (s : ThreadState) (dx dy : Int) (maps : Option HookMaps) (now later : Nat) :
    List DispatcherCall × ThreadState :=
  let (commit, hold) := s.hold.accumulate dx dy now later
  let calls := match commit, maps with
    | some (press, button, dir), some maps =>
      [.tryDispatchWhilePressed press
        (((maps.gestures button).bind fun directions => directions dir).getD
          (resolveGestureClick maps.gestures button))]
    | _, _ => []
  (calls, { s with hold := hold })

end ThreadState

/-! ## The machine -/

/-- An edge that the hook has answered. -/
structure Answer where
  id : ButtonId
  pressed : Bool
  disposition : EventDisposition
  deriving DecidableEq

structure Sys where
  thread : ThreadState := {}
  calls : List DispatcherCall := []
  /-- The edges answered, the latest first. -/
  answers : List Answer := []

inductive Ev where
  | button (edge : ButtonEdge)
  | moved (dx dy : Int) (maps : Option HookMaps) (now later : Nat)
  | captureInterrupted

/-- One event of the callback, whatever the configuration and the dispatcher are by then. -/
def step (macos : Bool) (s : Sys) : Ev → Option Sys
  | .button e =>
    let (disposition, calls, thread) := s.thread.handleButton macos e
    some ⟨thread, s.calls ++ calls, ⟨e.id, e.pressed, disposition⟩ :: s.answers⟩
  | .moved dx dy maps now later =>
    let (calls, thread) := s.thread.handleMoved dx dy maps now later
    some { s with thread := thread, calls := s.calls ++ calls }
  | .captureInterrupted =>
    some { s with
      thread := { s.thread with hold := s.thread.hold.cancel }
      calls := s.calls ++ [.cancelHookThreadButtons] }

end Hook
end OpenLogi
