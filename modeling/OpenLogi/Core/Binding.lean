import Mathlib.Data.Finset.Basic
/-!
# Binding — buttons, actions and what a button does

The binding schema the runtime reads: the physical controls, the actions one can be bound to, and the shapes of a
binding.  A `BTreeMap` is a function to `Option`.
-/
namespace OpenLogi
namespace Core

/-! ## Controls -/

inductive GridKey where
  | topLeft | topMiddle | topRight | middleLeft | middle | middleRight | bottomLeft | bottomMiddle | bottomRight
  deriving DecidableEq

structure GridSlot where
  page : UInt8
  key : GridKey
  deriving DecidableEq

inductive GKeyProfile where
  | m1 | m2 | m3
  deriving DecidableEq

inductive GKey where
  | g1 | g2 | g3 | g4 | g5
  deriving DecidableEq

structure GKeySlot where
  profile : GKeyProfile
  key : GKey
  deriving DecidableEq

inductive ModeKey where
  | m1 | m2 | m3 | macroRecord
  deriving DecidableEq

inductive ButtonId where
  | leftClick | rightClick | middleClick | back | forward
  | dpiToggle
  | thumbwheel | thumbwheelScrollUp | thumbwheelScrollDown
  | gestureButton | hapticPanel
  | wheelTiltLeft | wheelTiltRight
  | g6 | g7 | g8 | g9
  | grid (slot : GridSlot)
  | control (cid : UInt16)
  | gKey (slot : GKeySlot)
  | modeKey (key : ModeKey)
  deriving DecidableEq

def ButtonId.isOsHookButton : ButtonId → Bool
  | .middleClick | .back | .forward => true
  | _ => false

inductive GestureDirection where
  | up | down | left | right | click
  deriving DecidableEq

/-! ## Actions -/

structure KeyCombo where
  modifiers : UInt8
  key : UInt8
  deriving DecidableEq

structure ApplicationTarget where
  path : String
  displayName : String
  deriving DecidableEq

inductive WorkflowStep where
  | typeText (text : String)
  | pressKey (combo : KeyCombo)
  | delay (millis : Nat)
  | runAppleScript (script : String)
  | runShellCommand (command : String)
  deriving DecidableEq

inductive Action where
  | none
  | leftClick | rightClick | middleClick | mouseBack | mouseForward
  | copy | paste | cut | undo | redo | selectAll | find | save
  | browserBack | browserForward | newTab | closeTab | reopenTab | nextTab | prevTab | reloadPage
  | missionControl | appExpose | previousDesktop | nextDesktop | showDesktop | launchpadShow
  | lockScreen | screenshot | captureRegion
  | playPause | nextTrack | prevTrack | volumeUp | volumeDown | muteVolume
  | cycleDpiPresets | setDpiPreset (index : UInt8) | toggleSmartShift
  | scrollUp | scrollDown | horizontalScrollLeft | horizontalScrollRight
  | customShortcut (combo : KeyCombo)
  | sleep
  | typeText (text : String)
  | runAppleScript (script : String)
  | runShellCommand (command : String)
  | workflow (steps : List WorkflowStep)
  | showActionsRing
  | openApplication (target : ApplicationTarget)
  | holdShortcut (combo : KeyCombo)
  | tapKeyHoldingModifiers (combo : KeyCombo)
  | togglePrecisionMode | nextDpiPreset | previousDpiPreset | dpiShift | gShift | previousKeypadPage | nextKeypadPage
  deriving DecidableEq

def defaultBinding : ButtonId → Action
  | .leftClick => .leftClick
  | .rightClick => .rightClick
  | .middleClick => .middleClick
  | .wheelTiltLeft => .horizontalScrollLeft
  | .wheelTiltRight => .horizontalScrollRight
  | .back => .mouseBack
  | .forward => .mouseForward
  | .dpiToggle => .cycleDpiPresets
  | .thumbwheel => .none
  | .thumbwheelScrollUp => .horizontalScrollLeft
  | .thumbwheelScrollDown => .horizontalScrollRight
  | .gestureButton => .missionControl
  | .hapticPanel => .showActionsRing
  | .g6 | .g7 | .g8 | .g9 => .none
  | .control _ | .grid _ | .gKey _ | .modeKey _ => .none

/-! ## Bindings -/

/-- How long a button must remain down before its long action fires, in nanoseconds. -/
def longPressThreshold : Nat := 500000000

inductive Binding where
  | single (action : Action)
  | gesture (directions : GestureDirection → Option Action)
  | longPress (short long : Action)
  | wheelHold (click : Action)

/-- The plain-click action of a binding; nothing where a gesture binding has no click. -/
def Binding.clickAction : Binding → Action
  | .single action => action
  | .gesture directions => (directions .click).getD .none
  | .longPress short _ => short
  | .wheelHold click => click

end Core
end OpenLogi
