import OpenLogi.Core.Binding
/-!
# Gaming — button layouts of G-series mice, and the defaults of a button

The `0x8110` slots of the models that were dumped, and what a button does before the user binds it.
-/
namespace OpenLogi
namespace Core

/-- One slot; `hostSilent` says that it sends nothing in host mode unless captured. -/
structure Slot where
  button : ButtonId
  hostSilent : Bool
  stock : Option Action
  deriving DecidableEq

namespace Slot

def native (button : ButtonId) : Slot := ⟨button, false, none⟩

def silent (button : ButtonId) : Slot := ⟨button, true, none⟩

def stocked (button : ButtonId) (stock : Action) : Slot := ⟨button, true, some stock⟩

end Slot

structure GamingLayout where
  modelKeys : List String
  slots : List Slot
  stockDpiPresets : List Nat
  deriving DecidableEq

def g502Lightspeed : GamingLayout where
  modelKeys := ["0407f", "1407f", "2407f"]
  slots := [.native .leftClick, .native .rightClick, .native .middleClick, .native .back, .native .forward,
    .stocked .g6 .dpiShift, .stocked .g7 .previousDpiPreset, .stocked .g8 .nextDpiPreset, .stocked .g9 .none,
    .silent .wheelTiltRight, .silent .wheelTiltLeft]
  stockDpiPresets := [400, 800, 1600, 3200, 6400]

def g903Lightspeed : GamingLayout where
  modelKeys := ["04087"]
  slots := [.native .leftClick, .native .rightClick, .native .middleClick, .native .back, .native .forward,
    .stocked .g6 .mouseBack, .stocked .g7 .mouseForward, .stocked .g8 .previousDpiPreset, .stocked .g9 .nextDpiPreset,
    .silent .wheelTiltLeft, .silent .wheelTiltRight]
  stockDpiPresets := [400, 800, 1600, 3200, 6400]

namespace GamingLayout

def layouts : List GamingLayout := [g502Lightspeed, g903Lightspeed]

def forModelKey (modelKey : String) : Option GamingLayout :=
  layouts.find? fun layout => layout.modelKeys.contains modelKey

def slot (layout : GamingLayout) (button : ButtonId) : Option Slot :=
  layout.slots.find? fun slot => slot.button = button

def buttons (layout : GamingLayout) : List ButtonId := layout.slots.map Slot.button

/-- Every slot but the primary clicks. -/
def remappable (layout : GamingLayout) : List ButtonId :=
  layout.buttons.filter fun b => b ≠ .leftClick && b ≠ .rightClick

def needsHostMode (layout : GamingLayout) (button : ButtonId) : Bool := (layout.slot button).any Slot.hostSilent

def stockAction (layout : GamingLayout) (button : ButtonId) : Option Action := (layout.slot button).bind Slot.stock

end GamingLayout

/-! ## Defaults -/

def defaultBindingOn (layout : Option GamingLayout) (button : ButtonId) : Action :=
  (layout.bind fun layout => layout.stockAction button).getD (defaultBinding button)

def GestureDirection.all : List GestureDirection := [.up, .down, .left, .right, .click]

def defaultGestureBinding : GestureDirection → Action
  | .up => .missionControl
  | .down => .showDesktop
  | .left => .prevTab
  | .right => .nextTab
  | .click => .appExpose

def defaultBindingFor : ButtonId → Binding
  | .gestureButton => .gesture fun direction => some (defaultGestureBinding direction)
  | other => .single (defaultBinding other)

namespace Binding

def isGesture : Binding → Bool
  | .gesture _ => true
  | _ => false

def isWheelHold : Binding → Bool
  | .wheelHold _ => true
  | _ => false

/-- Whether the press holds the G-Shift layer. -/
def isGshift : Binding → Bool
  | .single .gShift => true
  | _ => false

/-- What the button runs is decided by its release. -/
def settlesOnRelease : Binding → Bool
  | .longPress _ _ | .wheelHold _ => true
  | _ => false

/-- The action of a key bound so, or none when the key does nothing. -/
def keyAction : Binding → Option Action
  | .longPress short long => some (if short = .none then long else short)
  | binding => some binding.clickAction |>.filter (· ≠ .none)

/-- The direction map of a gesture binding, its unbound directions at their defaults. -/
def fillGestureDefaults : Binding → Binding
  | .gesture directions => .gesture fun direction => some ((directions direction).getD (defaultGestureBinding direction))
  | binding => binding

/-- A gesture binding keeps its map; any other becomes one, with its click action under the click. -/
def upgradeToGesture : Binding → Binding
  | .single action => .gesture (Function.update (fun _ => none) .click (some action))
  | .longPress short _ => .gesture (Function.update (fun _ => none) .click (some short))
  | .wheelHold click => .gesture (Function.update (fun _ => none) .click (some click))
  | .gesture directions => .gesture directions

/-- A gesture binding becomes the single action of its click, or `fallback` without one. -/
def demoteToSingle (fallback : Action) : Binding → Binding
  | .gesture directions => .single ((directions .click).getD fallback)
  | binding => binding

/-- The direction map of a gesture binding. -/
def directions? : Binding → Option (GestureDirection → Option Action)
  | .gesture directions => some directions
  | _ => none

theorem isGesture_iff {binding : Binding} : binding.isGesture = true ↔ ∃ directions, binding = .gesture directions := by
  cases binding with
  | gesture directions => exact iff_of_true rfl ⟨directions, rfl⟩
  | _ => exact iff_of_false Bool.false_ne_true fun ⟨_, h⟩ => nomatch h

theorem isGesture_demoteToSingle (fallback : Action) (binding : Binding) :
    (binding.demoteToSingle fallback).isGesture = false := by
  cases binding <;> rfl

end Binding

namespace ButtonId

def all : List ButtonId :=
  [.leftClick, .rightClick, .middleClick, .wheelTiltLeft, .wheelTiltRight, .back, .forward, .dpiToggle, .thumbwheel,
    .thumbwheelScrollUp, .thumbwheelScrollDown, .gestureButton, .hapticPanel]

def gButtons : List ButtonId := [.g6, .g7, .g8, .g9]

def isHidppGestureSource : ButtonId → Bool
  | .dpiToggle | .gestureButton | .hapticPanel => true
  | _ => false

def supportsWheelHold : ButtonId → Bool
  | .back | .forward => true
  | _ => false

def cid : ButtonId → Option UInt16
  | .control cid => some cid
  | _ => none

def gridSlot : ButtonId → Option GridSlot
  | .grid slot => some slot
  | _ => none

end ButtonId

/-- The number a keypad reports for a grid key. -/
def GridKey.index : GridKey → UInt8
  | .topLeft => 1
  | .topMiddle => 2
  | .topRight => 3
  | .middleLeft => 4
  | .middle => 5
  | .middleRight => 6
  | .bottomLeft => 7
  | .bottomMiddle => 8
  | .bottomRight => 9

/-! ## Equality -/

instance : DecidableEq (GestureDirection → Option Action) := fun f g =>
  decidable_of_iff (∀ d ∈ GestureDirection.all, f d = g d)
    ⟨fun h => funext fun d => h d (by cases d <;> decide), fun h d _ => congrFun h d⟩

deriving instance DecidableEq for Binding

end Core
end OpenLogi
