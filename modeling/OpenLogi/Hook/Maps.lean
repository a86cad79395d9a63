import OpenLogi.Button.Press
import OpenLogi.Core.Swipe
import OpenLogi.Hid.Route
/-!
# Maps — what the hook callback reads

The physical source of an event, the buttons that HID++ capture has diverted, and `HookMaps`, the snapshot that one
callback reads under one lock.
-/
namespace OpenLogi
namespace Hook

open OpenLogi.Core (Action Binding ButtonId GestureDirection defaultBinding)
open Button (ActionDispatchTarget FocusBinding PointerTarget)
open Hid (DeviceRoute)

/-! ## Sources -/

def logitechVendorId : Nat := 0x046d

structure EventDevice where
  vendorId : Option Nat
  productId : Option Nat
  productName : Option String
  deriving DecidableEq

/-- `to_ascii_lowercase`, as characters. -/
def asciiLowercase (text : String) : List Char := text.toList.map Char.toLower

namespace EventDevice

def isTrackpadLike (device : EventDevice) : Bool :=
  device.productName.any fun name => ["trackpad", "touchpad", "touch pad"].any fun word =>
    word.toList <:+: asciiLowercase name

def isLogitech (device : EventDevice) : Bool :=
  device.vendorId = some logitechVendorId || device.productName.any fun name =>
    "logitech".toList <:+: asciiLowercase name || "logi ".toList <+: asciiLowercase name

end EventDevice

def sourceIsRemappable : Option EventDevice → Bool
  | some device => !device.isTrackpadLike && device.isLogitech
  | none => false

/-- macOS has one global tap, so that an event without a source stays native there. -/
def buttonSourceMayRemap (macos : Bool) : Option EventDevice → Bool
  | some device => sourceIsRemappable (some device)
  | none => !macos

/-! ## Diverted buttons -/

structure DirectDevice where
  vendorId : UInt16
  productId : UInt16

namespace DirectDevice

def of : DeviceRoute → Option DirectDevice
  | .direct vendorId productId => some ⟨vendorId, productId⟩
  | _ => none

def isSourceOf (device : DirectDevice) (source : EventDevice) : Bool :=
  source.vendorId = some device.vendorId.toNat && source.productId = some device.productId.toNat

end DirectDevice

/-- The OS-hook buttons that the capture session of one epoch has diverted. -/
structure Diversion where
  epoch : Nat
  route : DeviceRoute
  buttons : Finset ButtonId

structure DivertedButtons where
  sessions : Lib.Table Diversion.epoch := .empty _

namespace DivertedButtons

def owns (diverted : DivertedButtons) (source : EventDevice) (button : ButtonId) : Bool :=
  diverted.sessions.rows.any fun diversion =>
    button ∈ diversion.buttons && (DirectDevice.of diversion.route).any (·.isSourceOf source)

def divertedOn (diverted : DivertedButtons) (route : DeviceRoute) (button : ButtonId) : Bool :=
  diverted.sessions.rows.any fun diversion => diversion.route = route && button ∈ diversion.buttons

end DivertedButtons

/-- Of a press that HID++ capture has taken over: the diverted device's own copy, or another device's press. -/
inductive DivertedPress where
  | echo
  | otherDevice
  deriving DecidableEq

/-! ## Pointer identity -/

structure PointerPress where
  target : PointerTarget
  focus : FocusBinding

structure PointerSelection where
  target : PointerTarget
  unlikeFocus : Finset ButtonId

namespace PointerSelection

def press (selection : PointerSelection) (button : ButtonId) : PointerPress :=
  ⟨selection.target, if button ∈ selection.unlikeFocus then .distinct else .shared⟩

def unscopedPress (selection : PointerSelection) : PointerPress := ⟨selection.target, .shared⟩

end PointerSelection

def forPointer (press : Option PointerPress) (captureSafariPid : Option Int) : ActionDispatchTarget :=
  let safariPid := match press with
    | none => captureSafariPid
    | some press => if press.target = .unavailable ∨ press.focus = .shared then captureSafariPid else none
  match press with
  | some press => .pointer press.target press.focus safariPid
  | none => match safariPid with
    | some pid => .safariProcess pid
    | none => .keyboard

/-! ## The snapshot -/

structure HookMaps where
  bindings : ButtonId → Option Binding := fun _ => none
  gestures : ButtonId → Option (GestureDirection → Option Action) := fun _ => none
  pointer : Option PointerSelection := none
  selectedDevice : Option String := none
  selectedRoute : Option DeviceRoute := none
  divertedButtons : DivertedButtons := {}
  shiftBindings : ButtonId → Option Binding := fun _ => none
  shiftHeld : Finset String := ∅

namespace HookMaps

/-- The binding of a held G-Shift layer, which replaces the device's own. -/
def shiftBinding (maps : HookMaps) (id : ButtonId) : Option Binding :=
  match maps.selectedDevice with
  | some device => if device ∈ maps.shiftHeld then maps.shiftBindings id else none
  | none => none

/-- The binding of a press, and whether it is a gesture button. -/
def pressBinding (maps : HookMaps) (id : ButtonId) : Option Binding × Bool :=
  match maps.shiftBinding id with
  | some binding => (some binding, false)
  | none => (maps.bindings id, (maps.gestures id).isSome)

def pointerPress (maps : HookMaps) (id : ButtonId) : Option PointerPress :=
  maps.pointer.map fun pointer =>
    if (maps.shiftBinding id).isSome then pointer.unscopedPress else pointer.press id

def divertedPress (maps : HookMaps) (id : ButtonId) : Option EventDevice → Option DivertedPress
  | some source => if maps.divertedButtons.owns source id then some .echo else none
  | none =>
    if maps.selectedRoute.any fun route => maps.divertedButtons.divertedOn route id then some .otherDevice else none

end HookMaps

def resolveGestureClick (gestures : ButtonId → Option (GestureDirection → Option Action)) (id : ButtonId) : Action :=
  ((gestures id).bind fun directions => directions .click).getD (defaultBinding id)

/-- The action is the button's own native event. -/
def isNativeClick : ButtonId → Action → Bool
  | .leftClick, .leftClick | .rightClick, .rightClick | .middleClick, .middleClick | .back, .mouseBack
  | .forward, .mouseForward => true
  | _, _ => false

/-- A long press always needs the runtime to time it. -/
def bindingIsNativeClick (id : ButtonId) : Binding → Bool
  | .longPress _ _ => false
  | binding => isNativeClick id binding.clickAction

end Hook
end OpenLogi
