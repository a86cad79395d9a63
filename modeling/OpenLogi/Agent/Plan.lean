import OpenLogi.Agent.Bindings
import OpenLogi.Capture.Manager
import OpenLogi.Hook.Maps
import OpenLogi.Session.Accum
import OpenLogi.Session.Keys
/-!
# Plan — what the capture session of one device diverts

A plan names the controls by the arm of the session that takes them: plain presses, raw motion, the main wheel.  The
session restores what it diverts, so that a control two arms name is restored to what the other one wrote.
-/
namespace OpenLogi
namespace Agent

open OpenLogi.Core
open Capture (CaptureTarget)
open Hid (DeviceRoute)
open Session (ButtonMap gestureSourceButtons)

/-! ## Tables -/

def divertableStandardButtons : List (UInt16 × ButtonId) :=
  [(0x0052, .middleClick), (0x0053, .back), (0x00bd, .back), (0x00ce, .back), (0x00db, .back), (0x0056, .forward),
    (0x00cf, .forward), (0x005b, .wheelTiltLeft), (0x005d, .wheelTiltRight)]

def dpiModeShiftCids : List UInt16 := [0x00c4, 0x00ed, 0x00fd]

/-! ## A plan -/

structure MainWheelDivert where
  resolution : Option ScrollResolution
  inverted : Option Bool
  highResolution : Bool
  deriving DecidableEq

inductive SlotRoute where
  | native
  | captured
  deriving DecidableEq

structure HostMode where
  slots : List (ButtonId × SlotRoute)
  reportRate : Option Nat
  deriving DecidableEq

inductive OnboardTarget where
  | host (mode : HostMode)
  | profile (index : UInt8)
  deriving DecidableEq

structure CaptureSpec where
  captureThumbwheel : Bool
  divertGestureSources : List UInt16
  divertGestureButtons : List (UInt16 × ButtonId)
  divertButtons : List (UInt16 × ButtonId)
  divertWheelButtons : List (UInt16 × ButtonId)
  divertMainWheel : Option MainWheelDivert
  onboard : Option OnboardTarget
  deriving DecidableEq

/-- What resolves an input of a session. -/
structure Dispatch where
  bindings : ButtonId → Option Binding
  gestureBindings : ButtonId → Option (GestureDirection → Option Action)
  sideGestureBindings : ButtonId → Option (GestureDirection → Option Action)
  thumbwheelSensitivity : Nat
  invertWheel : Bool
  momentum : MomentumScrolling
  shiftBindings : ButtonId → Option Binding

abbrev DispatchPlan := Capture.DispatchPlan Dispatch (Option Hook.PointerSelection)

structure DeviceCapturePlan where
  target : CaptureTarget CaptureSpec
  dispatch : DispatchPlan

/-- The device a plan is built for. -/
structure PlanDevice where
  physicalKey : PhysicalDeviceKey
  configKey : String
  route : DeviceRoute
  layout : Option GamingLayout

/-! ## The divert sets -/

section
variable (config : Config) (c : Context) (osMouseHookAvailable : Bool)

def divertGestureButtons : List (UInt16 × ButtonId) :=
  (if osMouseHookAvailable then
    divertableStandardButtons.filter fun p => (config.hidppSideGestureMapsFor c p.2).isSome else []) ++
  if (config.hidppGestureMapsFor c .dpiToggle).isSome then dpiModeShiftCids.map fun cid => (cid, .dpiToggle) else []

/-- Back and Forward hold the wheel only while the agent may post what it scrolls. -/
def divertWheelButtons : List (UInt16 × ButtonId) :=
  if osMouseHookAvailable && config.appSettings.captureMouseEvents then
    divertableStandardButtons.filter fun p =>
      p.2.supportsWheelHold && ((config.buttonBindingsFor c).get p.2).any Binding.isWheelHold
  else []

/-- Whether a binding needs the plain press of its button. -/
def needsPress (button : ButtonId) (binding : Binding) : Bool :=
  -- both decide on release whether the click runs
  if binding.settlesOnRelease then true
  -- a gesture source has no action of its own for the host
  else if gestureSourceButtons.any (fun p => p.2 = button) then binding.clickAction ≠ .none
  else binding.clickAction ≠ defaultBinding button

def divertButtons : List (UInt16 × ButtonId) :=
  ((divertableStandardButtons ++
    gestureSourceButtons.filter fun p => !(config.hidppGestureMapsFor c p.2).isSome).filter fun p =>
      (config.appSettings.captureMouseEvents || !p.2.isOsHookButton) && !(config.oshookGesturesFor c p.2).isSome &&
        !(divertWheelButtons config c osMouseHookAvailable).contains p &&
        ((config.buttonBindingsFor c).get p.2).any (needsPress p.2))

def divertGestureSources : List UInt16 :=
  (gestureSourceButtons.filter fun p => (config.hidppGestureMapsFor c p.2).isSome).map Prod.fst

def captureThumbwheel : Bool :=
  config.thumbwheelSensitivity c.key ≠ defaultSensitivity ||
    [ButtonId.thumbwheel, .thumbwheelScrollUp, .thumbwheelScrollDown].any fun button =>
      ((config.buttonBindingsFor c).get button).any fun binding => binding.clickAction ≠ defaultBinding button

end

def planForDevice (config : Config) (platform : AppPlatform) (device : PlanDevice) (app : Option String)
    (rearmGeneration : Nat) (osMouseHookAvailable : Bool) : DeviceCapturePlan :=
  let c : Context := ⟨platform, device.configKey, app, device.layout⟩
  { target := {
      physicalKey := device.physicalKey
      route := device.route
      spec := {
        captureThumbwheel := captureThumbwheel config c
        divertGestureSources := divertGestureSources config c
        divertGestureButtons := divertGestureButtons config c osMouseHookAvailable
        divertButtons := divertButtons config c osMouseHookAvailable
        divertWheelButtons := divertWheelButtons config c osMouseHookAvailable
        divertMainWheel := none
        onboard := none }
      rearmGeneration := rearmGeneration }
    dispatch := {
      configKey := device.configKey
      bindings := {
        bindings := (config.buttonBindingsFor c).get
        gestureBindings := config.hidppGestureMapsFor c
        sideGestureBindings := config.hidppSideGestureMapsFor c
        thumbwheelSensitivity := config.thumbwheelSensitivity device.configKey
        invertWheel := false
        momentum := config.momentumScrolling device.configKey
        shiftBindings := config.shiftBindingsFor device.configKey }
      pointer := none } }

namespace DeviceCapturePlan

/-- Where host mode sends the presses of a slot. -/
def slotRoute (plan : DeviceCapturePlan) (config : Config) (layout : GamingLayout) (button : ButtonId) : SlotRoute :=
  let key := plan.dispatch.configKey
  let keepsGestures := ((config.storedBindings key).get button).any Binding.isGesture
  let mayCapture := config.appSettings.captureMouseEvents || !button.isOsHookButton
  if layout.needsHostMode button ||
      (config.usesGshift key && mayCapture && !keepsGestures && layout.remappable.contains button) ||
      plan.target.spec.divertButtons.any (fun p => p.2 = button) then .captured
  else .native

/-- The onboard mode that a device's settings need. -/
def onboardTarget (plan : DeviceCapturePlan) (config : Config) (layout : Option GamingLayout) : Option OnboardTarget :=
  match config.effectiveOnboardMemory plan.dispatch.configKey layout with
  | none => none
  | some (.profile index) => some (.profile index)
  | some .off => layout.map fun layout => .host {
      slots := layout.buttons.map fun button => (button, plan.slotRoute config layout button)
      reportRate := config.reportRate plan.dispatch.configKey }

def withOnboard (plan : DeviceCapturePlan) (config : Config) (layout : Option GamingLayout) : DeviceCapturePlan :=
  { plan with target := { plan.target with spec := { plan.target.spec with
      onboard := plan.onboardTarget config layout } } }

/-- Leave the controls in `owned` to another session on the same device. -/
def releaseControls (plan : DeviceCapturePlan) (owned : ButtonMap UInt16) : DeviceCapturePlan :=
  { plan with target := { plan.target with spec := { plan.target.spec with
      divertButtons := plan.target.spec.divertButtons.filter fun p => !owned.contains p.1
      divertGestureButtons := plan.target.spec.divertGestureButtons.filter fun p => !owned.contains p.1
      divertGestureSources := plan.target.spec.divertGestureSources.filter fun cid => !owned.contains cid
      divertWheelButtons := plan.target.spec.divertWheelButtons.filter fun p => !owned.contains p.1 } } }

end DeviceCapturePlan

/-- The capture plans, and the latest route of every device that is online. -/
structure CapturePublication where
  plans : List DeviceCapturePlan
  routes : Lib.Map PhysicalDeviceKey DeviceRoute

/-- The controls of a spec, one list for each arm of the session. -/
def CaptureSpec.divertSets (spec : CaptureSpec) : List (List UInt16) :=
  [spec.divertButtons.map Prod.fst, spec.divertGestureButtons.map Prod.fst, spec.divertGestureSources,
    spec.divertWheelButtons.map Prod.fst]

end Agent
end OpenLogi
