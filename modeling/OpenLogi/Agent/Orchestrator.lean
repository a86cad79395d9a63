import OpenLogi.Agent.Plan
import OpenLogi.Config.Identity
import OpenLogi.Lights.Changes
import OpenLogi.Session.Divert
/-!
# Orchestrator — what the agent projects from its configuration and its devices

The maps of the OS hook, the scroll inversion, the capture plans and the keyboard specs, each computed from the
configuration, the device list, the application in front and the pointer.
-/
namespace OpenLogi
namespace Agent

open OpenLogi.Core
open Button (PointerTarget)
open OpenLogi.Flow (DeviceKind)
open Hid (DeviceRoute)
open Hook (HookMaps PointerSelection)
open Lib (Map)
open Session (ButtonMap GamingWanted isReservedKeyboardControl)

/-! ## Devices -/

structure Capabilities where
  buttons : Bool := false
  pointer : Bool := false
  lighting : Bool := false
  scrollInversion : Bool := false
  hiresWheel : Bool := false
  thumbwheel : Bool := false
  hapticFeedback : Bool := false
  hapticPanel : Bool := false
  dpiGestures : Bool := false
  fnLock : Bool := false
  osLayout : Bool := false
  reportRate : Bool := false
  backlight : Bool := false
  easySwitch : Bool := false
  virtualThumbwheel : Bool := false
  pointerScaling : Bool := false
  forceSensing : Bool := false
  disableKeys : Bool := false
  onboardProfiles : Bool := false
  buttonSpy : Bool := false
  sidetone : Bool := false
  gKeys : Bool := false
  mKeys : Bool := false
  macroRecord : Bool := false
  changeHost : Bool := false
  deriving DecidableEq

/-- A device with the gaming tables whose controls cannot be diverted. -/
def Capabilities.noButtonDiversion (c : Capabilities) : Bool := !c.buttons && (c.onboardProfiles || c.buttonSpy)

/-- Whether the device is a G-series mouse: `GamingButtons::for_device` has a verdict for it. -/
def isGSeries (modelKey : String) (capabilities : Option Capabilities) : Bool :=
  (GamingLayout.forModelKey modelKey).isSome || capabilities.any Capabilities.noButtonDiversion

def isKeyboardFamily (kind : DeviceKind) : Bool := kind = .keyboard || kind = .numpad

structure AgentDevice where
  configKey : String
  modelKey : String
  route : Option DeviceRoute
  slot : UInt8
  serial : Option String
  unitId : Flow.Bytes 4
  capabilities : Option Capabilities
  kind : DeviceKind
  lightCapabilities : Option Lights.LightCapabilities
  online : Bool
  deriving DecidableEq

namespace AgentDevice

def identity (dev : AgentDevice) : Core.DeviceIdentity := .fromParts dev.serial dev.unitId

def stableId (dev : AgentDevice) : DeviceStableId := .fromParts dev.route dev.slot dev.serial dev.unitId

def isHidppDevice (dev : AgentDevice) : Bool :=
  match dev.route with
  | some (.rawHid ..) => false
  | _ => true

/-- Physical key and route of a device that is online. -/
def captureIdentity (dev : AgentDevice) : Option (PhysicalDeviceKey × DeviceRoute) :=
  if dev.online then
    dev.route.bind fun route =>
      ((Config.canonicalDeviceKey dev.stableId (some dev.identity)).or (PhysicalDeviceKey.parse dev.configKey)).map
        fun key => (key, route)
  else none

end AgentDevice

/-- Index of the selected input device: the saved selection while it is online, or else the first one online. -/
def pickCurrent (devices : List AgentDevice) (saved : Option String) : Nat :=
  let saved := saved.bind fun key => devices.findIdx? fun device => device.configKey = key && device.isHidppDevice
  (((saved.filter fun i => devices[i]?.any AgentDevice.online).or
    (devices.findIdx? fun device => device.online && device.isHidppDevice)).or
    (saved.or (devices.findIdx? AgentDevice.isHidppDevice))).getD 0

/-! ## The wheel -/

section
variable (config : Config) (dev : AgentDevice)

/-- The configured wheel resolution and inversion, each where the device can take it. -/
def wheelSettings : Option (Option ScrollResolution × Option Bool) :=
  dev.capabilities.map fun capabilities =>
    let device := config.devices dev.configKey
    let routeKey := dev.stableId.routeKey
    (if capabilities.hiresWheel then device.bind fun d => d.effectiveScrollResolution routeKey else none,
      if capabilities.scrollInversion then some (device.any fun d => d.effectiveInvertScroll routeKey) else none)

/-- The divert of the main wheel that smooth scrolling needs. -/
def mainWheelDivert (osMouseHookAvailable : Bool) : Option MainWheelDivert :=
  if osMouseHookAvailable && config.appSettings.captureMouseEvents && config.deviceEnabled dev.configKey &&
      config.smoothWheel dev.configKey && dev.capabilities.any Capabilities.hiresWheel then
    (wheelSettings config dev).map fun (resolution, inverted) =>
      ⟨resolution, inverted, (config.momentumScrolling dev.configKey).enabled⟩
  else none

/-- Whether what the agent scrolls for the wheel of a device is reversed. -/
def wheelInverted : Bool :=
  match dev.capabilities with
  | some capabilities =>
    if capabilities.scrollInversion then
      (config.devices dev.configKey).any fun d => d.effectiveInvertScroll dev.stableId.routeKey
    else config.invertScroll dev.configKey
  | none => false

end

/-! ## Keyboards -/

/-- The keys a keyboard session diverts, those it refuses, and the grid keys it observes. -/
structure KeyboardDivertSet where
  wanted : ButtonMap UInt16
  reserved : List UInt16
  grid : ButtonMap UInt8

namespace KeyboardDivertSet

def capturesNothing (set : KeyboardDivertSet) : Bool := set.wanted.isEmpty && set.grid.isEmpty

/-- A stored control is diverted whatever it is bound to; a grid key is observed when it does something. -/
def add (set : KeyboardDivertSet) (button : ButtonId) (binding : Binding) : KeyboardDivertSet :=
  match button with
  | .grid slot =>
    if binding.keyAction.isSome then
      { set with grid := set.grid.insert slot.key.index (.grid ⟨KeypadPage.first, slot.key⟩) }
    else set
  | .control cid =>
    if isReservedKeyboardControl cid then { set with reserved := set.reserved ++ [cid] }
    else { set with wanted := set.wanted.insert cid (.control cid) }
  | _ => set

end KeyboardDivertSet

def keyboardDivertSet (bindings : List (ButtonId × Binding)) : KeyboardDivertSet :=
  bindings.foldl (fun set p => set.add p.1 p.2) ⟨∅, [], ∅⟩

/-- The bindings a keypad dispatches on a page: the page's slots, on their physical keys. -/
def bindingsOnPage (bindings : Map ButtonId Binding) (page : UInt8) (button : ButtonId) : Option Binding :=
  match button with
  | .grid slot => if slot.page = KeypadPage.first then bindings.get (.grid ⟨page, slot.key⟩) else none
  | button => bindings.get button

/-- M1–M3 select a profile. -/
def selectsProfile (key : ModeKey) : Bool := key ≠ .macroRecord

/-- What a session takes of the gaming cluster: nothing until the user hands it over. -/
def gamingWanted (config : Config) (dev : AgentDevice) : GamingWanted :=
  match dev.capabilities.filter Capabilities.gKeys with
  | some capabilities =>
    if config.gKeyOwner dev.configKey = .openLogi then
      let nineButtons := config.gamingKeyMode dev.configKey = .nineButtons
      { takeGRow := true
        modeKeys := fun key =>
          if selectsProfile key then capabilities.mKeys else capabilities.macroRecord && nineButtons }
    else {}
  | none => {}

structure KeyboardCandidate where
  dev : AgentDevice
  bindings : ButtonId → Option Binding
  divert : KeyboardDivertSet
  gaming : GamingWanted

/-- A keyboard that captures for the application in front goes first, then one that is online. -/
def KeyboardCandidate.rank (candidate : KeyboardCandidate) : Nat :=
  (if candidate.divert.capturesNothing && !candidate.gaming.takeGRow then 2 else 0) +
    if candidate.dev.online then 0 else 1

/-- The candidate takes its route, unless one there ranks as high. -/
def choose (entry : KeyboardCandidate × DeviceRoute) :
    List (KeyboardCandidate × DeviceRoute) → List (KeyboardCandidate × DeviceRoute)
  | [] => [entry]
  | taken :: rest =>
    if taken.2 = entry.2 then (if entry.1.rank < taken.1.rank then entry else taken) :: rest
    else taken :: choose entry rest

structure KeyboardSpec where
  configKey : String
  route : DeviceRoute
  wanted : ButtonMap UInt16
  grid : ButtonMap UInt8
  gaming : GamingWanted
  gamingMode : Config.GamingKeyMode
  bindings : ButtonId → Option Binding

/-! ## The state -/

structure ForegroundApp where
  id : String
  displayName : String
  deriving DecidableEq

structure PointerContext where
  app : Option ForegroundApp
  target : PointerTarget
  deriving DecidableEq

/-- What the projections read.  `platform` is what the agent was built for. -/
structure Orchestrator where
  platform : AppPlatform
  config : Config
  devices : List AgentDevice
  current : Nat
  currentApp : Option String
  pointerContext : PointerContext
  captureRouteGenerations : DeviceRoute → Option Nat
  keypadPages : String → Option UInt8
  osMouseHookAvailable : Bool

namespace Orchestrator

variable (o : Orchestrator)

def currentDevice : Option AgentDevice := o.devices[o.current]?.filter AgentDevice.isHidppDevice

def currentKey : Option String := o.currentDevice.map AgentDevice.configKey

/-- The application whose mouse profile applies, and the pointer target its presses are scoped to. -/
def mouseContext : Option String × Option PointerTarget :=
  let target := o.pointerContext.target
  if o.config.appSettings.mouseProfileTarget = .focused || target = .unsupported then (o.currentApp, none)
  else
    let app := if target = .unavailable then o.currentApp else o.pointerContext.app.map ForegroundApp.id
    (app, some target)

def pointerSelection (key app : Option String) (target : Option PointerTarget) : Option PointerSelection :=
  target.map fun target => ⟨target, o.config.buttonsUnlikeFocus o.platform key app o.currentApp⟩

/-- Whether the device of a key is a G-series mouse, whose gestures stay with the OS hook. -/
def isSpyOnly (key : String) : Bool :=
  (o.devices.find? fun dev => dev.configKey = key).any fun dev => isGSeries dev.modelKey dev.capabilities

/-- The buttons whose edges HID++ capture owns on macOS. -/
def leftToCapture (key : String) (c : Context) (button : ButtonId) : Bool :=
  o.platform = .macOs && !o.isSpyOnly key && (o.config.hidppSideGestureMapsFor c button).isSome &&
    button ≠ .middleClick

def hookMapsFor (selected : Option AgentDevice) : HookMaps :=
  match selected.map AgentDevice.configKey with
  | some key =>
    if !o.config.deviceEnabled key then {}
    else
      let (app, pointerTarget) := o.mouseContext
      let c : Context := ⟨o.platform, key, app, none⟩
      { bindings := fun button => if o.leftToCapture key c button then none else (o.config.buttonBindingsFor c).get button
        gestures := fun button => if o.leftToCapture key c button then none else o.config.oshookGesturesFor c button
        pointer := o.pointerSelection (some key) app pointerTarget
        selectedDevice := some key
        selectedRoute := selected.bind AgentDevice.route
        shiftBindings := o.config.shiftBindingsFor key }
  | none =>
    let (app, pointerTarget) := o.mouseContext
    { bindings := (Config.stockBindings none).get
      pointer := o.pointerSelection none app pointerTarget
      selectedRoute := selected.bind AgentDevice.route }

/-- Whether the hook reverses the wheel of the selected device: the setting, on a wheel that cannot do it. -/
def scrollInversion : Bool :=
  o.currentKey.any fun key =>
    o.config.deviceEnabled key && o.config.invertScroll key &&
      (o.devices.find? fun device => device.configKey = key).any fun device =>
        device.capabilities.any fun capabilities => !capabilities.scrollInversion

/-! ### Keyboard specs -/

def foregroundKeyBindings (key : String) : Map ButtonId Binding :=
  o.config.buttonBindingsFor ⟨o.platform, key, o.currentApp, none⟩

/-- The page a keypad is on: the last one turned to, while the configuration has it. -/
def keypadPage (key : String) : UInt8 :=
  ((o.keypadPages key).filter fun page => page ≤ o.config.keypadPages key).getD KeypadPage.first

def currentPageOf (key : String) (stored : Map ButtonId Binding) : ButtonId → Option Binding :=
  bindingsOnPage stored (o.keypadPage key)

/-- Whether a profile of the device, its own or an application's, binds a key that a session would take. -/
def bindsKeysInSomeProfile (key : String) : Bool :=
  !(keyboardDivertSet (o.config.buttonBindingsFor ⟨o.platform, key, none, none⟩).rows).capturesNothing ||
    (o.config.devices key).any fun d => d.perAppBindings.values.any fun overlay =>
      !(keyboardDivertSet (overlay.rows.map fun (button, action) => (button, .single action))).capturesNothing

/-- A keyboard that could hold the session of its route. -/
def keyboardCandidate (dev : AgentDevice) : Option (KeyboardCandidate × DeviceRoute) :=
  if isKeyboardFamily dev.kind && o.config.deviceEnabled dev.configKey then
    let gaming := gamingWanted o.config dev
    if !gaming.takeGRow && !o.bindsKeysInSomeProfile dev.configKey then none
    else
      dev.route.map fun route =>
        let stored := o.foregroundKeyBindings dev.configKey
        (⟨dev, o.currentPageOf dev.configKey stored, keyboardDivertSet stored.rows, gaming⟩, route)
  else none

def chosenKeyboards : List (KeyboardCandidate × DeviceRoute) :=
  (o.devices.filterMap o.keyboardCandidate).foldl (fun chosen entry => choose entry chosen) []

def keyboardSpecsFor : List KeyboardSpec :=
  o.chosenKeyboards.map fun (chosen, route) =>
    { configKey := chosen.dev.configKey
      route := route
      wanted := chosen.divert.wanted
      grid := chosen.divert.grid
      gaming := chosen.gaming
      gamingMode := o.config.gamingKeyMode chosen.dev.configKey
      bindings := chosen.bindings }

/-! ### Capture plans -/

/-- The application and the pointer target that the plan of a device is built for. -/
def planContext (dev : AgentDevice) : Option String × Option PointerTarget :=
  if isKeyboardFamily dev.kind then (o.currentApp, none) else o.mouseContext

/-- The plan of a device, before its route's keyboard session takes its controls. -/
def plan (dev : AgentDevice) (physicalKey : PhysicalDeviceKey) (route : DeviceRoute) : DeviceCapturePlan :=
  let (app, pointerTarget) := o.planContext dev
  let layout := GamingLayout.forModelKey dev.modelKey
  let plan := planForDevice o.config o.platform ⟨physicalKey, dev.configKey, route, layout⟩ app
    ((o.captureRouteGenerations route).getD 0) o.osMouseHookAvailable
  let plan : DeviceCapturePlan := {
    target := { plan.target with spec := { plan.target.spec with
      divertMainWheel := mainWheelDivert o.config dev o.osMouseHookAvailable } }
    dispatch := { plan.dispatch with
      bindings := { plan.dispatch.bindings with invertWheel := wheelInverted o.config dev }
      pointer := o.pointerSelection (some dev.configKey) app pointerTarget } }
  plan.withOnboard o.config layout

/-- Leave to the keyboard session of a plan's route what it diverts. -/
def release (keyboards : List KeyboardSpec) (plan : DeviceCapturePlan) : DeviceCapturePlan :=
  match keyboards.find? fun keyboard => keyboard.route = plan.target.route with
  | some keyboard => plan.releaseControls keyboard.wanted
  | none => plan

/-- The published plan of a device that is online, enabled and identified. -/
def devicePlan (keyboards : List KeyboardSpec) (dev : AgentDevice) : Option DeviceCapturePlan :=
  dev.captureIdentity.bind fun (physicalKey, route) =>
    if o.config.deviceEnabled dev.configKey then some (release keyboards (o.plan dev physicalKey route)) else none

def capturePublication : CapturePublication where
  plans := o.devices.filterMap (o.devicePlan o.keyboardSpecsFor)
  routes := o.devices.foldl (fun routes dev =>
    match dev.captureIdentity with
    | some (physicalKey, route) => if (routes.get physicalKey).isSome then routes else routes.put physicalKey route
    | none => routes) .empty

end Orchestrator

end Agent
end OpenLogi
