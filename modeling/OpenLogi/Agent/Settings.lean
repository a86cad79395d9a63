import OpenLogi.Config.Device
import OpenLogi.Core.Gaming
import OpenLogi.Lib.Table
/-!
# Settings — the configuration the agent projects

The settings that decide what is captured and what a button does, with the matching of a per-application profile.  A map
that is only looked up in is a function to `Option`.
-/
namespace OpenLogi
namespace Agent

open OpenLogi.Core
open Lib (Map)
open OpenLogi.Config (GKeyOwner GamingKeyMode)

/-! ## Applications -/

inductive AppPlatform where
  | macOs
  | linux
  | windows
  deriving DecidableEq

structure AppAlias where
  macos : List String := []
  linux : List String := []
  windows : List String := []
  deriving DecidableEq

def AppAlias.identifiers (app : AppAlias) : AppPlatform → List String
  | .macOs => app.macos
  | .linux => app.linux
  | .windows => app.windows

/-- The alias table, in the order of its names. -/
abbrev AppAliases := List (String × AppAlias)

/-- The alias that lists an identifier. -/
def AppAliases.claiming (aliases : AppAliases) (platform : AppPlatform) (identifier : String) : Option String :=
  (aliases.find? fun (_, app) => (app.identifiers platform).contains identifier).map Prod.fst

/-- The characters after the last of those that satisfy `p`. -/
def afterLast (p : Char → Bool) : List Char → Option (List Char)
  | [] => none
  | c :: rest => (afterLast p rest).or (if p c then some rest else none)

/-- The `exe:<filename>` of a Windows executable path. -/
def executableSelector (app : String) : Option String :=
  (afterLast (fun c => c = '\\' || c = '/') app.toList).bind fun name =>
    match afterLast (· = '.') name with
    | some extension =>
      if extension.map Char.toLower = "exe".toList && extension.length + 1 < name.length then
        some ("exe:" ++ String.ofList (name.map Char.toLower))
      else none
    | none => none

/-- The most specific entry for an application: its own, its executable's, then its alias's. -/
def overlayFor {α : Type} (overlays : String → Option α) (aliases : AppAliases) (platform : AppPlatform) (app : String) :
    Option α :=
  let selectors := app :: (executableSelector app).toList
  (selectors.findSome? overlays).or <| selectors.findSome? fun selector =>
    (aliases.claiming platform selector).bind fun name => overlays ("app:" ++ name)

/-! ## Settings -/

inductive ScrollResolution where
  | low
  | high
  deriving DecidableEq

inductive OnboardMemory where
  | off
  | profile (index : UInt8)
  deriving DecidableEq

inductive GlideShape where
  | sharp | linear | smooth | floaty
  deriving DecidableEq

structure MomentumScrolling where
  enabled : Bool
  pixelsPerNotch : Nat
  glideShape : GlideShape
  maxGlideSpeed : Nat
  glideMs : Nat
  repeatBoost : Nat
  deriving DecidableEq

inductive MouseProfileTarget where
  | pointer
  | focused
  deriving DecidableEq

structure AppSettings where
  captureMouseEvents : Bool
  thumbwheelSensitivity : Nat
  momentumScrolling : MomentumScrolling
  mouseProfileTarget : MouseProfileTarget

/-- `ThumbwheelSensitivity::DEFAULT`. -/
def defaultSensitivity : Nat := 14

structure LinkOverrides where
  dpi : Option Nat := none
  invertScroll : Option Bool := none
  scrollResolution : Option ScrollResolution := none

/-- The page a keypad starts on, and its only one until the user adds more. -/
def KeypadPage.first : UInt8 := 1

structure DeviceSettings where
  enabled : Bool := true
  bindings : Map ButtonId Binding := .empty
  perAppBindings : Map String (Map ButtonId Action) := .empty
  overrides : String → Option LinkOverrides := fun _ => none
  dpi : Option Nat := none
  dpiPresets : List Nat := []
  thumbwheelSensitivity : Option Nat := none
  momentumScrolling : Option MomentumScrolling := none
  invertScroll : Bool := false
  scrollResolution : Option ScrollResolution := none
  smoothWheel : Bool := false
  fnLock : Option Bool := none
  reportRate : Option Nat := none
  pointerSpeed : Option Nat := none
  onboardMemory : Option OnboardMemory := none
  gshiftBindings : Map ButtonId Action := .empty
  keypadPages : UInt8 := KeypadPage.first
  gKeyOwner : GKeyOwner := .keyboard
  gamingKeyMode : GamingKeyMode := .profiles

namespace DeviceSettings

def effectiveDpi (d : DeviceSettings) (routeKey : String) : Option Nat :=
  ((d.overrides routeKey).bind LinkOverrides.dpi).or d.dpi

def effectiveInvertScroll (d : DeviceSettings) (routeKey : String) : Bool :=
  ((d.overrides routeKey).bind LinkOverrides.invertScroll).getD d.invertScroll

def effectiveScrollResolution (d : DeviceSettings) (routeKey : String) : Option ScrollResolution :=
  ((d.overrides routeKey).bind LinkOverrides.scrollResolution).or d.scrollResolution

/-- Whether a button of the device can hold the G-Shift layer, or the layer has bindings. -/
def usesGshift (d : DeviceSettings) : Bool :=
  !d.gshiftBindings.rows.isEmpty || d.bindings.values.any Binding.isGshift ||
    d.perAppBindings.values.any fun overlay => overlay.values.any (· = .gShift)

/-- The bindings for an application: an override replaces a whole button. -/
def effectiveBindings (d : DeviceSettings) (aliases : AppAliases) (platform : AppPlatform) (app : Option String) :
    Map ButtonId Binding :=
  match app.bind (overlayFor d.perAppBindings.get aliases platform) with
  | some overlay => overlay.rows.foldr (fun (button, action) out => out.put button (.single action)) d.bindings
  | none => d.bindings

end DeviceSettings

structure Config where
  appSettings : AppSettings
  apps : AppAliases := []
  selectedDevice : Option String := none
  devices : String → Option DeviceSettings

namespace Config

def deviceEnabled (config : Config) (key : String) : Bool := (config.devices key).all DeviceSettings.enabled

def effectiveBindings (config : Config) (platform : AppPlatform) (key : String) (app : Option String) :
    Map ButtonId Binding :=
  ((config.devices key).map fun d => d.effectiveBindings config.apps platform app).getD .empty

def storedBindings (config : Config) (key : String) : Map ButtonId Binding :=
  ((config.devices key).map DeviceSettings.bindings).getD .empty

def keypadPages (config : Config) (key : String) : UInt8 :=
  ((config.devices key).map DeviceSettings.keypadPages).getD KeypadPage.first

def thumbwheelSensitivity (config : Config) (key : String) : Nat :=
  ((config.devices key).bind DeviceSettings.thumbwheelSensitivity).getD config.appSettings.thumbwheelSensitivity

def momentumScrolling (config : Config) (key : String) : MomentumScrolling :=
  ((config.devices key).bind DeviceSettings.momentumScrolling).getD config.appSettings.momentumScrolling

def invertScroll (config : Config) (key : String) : Bool := (config.devices key).any DeviceSettings.invertScroll

def smoothWheel (config : Config) (key : String) : Bool := (config.devices key).any DeviceSettings.smoothWheel

def usesGshift (config : Config) (key : String) : Bool := (config.devices key).any DeviceSettings.usesGshift

/-- The layer of a device, if it has bindings. -/
def gshiftOverrides (config : Config) (key : String) : Map ButtonId Action :=
  ((config.devices key).map DeviceSettings.gshiftBindings).getD .empty

def reportRate (config : Config) (key : String) : Option Nat := (config.devices key).bind DeviceSettings.reportRate

def fnLock (config : Config) (key : String) : Option Bool := (config.devices key).bind DeviceSettings.fnLock

def dpiPresets (config : Config) (key : String) : List Nat :=
  ((config.devices key).map DeviceSettings.dpiPresets).getD []

def pointerSpeed (config : Config) (key : String) : Option Nat := (config.devices key).bind DeviceSettings.pointerSpeed

def gKeyOwner (config : Config) (key : String) : GKeyOwner :=
  ((config.devices key).map DeviceSettings.gKeyOwner).getD .keyboard

def gamingKeyMode (config : Config) (key : String) : GamingKeyMode :=
  ((config.devices key).map DeviceSettings.gamingKeyMode).getD .profiles

/-- A binding that a G-series mouse can only run in host mode. -/
def customized (layout : GamingLayout) (button : ButtonId) (binding : Binding) : Bool :=
  layout.needsHostMode button &&
    match binding with
    | .single action => action ≠ defaultBindingOn (some layout) button
    | _ => true

/-- The stored choice, or else host mode when a setting needs it. -/
def effectiveOnboardMemory (config : Config) (key : String) (layout : Option GamingLayout) : Option OnboardMemory :=
  (config.devices key).bind fun d =>
    d.onboardMemory.or <| layout.bind fun layout =>
      if d.reportRate.isSome || d.usesGshift || d.bindings.rows.any (fun (b, binding) => customized layout b binding) ||
          d.perAppBindings.values.any (fun overlay =>
            overlay.rows.any fun (b, action) => customized layout b (.single action)) then
        some .off
      else none

end Config

end Agent
end OpenLogi
