import Mathlib.Logic.Function.Basic
import OpenLogi.Hid.Route
/-!
# Changes — what is changed on a standalone light itself

A value changed on a light stands in for the saved one until the GUI saves it or writes the control.  `lights.rs` as the
orchestrator runs it: a GUI write takes the stand-in of its control out, and a write that fails puts it back.  The maps
of the orchestrator are functions here, a missing row `none`.
-/
namespace OpenLogi
namespace Lights

open Hid

inductive LightValueUnit where
  | percent
  | lumens
  | kelvin
  deriving DecidableEq

/-- A range as `LightValueRange::new` accepts it. -/
structure LightValueRange where
  min : Nat
  max : Nat
  step : Nat
  unit : LightValueUnit
  ordered : min ≤ max
  stepPos : 0 < step
  aligned : step ∣ max - min
  percentBound : unit = .percent → max ≤ 100
  deriving DecidableEq

def LightValueRange.contains (range : LightValueRange) (value : Nat) : Bool :=
  decide (range.min ≤ value) && decide (value ≤ range.max) && decide (range.step ∣ value - range.min)

/-- A native value as a share of the range; `u8::try_from` refuses what does not fit. -/
def LightValueRange.percentForNative (range : LightValueRange) (value : Nat) : Option Nat :=
  if !range.contains value then none
  else
    let span := range.max - range.min
    if span = 0 then some 0
    else
      let percent := ((value - range.min) * 100 + span / 2) / span
      if percent < 256 then some percent else none

structure LightCapabilities where
  power : Bool
  brightness : Option LightValueRange
  temperature : Option LightValueRange
  color : Bool
  zones : Bool
  deriving DecidableEq

structure LightState where
  capabilities : LightCapabilities
  on : Bool
  brightness : Option Nat
  temperatureKelvin : Option Nat
  brightnessLimit : Option Nat
  deriving DecidableEq

structure LightControls where
  power : Bool
  brightness : Bool
  temperature : Bool
  deriving DecidableEq

/-- A light's state after it changed, and the controls changed on the light itself. -/
structure LightChange where
  state : LightState
  onLight : LightControls
  deriving DecidableEq

structure ChangedOnLight where
  enabled : Option Bool
  brightnessPercent : Option Nat
  temperatureKelvin : Option Nat
  deriving DecidableEq

def ChangedOnLight.default : ChangedOnLight := ⟨none, none, none⟩

def ChangedOnLight.isEmpty (changed : ChangedOnLight) : Bool := changed = .default

structure LightSettings where
  enabled : Bool
  autoCamera : Bool
  brightnessPercent : Nat
  temperatureKelvin : Option Nat
  deriving DecidableEq

inductive LightCommand where
  | power (on : Bool)
  | brightnessPercent (percent : Nat)
  | temperatureKelvin (kelvin : Nat)
  | brightnessNative (value : Nat)
  deriving DecidableEq

/-- The part of `AgentDevice` an online light is found by. -/
structure LightDevice where
  configKey : String
  online : Bool
  route : Option DeviceRoute
  lightCapabilities : Option LightCapabilities
  deriving DecidableEq

structure TakenLightChange where
  key : String
  changed : ChangedOnLight
  deriving DecidableEq

structure ChosenLight where
  device : String
  power : Bool
  brightness : Bool
  temperature : Bool
  deriving DecidableEq

/-- Where the config a reload loads comes from. -/
inductive ConfigSource where
  | loaded
  | saved (chosen : List ChosenLight)
  deriving DecidableEq

/-- `Config::light`, for every key. -/
abbrev LightConfig := String → Option LightSettings

structure Orchestrator where
  devices : List LightDevice
  config : LightConfig
  lightStates : String → Option (DeviceRoute × LightState)
  manualLightOverrides : String → Option Bool
  lightsChangedOnLight : String → Option ChangedOnLight
  lightWrites : Nat → Option TakenLightChange
  nextLightWrite : Nat

namespace Orchestrator

/-- The config key of the online light on `route`. -/
def onlineLightKey (o : Orchestrator) (route : DeviceRoute) : Option String :=
  (o.devices.find? fun dev => dev.online && dev.lightCapabilities.isSome && dev.route == some route).map (·.configKey)

/-- A map without the rows that hold no change. -/
def kept (changed : ChangedOnLight) : Option ChangedOnLight := if changed.isEmpty then none else some changed

def lightRead (o : Orchestrator) (route : DeviceRoute) (state : LightState) : Orchestrator :=
  match o.onlineLightKey route with
  | none => o
  | some key => { o with lightStates := Function.update o.lightStates key (some (route, state)) }

/-- The brightness a light reports, as a share of its range. -/
def brightnessPercent (state : LightState) : Option Nat :=
  state.brightness.bind fun native => state.capabilities.brightness.bind fun range => range.percentForNative native

/-- The stand-ins of a light with those of `change`. -/
def withChange (changed : ChangedOnLight) (cameraLinked : Bool) (change : LightChange) : ChangedOnLight :=
  let state := change.state
  let changed := if change.onLight.power && !cameraLinked then { changed with enabled := some state.on } else changed
  let percent := brightnessPercent state
  let changed :=
    if change.onLight.brightness && percent.isSome then { changed with brightnessPercent := percent } else changed
  if change.onLight.temperature && state.temperatureKelvin.isSome then
    { changed with temperatureKelvin := state.temperatureKelvin }
  else changed

/-- The power of a camera-linked light is kept as a manual choice, every other control as a stand-in. -/
def lightChanged (o : Orchestrator) (route : DeviceRoute) (change : LightChange) : Orchestrator :=
  match o.onlineLightKey route with
  | none => o
  | some key =>
    let cameraLinked := (o.config key).any (·.autoCamera)
    let changed := withChange ((o.lightsChangedOnLight key).getD .default) cameraLinked change
    { o with
      lightStates := Function.update o.lightStates key (some (route, change.state))
      manualLightOverrides :=
        if change.onLight.power && cameraLinked then Function.update o.manualLightOverrides key (some change.state.on)
        else o.manualLightOverrides
      lightsChangedOnLight := Function.update o.lightsChangedOnLight key (kept changed) }

/-- What a write of `command` takes of `changed`, and what it leaves. -/
def takeFor (command : LightCommand) (changed : ChangedOnLight) : ChangedOnLight × ChangedOnLight :=
  match command with
  | .power _ => ({ ChangedOnLight.default with enabled := changed.enabled }, { changed with enabled := none })
  | .brightnessPercent _ | .brightnessNative _ =>
    ({ ChangedOnLight.default with brightnessPercent := changed.brightnessPercent },
      { changed with brightnessPercent := none })
  | .temperatureKelvin _ =>
    ({ ChangedOnLight.default with temperatureKelvin := changed.temperatureKelvin },
      { changed with temperatureKelvin := none })

/-- The claim on what a GUI write about to start takes, if it takes anything. -/
def lightWriting (o : Orchestrator) (route : DeviceRoute) (command : LightCommand) : Option Nat × Orchestrator :=
  match o.onlineLightKey route with
  | none => (none, o)
  | some key =>
    match o.lightsChangedOnLight key with
    | none => (none, o)
    | some changed =>
      let (taken, rest) := takeFor command changed
      let o := { o with lightsChangedOnLight := Function.update o.lightsChangedOnLight key (kept rest) }
      if taken.isEmpty then (none, o)
      else
        (some o.nextLightWrite,
          { o with
            nextLightWrite := o.nextLightWrite + 1
            lightWrites := Function.update o.lightWrites o.nextLightWrite (some ⟨key, taken⟩) })

def lightWritten (o : Orchestrator) (claim : Nat) : Orchestrator :=
  { o with lightWrites := Function.update o.lightWrites claim none }

/-- What the write took is put back where nothing newer stands. -/
def lightWriteFailed (o : Orchestrator) (claim : Nat) : Orchestrator :=
  match o.lightWrites claim with
  | none => o
  | some ⟨key, taken⟩ =>
    let changed := (o.lightsChangedOnLight key).getD .default
    let changed : ChangedOnLight :=
      { enabled := changed.enabled.or taken.enabled
        brightnessPercent := changed.brightnessPercent.or taken.brightnessPercent
        temperatureKelvin := changed.temperatureKelvin.or taken.temperatureKelvin }
    { o with
      lightWrites := Function.update o.lightWrites claim none
      lightsChangedOnLight := Function.update o.lightsChangedOnLight key (some changed) }

end Orchestrator

section Forget

variable {α : Type} [DecidableEq α]

/-- A reload removed a saved value. -/
def removed (before after : Option α) : Bool := before.isSome && after.isNone

/-- A value is forgotten once the config holds it, or once the saved value replaced it. -/
def forgetSaved (changed after : Option α) (replaced : Bool) : Option α :=
  match changed with
  | none => none
  | some value => if after = some value || replaced then none else some value

end Forget

/-- Whether a reload replaces a stand-in, by whether the saved value differs, was removed or was chosen. -/
def replaced (key : String) (source : ConfigSource) (differs removed : Bool) (chose : ChosenLight → Bool) : Bool :=
  match source with
  | .loaded => differs
  | .saved chosen => removed || chosen.any fun light => light.device == key && chose light

def forgetSavedChanges (key : String) (changed : ChangedOnLight) (previous config : LightConfig)
    (source : ConfigSource) : ChangedOnLight :=
  let before := previous key
  let after := config key
  let enabledBefore := before.map (·.enabled)
  let enabledAfter := after.map (·.enabled)
  let brightnessBefore := before.map (·.brightnessPercent)
  let brightnessAfter := after.map (·.brightnessPercent)
  let temperatureBefore := before.bind (·.temperatureKelvin)
  let temperatureAfter := after.bind (·.temperatureKelvin)
  { enabled := forgetSaved changed.enabled enabledAfter
      (replaced key source (enabledBefore ≠ enabledAfter) (removed enabledBefore enabledAfter) (·.power))
    brightnessPercent := forgetSaved changed.brightnessPercent brightnessAfter
      (replaced key source (brightnessBefore ≠ brightnessAfter) (removed brightnessBefore brightnessAfter)
        (·.brightness))
    temperatureKelvin := forgetSaved changed.temperatureKelvin temperatureAfter
      (replaced key source (temperatureBefore ≠ temperatureAfter) (removed temperatureBefore temperatureAfter)
        (·.temperature)) }

namespace Orchestrator

/-- The stand-ins a reload leaves, those of writes in flight included. -/
def forgetSavedLightChanges (o : Orchestrator) (previous : LightConfig) (source : ConfigSource) : Orchestrator :=
  { o with
    lightsChangedOnLight := fun key => (o.lightsChangedOnLight key).bind fun changed =>
      kept (forgetSavedChanges key changed previous o.config source)
    lightWrites := fun claim => (o.lightWrites claim).bind fun taken =>
      (kept (forgetSavedChanges taken.key taken.changed previous o.config source)).map fun changed =>
        ⟨taken.key, changed⟩ }

/-- What a reload does to the lights' changes.  A manual choice is kept while the light stays camera-linked. -/
def replaceConfigFrom (o : Orchestrator) (config : LightConfig) (source : ConfigSource) : Orchestrator :=
  let previous := o.config
  let o := { o with config := config }
  let o := o.forgetSavedLightChanges previous source
  { o with
    manualLightOverrides := fun key => (o.manualLightOverrides key).filter fun _ =>
      (o.config key).any (·.autoCamera) }

end Orchestrator

/-! ### One control of the three -/

inductive LightControl where
  | power
  | brightness
  | temperature
  deriving DecidableEq

abbrev LightControl.Value : LightControl → Type
  | .power => Bool
  | .brightness | .temperature => Nat

instance : (c : LightControl) → DecidableEq c.Value
  | .power => inferInstanceAs (DecidableEq Bool)
  | .brightness | .temperature => inferInstanceAs (DecidableEq Nat)

def LightCommand.control : LightCommand → LightControl
  | .power _ => .power
  | .brightnessPercent _ | .brightnessNative _ => .brightness
  | .temperatureKelvin _ => .temperature

def ChangedOnLight.get (changed : ChangedOnLight) : (c : LightControl) → Option c.Value
  | .power => changed.enabled
  | .brightness => changed.brightnessPercent
  | .temperature => changed.temperatureKelvin

def LightSettings.get (settings : LightSettings) : (c : LightControl) → Option c.Value
  | .power => some settings.enabled
  | .brightness => some settings.brightnessPercent
  | .temperature => settings.temperatureKelvin

def ChosenLight.chose (light : ChosenLight) : LightControl → Bool
  | .power => light.power
  | .brightness => light.brightness
  | .temperature => light.temperature

/-- The stand-in kept for a control of a light. -/
def Orchestrator.standIn (o : Orchestrator) (key : String) (c : LightControl) : Option c.Value :=
  (o.lightsChangedOnLight key).bind (·.get c)

/-- The saved value of a control. -/
def LightConfig.saved (config : LightConfig) (key : String) (c : LightControl) : Option c.Value :=
  (config key).bind (·.get c)

@[simp] theorem get_default (c : LightControl) : ChangedOnLight.default.get c = none := by cases c <;> rfl

theorem isEmpty_iff {changed : ChangedOnLight} : changed.isEmpty = true ↔ ∀ c, changed.get c = none := by
  obtain ⟨enabled, brightness, temperature⟩ := changed
  constructor
  · intro h c
    have he : (⟨enabled, brightness, temperature⟩ : ChangedOnLight) = .default := of_decide_eq_true h
    rw [he, get_default]
  · intro h
    have h1 : enabled = none := h .power
    have h2 : brightness = none := h .brightness
    have h3 : temperature = none := h .temperature
    subst h1 h2 h3
    rfl

@[simp] theorem kept_bind_get (changed : ChangedOnLight) (c : LightControl) :
    (Orchestrator.kept changed).bind (·.get c) = changed.get c := by
  unfold Orchestrator.kept
  split
  · rename_i h
    exact (isEmpty_iff.1 h c).symm
  · rfl

theorem getD_get (changed : Option ChangedOnLight) (c : LightControl) :
    (changed.getD .default).get c = changed.bind (·.get c) := by
  cases changed
  · exact get_default c
  · rfl

/-- What a reload does to one control: the config holds the value, or replaced it. -/
def Replaces (previous config : LightConfig) (source : ConfigSource) (key : String) (c : LightControl)
    (value : c.Value) : Bool :=
  decide (config.saved key c = some value) ||
    match source with
    | .loaded => decide (previous.saved key c ≠ config.saved key c)
    | .saved chosen =>
      (previous.saved key c).isSome && (config.saved key c).isNone ||
        chosen.any fun light => light.device == key && light.chose c

theorem forgetSaved_eq {α : Type} [DecidableEq α] (changed after : Option α) (replaced : Bool) :
    forgetSaved changed after replaced =
      changed.filter fun value => !(decide (after = some value) || replaced) := by
  cases changed with
  | none => rfl
  | some value =>
    rw [forgetSaved, Option.filter_some]
    cases decide (after = some value) || replaced <;> rfl

theorem get_forgetSavedChanges (key : String) (changed : ChangedOnLight) (previous config : LightConfig)
    (source : ConfigSource) (c : LightControl) :
    (forgetSavedChanges key changed previous config source).get c =
      (changed.get c).filter fun value => !Replaces previous config source key c value := by
  have hmap : ∀ {α : Type} (f : LightSettings → α) (o : Option LightSettings), o.map f = o.bind fun s => some (f s) :=
    fun f o => by cases o <;> rfl
  cases c with
  | power =>
    refine (forgetSaved_eq _ _ _).trans ?_
    simp only [hmap]
    cases source <;> rfl
  | brightness =>
    refine (forgetSaved_eq _ _ _).trans ?_
    simp only [hmap]
    cases source <;> rfl
  | temperature =>
    refine (forgetSaved_eq _ _ _).trans ?_
    cases source <;> rfl

end Lights
end OpenLogi
