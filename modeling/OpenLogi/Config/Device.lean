import Std.Data.ExtTreeMap
import Std.Data.ExtTreeMap.Lemmas
import Mathlib.Data.Option.Basic
/-!
# Device — the configuration of one device

`DeviceConfig` with every setting.  What a setting is worth is compared and moved, never looked into: `V` stands for the
values, and a button, a direction or a profile in a map is its name.
-/
namespace OpenLogi
namespace Config

/-- `BTreeMap` with string keys. -/
abbrev BTreeMap (α : Type) := Std.ExtTreeMap String α compare

namespace BTreeMap

variable {α : Type}

theorem getElem?_insert (map : BTreeMap α) (key other : String) (value : α) :
    (map.insert key value)[other]? = if key = other then some value else map[other]? := by
  simp [Std.ExtTreeMap.getElem?_insert]

theorem getElem?_erase (map : BTreeMap α) (key other : String) :
    (map.erase key)[other]? = if key = other then none else map[other]? := by
  simp [Std.ExtTreeMap.getElem?_erase]

theorem mem_insert (map : BTreeMap α) (key other : String) (value : α) :
    other ∈ map.insert key value ↔ other = key ∨ other ∈ map := by
  simp [Std.ExtTreeMap.mem_insert, eq_comm (a := key)]

theorem mem_erase (map : BTreeMap α) (key other : String) : other ∈ map.erase key ↔ other ≠ key ∧ other ∈ map := by
  simp only [Std.ExtTreeMap.mem_erase, ne_eq, Std.LawfulEqOrd.compare_eq_iff_eq, eq_comm (a := key)]

end BTreeMap

inductive GKeyOwner where
  | keyboard
  | openLogi
  deriving DecidableEq

inductive GamingKeyMode where
  | profiles
  | nineButtons
  deriving DecidableEq

variable {V : Type}

/-- Last-known identity of a device; `model` is all of it but the capabilities. -/
structure DeviceIdentity (V : Type) where
  capabilities : V
  model : V
  deriving DecidableEq

/-- Per-link settings: each `some` shadows the value of the device. -/
structure LinkOverrides (V : Type) where
  dpi : Option V := none
  invertScroll : Option Bool := none
  scrollResolution : Option V := none
  lighting : Option V := none
  smartshift : Option V := none
  deriving DecidableEq

/-- One route a device has been seen on, and what differs on it. -/
structure LinkConfig (V : Type) where
  capabilities : Option V := none
  overrides : LinkOverrides V := {}
  deriving DecidableEq

structure DeviceConfig (V : Type) where
  enabled : Bool := true
  customName : Option V := none
  gestureOwner : Option V := none
  identity : Option (DeviceIdentity V) := none
  links : BTreeMap (LinkConfig V) := ∅
  bindings : BTreeMap V := ∅
  disabledGestures : BTreeMap V := ∅
  perAppBindings : BTreeMap V := ∅
  /-- `none` is the default ring. -/
  actionRing : Option V := none
  dpiPresets : List V := []
  dpi : Option V := none
  lighting : Option V := none
  light : Option V := none
  smartshift : Option V := none
  cameraControls : Option V := none
  cameraProfiles : BTreeMap V := ∅
  cameraProfile : Option V := none
  cameraStreamMode : Option V := none
  thumbwheelSensitivity : Option V := none
  invertScroll : Bool := false
  scrollResolution : Option V := none
  smoothWheel : Bool := false
  momentumScrolling : Option V := none
  hostSwitchTargets : List String := []
  fnLock : Option V := none
  keepOsLayout : Option V := none
  reportRate : Option V := none
  pointerSpeed : Option V := none
  forceSensing : Option V := none
  disabledKeys : Option V := none
  onboardMemory : Option V := none
  gshiftBindings : BTreeMap V := ∅
  /-- `none` is the first page. -/
  keypadPages : Option V := none
  gKeyOwner : GKeyOwner := .keyboard
  gamingKeyMode : GamingKeyMode := .profiles
  gKeyProfileNames : BTreeMap V := ∅
  deriving DecidableEq

namespace DeviceConfig

variable [DecidableEq V]

/-- Whether the entry carries anything the user configured. -/
def holdsSettings (device : DeviceConfig V) : Bool :=
  { device with identity := none, links := ∅ } ≠ ({} : DeviceConfig V)

end DeviceConfig

end Config
end OpenLogi
