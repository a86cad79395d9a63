import OpenLogi.Config.Device
import OpenLogi.Core.DeviceOrder
/-!
# Identity — the configuration key of a device

An entry is keyed by what its device is, and its `links` are the routes it was seen on: the index that finds it while it
is asleep.  `adoptRoute` moves what a route-keyed entry holds under the device's own key.
-/
namespace OpenLogi
namespace Config

open OpenLogi.Core (DeviceStableId PhysicalDeviceKey)

variable {V : Type}

/-- The part of the configuration that device keys live in. -/
structure Config (V : Type) where
  selectedDevice : Option String := none
  devices : BTreeMap (DeviceConfig V) := ∅

def canonicalDeviceKey (stable : DeviceStableId) (identity : Option Core.DeviceIdentity) : Option PhysicalDeviceKey :=
  ((identity.bind Core.DeviceIdentity.configKey).bind PhysicalDeviceKey.parse).or stable.physicalKey

/-! ## Folding -/

section
variable [DecidableEq V]

/-- A setting with an override of its own on every link: the device's value, and the override of the link. -/
def foldField (ours theirs override : Option V) : Option V × Option V :=
  match ours, theirs with
  | none, some value => (some value, override)
  | some a, some b => if a ≠ b then (some a, some b) else (some a, override)
  | ours, none => (ours, override)

/-- A setting with no override: the canonical value wins. -/
def foldOptionField (ours theirs : Option V) : Option V :=
  match ours, theirs with
  | none, some value => some value
  | ours, _ => ours

/-- A map: a key keeps its canonical entry. -/
def foldMapField {α : Type} (ours theirs : BTreeMap α) : BTreeMap α := theirs ∪ ours

def foldIfEmpty {α : Type} (ours theirs : List α) : List α := if ours.isEmpty then theirs else ours

/-- Merge a legacy entry keyed by `routeKey` into its device's canonical entry. -/
def fold (device legacy : DeviceConfig V) (routeKey : String) : DeviceConfig V :=
  let links := foldMapField device.links legacy.links
  let link := links[routeKey]?.getD {}
  let dpi := foldField device.dpi legacy.dpi link.overrides.dpi
  let scrollResolution := foldField device.scrollResolution legacy.scrollResolution link.overrides.scrollResolution
  let lighting := foldField device.lighting legacy.lighting link.overrides.lighting
  let smartshift := foldField device.smartshift legacy.smartshift link.overrides.smartshift
  let link : LinkConfig V := {
    -- only where the link has no measurement of its own
    capabilities := link.capabilities.or (legacy.identity.map DeviceIdentity.capabilities)
    overrides := {
      dpi := dpi.2
      -- only a legacy `true` is a choice
      invertScroll := if device.invertScroll ≠ legacy.invertScroll && legacy.invertScroll then
        some legacy.invertScroll else link.overrides.invertScroll
      scrollResolution := scrollResolution.2
      lighting := lighting.2
      smartshift := smartshift.2 } }
  { device with
    links := links.insert routeKey link
    bindings := foldMapField device.bindings legacy.bindings
    disabledGestures := foldMapField device.disabledGestures legacy.disabledGestures
    perAppBindings := foldMapField device.perAppBindings legacy.perAppBindings
    cameraProfiles := foldMapField device.cameraProfiles legacy.cameraProfiles
    gKeyProfileNames := foldMapField device.gKeyProfileNames legacy.gKeyProfileNames
    dpi := dpi.1
    scrollResolution := scrollResolution.1
    lighting := lighting.1
    smartshift := smartshift.1
    smoothWheel := device.smoothWheel || legacy.smoothWheel
    gKeyOwner := if legacy.gKeyOwner = .openLogi then .openLogi else device.gKeyOwner
    gamingKeyMode := if device.gamingKeyMode = .profiles then legacy.gamingKeyMode else device.gamingKeyMode
    light := foldOptionField device.light legacy.light
    cameraControls := foldOptionField device.cameraControls legacy.cameraControls
    cameraProfile := foldOptionField device.cameraProfile legacy.cameraProfile
    cameraStreamMode := foldOptionField device.cameraStreamMode legacy.cameraStreamMode
    thumbwheelSensitivity := foldOptionField device.thumbwheelSensitivity legacy.thumbwheelSensitivity
    momentumScrolling := foldOptionField device.momentumScrolling legacy.momentumScrolling
    fnLock := foldOptionField device.fnLock legacy.fnLock
    keepOsLayout := foldOptionField device.keepOsLayout legacy.keepOsLayout
    onboardMemory := foldOptionField device.onboardMemory legacy.onboardMemory
    reportRate := foldOptionField device.reportRate legacy.reportRate
    pointerSpeed := foldOptionField device.pointerSpeed legacy.pointerSpeed
    forceSensing := foldOptionField device.forceSensing legacy.forceSensing
    disabledKeys := foldOptionField device.disabledKeys legacy.disabledKeys
    customName := foldOptionField device.customName legacy.customName
    identity := device.identity.or legacy.identity
    dpiPresets := foldIfEmpty device.dpiPresets legacy.dpiPresets
    hostSwitchTargets := foldIfEmpty device.hostSwitchTargets legacy.hostSwitchTargets
    gshiftBindings := if device.gshiftBindings.isEmpty then legacy.gshiftBindings else device.gshiftBindings
    actionRing := device.actionRing.or legacy.actionRing
    enabled := device.enabled && legacy.enabled }

end

/-! ## The configuration -/

/-- A target that names `old` names `new`. -/
def repointTarget (old new : String) (target : String) : String := if target = old then new else target

namespace DeviceConfig

def repoint (device : DeviceConfig V) (old new : String) : DeviceConfig V :=
  { device with hostSwitchTargets := device.hostSwitchTargets.map (repointTarget old new) }

/-- The entry without its claim to a route. -/
def unlink (device : DeviceConfig V) (routeKey : String) : DeviceConfig V :=
  { device with links := device.links.erase routeKey }

/-- The entry that records what was measured on a route, and whether that is new. -/
def sight [DecidableEq V] (device : DeviceConfig V) (routeKey : String) (capabilities : Option V) :
    Bool × DeviceConfig V :=
  let known := device.links.contains routeKey
  let link := device.links[routeKey]?.getD {}
  let measured := capabilities.isSome && link.capabilities ≠ capabilities
  let link := if measured then { link with capabilities := capabilities } else link
  (!known || measured, { device with links := device.links.insert routeKey link })

end DeviceConfig

namespace Config

/-- Rewrite every reference to `old`, whose entry was consumed. -/
def repointReferences (c : Config V) (old new : String) : Config V where
  selectedDevice := c.selectedDevice.map (repointTarget old new)
  devices := c.devices.map fun _ device => device.repoint old new

section
variable [DecidableEq V]

def holdsSettings (c : Config V) (key : String) : Bool := c.devices[key]?.any DeviceConfig.holdsSettings

/-- The key to read and write for a device, given what the probe could read of its identity. -/
def resolveDeviceKey (c : Config V) (stable : DeviceStableId) (identity : Option Core.DeviceIdentity) :
    Option PhysicalDeviceKey :=
  match (identity.bind Core.DeviceIdentity.configKey).bind PhysicalDeviceKey.parse with
  | some key =>
    match stable.physicalKey.filter fun legacy => legacy.asStr ≠ key.asStr with
    | some legacy => if !c.holdsSettings key.asStr && c.holdsSettings legacy.asStr then some legacy else some key
    | none => some key
  | none =>
    let owner := c.devices.toList.find? fun (_, device) => device.links.contains stable.routeKey
    (owner.bind fun (key, _) => PhysicalDeviceKey.parse key).or stable.physicalKey

/-- Record that a device was reached by a route, folding in an entry still keyed by that route; whether anything
changed. -/
def adoptRoute (c : Config V) (canonical : PhysicalDeviceKey) (routeKey : String) (capabilities : Option V) :
    Bool × Config V :=
  let key := canonical.asStr
  -- a route names one device at a time
  let stale := c.devices.toList.any fun (other, device) => other ≠ key && device.links.contains routeKey
  let devices := c.devices.map fun other device => if other ≠ key then device.unlink routeKey else device
  let legacy := if routeKey ≠ key then devices[routeKey]? else none
  let devices := if routeKey ≠ key then devices.erase routeKey else devices
  let (sighted, device) := (devices[key]?.getD {}).sight routeKey capabilities
  match legacy with
  | none => (stale || sighted, { c with devices := devices.insert key device })
  | some legacy =>
    (true, ({ c with devices := devices.insert key (fold device legacy routeKey) } : Config V).repointReferences
      routeKey key)

end

/-- Every route has at most one owner. -/
def OneOwner (c : Config V) : Prop :=
  ∀ (route a b : String) (da db : DeviceConfig V), c.devices[a]? = some da → c.devices[b]? = some db →
    route ∈ da.links → route ∈ db.links → a = b

/-- A route that no other entry links is stale in none. -/
theorem no_stale_route {c : Config V} {canonical : PhysicalDeviceKey} {routeKey : String}
    (h : ∀ (key : String) (other : DeviceConfig V), key ≠ canonical.asStr → c.devices[key]? = some other →
      routeKey ∉ other.links) :
    (c.devices.toList.any fun (other, device) =>
      other ≠ canonical.asStr && device.links.contains routeKey) = false := by
  rw [List.any_eq_false]
  rintro ⟨key, other⟩ hmem
  simp only [ne_eq, Bool.and_eq_true, decide_eq_true_eq, not_and, Bool.not_eq_true]
  intro hkey
  have hother := Std.ExtTreeMap.mem_toList_iff_getElem?_eq_some.mp hmem
  exact Bool.eq_false_iff.mpr fun hcontains =>
    h key other hkey hother (Std.ExtTreeMap.mem_iff_contains.mpr hcontains)

/-- **The route of a device that is asleep finds its entry.** -/
theorem resolve_asleep [DecidableEq V] {c : Config V} (h : c.OneOwner) {stable : DeviceStableId} {key : String}
    {device : DeviceConfig V} (hdevice : c.devices[key]? = some device) (hroute : stable.routeKey ∈ device.links) :
    c.resolveDeviceKey stable none = (PhysicalDeviceKey.parse key).or stable.physicalKey := by
  have hfind : ∃ owner, (c.devices.toList.find? fun (_, device) => device.links.contains stable.routeKey) =
      some (key, owner) := by
    have hsome : (c.devices.toList.find? fun (_, device) => device.links.contains stable.routeKey).isSome := by
      rw [List.find?_isSome]
      exact ⟨(key, device), Std.ExtTreeMap.mem_toList_iff_getElem?_eq_some.mpr hdevice,
        Std.ExtTreeMap.mem_iff_contains.mp hroute⟩
    obtain ⟨⟨found, owner⟩, howner⟩ := Option.isSome_iff_exists.mp hsome
    have hentry := Std.ExtTreeMap.mem_toList_iff_getElem?_eq_some.mp (List.mem_of_find?_eq_some howner)
    have hclaims := List.find?_some howner
    have heq : found = key :=
      h _ found key owner device hentry hdevice (Std.ExtTreeMap.mem_iff_contains.mpr hclaims) hroute
    exact ⟨owner, by rw [howner, heq]⟩
  obtain ⟨owner, howner⟩ := hfind
  simp only [resolveDeviceKey, Option.bind_none, howner, Option.bind_some]

end Config

end Config
end OpenLogi
