import OpenLogi.Config.Adoption
/-!
# Merge — the settings of a merged entry

A fold treats its settings in six ways.  Each way is stated once over the settings it is used for, and `Merged` is all
of them.  What differs per link has its value on a route from the link, or else from the device.
-/
namespace OpenLogi
namespace Config

open OpenLogi.Core (PhysicalDeviceKey)

variable {V : Type}

/-! ## The settings -/

/-- The settings that are a value or unset, but for the page count of a keypad. -/
inductive OptionSetting where
  | customName | actionRing | dpi | lighting | light | smartshift | cameraControls | cameraProfile | cameraStreamMode
  | thumbwheelSensitivity | scrollResolution | momentumScrolling | fnLock | keepOsLayout | reportRate | pointerSpeed
  | forceSensing | disabledKeys | onboardMemory
  deriving DecidableEq

def OptionSetting.get (device : DeviceConfig V) : OptionSetting → Option V
  | .customName => device.customName
  | .actionRing => device.actionRing
  | .dpi => device.dpi
  | .lighting => device.lighting
  | .light => device.light
  | .smartshift => device.smartshift
  | .cameraControls => device.cameraControls
  | .cameraProfile => device.cameraProfile
  | .cameraStreamMode => device.cameraStreamMode
  | .thumbwheelSensitivity => device.thumbwheelSensitivity
  | .scrollResolution => device.scrollResolution
  | .momentumScrolling => device.momentumScrolling
  | .fnLock => device.fnLock
  | .keepOsLayout => device.keepOsLayout
  | .reportRate => device.reportRate
  | .pointerSpeed => device.pointerSpeed
  | .forceSensing => device.forceSensing
  | .disabledKeys => device.disabledKeys
  | .onboardMemory => device.onboardMemory

/-- The maps that merge key by key. -/
inductive MapSetting where
  | bindings | disabledGestures | perAppBindings | cameraProfiles | gKeyProfileNames
  deriving DecidableEq

def MapSetting.get (device : DeviceConfig V) : MapSetting → BTreeMap V
  | .bindings => device.bindings
  | .disabledGestures => device.disabledGestures
  | .perAppBindings => device.perAppBindings
  | .cameraProfiles => device.cameraProfiles
  | .gKeyProfileNames => device.gKeyProfileNames

/-! ## A merged entry -/

/-- The legacy value where the canonical entry holds the default, and its own value elsewhere. -/
def Takes {α : Type} (default ours theirs merged : α) : Prop :=
  (ours = default → merged = theirs) ∧ (ours ≠ default → merged = ours)

/-- **What `merged` has of its two entries.** -/
structure Merged (device legacy : DeviceConfig V) (routeKey : String) (merged : DeviceConfig V) : Prop where
  option : ∀ s : OptionSetting, Takes none (s.get device) (s.get legacy) (s.get merged)
  map : ∀ (m : MapSetting) (key : String), (m.get merged)[key]? = (m.get device)[key]?.or (m.get legacy)[key]?
  enabled : Takes true device.enabled legacy.enabled merged.enabled
  smoothWheel : Takes false device.smoothWheel legacy.smoothWheel merged.smoothWheel
  gKeyOwner : Takes .keyboard device.gKeyOwner legacy.gKeyOwner merged.gKeyOwner
  gamingKeyMode : Takes .profiles device.gamingKeyMode legacy.gamingKeyMode merged.gamingKeyMode
  dpiPresets : Takes [] device.dpiPresets legacy.dpiPresets merged.dpiPresets
  hostSwitchTargets : Takes [] device.hostSwitchTargets legacy.hostSwitchTargets merged.hostSwitchTargets
  /-- A whole map, never merged. -/
  gshiftBindings : Takes ∅ device.gshiftBindings legacy.gshiftBindings merged.gshiftBindings
  invertScroll : merged.invertScroll = device.invertScroll
  /-- The legacy inversion stays on its own route. -/
  invertedLink : device.invertScroll = false → legacy.invertScroll = true →
    ∃ link, merged.links[routeKey]? = some link ∧ link.overrides.invertScroll = some true
  otherLinks : ∀ route, route ≠ routeKey → merged.links[route]? = device.links[route]?.or legacy.links[route]?
  keypadPages : device.keypadPages ≠ none → merged.keypadPages = device.keypadPages

theorem takes_or (ours theirs : Option V) : Takes none ours theirs (ours.or theirs) := by
  cases ours with
  | none => exact ⟨fun _ => rfl, fun h => absurd rfl h⟩
  | some value => exact ⟨fun h => (Option.some_ne_none value h).elim, fun _ => rfl⟩

theorem takes_and (ours theirs : Bool) : Takes true ours theirs (ours && theirs) := by
  cases ours <;> simp [Takes]

theorem takes_bool_or (ours theirs : Bool) : Takes false ours theirs (ours || theirs) := by
  cases ours <;> simp [Takes]

theorem takes_foldIfEmpty {α : Type} (ours theirs : List α) : Takes [] ours theirs (foldIfEmpty ours theirs) := by
  cases ours <;> simp [Takes, foldIfEmpty]

section
variable [DecidableEq V]

theorem foldField_eq_or (ours theirs override : Option V) : (foldField ours theirs override).1 = ours.or theirs := by
  cases ours with
  | none => cases theirs <;> rfl
  | some a =>
    cases theirs with
    | none => rfl
    | some b =>
      unfold foldField
      dsimp only
      split <;> rfl

omit [DecidableEq V] in
theorem foldOptionField_eq_or (ours theirs : Option V) : foldOptionField ours theirs = ours.or theirs := by
  cases ours <;> cases theirs <;> rfl

theorem option_fold (device legacy : DeviceConfig V) (routeKey : String) (s : OptionSetting) :
    s.get (fold device legacy routeKey) = (s.get device).or (s.get legacy) := by
  cases s with
  | actionRing => rfl
  | dpi | lighting | smartshift | scrollResolution => exact foldField_eq_or _ _ _
  | _ => exact foldOptionField_eq_or _ _

theorem map_fold (device legacy : DeviceConfig V) (routeKey : String) (m : MapSetting) :
    m.get (fold device legacy routeKey) = foldMapField (m.get device) (m.get legacy) := by
  cases m <;> rfl

theorem links_fold_ne (device legacy : DeviceConfig V) {route : String} (h : route ≠ routeKey) :
    (fold device legacy routeKey).links[route]? = device.links[route]?.or legacy.links[route]? := by
  simp only [fold, BTreeMap.getElem?_insert, if_neg (Ne.symm h), foldMapField, Std.ExtTreeMap.getElem?_union]

/-- **A fold merges its entries**: every setting at its default takes the legacy value and every other keeps its own, a
map key by key; an inversion is kept for its route. -/
theorem fold_merges (device legacy : DeviceConfig V) (routeKey : String) :
    Merged device legacy routeKey (fold device legacy routeKey) where
  option s := by
    rw [option_fold]
    exact takes_or _ _
  map m key := by
    rw [map_fold, foldMapField, Std.ExtTreeMap.getElem?_union]
  enabled := takes_and _ _
  smoothWheel := takes_bool_or _ _
  gKeyOwner := by
    constructor
    · intro h
      cases hl : legacy.gKeyOwner <;> simp [fold, hl, h]
    · intro h
      have own : device.gKeyOwner = .openLogi := by
        cases ho : device.gKeyOwner with
        | keyboard => exact absurd ho h
        | openLogi => rfl
      simp [fold, own]
  gamingKeyMode := by
    constructor
    · intro h
      simp [fold, h]
    · intro h
      simp [fold, h]
  dpiPresets := takes_foldIfEmpty _ _
  hostSwitchTargets := takes_foldIfEmpty _ _
  gshiftBindings := by
    constructor
    · intro h
      simp [fold, h]
    · intro h
      have filled : device.gshiftBindings.isEmpty = false := by
        rw [Bool.eq_false_iff]
        exact fun empty => h (Std.ExtTreeMap.isEmpty_iff.mp empty)
      simp [fold, filled]
  invertScroll := rfl
  invertedLink hd hl := by
    refine ⟨_, Std.ExtTreeMap.getElem?_insert_self, ?_⟩
    simp [hd, hl]
  otherLinks _ := links_fold_ne device legacy
  keypadPages _ := rfl

/-- An inversion is not merged into the device, nor a second G-Shift map into the first. -/
theorem fold_leaves_out :
    (¬ ∀ device legacy : DeviceConfig Nat,
      Takes false device.invertScroll legacy.invertScroll (fold device legacy "usb").invertScroll) ∧
    ¬ ∀ (device legacy : DeviceConfig Nat) (key : String),
      (fold device legacy "usb").gshiftBindings[key]? = device.gshiftBindings[key]?.or legacy.gshiftBindings[key]? := by
  constructor
  · intro h
    have taken := (h {} { invertScroll := true }).1 rfl
    cases taken
  · intro h
    have merged := h { gshiftBindings := (∅ : BTreeMap Nat).insert "back" 1 }
      { gshiftBindings := (∅ : BTreeMap Nat).insert "forward" 2 } "forward"
    simp [fold] at merged

end

/-! ## Values on a route -/

/-- The settings with an override on every link, but for the inversion, which has no unset value. -/
inductive LinkSetting where
  | dpi | scrollResolution | lighting | smartshift
  deriving DecidableEq

namespace LinkSetting

def value (device : DeviceConfig V) : LinkSetting → Option V
  | .dpi => device.dpi
  | .scrollResolution => device.scrollResolution
  | .lighting => device.lighting
  | .smartshift => device.smartshift

def override (overrides : LinkOverrides V) : LinkSetting → Option V
  | .dpi => overrides.dpi
  | .scrollResolution => overrides.scrollResolution
  | .lighting => overrides.lighting
  | .smartshift => overrides.smartshift

end LinkSetting

namespace DeviceConfig

def linkOverride (device : DeviceConfig V) (routeKey : String) (s : LinkSetting) : Option V :=
  device.links[routeKey]?.bind fun link => s.override link.overrides

/-- The link's override, or else the device's value. -/
def effective (device : DeviceConfig V) (routeKey : String) (s : LinkSetting) : Option V :=
  (device.linkOverride routeKey s).or (s.value device)

def effectiveDpi (device : DeviceConfig V) (routeKey : String) : Option V := device.effective routeKey .dpi

def effectiveScrollResolution (device : DeviceConfig V) (routeKey : String) : Option V :=
  device.effective routeKey .scrollResolution

def effectiveLighting (device : DeviceConfig V) (routeKey : String) : Option V := device.effective routeKey .lighting

def effectiveSmartshift (device : DeviceConfig V) (routeKey : String) : Option V :=
  device.effective routeKey .smartshift

@[simp] theorem value_repoint (device : DeviceConfig V) (old new : String) (s : LinkSetting) :
    s.value (device.repoint old new) = s.value device := by
  cases s <;> rfl

@[simp] theorem value_unlink (device : DeviceConfig V) (routeKey : String) (s : LinkSetting) :
    s.value (device.unlink routeKey) = s.value device := by
  cases s <;> rfl

@[simp] theorem linkOverride_repoint (device : DeviceConfig V) (old new route : String) (s : LinkSetting) :
    (device.repoint old new).linkOverride route s = device.linkOverride route s := rfl

@[simp] theorem effective_repoint (device : DeviceConfig V) (old new route : String) (s : LinkSetting) :
    (device.repoint old new).effective route s = device.effective route s := by
  simp only [effective, linkOverride_repoint, value_repoint]

section
variable [DecidableEq V]

@[simp] theorem value_sight (device : DeviceConfig V) (routeKey : String) (capabilities : Option V) (s : LinkSetting) :
    s.value (device.sight routeKey capabilities).2 = s.value device := by
  cases s <;> rfl

/-- A sighting overrides nothing. -/
@[simp] theorem linkOverride_sight (device : DeviceConfig V) (routeKey route : String) (capabilities : Option V)
    (s : LinkSetting) : (device.sight routeKey capabilities).2.linkOverride route s = device.linkOverride route s := by
  unfold linkOverride
  simp only [sight, BTreeMap.getElem?_insert]
  split
  · next heq =>
    subst heq
    cases hlink : device.links[routeKey]? with
    | none => cases s <;> simp [LinkSetting.override] <;> split <;> rfl
    | some link => cases s <;> simp [LinkSetting.override] <;> split <;> rfl
  · rfl

end

end DeviceConfig

section
variable [DecidableEq V]

theorem value_fold (device legacy : DeviceConfig V) (routeKey : String) (s : LinkSetting) :
    s.value (fold device legacy routeKey) = (s.value device).or (s.value legacy) := by
  cases s <;> exact foldField_eq_or _ _ _

/-- The link a fold works on: the canonical one, or else the legacy one. -/
theorem linkOverride_fold_self (device legacy : DeviceConfig V) (routeKey : String) (s : LinkSetting) :
    (fold device legacy routeKey).linkOverride routeKey s =
      (foldField (s.value device) (s.value legacy)
        (s.override ((device.links[routeKey]?.or legacy.links[routeKey]?).getD {}).overrides)).2 := by
  unfold DeviceConfig.linkOverride
  have union : (foldMapField device.links legacy.links)[routeKey]? =
      device.links[routeKey]?.or legacy.links[routeKey]? := by
    rw [foldMapField, Std.ExtTreeMap.getElem?_union]
  cases s <;> simp [fold, union, LinkSetting.override, LinkSetting.value]

variable {routeKey : String}

theorem linkOverride_fold_ne (device legacy : DeviceConfig V) {route : String} (h : route ≠ routeKey)
    (s : LinkSetting) :
    (fold device legacy routeKey).linkOverride route s =
      (device.links[route]?.or legacy.links[route]?).bind fun link => s.override link.overrides := by
  rw [DeviceConfig.linkOverride, links_fold_ne _ _ h]

/-- On a route that the canonical entry overrides nothing for and the legacy one does not link, a merged entry has the
legacy value, or else the canonical one. -/
theorem effective_fold_self (device legacy : DeviceConfig V) (s : LinkSetting)
    (hours : device.linkOverride routeKey s = none) (htheirs : legacy.links[routeKey]? = none) :
    (fold device legacy routeKey).effective routeKey s = (s.value legacy).or (s.value device) := by
  have unset : s.override ((device.links[routeKey]?.or legacy.links[routeKey]?).getD {}).overrides = none := by
    rw [htheirs, Option.or_none]
    unfold DeviceConfig.linkOverride at hours
    cases hlink : device.links[routeKey]? with
    | none => cases s <;> rfl
    | some link => simpa [hlink] using hours
  rw [DeviceConfig.effective, linkOverride_fold_self, unset, value_fold]
  cases s.value device with
  | none => cases s.value legacy <;> rfl
  | some a =>
    cases s.value legacy with
    | none => rfl
    | some b =>
      rcases eq_or_ne a b with rfl | h
      · simp [foldField]
      · simp [foldField, h]

/-- On another route of the canonical entry a value stays. -/
theorem effective_fold_ne (device legacy : DeviceConfig V) {route : String} (hne : route ≠ routeKey)
    (hroute : route ∈ device.links) (s : LinkSetting) {value : V} (h : device.effective route s = some value) :
    (fold device legacy routeKey).effective route s = some value := by
  obtain ⟨link, hlink⟩ := Option.isSome_iff_exists.mp (Std.ExtTreeMap.mem_iff_isSome_getElem?.mp hroute)
  unfold DeviceConfig.effective DeviceConfig.linkOverride at h
  rw [DeviceConfig.effective, linkOverride_fold_ne _ _ hne, value_fold, hlink, Option.some_or]
  rw [hlink] at h
  cases ho : s.override link.overrides with
  | some override => simpa [ho] using h
  | none =>
    simp only [Option.bind_some, ho, Option.none_or] at h ⊢
    rw [h, Option.some_or]

end

namespace Config

variable [DecidableEq V]

/-- The entry that adopts the route, before it is adopted. -/
def canonicalEntry (c : Config V) (canonical : PhysicalDeviceKey) : DeviceConfig V :=
  c.devices[canonical.asStr]?.getD {}

/-- What an adoption is meant to leave of a setting: the route's value where the legacy entry gave one, and every value
the canonical entry gave on its other routes. -/
def KeepsEffective (c : Config V) (canonical : PhysicalDeviceKey) (routeKey : String) (legacy : DeviceConfig V)
    (s : LinkSetting) (adopted : DeviceConfig V) : Prop :=
  (∀ value, legacy.effective routeKey s = some value → adopted.effective routeKey s = some value) ∧
    ∀ route ∈ (c.canonicalEntry canonical).links, route ≠ routeKey →
      ∀ value, (c.canonicalEntry canonical).effective route s = some value → adopted.effective route s = some value

/-- **An adoption keeps the values that are in effect**, unless the legacy entry overrides the setting on the very route
that it is keyed by: its link is struck before it is folded, so the override goes with it. -/
theorem adoptRoute_keepsEffective_iff (c : Config V) (canonical : PhysicalDeviceKey) (routeKey : String)
    (capabilities : Option V) (s : LinkSetting) {legacy adopted : DeviceConfig V} (hne : routeKey ≠ canonical.asStr)
    (hlegacy : c.devices[routeKey]? = some legacy)
    (hunset : (c.canonicalEntry canonical).linkOverride routeKey s = none)
    (hadopted : (c.adoptRoute canonical routeKey capabilities).2.devices[canonical.asStr]? = some adopted) :
    c.KeepsEffective canonical routeKey legacy s adopted ↔
      ∀ override, legacy.linkOverride routeKey s = some override →
        (s.value legacy).or (s.value (c.canonicalEntry canonical)) = some override := by
  have hentry : c.legacyEntry canonical routeKey = some legacy := by rw [legacyEntry, if_pos hne, hlegacy]
  rw [getElem?_adoptRoute_self, hentry, Option.some.injEq] at hadopted
  have sighted : c.sightedEntry canonical routeKey capabilities =
      ((c.canonicalEntry canonical).sight routeKey capabilities).2 := rfl
  have struck : (legacy.unlink routeKey).links[routeKey]? = none := by
    rw [DeviceConfig.unlink, BTreeMap.getElem?_erase, if_pos rfl]
  have here : adopted.effective routeKey s = (s.value legacy).or (s.value (c.canonicalEntry canonical)) := by
    rw [← hadopted, DeviceConfig.effective_repoint, effective_fold_self _ _ s ?_ struck, sighted]
    · simp
    · rw [sighted, DeviceConfig.linkOverride_sight, hunset]
  have elsewhere : ∀ route ∈ (c.canonicalEntry canonical).links, route ≠ routeKey → ∀ value,
      (c.canonicalEntry canonical).effective route s = some value → adopted.effective route s = some value := by
    intro route hroute hother value h
    rw [← hadopted, DeviceConfig.effective_repoint]
    refine effective_fold_ne _ _ hother ?_ s ?_
    · exact (DeviceConfig.mem_sight _ _ _ _).mpr (.inr hroute)
    · rw [sighted, DeviceConfig.effective, DeviceConfig.linkOverride_sight, DeviceConfig.value_sight]
      exact h
  constructor
  · rintro ⟨kept, _⟩ override h
    rw [← here]
    exact kept override (by rw [DeviceConfig.effective, h, Option.some_or])
  · intro h
    refine ⟨fun value gave => ?_, elsewhere⟩
    rw [here]
    unfold DeviceConfig.effective at gave
    cases ho : legacy.linkOverride routeKey s with
    | none =>
      rw [ho, Option.none_or] at gave
      rw [gave, Option.some_or]
    | some override =>
      rw [ho, Option.some_or] at gave
      rw [h override ho, gave]

def slotRoute : String := "receiver:a1b2:slot:2"

def slotOwner : PhysicalDeviceKey := ⟨"serial:m1"⟩

/-- A slot with one entry, which the mouse that is paired to it adopts. -/
def slotConfig (legacy : DeviceConfig Nat) : Config Nat where
  devices := (∅ : BTreeMap (DeviceConfig Nat)).insert slotRoute legacy

theorem slotConfig_oneOwner (legacy : DeviceConfig Nat) : (slotConfig legacy).OneOwner := by
  have only : ∀ (key : String) (device : DeviceConfig Nat), (slotConfig legacy).devices[key]? = some device →
      key = slotRoute := by
    intro key device h
    rw [slotConfig, BTreeMap.getElem?_insert] at h
    split at h
    · next heq => exact heq.symm
    · simp at h
  intro route a b da db ha hb _ _
  rw [only a da ha, only b db hb]

theorem slotConfig_canonicalEntry (legacy : DeviceConfig Nat) :
    (slotConfig legacy).canonicalEntry slotOwner = {} := by
  simp [canonicalEntry, slotConfig, slotRoute, slotOwner]

theorem adoptRoute_keepsEffective_slot :
    ∃ adopted : DeviceConfig Nat,
      ((slotConfig { dpi := some 800 }).adoptRoute slotOwner slotRoute (some 7)).2.devices[slotOwner.asStr]? =
        some adopted ∧
      ((slotConfig { dpi := some 800 }).KeepsEffective slotOwner slotRoute { dpi := some 800 } .dpi adopted ↔
        ∀ override, ({ dpi := some 800 } : DeviceConfig Nat).linkOverride slotRoute .dpi = some override →
          (some 800).or (LinkSetting.dpi.value ((slotConfig { dpi := some 800 }).canonicalEntry slotOwner)) =
            some override) := by
  have hadopted := getElem?_adoptRoute_self (slotConfig { dpi := some 800 }) slotOwner slotRoute (some 7)
  refine ⟨_, hadopted, ?_⟩
  refine adoptRoute_keepsEffective_iff (slotConfig { dpi := some 800 }) slotOwner slotRoute (some 7) .dpi
    (by decide) (by simp [slotConfig]) ?_ hadopted
  rw [slotConfig_canonicalEntry]
  rfl

/-- The DPI of a slot is lost where the slot's own link overrides it. -/
theorem adoptRoute_loses_override :
    ¬ ∀ (c : Config Nat) (canonical : PhysicalDeviceKey) (routeKey : String) (legacy adopted : DeviceConfig Nat),
      c.OneOwner → routeKey ≠ canonical.asStr → c.devices[routeKey]? = some legacy →
      (c.canonicalEntry canonical).linkOverride routeKey .dpi = none →
      (c.adoptRoute canonical routeKey none).2.devices[canonical.asStr]? = some adopted →
        c.KeepsEffective canonical routeKey legacy .dpi adopted := by
  intro h
  let legacy : DeviceConfig Nat :=
    { links := (∅ : BTreeMap (LinkConfig Nat)).insert slotRoute { overrides := { dpi := some 800 } } }
  have hlegacy : (slotConfig legacy).legacyEntry slotOwner slotRoute = some legacy := by
    simp [legacyEntry, slotConfig, slotRoute, slotOwner]
  have hadopted := getElem?_adoptRoute_self (slotConfig legacy) slotOwner slotRoute none
  rw [hlegacy] at hadopted
  have kept := (h (slotConfig legacy) slotOwner slotRoute legacy _ (slotConfig_oneOwner legacy)
    (by decide) (by simp [slotConfig]) (by rw [slotConfig_canonicalEntry]; rfl) hadopted).1 800
    (by simp [DeviceConfig.effective, DeviceConfig.linkOverride, LinkSetting.override, legacy])
  rw [DeviceConfig.effective_repoint, effective_fold_self] at kept
  · simp [sightedEntry, slotConfig, slotRoute, slotOwner, LinkSetting.value,
      DeviceConfig.unlink, DeviceConfig.sight, legacy] at kept
  · rw [sightedEntry, DeviceConfig.linkOverride_sight]
    simp [slotConfig, slotRoute, slotOwner, DeviceConfig.linkOverride]
  · rw [DeviceConfig.unlink, BTreeMap.getElem?_erase, if_pos rfl]

end Config

end Config
end OpenLogi
