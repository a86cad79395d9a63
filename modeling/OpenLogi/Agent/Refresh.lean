import OpenLogi.Agent.Inventory
import OpenLogi.Agent.Owners
/-!
# Refresh — an inventory refresh against a full rebuild

A refresh that finds the same devices keeps the hook maps and the scroll inversion, and republishes only the plans.  What
it compares leaves out the model key, from which the maps of macOS tell a G-series mouse.
-/
namespace OpenLogi
namespace Agent

open OpenLogi.Core
open Hid (DeviceRoute)
open Hook (DivertedButtons HookMaps)

variable {V : Type} [DecidableEq V]

/-! ## The state -/

/-- A configuration as it is loaded. -/
structure Loaded (V : Type) where
  appSettings : AppSettings
  apps : AppAliases := []
  file : OpenLogi.Config.Config V := {}

/-- The settings that the agent reads; `read` is what it reads of an entry. -/
def Loaded.config (read : OpenLogi.Config.DeviceConfig V → DeviceSettings) (loaded : Loaded V) : Config where
  appSettings := loaded.appSettings
  apps := loaded.apps
  selectedDevice := loaded.file.selectedDevice
  devices key := loaded.file.devices[key]?.map read

/-- What the hook and the capture sessions read. -/
structure Published where
  hookMaps : HookMaps := {}
  scrollInversion : Bool := false
  capture : CapturePublication

structure Runtime (V : Type) where
  file : OpenLogi.Config.Config V
  orchestrator : Orchestrator
  forcedCaptureRearm : Bool := false
  captureRearmGeneration : UInt64 := 0
  published : Published

/-! ## Publications -/

/-- Capture sessions report into the maps that are published; what they reported stays. -/
def Published.withHookMaps (published : Published) (maps : HookMaps) : Published :=
  { published with hookMaps := { maps with
      shiftHeld := published.hookMaps.shiftHeld
      divertedButtons := published.hookMaps.divertedButtons } }

namespace Orchestrator

variable (o : Orchestrator)

def publishHookMaps (published : Published) : Published := published.withHookMaps (o.hookMapsFor o.currentDevice)

def publishCapturePlans (published : Published) : Published := { published with capture := o.capturePublication }

/-- Every shared map, from the configuration and the devices. -/
def rebuild (published : Published) : Published :=
  o.publishCapturePlans { o.publishHookMaps published with scrollInversion := o.scrollInversion }

/-- The captures of the routes that came online start over; those of a route that left are forgotten. -/
def rearmCaptureRoutes (devices : List AgentDevice) (all : Bool) (generation : UInt64) :
    (DeviceRoute → Option Nat) × UInt64 :=
  let kept : DeviceRoute → Option Nat := fun route =>
    if devices.any fun dev => dev.route = some route then o.captureRouteGenerations route else none
  match reapplyTargets o.devices devices all with
  | [] => (kept, generation)
  | targets =>
    let next := generation + 1
    (fun route => if targets.any fun dev => dev.route = some route then some next.toNat else kept route, next)

/-- A field that a refresh compares differs. -/
def differs (a b : AgentDevice) : Bool :=
  a.configKey ≠ b.configKey || a.route ≠ b.route || a.capabilities ≠ b.capabilities ||
    a.lightCapabilities ≠ b.lightCapabilities

def changed (devices : List AgentDevice) : Bool :=
  pickCurrent devices o.config.selectedDevice ≠ o.current || devices.length ≠ o.devices.length ||
    (devices.zip o.devices).any fun (a, b) => differs a b

end Orchestrator

/-! ## Steps -/

inductive Event (V : Type) where
  | refreshInventory (snapshot : Snapshot)
  | reloadConfig (loaded : Loaded V)
  | setCurrentApp (app : Option ForegroundApp)
  | setPointerContext (context : PointerContext)
  | setOsMouseHookAvailable (available : Bool)
  | systemResume
  /-- A capture session changes what it reports into the hook maps. -/
  | captureReported (diverted : DivertedButtons) (shiftHeld : Finset String)

namespace Runtime

variable (s : Runtime V)

/-- The state once a refresh has stored the devices, and nothing is published. -/
def afterInventory (devices : List AgentDevice) : Orchestrator :=
  let (generations, _) := s.orchestrator.rearmCaptureRoutes devices s.forcedCaptureRearm s.captureRearmGeneration
  { s.orchestrator with devices := devices, captureRouteGenerations := generations }

def refreshInventory (snapshot : Snapshot) : Runtime V :=
  let devices := buildDevices s.file snapshot
  let next := s.afterInventory devices
  let s' : Runtime V := { s with
    forcedCaptureRearm := false
    captureRearmGeneration :=
      (s.orchestrator.rearmCaptureRoutes devices s.forcedCaptureRearm s.captureRearmGeneration).2 }
  if s.orchestrator.changed devices then
    let next : Orchestrator := { next with current := pickCurrent devices next.config.selectedDevice }
    { s' with orchestrator := next, published := next.rebuild s.published }
  else
    { s' with orchestrator := next, published := next.publishCapturePlans s.published }

def reloadConfig (read : OpenLogi.Config.DeviceConfig V → DeviceSettings) (loaded : Loaded V) : Runtime V :=
  let config := loaded.config read
  let next : Orchestrator := { s.orchestrator with
    config := config
    current := pickCurrent s.orchestrator.devices config.selectedDevice }
  { s with file := loaded.file, orchestrator := next, published := next.rebuild s.published }

def setCurrentApp (app : Option ForegroundApp) : Runtime V :=
  let id := app.map ForegroundApp.id
  if id = s.orchestrator.currentApp then s
  else
    let next := { s.orchestrator with currentApp := id }
    { s with orchestrator := next, published := next.publishCapturePlans (next.publishHookMaps s.published) }

def setPointerContext (context : PointerContext) : Runtime V :=
  if s.orchestrator.pointerContext = context then s
  else
    let next := { s.orchestrator with pointerContext := context }
    if next.config.appSettings.mouseProfileTarget = .focused then { s with orchestrator := next }
    else { s with orchestrator := next, published := next.publishCapturePlans (next.publishHookMaps s.published) }

def setOsMouseHookAvailable (available : Bool) : Runtime V :=
  if s.orchestrator.osMouseHookAvailable = available then s
  else
    let next := { s.orchestrator with osMouseHookAvailable := available }
    { s with orchestrator := next, published := next.publishCapturePlans s.published }

def captureReported (diverted : DivertedButtons) (shiftHeld : Finset String) : Runtime V :=
  { s with published := { s.published with hookMaps := { s.published.hookMaps with
      divertedButtons := diverted, shiftHeld := shiftHeld } } }

def next (read : OpenLogi.Config.DeviceConfig V → DeviceSettings) (s : Runtime V) : Event V → Runtime V
  | .refreshInventory snapshot => s.refreshInventory snapshot
  | .reloadConfig loaded => s.reloadConfig read loaded
  | .setCurrentApp app => s.setCurrentApp app
  | .setPointerContext context => s.setPointerContext context
  | .setOsMouseHookAvailable available => s.setOsMouseHookAvailable available
  | .systemResume => { s with forcedCaptureRearm := true }
  | .captureReported diverted shiftHeld => s.captureReported diverted shiftHeld

def step (read : OpenLogi.Config.DeviceConfig V → DeviceSettings) (s : Runtime V) (e : Event V) : Option (Runtime V) :=
  some (s.next read e)

/-- The agent as it starts: no devices yet, and everything published once. -/
def start (read : OpenLogi.Config.DeviceConfig V → DeviceSettings) (platform : AppPlatform) (loaded : Loaded V) :
    Runtime V :=
  let o : Orchestrator := {
    platform := platform
    config := loaded.config read
    devices := []
    current := 0
    currentApp := none
    pointerContext := ⟨none, .unavailable⟩
    captureRouteGenerations := fun _ => none
    keypadPages := fun _ => none
    osMouseHookAvailable := false }
  ⟨loaded.file, o, false, 0, o.rebuild ⟨{}, false, ⟨[], .empty⟩⟩⟩

/-- A rebuild would publish what is published. -/
def Agrees : Prop := s.published = s.orchestrator.rebuild s.published

/-- What is asked of an event: a refresh leaves what a rebuild would publish. -/
def RefreshAgrees (read : OpenLogi.Config.DeviceConfig V → DeviceSettings) (s : Runtime V) : Event V → Prop
  | .refreshInventory snapshot => (s.next read (.refreshInventory snapshot)).Agrees
  | _ => True

end Runtime

/-- A gesture of the selected device is left to HID++ capture unless the device is a G-series mouse. -/
def Orchestrator.CapturesGesture (o : Orchestrator) (key : String) : Prop :=
  o.config.deviceEnabled key = true ∧ ∃ button : ButtonId, button ≠ .middleClick ∧
    (o.config.hidppSideGestureMapsFor ⟨o.platform, key, o.mouseContext.1, none⟩ button).isSome = true

/-- On macOS a refresh finds the devices unchanged but for whether the selected one, which captures a gesture, is a
G-series mouse. -/
def Runtime.Stale (s : Runtime V) : Event V → Prop
  | .refreshInventory snapshot =>
    let devices := buildDevices s.file snapshot
    s.orchestrator.platform = .macOs ∧ s.orchestrator.changed devices = false ∧
      ∃ key, s.orchestrator.currentKey = some key ∧ s.orchestrator.CapturesGesture key ∧
        (s.afterInventory devices).isSpyOnly key ≠ s.orchestrator.isSpyOnly key
  | _ => False

/-! ## What the comparison says -/

/-- The fields that a refresh compares. -/
def AgentDevice.compared (dev : AgentDevice) :
    String × Option DeviceRoute × Option Capabilities × Option Lights.LightCapabilities :=
  (dev.configKey, dev.route, dev.capabilities, dev.lightCapabilities)

theorem differs_eq_false {a b : AgentDevice} (h : Orchestrator.differs a b = false) : a.compared = b.compared := by
  simp only [Orchestrator.differs, ne_eq, Bool.or_eq_false_iff, decide_eq_false_iff_not, not_not] at h
  obtain ⟨⟨⟨hkey, hroute⟩, hcapabilities⟩, hlight⟩ := h
  unfold AgentDevice.compared
  rw [hkey, hroute, hcapabilities, hlight]

theorem map_compared : ∀ {xs ys : List AgentDevice}, xs.length = ys.length →
    ((xs.zip ys).any fun (a, b) => Orchestrator.differs a b) = false →
      xs.map AgentDevice.compared = ys.map AgentDevice.compared
  | [], [], _, _ => rfl
  | [], _ :: _, h, _ => by cases h
  | _ :: _, [], h, _ => by cases h
  | x :: xs, y :: ys, hlen, h => by
    rw [List.zip_cons_cons, List.any_cons, Bool.or_eq_false_iff] at h
    rw [List.map_cons, List.map_cons, differs_eq_false h.1, map_compared (Nat.succ.inj hlen) h.2]

namespace Orchestrator

variable {o o' : Orchestrator} {devices : List AgentDevice}

theorem unchanged (h : o.changed devices = false) :
    devices.map AgentDevice.compared = o.devices.map AgentDevice.compared := by
  simp only [changed, ne_eq, Bool.or_eq_false_iff, decide_eq_false_iff_not, not_not] at h
  exact map_compared h.1.2 h.2

/-- The selected device keeps its key and its route. -/
theorem currentDevice_compared (hdevices : o'.devices.map AgentDevice.compared = o.devices.map AgentDevice.compared)
    (hcurrent : o'.current = o.current) :
    o'.currentDevice.map AgentDevice.compared = o.currentDevice.map AgentDevice.compared := by
  have hrow : o'.devices[o.current]?.map AgentDevice.compared = o.devices[o.current]?.map AgentDevice.compared := by
    rw [← List.getElem?_map, ← List.getElem?_map, hdevices]
  have hhidpp : ∀ a b : AgentDevice, a.compared = b.compared → a.isHidppDevice = b.isHidppDevice := by
    intro a b h
    unfold AgentDevice.isHidppDevice
    rw [show a.route = b.route from congrArg (fun c => c.2.1) h]
  unfold currentDevice
  rw [hcurrent]
  cases ha : o'.devices[o.current]? with
  | none =>
    cases hb : o.devices[o.current]? with
    | none => rfl
    | some b => simp [ha, hb] at hrow
  | some a =>
    cases hb : o.devices[o.current]? with
    | none => simp [ha, hb] at hrow
    | some b =>
      rw [ha, hb] at hrow
      have hab := Option.some.inj hrow
      rw [Option.filter_some, Option.filter_some, hhidpp a b hab]
      split
      · exact congrArg some hab
      · rfl

theorem currentKey_of_compared
    (h : o'.currentDevice.map AgentDevice.compared = o.currentDevice.map AgentDevice.compared) :
    o'.currentKey = o.currentKey := by
  have hkey : ∀ d : Option AgentDevice, d.map AgentDevice.configKey = (d.map AgentDevice.compared).map Prod.fst :=
    fun d => by cases d <;> rfl
  unfold currentKey
  rw [hkey, hkey, h]

variable {d d' : Option AgentDevice}

theorem route_of_compared (h : d'.map AgentDevice.compared = d.map AgentDevice.compared) :
    d'.bind AgentDevice.route = d.bind AgentDevice.route := by
  have hroute : ∀ d : Option AgentDevice,
      d.bind AgentDevice.route = (d.map AgentDevice.compared).bind fun c => c.2.1 :=
    fun d => by cases d <;> rfl
  rw [hroute, hroute, h]

/-- The scroll inversion reads no more of the devices than is compared. -/
theorem scrollInversion_of_compared (hconfig : o'.config = o.config) (hcurrent : o'.current = o.current)
    (hdevices : o'.devices.map AgentDevice.compared = o.devices.map AgentDevice.compared) :
    o'.scrollInversion = o.scrollInversion := by
  have hfind : ∀ (o : Orchestrator) (key : String),
      ((o.devices.find? fun device => device.configKey = key).any fun device =>
        device.capabilities.any fun capabilities => !capabilities.scrollInversion) =
      (((o.devices.map AgentDevice.compared).find? fun d => d.1 = key).any fun d =>
        d.2.2.1.any fun capabilities => !capabilities.scrollInversion) := by
    intro o key
    rw [List.find?_map, Option.any_map]
    rfl
  unfold scrollInversion
  rw [currentKey_of_compared (currentDevice_compared hdevices hcurrent), hconfig]
  simp only [hfind, hdevices]

/-! ## The hook maps -/

/-- Nothing is left to capture where no gesture is captured. -/
theorem leftToCapture_of_not {key : String} (henabled : o.config.deviceEnabled key = true)
    (h : ¬o.CapturesGesture key) (button : ButtonId) :
    o.leftToCapture key ⟨o.platform, key, o.mouseContext.1, none⟩ button = false := by
  unfold leftToCapture
  by_cases hmiddle : button = .middleClick
  · simp [hmiddle]
  · have hside : (o.config.hidppSideGestureMapsFor ⟨o.platform, key, o.mouseContext.1, none⟩ button).isSome = false :=
      Bool.eq_false_iff.2 fun hsome => h ⟨henabled, button, hmiddle, hsome⟩
    rw [hside]
    simp

/-- Everything but the devices that the hook maps are computed from. -/
structure SameContext (o o' : Orchestrator) : Prop where
  platform : o'.platform = o.platform
  config : o'.config = o.config
  currentApp : o'.currentApp = o.currentApp
  mouseContext : o'.mouseContext = o.mouseContext

/-- **The hook maps of two device lists agree** when the selected device has one key and one route in both, and is a
G-series mouse in both or in neither; or no gesture is captured. -/
theorem hookMapsFor_congr (hc : SameContext o o') (hd : d'.map AgentDevice.compared = d.map AgentDevice.compared)
    (hspy : ∀ key, d.map AgentDevice.configKey = some key → o.platform = .macOs → o.CapturesGesture key →
      o'.isSpyOnly key = o.isSpyOnly key) : o'.hookMapsFor d' = o.hookMapsFor d := by
  have hkey : d'.map AgentDevice.configKey = d.map AgentDevice.configKey := by
    have hread : ∀ d : Option AgentDevice, d.map AgentDevice.configKey = (d.map AgentDevice.compared).map Prod.fst :=
      fun d => by cases d <;> rfl
    rw [hread, hread, hd]
  have hselection : o'.pointerSelection = o.pointerSelection := by
    unfold pointerSelection
    rw [hc.config, hc.platform, hc.currentApp]
  unfold hookMapsFor
  rw [hkey, route_of_compared hd, hselection, hc.mouseContext, hc.config]
  cases hk : d.map AgentDevice.configKey with
  | none => rfl
  | some key =>
    dsimp only
    split
    · rfl
    · rename_i henabled
      have henabled : o.config.deviceEnabled key = true := by simpa using henabled
      have hleft : ∀ button, o'.leftToCapture key ⟨o.platform, key, o.mouseContext.1, none⟩ button =
          o.leftToCapture key ⟨o.platform, key, o.mouseContext.1, none⟩ button := by
        intro button
        by_cases hmac : o.platform = .macOs
        · by_cases hcaptures : o.CapturesGesture key
          · unfold leftToCapture
            rw [hc.platform, hc.config, hspy key hk hmac hcaptures]
          · have hnot' : ¬o'.CapturesGesture key := by
              unfold CapturesGesture
              rw [hc.config, hc.platform, hc.mouseContext]
              exact hcaptures
            have hnone := leftToCapture_of_not (hc.config ▸ henabled) hnot' button
            rw [hc.platform, hc.mouseContext] at hnone
            rw [hnone, leftToCapture_of_not henabled hcaptures]
        · simp [leftToCapture, hc.platform, hmac]
      simp only [hc.platform, hleft]

/-- A gesture that changes hands changes the maps. -/
theorem hookMapsFor_ne (hc : SameContext o o') (hmac : o.platform = .macOs) {key : String}
    (hd : d.map AgentDevice.configKey = some key) (hd' : d'.map AgentDevice.configKey = some key)
    (hcaptures : o.CapturesGesture key) (hspy : o'.isSpyOnly key ≠ o.isSpyOnly key) :
    (o'.hookMapsFor d').gestures ≠ (o.hookMapsFor d).gestures := by
  obtain ⟨henabled, button, hmiddle, hside⟩ := hcaptures
  have hread : ∀ (p : Orchestrator) (e : Option AgentDevice), SameContext o p → e.map AgentDevice.configKey = some key →
      ((p.hookMapsFor e).gestures button).isSome = p.isSpyOnly key := by
    intro p e hp he
    unfold hookMapsFor
    rw [he]
    dsimp only
    rw [hp.config, henabled]
    simp only [Bool.not_true, Bool.false_eq_true, if_false]
    rw [hp.platform, hp.mouseContext]
    unfold leftToCapture
    rw [hp.platform, hp.config, hside]
    simp only [hmac, hmiddle, ne_eq, not_false_eq_true, decide_true, Bool.and_true, Bool.true_and]
    have hgestures := gestures_of_side hside
    rw [hmac] at hgestures
    cases p.isSpyOnly key with
    | false => rfl
    | true => exact hgestures
  intro heq
  apply hspy
  rw [← hread o' d' hc hd', ← hread o d ⟨rfl, rfl, rfl, rfl⟩ hd, heq]

end Orchestrator

/-! ## Agreement -/

namespace Runtime

variable {s : Runtime V}

omit [DecidableEq V] in
theorem agrees_of_rebuild {file : OpenLogi.Config.Config V} {o : Orchestrator} {forced : Bool} {generation : UInt64}
    {published : Published} : (⟨file, o, forced, generation, o.rebuild published⟩ : Runtime V).Agrees := rfl

omit [DecidableEq V] in
/-- What agrees, field by field: the maps aside from the reports of the capture sessions, the inversion, the plans. -/
theorem agrees_iff : s.Agrees ↔
    s.published.hookMaps = (s.orchestrator.publishHookMaps s.published).hookMaps ∧
      s.published.scrollInversion = s.orchestrator.scrollInversion ∧
      s.published.capture = s.orchestrator.capturePublication := by
  unfold Agrees
  obtain ⟨file, o, forced, generation, ⟨hookMaps, scrollInversion, capture⟩⟩ := s
  constructor
  · intro h
    have hmaps := congrArg Published.hookMaps h
    have hinversion := congrArg Published.scrollInversion h
    have hcapture := congrArg Published.capture h
    exact ⟨hmaps, hinversion, hcapture⟩
  · rintro ⟨hmaps, hinversion, hcapture⟩
    dsimp only at hmaps hinversion hcapture
    unfold Orchestrator.rebuild Orchestrator.publishCapturePlans
    rw [← hinversion, ← hcapture, ← hmaps]

omit [DecidableEq V] in
/-- The maps that agree are those of the selected device, the reports of the capture sessions aside. -/
theorem gestures_of_agrees (h : s.Agrees) :
    s.published.hookMaps.gestures = (s.orchestrator.hookMapsFor s.orchestrator.currentDevice).gestures := by
  have hmaps := congrArg HookMaps.gestures (agrees_iff.1 h).1
  exact hmaps

omit [DecidableEq V] in
theorem sameContext_afterInventory (devices : List AgentDevice) :
    Orchestrator.SameContext s.orchestrator (s.afterInventory devices) :=
  ⟨rfl, rfl, rfl, rfl⟩

/-- The unchanged path agrees unless the refresh is stale. -/
theorem agrees_unchanged (hs : s.Agrees) {snapshot : Snapshot}
    (h : s.orchestrator.changed (buildDevices s.file snapshot) = false) :
    (s.refreshInventory snapshot).Agrees ↔ ¬s.Stale (.refreshInventory snapshot) := by
  have hdevices : (s.afterInventory (buildDevices s.file snapshot)).devices.map AgentDevice.compared =
      s.orchestrator.devices.map AgentDevice.compared := Orchestrator.unchanged h
  have hcurrent : (s.afterInventory (buildDevices s.file snapshot)).current = s.orchestrator.current := rfl
  have hselected := Orchestrator.currentDevice_compared hdevices hcurrent
  have hc := sameContext_afterInventory (s := s) (buildDevices s.file snapshot)
  obtain ⟨hmaps, hinversion, _⟩ := agrees_iff.1 hs
  unfold refreshInventory
  rw [if_neg (by simp [h])]
  constructor
  · rintro hagrees ⟨hmac, _, key, hkey, hcaptures, hspy⟩
    have hkey' : (s.afterInventory (buildDevices s.file snapshot)).currentKey = some key :=
      (Orchestrator.currentKey_of_compared hselected).trans hkey
    apply Orchestrator.hookMapsFor_ne hc hmac hkey hkey' hcaptures hspy
    exact (gestures_of_agrees hagrees).symm.trans (gestures_of_agrees hs)
  · intro hstale
    have hsame : (s.afterInventory (buildDevices s.file snapshot)).hookMapsFor
        (s.afterInventory (buildDevices s.file snapshot)).currentDevice =
          s.orchestrator.hookMapsFor s.orchestrator.currentDevice := by
      refine Orchestrator.hookMapsFor_congr hc hselected fun key hkey hmac hcaptures => ?_
      by_contra hspy
      exact hstale ⟨hmac, h, key, hkey, hcaptures, hspy⟩
    refine agrees_iff.2 ⟨?_, ?_, rfl⟩
    · unfold Orchestrator.publishHookMaps Published.withHookMaps at hmaps ⊢
      dsimp only [Orchestrator.publishCapturePlans] at hmaps ⊢
      rw [hsame]
      exact hmaps
    · have hsame : (s.afterInventory (buildDevices s.file snapshot)).scrollInversion = s.orchestrator.scrollInversion :=
        Orchestrator.scrollInversion_of_compared rfl hcurrent hdevices
      exact hinversion.trans hsame.symm

theorem agrees_refresh (hs : s.Agrees) (snapshot : Snapshot) :
    (s.refreshInventory snapshot).Agrees ↔ ¬s.Stale (.refreshInventory snapshot) := by
  cases h : s.orchestrator.changed (buildDevices s.file snapshot) with
  | false => exact agrees_unchanged hs h
  | true =>
    refine iff_of_true ?_ ?_
    · unfold refreshInventory
      rw [if_pos h]
      exact agrees_of_rebuild
    · rintro ⟨_, hunchanged, _⟩
      rw [h] at hunchanged
      cases hunchanged

/-- Every other event leaves what a rebuild would publish. -/
theorem agrees_next (read : OpenLogi.Config.DeviceConfig V → DeviceSettings) (hs : s.Agrees) (e : Event V)
    (he : s.RefreshAgrees read e) : (s.next read e).Agrees := by
  obtain ⟨hmaps, hinversion, hcapture⟩ := agrees_iff.1 hs
  cases e with
  | refreshInventory snapshot => exact he
  | reloadConfig loaded => exact agrees_of_rebuild
  | systemResume => exact hs
  | setCurrentApp app =>
    unfold next setCurrentApp
    dsimp only
    split
    · exact hs
    · exact agrees_iff.2 ⟨rfl, hinversion, rfl⟩
  | setPointerContext context =>
    unfold next setPointerContext
    dsimp only
    split
    · exact hs
    · split
      · rename_i hfocused
        -- the pointer is not read while the profiles follow the focus
        have hcontext : ({ s.orchestrator with pointerContext := context } : Orchestrator).mouseContext =
            s.orchestrator.mouseContext := by
          have hfocused : s.orchestrator.config.appSettings.mouseProfileTarget = .focused := hfocused
          simp [Orchestrator.mouseContext, hfocused]
        have hc : Orchestrator.SameContext s.orchestrator { s.orchestrator with pointerContext := context } :=
          ⟨rfl, rfl, rfl, hcontext⟩
        have hselection : ({ s.orchestrator with pointerContext := context } : Orchestrator).pointerSelection =
            s.orchestrator.pointerSelection := rfl
        refine agrees_iff.2 ⟨?_, hinversion, ?_⟩
        · have hsame := Orchestrator.hookMapsFor_congr hc (d := s.orchestrator.currentDevice) rfl fun _ _ _ _ => rfl
          unfold Orchestrator.publishHookMaps at hmaps ⊢
          exact hmaps.trans (congrArg (fun maps => (s.published.withHookMaps maps).hookMaps) hsame.symm)
        · refine hcapture.trans ?_
          have hplan : ∀ dev, ({ s.orchestrator with pointerContext := context } : Orchestrator).planContext dev =
              s.orchestrator.planContext dev := by
            intro dev
            unfold Orchestrator.planContext
            rw [hcontext]
          have hdevice : ∀ keyboards dev,
              ({ s.orchestrator with pointerContext := context } : Orchestrator).devicePlan keyboards dev =
                s.orchestrator.devicePlan keyboards dev := by
            intro keyboards dev
            unfold Orchestrator.devicePlan Orchestrator.plan
            rw [hplan, hselection]
          have hkeyboards : ({ s.orchestrator with pointerContext := context } : Orchestrator).keyboardSpecsFor =
              s.orchestrator.keyboardSpecsFor := rfl
          have hdevices : ({ s.orchestrator with pointerContext := context } : Orchestrator).devicePlan
              s.orchestrator.keyboardSpecsFor = s.orchestrator.devicePlan s.orchestrator.keyboardSpecsFor :=
            funext (hdevice _)
          unfold Orchestrator.capturePublication
          rw [hkeyboards, hdevices]
      · exact agrees_iff.2 ⟨rfl, hinversion, rfl⟩
  | setOsMouseHookAvailable available =>
    unfold next setOsMouseHookAvailable
    dsimp only
    split
    · exact hs
    · exact agrees_iff.2 ⟨hmaps, hinversion, rfl⟩
  | captureReported diverted shiftHeld =>
    refine agrees_iff.2 ⟨?_, hinversion, hcapture⟩
    have hread := congrArg (fun maps : HookMaps => { maps with divertedButtons := diverted, shiftHeld := shiftHeld }) hmaps
    exact hread

/-- **Every refresh of a run leaves what a rebuild would publish, exactly when no refresh is stale.** -/
theorem refresh_agrees_iff (read : OpenLogi.Config.DeviceConfig V → DeviceSettings) (platform : AppPlatform)
    (loaded : Loaded V) (events : List (Event V)) :
    Lib.Along (step read) (RefreshAgrees read) (start read platform loaded) events ↔
      Lib.Along (step read) (fun s e => ¬s.Stale e) (start read platform loaded) events := by
  refine Lib.along_congr Agrees ?_ ?_ agrees_of_rebuild
  · intro s e hs
    cases e with
    | refreshInventory snapshot => exact agrees_refresh hs snapshot
    | _ => exact iff_of_true trivial not_false
  · intro s e s' hs he hstep
    cases hstep
    exact agrees_next read hs e he

/-! ## A model that changes under its key -/

def backGesture : DeviceSettings where
  bindings := Lib.Map.empty.put .back (.gesture fun _ => some .missionControl)

/-- One entry, keyed by a slot of a receiver, whose Back button is a gesture button. -/
def slotFile : OpenLogi.Config.Config Unit where
  devices := (∅ : OpenLogi.Config.BTreeMap (OpenLogi.Config.DeviceConfig Unit)).insert "receiver:ab:slot:1" {}

def slotConfig : Loaded Unit := ⟨⟨true, defaultSensitivity, Orchestrator.sampleMomentum, .focused⟩, [], slotFile⟩

/-- A snapshot of one mouse in the slot: it reports no identity, and its features were not read. -/
def slotSnapshot (modelId : UInt16) : Snapshot where
  inventories := [⟨⟨0x046d, 0xc539, some "ab"⟩, [⟨1, .mouse, true, some ⟨none, zeroUnit, (modelId, 0, 0), 0⟩, none⟩]⟩]
  standalone := []

/-- The second mouse of the slot is a G502, whose Back the hook has to time: its gesture is not published. -/
theorem replaced_mouse_is_stale :
    ¬Lib.Along (step fun _ => backGesture) (RefreshAgrees fun _ => backGesture)
      (start (fun _ => backGesture) .macOs slotConfig)
      [.refreshInventory (slotSnapshot 0x4099), .refreshInventory (slotSnapshot 0x407f)] := by
  intro h
  have hlast := (h.2 _ rfl).1
  have hagrees := congrArg (fun gestures => (gestures ButtonId.back).isSome) (gestures_of_agrees hlast)
  revert hagrees
  decide +kernel

end Runtime

end Agent
end OpenLogi
