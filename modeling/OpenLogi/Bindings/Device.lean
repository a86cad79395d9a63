import OpenLogi.Agent.Bindings
/-!
# Device — what the buttons of a device are configured to do

The settings of a device with its gesture maps: the old owner of the gestures, and the maps of the buttons whose gesture
mode is off.
-/
namespace OpenLogi
namespace Bindings

open OpenLogi.Core
open OpenLogi.Agent (AppAliases AppPlatform DeviceSettings overlayFor)
open Lib (Map)

/-- `BTreeMap<GestureDirection, Action>`. -/
abbrev GestureMap := GestureDirection → Option Action

/-- Which control owned the one gesture role of a device, before schema 4. -/
inductive GestureOwner where
  | off
  | button (id : ButtonId)
  deriving DecidableEq

structure Device extends DeviceSettings where
  gestureOwner : Option GestureOwner := none
  disabledGestures : Map ButtonId GestureMap := .empty

structure Config where
  apps : AppAliases := []
  devices : String → Option Device

namespace Config

/-- `devices.entry(key).or_default()`, changed. -/
def update (config : Config) (key : String) (f : Device → Device) : Config :=
  { config with devices := Function.update config.devices key (some (f ((config.devices key).getD {}))) }

/-- The bindings of a device for an application. -/
def effectiveBindings (config : Config) (platform : AppPlatform) (key : String) (app : Option String) :
    Map ButtonId Binding :=
  ((config.devices key).map fun d => d.effectiveBindings config.apps platform app).getD .empty

end Config

/-! ## What an overlay replaces -/

/-- What the profile of an overlay does with a button. -/
def overlaid (bindings : Map ButtonId Binding) (overlay : Option (Map ButtonId Action)) (button : ButtonId) :
    Option Binding :=
  ((overlay.bind fun overlay => overlay.get button).map .single).or (bindings.get button)

theorem get_effectiveBindings (d : DeviceSettings) (aliases : AppAliases) (platform : AppPlatform)
    (app : Option String) (button : ButtonId) :
    (d.effectiveBindings aliases platform app).get button =
      overlaid d.bindings (app.bind (overlayFor d.perAppBindings.get aliases platform)) button := by
  unfold DeviceSettings.effectiveBindings overlaid
  cases app.bind (overlayFor d.perAppBindings.get aliases platform) with
  | none => rfl
  | some overlay =>
    dsimp only [Option.bind_some]
    rw [Agent.get_foldr_put (fun _ => Binding.single) d.bindings button _ overlay.nodup]
    unfold Map.get Lib.Table.get?
    cases overlay.rows.find? fun row => decide (row.1 = button) with
    | none => rfl
    | some row => rfl

/-! ## Which overlay an application has -/

variable {α : Type}

theorem findSome?_map {β γ : Type} (f : α → Option β) (g : β → γ) :
    ∀ l : List α, (l.findSome? fun a => (f a).map g) = (l.findSome? f).map g
  | [] => rfl
  | a :: l => by
    rw [List.findSome?_cons, List.findSome?_cons]
    cases f a with
    | none => exact findSome?_map f g l
    | some b => rfl

/-- The lookup goes by the keys of the overlays alone. -/
theorem overlayFor_map {β : Type} (overlays : String → Option α) (f : α → β) (aliases : AppAliases)
    (platform : AppPlatform) (app : String) :
    overlayFor (fun key => (overlays key).map f) aliases platform app =
      (overlayFor overlays aliases platform app).map f := by
  unfold overlayFor
  dsimp only
  rw [findSome?_map overlays f, Option.map_or]
  congr 1
  rw [← findSome?_map]
  congr 1
  funext selector
  rw [Option.map_bind]
  rfl

/-- The exact key wins. -/
theorem overlayFor_self {overlays : String → Option α} {app : String} {overlay : α} (h : overlays app = some overlay)
    (aliases : AppAliases) (platform : AppPlatform) :
    overlayFor overlays aliases platform app = some overlay := by
  unfold overlayFor
  dsimp only
  rw [List.findSome?_cons, h, Option.some_or]


/-- What the lookup finds is stored. -/
theorem stored_of_overlayFor {overlays : String → Option α} {aliases : AppAliases} {platform : AppPlatform}
    {app : String} {overlay : α} (h : overlayFor overlays aliases platform app = some overlay) :
    ∃ key, overlays key = some overlay := by
  unfold overlayFor at h
  rcases Option.or_eq_some_iff.1 h with h | ⟨-, h⟩
  · obtain ⟨key, -, hkey⟩ := List.exists_of_findSome?_eq_some h
    exact ⟨key, hkey⟩
  · obtain ⟨selector, -, hselector⟩ := List.exists_of_findSome?_eq_some h
    obtain ⟨name, -, hname⟩ := Option.bind_eq_some_iff.1 hselector
    exact ⟨_, hname⟩

end Bindings
end OpenLogi
