import OpenLogi.Bindings.Gestures
/-!
# Profiles — the overlays of single applications

Looking an overlay up goes by presence, the exact key before the aliases, so an overlay that lost its last binding must
go.  Editing a binding sees to that; giving up pages of a keypad drops bindings in bulk and does not.
-/
namespace OpenLogi
namespace Bindings

open OpenLogi.Core
open Lib (Map Along EveryState everyState_iff_along)

/-- Whether a button is left once the last page of the keypad is `last`. -/
def keptOn (last : UInt8) (button : ButtonId) : Bool := button.gridSlot.all fun slot => slot.page ≤ last

namespace Device

def setPerAppBinding (d : Device) (app : String) (button : ButtonId) (action : Option Action) : Device :=
  let entry := (d.perAppBindings.get app).getD .empty
  let entry := match action with
    | some action => entry.put button action
    | none => entry.erase button
  { d with perAppBindings := (d.perAppBindings.put app entry).filter fun row => !row.2.rows.isEmpty }

def removeAppProfile (d : Device) (app : String) : Device := { d with perAppBindings := d.perAppBindings.erase app }

def setKeypadPages (d : Device) (last : UInt8) : Device :=
  { d with
    keypadPages := last
    bindings := d.bindings.filter fun row => keptOn last row.1
    disabledGestures := d.disabledGestures.filter fun row => keptOn last row.1
    perAppBindings := d.perAppBindings.mapValues fun _ overlay => overlay.filter fun row => keptOn last row.1 }

/-- Every overlay binds something. -/
def Pruned (d : Device) : Prop := ∀ app overlay, d.perAppBindings.get app = some overlay → overlay.rows ≠ []

end Device

/-- One edit of the profiles of a device, or of its pages. -/
inductive ProfileEdit where
  | binding (key app : String) (button : ButtonId) (action : Option Action)
  | remove (key app : String)
  | pages (key : String) (last : UInt8)

namespace Config

def setPerAppBinding (config : Config) (key app : String) (button : ButtonId) (action : Option Action) : Config :=
  config.update key fun d => d.setPerAppBinding app button action

/-- A device that is not there is not made. -/
def removeAppProfile (config : Config) (key app : String) : Config :=
  { config with
    devices := Function.update config.devices key ((config.devices key).map fun d => d.removeAppProfile app) }

def setKeypadPages (config : Config) (key : String) (last : UInt8) : Config :=
  config.update key fun d => d.setKeypadPages last

def editProfile (config : Config) : ProfileEdit → Config
  | .binding key app button action => config.setPerAppBinding key app button action
  | .remove key app => config.removeAppProfile key app
  | .pages key last => config.setKeypadPages key last

/-- What the own overlay of an application binds a button to. -/
def appOverride (config : Config) (key app : String) (button : ButtonId) : Option Action :=
  ((config.device key).perAppBindings.get app).bind fun overlay => overlay.get button

/-- **An empty profile is none**: where it binds nothing, every application has the bindings it has without it. -/
def EmptyIsNone (config : Config) : Prop :=
  ∀ key profile, (∀ button, config.appOverride key profile button = none) →
    ∀ platform app, (config.removeAppProfile key profile).effectiveBindings platform key app =
      config.effectiveBindings platform key app

/-- Every overlay of every device binds something. -/
def Pruned (config : Config) : Prop := ∀ key, (config.device key).Pruned

/-- Giving up pages leaves every overlay of the device something it binds. -/
def LeavesBindings (config : Config) : ProfileEdit → Prop
  | .pages key last => ∀ app overlay, (config.device key).perAppBindings.get app = some overlay →
      ∃ row ∈ overlay.rows, keptOn last row.1 = true
  | _ => True

end Config

/-! ## Edits and pruned overlays -/

namespace Device

variable {d : Device}

/-- Editing a binding prunes whatever was empty. -/
theorem setPerAppBinding_pruned (d : Device) (app : String) (button : ButtonId) (action : Option Action) :
    (d.setPerAppBinding app button action).Pruned := by
  intro other overlay hget hempty
  have hfull := (Option.filter_eq_some_iff.1 ((Map.get_filter ..).symm.trans hget)).2
  dsimp only at hfull
  rw [hempty] at hfull
  cases hfull

theorem Pruned.remove (h : d.Pruned) (app : String) : (d.removeAppProfile app).Pruned := by
  intro other overlay hget
  rw [removeAppProfile, Map.get_erase] at hget
  split at hget
  · cases hget
  · exact h other overlay hget

theorem setKeypadPages_pruned_iff {last : UInt8} : (d.setKeypadPages last).Pruned ↔
    ∀ app overlay, d.perAppBindings.get app = some overlay → ∃ row ∈ overlay.rows, keptOn last row.1 = true := by
  unfold Pruned
  simp only [setKeypadPages, Map.get_mapValues, Option.map_eq_some_iff]
  constructor
  · intro h app overlay hget
    obtain ⟨row, hrow⟩ := List.exists_mem_of_ne_nil _ (h app _ ⟨overlay, hget, rfl⟩)
    obtain ⟨hmem, hkept⟩ := List.mem_filter.1 hrow
    exact ⟨row, hmem, hkept⟩
  · rintro h app overlay ⟨before, hget, rfl⟩
    obtain ⟨row, hmem, hkept⟩ := h app before hget
    exact List.ne_nil_of_mem (List.mem_filter.2 ⟨hmem, hkept⟩)

/-- A pruned device stores nothing for a profile that binds nothing. -/
theorem Pruned.get_eq_none (h : d.Pruned) {app : String}
    (happ : ∀ button, ((d.perAppBindings.get app).bind fun overlay => overlay.get button) = none) :
    d.perAppBindings.get app = none := by
  cases hget : d.perAppBindings.get app with
  | none => rfl
  | some overlay =>
    obtain ⟨row, hrow⟩ := List.exists_mem_of_ne_nil _ (h app overlay hget)
    have hnone := happ row.1
    rw [hget, Option.bind_some, Map.get_eq_some.2 hrow] at hnone
    cases hnone

theorem removeAppProfile_eq {app : String} (h : d.perAppBindings.get app = none) : d.removeAppProfile app = d := by
  unfold removeAppProfile
  rw [Lib.Table.erase_of_get? (Option.map_eq_none_iff.1 h)]

end Device

namespace Config

variable {config : Config}

theorem device_removeAppProfile (config : Config) (key app key' : String) :
    (config.removeAppProfile key app).device key' =
      if key' = key then (config.device key).removeAppProfile app else config.device key' := by
  unfold device removeAppProfile
  by_cases hkey : key' = key
  · subst hkey
    rw [if_pos rfl]
    dsimp only
    rw [Function.update_self]
    cases config.devices key' with
    | some d => rfl
    | none => exact (Device.removeAppProfile_eq rfl).symm
  · rw [if_neg hkey]
    dsimp only
    rw [Function.update_of_ne hkey]

/-- What is stored pruned stays so exactly when no page change empties an overlay. -/
theorem Pruned.edit_iff (h : config.Pruned) (e : ProfileEdit) :
    (config.editProfile e).Pruned ↔ config.LeavesBindings e := by
  cases e with
  | binding key app button action =>
    refine ⟨fun _ => trivial, fun _ key' => ?_⟩
    rw [editProfile, setPerAppBinding, device_update]
    split
    · exact Device.setPerAppBinding_pruned (config.device key) app button action
    · exact h key'
  | remove key app =>
    refine ⟨fun _ => trivial, fun _ key' => ?_⟩
    rw [editProfile, device_removeAppProfile]
    split
    · exact (h key).remove app
    · exact h key'
  | pages key last =>
    rw [LeavesBindings, ← Device.setKeypadPages_pruned_iff]
    constructor
    · intro hpruned
      have hkey := hpruned key
      rw [editProfile, setKeypadPages, device_update, if_pos rfl] at hkey
      exact hkey
    · intro hkey key'
      rw [editProfile, setKeypadPages, device_update]
      split
      · exact hkey
      · exact h key'

theorem Pruned.emptyIsNone (h : config.Pruned) : config.EmptyIsNone := by
  intro key profile hprofile platform app
  have hsame : config.removeAppProfile key profile = config := by
    have hget : (config.device key).removeAppProfile profile = config.device key :=
      Device.removeAppProfile_eq ((h key).get_eq_none hprofile)
    unfold removeAppProfile
    have hdevices : Function.update config.devices key ((config.devices key).map fun d => d.removeAppProfile profile) =
        config.devices := by
      refine (Function.update_eq_self_iff).2 ?_
      unfold device at hget
      cases hd : config.devices key with
      | none => rfl
      | some d =>
        rw [hd] at hget
        exact congrArg some hget
    rw [hdevices]
  rw [hsame]

/-! ## Runs of edits -/

/-- **From overlays that all bind something, they all do in every state exactly when no page change takes an overlay
its last binding.** -/
theorem pruned_iff (h : config.Pruned) (edits : List ProfileEdit) :
    EveryState (fun config e => some (config.editProfile e)) Pruned config edits ↔
      Along (fun config e => some (config.editProfile e)) LeavesBindings config edits := by
  refine everyState_iff_along Pruned LeavesBindings (fun config e next h hnext => ?_)
    (fun config e hnext => by cases hnext) edits config h
  cases hnext
  exact h.edit_iff e

/-- **Empty profiles are none as long as no page change takes an overlay its last binding.** -/
theorem empty_profiles_are_none (h : config.Pruned) (edits : List ProfileEdit)
    (hedits : Along (fun config e => some (config.editProfile e)) LeavesBindings config edits) :
    EveryState (fun config e => some (config.editProfile e)) EmptyIsNone config edits :=
  ((pruned_iff h edits).2 hedits).imp fun _ => Pruned.emptyIsNone

/-- Two pages, a key of the second bound for one application, whose alias has a profile of its own. -/
def pagedEdits : List ProfileEdit :=
  [.pages "pad" 2, .binding "pad" "org.gimp.GIMP" (.grid ⟨2, .middle⟩) (some .copy),
    .binding "pad" "app:editor" .back (some .paste)]

/-- The applications the alias stands for. -/
def pagedConfig : Config := ⟨[("editor", { linux := ["org.gimp.GIMP"] })], fun _ => none⟩

theorem pagedConfig_pruned : pagedConfig.Pruned := by
  intro key app overlay hget
  cases hget

/-- Pages added and profiles edited. -/
theorem empty_profiles_are_none_paged :
    EveryState (fun config e => some (config.editProfile e)) EmptyIsNone pagedConfig pagedEdits := by
  refine empty_profiles_are_none pagedConfig_pruned pagedEdits ⟨fun app overlay hget => ?_, fun _ _ => ?_⟩
  · cases hget
  · exact ⟨trivial, fun _ _ => ⟨trivial, fun _ _ => trivial⟩⟩

/-- The second page given up, the empty overlay hides the profile of the alias. -/
theorem empty_profile_shadows : ¬ ∀ (config : Config) (edits : List ProfileEdit),
    EveryState (fun config e => some (config.editProfile e)) EmptyIsNone config edits := by
  intro h
  have hnone := h pagedConfig (pagedEdits ++ [.pages "pad" 1]) _ _ List.prefix_rfl rfl "pad" "org.gimp.GIMP"
    (fun button => rfl) .linux (some "org.gimp.GIMP")
  have hback := congrArg (fun bindings => bindings.get .back) hnone
  exact absurd hback (by decide +kernel)

end Config

end Bindings
end OpenLogi
