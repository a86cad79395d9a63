import OpenLogi.Bindings.Device
import OpenLogi.Lib.Run
/-!
# Gestures — which buttons of a device dispatch a direction map

The mode is read from the shape of the binding.  Leaving it stashes the map of the button, and entering it again takes
the stash back.
-/
namespace OpenLogi
namespace Bindings

open OpenLogi.Core
open Lib (Map)

/-- The default direction map. -/
def defaultGestureMap : GestureMap := fun direction => some (defaultGestureBinding direction)

namespace Device

/-- The entry of a button, in gesture mode. -/
def ensureGestureBinding (d : Device) (button : ButtonId) : Binding :=
  ((d.bindings.get button).getD (defaultBindingFor button)).upgradeToGesture

def setGestureDirection (d : Device) (button : ButtonId) (direction : GestureDirection) (action : Action) : Device :=
  match d.ensureGestureBinding button with
  | .gesture directions =>
    { d with bindings := d.bindings.put button (.gesture (Function.update directions direction (some action))) }
  | binding => { d with bindings := d.bindings.put button binding }

/-- The stashes once a binding leaves gesture mode. -/
def stashing (d : Device) (button : ButtonId) : Binding → Map ButtonId GestureMap
  | .gesture directions => d.disabledGestures.put button directions
  | _ => d.disabledGestures

def setGestureMode (d : Device) (button : ButtonId) (enabled : Bool) : Device :=
  if enabled then
    match d.disabledGestures.get button with
    | some directions =>
      { d with
        disabledGestures := d.disabledGestures.erase button
        bindings := d.bindings.put button (.gesture directions) }
    | none => { d with bindings := d.bindings.put button (d.ensureGestureBinding button).fillGestureDefaults }
  else
    match d.bindings.get button with
    | some binding =>
      { d with
        disabledGestures := d.stashing button binding
        bindings := d.bindings.put button (binding.demoteToSingle (defaultBinding button)) }
    | none =>
      if (defaultBindingFor button).isGesture then
        { d with
          disabledGestures := d.disabledGestures.put button defaultGestureMap
          bindings := d.bindings.put button (.single (defaultBinding button)) }
      else d

end Device

/-- One edit of the gestures of a button. -/
inductive GestureEdit where
  | direction (key : String) (button : ButtonId) (direction : GestureDirection) (action : Action)
  | mode (key : String) (button : ButtonId) (enabled : Bool)

/-- The button an edit is about. -/
def GestureEdit.target : GestureEdit → String × ButtonId
  | direction key button _ _ => (key, button)
  | mode key button _ => (key, button)

namespace Config

def setGestureDirection (config : Config) (key : String) (button : ButtonId) (direction : GestureDirection)
    (action : Action) : Config :=
  config.update key fun d => d.setGestureDirection button direction action

def setGestureMode (config : Config) (key : String) (button : ButtonId) (enabled : Bool) : Config :=
  config.update key fun d => d.setGestureMode button enabled

def edit (config : Config) : GestureEdit → Config
  | .direction key button direction action => config.setGestureDirection key button direction action
  | .mode key button enabled => config.setGestureMode key button enabled

def binding (config : Config) (key : String) (button : ButtonId) : Option Binding :=
  (config.devices key).bind fun d => d.bindings.get button

def stash (config : Config) (key : String) (button : ButtonId) : Option GestureMap :=
  (config.devices key).bind fun d => d.disabledGestures.get button

/-- Whether the button is in gesture mode: a stored gesture, or none where the default is one. -/
def isGestureMode (config : Config) (key : String) (button : ButtonId) : Bool :=
  (config.binding key button).elim (defaultBindingFor button).isGesture Binding.isGesture

end Config

/-! ## What an edit does to a device -/

namespace Device

variable {d : Device} {button other : ButtonId}

/-- An edit of one button leaves the others alone. -/
theorem setGestureMode_ne (h : button ≠ other) (enabled : Bool) :
    (d.setGestureMode button enabled).bindings.get other = d.bindings.get other ∧
      (d.setGestureMode button enabled).disabledGestures.get other = d.disabledGestures.get other := by
  unfold setGestureMode
  cases enabled with
  | true =>
    rw [if_pos rfl]
    split
    · exact ⟨by rw [Map.get_put, if_neg h], by rw [Map.get_erase, if_neg h]⟩
    · exact ⟨by rw [Map.get_put, if_neg h], rfl⟩
  | false =>
    rw [if_neg Bool.false_ne_true]
    split
    · rename_i binding _
      refine ⟨by rw [Map.get_put, if_neg h], ?_⟩
      cases binding with
      | gesture directions => exact (Map.get_put ..).trans (if_neg h)
      | _ => rfl
    · split
      · exact ⟨by rw [Map.get_put, if_neg h], by rw [Map.get_put, if_neg h]⟩
      · exact ⟨rfl, rfl⟩

theorem setGestureDirection_ne (h : button ≠ other) (direction : GestureDirection) (action : Action) :
    (d.setGestureDirection button direction action).bindings.get other = d.bindings.get other ∧
      (d.setGestureDirection button direction action).disabledGestures.get other = d.disabledGestures.get other := by
  unfold setGestureDirection
  split <;> exact ⟨by rw [Map.get_put, if_neg h], rfl⟩

variable {directions : GestureMap}

/-- Turning the mode on takes the stash back, or else keeps the map and fills its gaps. -/
theorem setGestureMode_on (h : d.bindings.get button = some (.gesture directions)) :
    (d.setGestureMode button true).bindings.get button = some (.gesture ((d.disabledGestures.get button).getD
      fun direction => some ((directions direction).getD (defaultGestureBinding direction)))) := by
  unfold setGestureMode
  rw [if_pos rfl]
  cases d.disabledGestures.get button with
  | some stashed => exact (Map.get_put ..).trans (if_pos rfl)
  | none =>
    dsimp only
    rw [Map.get_put, if_pos rfl, ensureGestureBinding, h]
    rfl

/-- Turning it on takes the stash back whatever the binding was. -/
theorem setGestureMode_stashed (h : d.disabledGestures.get button = some directions) :
    (d.setGestureMode button true).bindings.get button = some (.gesture directions) := by
  unfold setGestureMode
  rw [if_pos rfl, h]
  exact (Map.get_put ..).trans (if_pos rfl)

/-- What is on has no stash, and what is off no map. -/
theorem setGestureMode_tidy (enabled : Bool)
    (h : (d.setGestureMode button enabled).bindings.get button = some (.gesture directions)) :
    (d.setGestureMode button enabled).disabledGestures.get button = none := by
  unfold setGestureMode at h ⊢
  cases enabled with
  | true =>
    rw [if_pos rfl]
    cases hstash : d.disabledGestures.get button with
    | some stashed => exact (Map.get_erase ..).trans (if_pos rfl)
    | none => exact hstash
  | false =>
    rw [if_neg Bool.false_ne_true] at h
    cases hget : d.bindings.get button with
    | some binding =>
      simp only [hget, Map.get_put, if_true, Option.some.injEq] at h
      have hshape := Binding.isGesture_demoteToSingle (defaultBinding button) binding
      rw [h] at hshape
      cases hshape
    | none =>
      simp only [hget] at h
      split at h
      · rw [Map.get_put, if_pos rfl] at h
        cases h
      · rw [hget] at h
        cases h

theorem setGestureDirection_stash (direction : GestureDirection) (action : Action) :
    (d.setGestureDirection button direction action).disabledGestures = d.disabledGestures := by
  unfold setGestureDirection
  split <;> rfl

/-- Turning it off stashes the map, stored or by default. -/
theorem setGestureMode_off (h : (d.bindings.get button).getD (defaultBindingFor button) = .gesture directions) :
    (d.setGestureMode button false).disabledGestures.get button = some directions := by
  unfold setGestureMode
  rw [if_neg Bool.false_ne_true]
  cases hget : d.bindings.get button with
  | some binding =>
    rw [hget] at h
    obtain rfl : binding = .gesture directions := h
    exact (Map.get_put ..).trans (if_pos rfl)
  | none =>
    rw [hget, Option.getD_none] at h
    have hdefault : defaultGestureMap = directions := by
      cases button <;> cases h
      rfl
    dsimp only
    rw [h, if_pos (show (Binding.gesture directions).isGesture = true from rfl), ← hdefault]
    exact (Map.get_put ..).trans (if_pos rfl)

end Device

/-! ## What an edit does to a configuration -/

namespace Config

variable {config : Config} {key : String} {button : ButtonId}

/-- The device of a key, as an edit would create it. -/
def device (config : Config) (key : String) : Device := (config.devices key).getD {}

theorem binding_eq : config.binding key button = (config.device key).bindings.get button := by
  unfold binding device
  cases config.devices key <;> rfl

theorem stash_eq : config.stash key button = (config.device key).disabledGestures.get button := by
  unfold stash device
  cases config.devices key <;> rfl

theorem device_update (key' : String) (f : Device → Device) :
    (config.update key f).device key' = if key' = key then f (config.device key) else config.device key' := by
  unfold device update
  by_cases hkey : key' = key
  · subst hkey
    rw [if_pos rfl]
    dsimp only
    rw [Function.update_self]
    rfl
  · rw [if_neg hkey]
    dsimp only
    rw [Function.update_of_ne hkey]

/-- Turning the mode on for a button in gesture mode changes none of its directions. -/
def KeepsChosen (config : Config) : GestureEdit → Prop
  | .mode key button true => ∀ directions, config.binding key button = some (.gesture directions) →
      ∃ kept, (config.setGestureMode key button true).binding key button = some (.gesture kept) ∧
        ∀ direction action, directions direction = some action → kept direction = some action
  | _ => True

/-- Turning the mode off and on again yields the map, stored or by default. -/
def RoundTrips (config : Config) : Prop :=
  ∀ key button, config.isGestureMode key button = true →
    ((config.setGestureMode key button false).setGestureMode key button true).binding key button =
      some ((config.binding key button).getD (defaultBindingFor button))

/-- No other button has another binding or stash. -/
def LeavesOthers (config : Config) (e : GestureEdit) : Prop :=
  ∀ key button, (key, button) ≠ e.target →
    (config.edit e).binding key button = config.binding key button ∧
      (config.edit e).stash key button = config.stash key button

/-- The mode is not turned on for a button whose map disagrees with a stash left over from before. -/
def Agrees (config : Config) : GestureEdit → Prop
  | .mode key button true => ∀ directions stashed, config.binding key button = some (.gesture directions) →
      config.stash key button = some stashed →
        ∀ direction action, directions direction = some action → stashed direction = some action
  | _ => True

theorem keepsChosen_iff (e : GestureEdit) : config.KeepsChosen e ↔ config.Agrees e := by
  cases e with
  | direction => exact Iff.rfl
  | mode key button enabled =>
    cases enabled with
    | false => exact Iff.rfl
    | true =>
      refine forall_congr' fun directions => ?_
      have hon : ∀ hstored : config.binding key button = some (.gesture directions),
          (config.setGestureMode key button true).binding key button = some (.gesture
            ((config.stash key button).getD fun direction =>
              some ((directions direction).getD (defaultGestureBinding direction)))) := by
        intro hstored
        rw [binding_eq] at hstored
        rw [binding_eq, stash_eq, setGestureMode, device_update, if_pos rfl]
        exact Device.setGestureMode_on hstored
      constructor
      · intro hkeeps stashed hstored hstash direction action hchosen
        obtain ⟨kept, hkept, hsame⟩ := hkeeps hstored
        rw [hon hstored, hstash] at hkept
        cases hkept
        exact hsame direction action hchosen
      · intro hagrees hstored
        refine ⟨_, hon hstored, fun direction action hchosen => ?_⟩
        cases hstash : config.stash key button with
        | some stashed => exact hagrees stashed hstored hstash direction action hchosen
        | none => exact congrArg some (congrArg (Option.getD · _) hchosen)

theorem roundTrips (config : Config) : config.RoundTrips := by
  intro key button hmode
  have hshape : ∃ directions, (config.binding key button).getD (defaultBindingFor button) = .gesture directions := by
    refine Binding.isGesture_iff.1 ?_
    unfold isGestureMode at hmode
    cases hget : config.binding key button with
    | none => rwa [hget] at hmode
    | some binding => rwa [hget] at hmode
  obtain ⟨directions, hdirections⟩ := hshape
  rw [binding_eq] at hdirections
  have hoff := Device.setGestureMode_off hdirections
  rw [binding_eq, binding_eq, hdirections]
  rw [setGestureMode, setGestureMode, device_update, if_pos rfl, device_update, if_pos rfl]
  exact Device.setGestureMode_stashed hoff

theorem leavesOthers (config : Config) (e : GestureEdit) : config.LeavesOthers e := by
  intro key button hne
  rw [binding_eq, binding_eq, stash_eq, stash_eq]
  cases e with
  | direction key' button' direction action =>
    rw [edit, setGestureDirection, device_update]
    split
    · rename_i hkey
      subst hkey
      exact Device.setGestureDirection_ne (fun hbutton => hne (by rw [hbutton]; rfl)) direction action
    · exact ⟨rfl, rfl⟩
  | mode key' button' enabled =>
    rw [edit, setGestureMode, device_update]
    split
    · rename_i hkey
      subst hkey
      exact Device.setGestureMode_ne (fun hbutton => hne (by rw [hbutton]; rfl)) enabled
    · exact ⟨rfl, rfl⟩

/-- **Along every sequence of edits, off and on again yields the map and no edit reaches another button; and turning the
mode on keeps what the user chose, exactly when no stash disagrees with the map.** -/
theorem edits_keep_directions_iff (config : Config) (edits : List GestureEdit) :
    Lib.Along (fun config e => some (config.edit e))
      (fun config e => config.KeepsChosen e ∧ config.RoundTrips ∧ config.LeavesOthers e) config edits ↔
    Lib.Along (fun config e => some (config.edit e)) Agrees config edits := by
  refine Lib.along_congr (fun _ => True) (fun config e _ => ?_) (fun _ _ _ _ _ _ => trivial) trivial
  rw [← keepsChosen_iff]
  exact ⟨And.left, fun hkeeps => ⟨hkeeps, config.roundTrips, config.leavesOthers e⟩⟩

/-- No button with a stored map has a stash besides. -/
def Tidy (config : Config) : Prop :=
  ∀ key button directions, config.binding key button = some (.gesture directions) → config.stash key button = none

/-- No direction is chosen for a button that has a stash. -/
def Unpromoted (config : Config) : GestureEdit → Prop
  | .direction key button _ _ => config.stash key button = none
  | .mode _ _ _ => True

theorem Tidy.agrees (h : config.Tidy) (e : GestureEdit) : config.Agrees e := by
  cases e with
  | direction => exact trivial
  | mode key button enabled =>
    cases enabled with
    | false => exact trivial
    | true =>
      intro directions stashed hstored hstash
      rw [h key button directions hstored] at hstash
      cases hstash

theorem Tidy.edit (h : config.Tidy) {e : GestureEdit} (he : config.Unpromoted e) : (config.edit e).Tidy := by
  intro key button directions hstored
  by_cases htarget : (key, button) = e.target
  · rw [binding_eq] at hstored
    rw [stash_eq]
    cases e with
    | direction key' button' direction action =>
      cases htarget
      rw [Config.edit, setGestureDirection, device_update, if_pos rfl, Device.setGestureDirection_stash, ← stash_eq]
      exact he
    | mode key' button' enabled =>
      cases htarget
      rw [Config.edit, setGestureMode, device_update, if_pos rfl] at hstored ⊢
      exact Device.setGestureMode_tidy enabled hstored
  · obtain ⟨hbinding, hstash⟩ := config.leavesOthers e key button htarget
    rw [hbinding] at hstored
    rw [hstash]
    exact h key button directions hstored

/-- **Only a direction chosen for a button that has a stash leaves one behind**: without, no stash ever disagrees. -/
theorem Tidy.along (h : config.Tidy) {edits : List GestureEdit}
    (hedits : Lib.Along (fun config e => some (config.edit e)) Unpromoted config edits) :
    Lib.Along (fun config e => some (config.edit e)) Agrees config edits := by
  induction edits generalizing config with
  | nil => exact trivial
  | cons e edits ih =>
    refine ⟨h.agrees e, fun next hnext => ?_⟩
    cases hnext
    exact ih (h.edit hedits.1) (hedits.2 _ rfl)

/-- Off, a direction chosen, and on again: the stash replaces what was chosen. -/
theorem stash_outlives_choice :
    ¬ ∀ (config : Config) (edits : List GestureEdit), Lib.Along (fun config e => some (config.edit e))
      (fun config e => config.KeepsChosen e ∧ config.RoundTrips ∧ config.LeavesOthers e) config edits := by
  intro h
  have hrun := h ⟨[], fun _ => none⟩ [.mode "mouse" .gestureButton false,
    .direction "mouse" .gestureButton .up .copy, .mode "mouse" .gestureButton true]
  obtain ⟨hkeeps, -, -⟩ := ((hrun.2 _ rfl).2 _ rfl).1
  obtain ⟨kept, hkept, hsame⟩ := hkeeps
    (Function.update (Function.update (fun _ => none) .click (some .missionControl)) .up (some .copy)) rfl
  have hstale := congrArg (fun binding => (binding.bind Binding.directions?).bind fun kept => kept .up) hkept
  have hkeptUp : kept .up = some .missionControl := hstale.symm
  have hchosen : kept .up = some .copy := hsame .up .copy rfl
  rw [hkeptUp] at hchosen
  cases hchosen

end Config

end Bindings
end OpenLogi
