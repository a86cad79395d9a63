import OpenLogi.Bindings.Device
/-!
# Thumbwheel — the swap of the thumb wheel's scroll defaults

Schema 7 swaps what the two directions of a thumb wheel scroll by default.  A file written before it may hold a copy of
the old pair, in the bindings of a device or in a profile over them.
-/
namespace OpenLogi
namespace Bindings

open OpenLogi.Core
open OpenLogi.Agent (AppPlatform overlayFor)
open Lib (Map)

/-! ## The migration -/

def oldUp : Action := .horizontalScrollRight

def oldDown : Action := .horizontalScrollLeft

def newUp : Action := .horizontalScrollLeft

def newDown : Action := .horizontalScrollRight

def isOldDefault (binding : Option Binding) (old : Action) : Bool :=
  match binding with
  | none => true
  | some (.single action) => action = old
  | some (.gesture _) | some (.longPress _ _) | some (.wheelHold _) => false

/-- Write the complete pair over a profile whose effective pair was the old default. -/
def migrateOverlay (globalUpIsOld globalDownIsOld : Bool) (overlay : Map ButtonId Action) : Map ButtonId Action :=
  let up := overlay.get .thumbwheelScrollUp
  let down := overlay.get .thumbwheelScrollDown
  let overridesDirection := up.isSome || down.isSome
  let effectiveUpIsOld := up.elim globalUpIsOld fun action => action = oldUp
  let effectiveDownIsOld := down.elim globalDownIsOld fun action => action = oldDown
  if overridesDirection && effectiveUpIsOld && effectiveDownIsOld then
    (overlay.put .thumbwheelScrollUp newUp).put .thumbwheelScrollDown newDown
  else overlay

/-- A single action becomes another; a button that is not stored stays so. -/
def rewriteSingle (bindings : Map ButtonId Binding) (button : ButtonId) (action : Action) : Map ButtonId Binding :=
  match bindings.get button with
  | some (.single _) => bindings.put button (.single action)
  | _ => bindings

def globalIsOld (bindings : Map ButtonId Binding) : Bool :=
  isOldDefault (bindings.get .thumbwheelScrollUp) oldUp && isOldDefault (bindings.get .thumbwheelScrollDown) oldDown

def Device.migrateThumbwheel (d : Device) : Device :=
  let globalUpIsOld := isOldDefault (d.bindings.get .thumbwheelScrollUp) oldUp
  let globalDownIsOld := isOldDefault (d.bindings.get .thumbwheelScrollDown) oldDown
  let perAppBindings := d.perAppBindings.mapValues fun _ => migrateOverlay globalUpIsOld globalDownIsOld
  let bindings :=
    if globalUpIsOld && globalDownIsOld then
      rewriteSingle (rewriteSingle d.bindings .thumbwheelScrollUp newUp) .thumbwheelScrollDown newDown
    else d.bindings
  { d with perAppBindings, bindings }

def Config.migrateThumbwheelNativeDirection (config : Config) : Config :=
  { config with devices := fun key => (config.devices key).map Device.migrateThumbwheel }

/-! ## What it keeps -/

/-- The two directions of the wheel. -/
inductive Half where
  | up
  | down
  deriving DecidableEq

namespace Half

def button : Half → ButtonId
  | up => .thumbwheelScrollUp
  | down => .thumbwheelScrollDown

/-- What the direction scrolled by default before schema 7. -/
def old : Half → Action
  | up => oldUp
  | down => oldDown

end Half

/-- The old default pair. -/
def oldPair (half : Half) : Binding := .single half.old

/-- What the directions did before schema 7, under the bindings a lookup finds. -/
def pairBefore (bound : ButtonId → Option Binding) (half : Half) : Binding :=
  (bound half.button).getD (.single half.old)

/-- What they do since. -/
def pairAfter (bound : ButtonId → Option Binding) (half : Half) : Binding :=
  (bound half.button).getD (defaultBindingFor half.button)

/-- A profile with another pair than the old default keeps it. -/
def Config.KeepsDirections (before after : Config) : Prop :=
  ∀ platform key app, pairBefore (before.effectiveBindings platform key app).get ≠ oldPair →
    pairAfter (after.effectiveBindings platform key app).get =
      pairBefore (before.effectiveBindings platform key app).get

/-- An overlay of the device, or none: the bindings of the device alone. -/
def Device.IsProfile (d : Device) (overlay : Option (Map ButtonId Action)) : Prop :=
  ∀ o ∈ overlay, ∃ app, d.perAppBindings.get app = some o

/-- The overlay binds the direction, or else the device does, and its own pair is not the old default. -/
def Device.Settles (d : Device) (overlay : Option (Map ButtonId Action)) (half : Half) : Prop :=
  (overlay.bind fun overlay => overlay.get half.button).isSome ∨
    (d.bindings.get half.button).isSome ∧ pairBefore d.bindings.get ≠ oldPair

/-! ### One profile -/

theorem isOldDefault_iff (bindings : Map ButtonId Binding) (half : Half) :
    isOldDefault (bindings.get half.button) half.old = true ↔ pairBefore bindings.get half = .single half.old := by
  unfold pairBefore
  cases bindings.get half.button with
  | none => exact iff_of_true rfl rfl
  | some binding =>
    cases binding with
    | single action => simp [isOldDefault]
    | _ => simp [isOldDefault]

theorem eq_oldPair {pair : Half → Binding} :
    pair = oldPair ↔ pair .up = .single oldUp ∧ pair .down = .single oldDown := by
  constructor
  · rintro rfl
    exact ⟨rfl, rfl⟩
  · rintro ⟨hup, hdown⟩
    funext half
    cases half with
    | up => exact hup
    | down => exact hdown

theorem globalIsOld_iff (bindings : Map ButtonId Binding) :
    globalIsOld bindings = true ↔ pairBefore bindings.get = oldPair := by
  rw [globalIsOld, Bool.and_eq_true, eq_oldPair]
  exact and_congr (isOldDefault_iff bindings .up) (isOldDefault_iff bindings .down)

/-- A direction of an overlay was old: its own action, or what it takes from the device. -/
theorem overlaid_isOld (d : Device) (overlay : Map ButtonId Action) (half : Half) :
    ((overlay.get half.button).elim (isOldDefault (d.bindings.get half.button) half.old) fun action =>
      decide (action = half.old)) = true ↔ pairBefore (overlaid d.bindings (some overlay)) half = .single half.old := by
  unfold pairBefore overlaid
  cases hget : overlay.get half.button with
  | none =>
    simp only [Option.bind_some, hget, Option.map_none, Option.none_or, Option.elim_none]
    exact isOldDefault_iff d.bindings half
  | some action => simp [hget]

/-- **An overlay whose pair was not the old default is left as it is.** -/
theorem migrateOverlay_eq (d : Device) {overlay : Map ButtonId Action}
    (h : pairBefore (overlaid d.bindings (some overlay)) ≠ oldPair) :
    migrateOverlay (isOldDefault (d.bindings.get .thumbwheelScrollUp) oldUp)
      (isOldDefault (d.bindings.get .thumbwheelScrollDown) oldDown) overlay = overlay := by
  unfold migrateOverlay
  dsimp only
  refine if_neg fun hold => h (eq_oldPair.2 ?_)
  rw [Bool.and_eq_true, Bool.and_eq_true] at hold
  exact ⟨(overlaid_isOld d overlay .up).1 hold.1.2, (overlaid_isOld d overlay .down).1 hold.2⟩

theorem get_rewriteSingle_ne (bindings : Map ButtonId Binding) {button other : ButtonId} (h : button ≠ other)
    (action : Action) : (rewriteSingle bindings button action).get other = bindings.get other := by
  unfold rewriteSingle
  split
  · rw [Map.get_put, if_neg h]
  · rfl

theorem get_rewriteSingle_old {bindings : Map ButtonId Binding} {button : ButtonId} {old : Action}
    (h : isOldDefault (bindings.get button) old = true) (action : Action) :
    (rewriteSingle bindings button action).get button = (bindings.get button).map fun _ => .single action := by
  unfold rewriteSingle
  cases hget : bindings.get button with
  | none => exact hget
  | some binding =>
    rw [hget] at h
    cases binding with
    | single a =>
      dsimp only
      rw [Map.get_put, if_pos rfl]
      rfl
    | _ => cases h

/-- What a device binds a direction to, after the migration. -/
theorem get_migrated (d : Device) (half : Half) :
    d.migrateThumbwheel.bindings.get half.button =
      if globalIsOld d.bindings then (d.bindings.get half.button).map fun _ => defaultBindingFor half.button
      else d.bindings.get half.button := by
  have hbindings : d.migrateThumbwheel.bindings = if globalIsOld d.bindings then
      rewriteSingle (rewriteSingle d.bindings .thumbwheelScrollUp newUp) .thumbwheelScrollDown newDown
    else d.bindings := rfl
  rw [hbindings]
  by_cases hold : globalIsOld d.bindings = true
  · obtain ⟨hup, hdown⟩ := Bool.and_eq_true_iff.1 hold
    rw [if_pos hold, if_pos hold]
    cases half with
    | up =>
      rw [Half.button, get_rewriteSingle_ne _ (by decide), get_rewriteSingle_old hup]
      rfl
    | down =>
      have hsame := get_rewriteSingle_ne d.bindings (show ButtonId.thumbwheelScrollUp ≠ .thumbwheelScrollDown by decide)
        newUp
      rw [← hsame] at hdown
      rw [Half.button, get_rewriteSingle_old hdown, hsame]
      rfl
  · rw [if_neg hold, if_neg hold]

theorem default_ne_old (half : Half) : defaultBindingFor half.button ≠ .single half.old := by
  cases half <;> decide

/-- **A profile with another pair keeps a direction exactly when the direction is settled.** -/
theorem migrated_iff (d : Device) {overlay : Option (Map ButtonId Action)}
    (h : pairBefore (overlaid d.bindings overlay) ≠ oldPair) (half : Half) :
    pairAfter (overlaid d.migrateThumbwheel.bindings (overlay.map (migrateOverlay
      (isOldDefault (d.bindings.get .thumbwheelScrollUp) oldUp)
      (isOldDefault (d.bindings.get .thumbwheelScrollDown) oldDown)))) half =
        pairBefore (overlaid d.bindings overlay) half ↔ d.Settles overlay half := by
  have hoverlay : overlay.map (migrateOverlay (isOldDefault (d.bindings.get .thumbwheelScrollUp) oldUp)
      (isOldDefault (d.bindings.get .thumbwheelScrollDown) oldDown)) = overlay := by
    cases overlay with
    | none => rfl
    | some o => exact congrArg some (migrateOverlay_eq d h)
  have hglobal := globalIsOld_iff d.bindings
  rw [hoverlay, pairAfter, pairBefore, overlaid, overlaid, Device.Settles, get_migrated, ne_eq, ← hglobal]
  cases hown : overlay.bind fun overlay => overlay.get half.button with
  | some action => exact iff_of_true rfl (.inl rfl)
  | none =>
    rw [Option.map_none, Option.none_or, Option.none_or]
    cases hget : d.bindings.get half.button with
    | none =>
      simp [default_ne_old]
    | some binding =>
      by_cases hold : globalIsOld d.bindings = true
      · have hsingle : binding = .single half.old := by
          have hpair := congrFun (hglobal.1 hold) half
          rw [pairBefore, hget] at hpair
          exact hpair
        simp [hold, hsingle, default_ne_old]
      · simp [hold]

/-! ### Every profile -/

theorem effective_before {config : Config} {key : String} {d : Device} (h : config.devices key = some d)
    (platform : AppPlatform) (app : Option String) : (config.effectiveBindings platform key app).get =
      overlaid d.bindings (app.bind (overlayFor d.perAppBindings.get config.apps platform)) := by
  funext button
  rw [Config.effectiveBindings, h]
  exact get_effectiveBindings ..

theorem effective_after {config : Config} {key : String} {d : Device} (h : config.devices key = some d)
    (platform : AppPlatform) (app : Option String) :
    (config.migrateThumbwheelNativeDirection.effectiveBindings platform key app).get =
      overlaid d.migrateThumbwheel.bindings ((app.bind (overlayFor d.perAppBindings.get config.apps platform)).map
        (migrateOverlay (isOldDefault (d.bindings.get .thumbwheelScrollUp) oldUp)
          (isOldDefault (d.bindings.get .thumbwheelScrollDown) oldDown))) := by
  have hdevice : config.migrateThumbwheelNativeDirection.devices key = some d.migrateThumbwheel :=
    congrArg (Option.map Device.migrateThumbwheel) h
  have hoverlays : d.migrateThumbwheel.perAppBindings.get = fun app => (d.perAppBindings.get app).map
      (migrateOverlay (isOldDefault (d.bindings.get .thumbwheelScrollUp) oldUp)
        (isOldDefault (d.bindings.get .thumbwheelScrollDown) oldDown)) := by
    funext app
    exact Map.get_mapValues ..
  rw [effective_before hdevice, hoverlays]
  congr 1
  cases app with
  | none => rfl
  | some app => exact overlayFor_map ..

/-- **Every profile with a pair of its own keeps it, exactly when each such profile binds both directions, or takes
them from a device that binds them and whose own pair is not the old default.** -/
theorem migration_keeps_iff (config : Config) :
    config.KeepsDirections config.migrateThumbwheelNativeDirection ↔
      ∀ key d, config.devices key = some d → ∀ overlay, d.IsProfile overlay →
        pairBefore (overlaid d.bindings overlay) ≠ oldPair → ∀ half, d.Settles overlay half := by
  constructor
  · intro hkeeps key d hd overlay hprofile hpair half
    have hfound : ∃ app : Option String,
        app.bind (overlayFor d.perAppBindings.get config.apps AppPlatform.linux) = overlay := by
      cases overlay with
      | none => exact ⟨none, rfl⟩
      | some o =>
        obtain ⟨app, happ⟩ := hprofile o rfl
        exact ⟨some app, overlayFor_self happ ..⟩
    obtain ⟨app, rfl⟩ := hfound
    have hkept := hkeeps .linux key app
    rw [effective_before hd, effective_after hd] at hkept
    exact (migrated_iff d hpair half).1 (congrFun (hkept hpair) half)
  · intro hsettles platform key app hpair
    cases hd : config.devices key with
    | none =>
      rw [Config.effectiveBindings, hd] at hpair
      exact absurd rfl hpair
    | some d =>
      rw [effective_before hd] at hpair
      rw [effective_before hd, effective_after hd]
      have hprofile : d.IsProfile (app.bind (overlayFor d.perAppBindings.get config.apps platform)) := by
        intro o ho
        obtain ⟨app, -, hover⟩ := Option.bind_eq_some_iff.1 ho
        exact stored_of_overlayFor hover
      funext half
      exact (migrated_iff d hpair half).2 (hsettles key d hd _ hprofile hpair half)

/-- A device with an explicit copy of the old pair, and a profile that binds one direction to something else. -/
def oldPairDevice : Device where
  bindings := (Map.empty.put .thumbwheelScrollUp (.single oldUp)).put .thumbwheelScrollDown (.single oldDown)
  perAppBindings := Map.empty.put "org.gimp.GIMP" (Map.empty.put .thumbwheelScrollUp .nextTab)

/-- The profile's other direction turns with the pair of the device. -/
theorem inherited_direction_reversed :
    ¬ ∀ config : Config, config.KeepsDirections config.migrateThumbwheelNativeDirection := by
  intro h
  have hkept := h ⟨[], fun _ => some oldPairDevice⟩ .linux "mouse" (some "org.gimp.GIMP")
  have hother : pairBefore ((⟨[], fun _ => some oldPairDevice⟩ : Config).effectiveBindings .linux "mouse"
      (some "org.gimp.GIMP")).get ≠ oldPair := fun hc => absurd (congrFun hc .up) (by decide +kernel)
  exact absurd (congrFun (hkept hother) .down) (by decide +kernel)

end Bindings
end OpenLogi
