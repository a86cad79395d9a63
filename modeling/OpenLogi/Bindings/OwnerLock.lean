import OpenLogi.Bindings.Gestures
import OpenLogi.Lib.Least
/-!
# OwnerLock — the end of the one gesture button of a device

Before schema 4 at most one button of a device dispatched gestures, and the maps of the others lay dormant.  Since then
a stored map is gesture mode, so loading an older file resolves the owner and puts the dormant maps away.
-/
namespace OpenLogi
namespace Core

/-- Where a button stands in the order of a `BTreeMap`. -/
def ButtonId.rank : ButtonId → Nat
  | .leftClick => 0
  | .rightClick => 1
  | .middleClick => 2
  | .back => 3
  | .forward => 4
  | .dpiToggle => 5
  | .thumbwheel => 6
  | .thumbwheelScrollUp => 7
  | .thumbwheelScrollDown => 8
  | .gestureButton => 9
  | .hapticPanel => 10
  | .wheelTiltLeft => 11
  | .wheelTiltRight => 12
  | .g6 => 13
  | .g7 => 14
  | .g8 => 15
  | .g9 => 16
  | .grid slot => 0x10000 + slot.page.toNat * 16 + slot.key.index.toNat
  | .control cid => 0x20000 + cid.toNat
  | .gKey slot => 0x30000 + slot.profile.ctorIdx * 8 + slot.key.ctorIdx
  | .modeKey key => 0x40000 + key.ctorIdx

end Core

namespace Bindings

open OpenLogi.Core
open Lib (Map minByKey)

/-! ## The migration -/

/-- The first button besides the dedicated one that stores a gesture. -/
def firstGesture (bindings : Map ButtonId Binding) : Option ButtonId :=
  (minByKey (fun row => row.1.rank) (bindings.rows.filter fun row =>
    row.1 ≠ .gestureButton && row.2.isGesture)).map Prod.fst

def inferGestureOwner (bindings : Map ButtonId Binding) : Option ButtonId :=
  match firstGesture bindings with
  | some id => some id
  | none =>
    match bindings.get .gestureButton with
    | some (.single _) | some (.longPress _ _) => none
    | _ => some .gestureButton

/-- A map that lies dormant is put with the stashes. -/
def stashRow (owner : Option ButtonId) (stashes : Map ButtonId GestureMap) (row : ButtonId × Binding) :
    Map ButtonId GestureMap :=
  if some row.1 ≠ owner then
    match row.2 with
    | .gesture directions => stashes.put row.1 directions
    | _ => stashes
  else stashes

def stashDormant (owner : Option ButtonId) (bindings : Map ButtonId Binding) (stashes : Map ButtonId GestureMap) :
    Map ButtonId GestureMap :=
  bindings.rows.foldl (stashRow owner) stashes

/-- Every button but the owner keeps its click alone. -/
def demoteDormant (owner : Option ButtonId) (bindings : Map ButtonId Binding) : Map ButtonId Binding :=
  bindings.mapValues fun id binding =>
    if some id ≠ owner then binding.demoteToSingle (defaultBinding id) else binding

/-- A HID++ owner gets the map it dispatched whatever it stored. -/
def materialize (owner : ButtonId) (bindings : Map ButtonId Binding) : Map ButtonId Binding :=
  match bindings.get owner with
  | some binding => if !binding.isGesture then bindings.put owner (.gesture defaultGestureMap) else bindings
  | none =>
    if !(defaultBindingFor owner).isGesture then bindings.put owner (.gesture defaultGestureMap) else bindings

/-- The map of the owner, when it is a HID++ source. -/
def materializeOwner (owner : Option ButtonId) (bindings : Map ButtonId Binding) : Map ButtonId Binding :=
  match owner with
  | some owner => if owner.isHidppGestureSource then materialize owner bindings else bindings
  | none => bindings

/-- The dedicated button stays out of the gesture mode it has by default. -/
def pinOff (bindings : Map ButtonId Binding) : Map ButtonId Binding :=
  match bindings.get .gestureButton with
  | some _ => bindings
  | none => bindings.put .gestureButton (.single (defaultBinding .gestureButton))

namespace Device

def resolveOwner (d : Device) : Option ButtonId :=
  match d.gestureOwner with
  | some .off => none
  | some (.button id) => some id
  | none => inferGestureOwner d.bindings

def migrateOwnerLocked (d : Device) : Device :=
  let owner := d.resolveOwner
  let disabledGestures := stashDormant owner d.bindings d.disabledGestures
  let bindings := materializeOwner owner (demoteDormant owner d.bindings)
  let bindings := if owner ≠ some .gestureButton then pinOff bindings else bindings
  { d with gestureOwner := none, disabledGestures, bindings }

end Device

def Config.migrateOwnerLockedGestures (config : Config) : Config :=
  { config with devices := fun key => (config.devices key).map Device.migrateOwnerLocked }

/-! ## What the buttons did before -/

namespace Device

/-- The owner before schema 4: the one on record, or else the first other button with a map, or else the dedicated one
unless it was assigned something else. -/
def ownerBefore (d : Device) : Option ButtonId :=
  match d.gestureOwner with
  | some .off => none
  | some (.button id) => some id
  | none => (firstGesture d.bindings).or
    (if (d.bindings.get .gestureButton).all Binding.isGesture then some .gestureButton else none)

/-- The map the owner dispatched: a HID++ source had its gaps filled, and the defaults without a map. -/
def dispatchedBefore (d : Device) (button : ButtonId) : Option GestureMap :=
  if d.ownerBefore = some button then
    let stored := (d.bindings.get button).bind Binding.directions?
    if button.isHidppGestureSource then
      some fun direction => some ((stored.bind fun directions => directions direction).getD
        (defaultGestureBinding direction))
    else if button.isOsHookButton then stored
    else none
  else none

/-- The map a button dispatches since. -/
def dispatches (d : Device) (button : ButtonId) : Option GestureMap :=
  if button.isHidppGestureSource then
    ((d.bindings.get button).getD (defaultBindingFor button)).fillGestureDefaults.directions?
  else if button.isOsHookButton then (d.bindings.get button).bind Binding.directions?
  else none

def isGestureMode (d : Device) (button : ButtonId) : Bool :=
  (d.bindings.get button).elim (defaultBindingFor button).isGesture Binding.isGesture

/-- The action of a plain click. -/
def click (d : Device) (button : ButtonId) : Action :=
  (((d.bindings.get button).map (Agent.Config.withClick none button)).getD (.single (defaultBinding button))).clickAction

/-- What the migration promises. -/
structure Migrates (d d' : Device) : Prop where
  /-- Only the former owner is in gesture mode. -/
  owner : ∀ button, d'.isGestureMode button = true → d.ownerBefore = some button
  /-- Every button dispatches the gestures it did. -/
  dispatched : d'.dispatches = d.dispatchedBefore
  /-- A map that lay dormant is stashed, and comes back when the mode is turned on. -/
  restores : ∀ button directions, d.bindings.get button = some (.gesture directions) → d.ownerBefore ≠ some button →
    d'.disabledGestures.get button = some directions ∧
      (d'.setGestureMode button true).bindings.get button = some (.gesture directions)
  /-- Every other button keeps its click. -/
  clicks : ∀ button, d.ownerBefore ≠ some button → d'.click button = d.click button
  /-- Nothing is left for a second run. -/
  settled : d'.migrateOwnerLocked.bindings.get = d'.bindings.get ∧
    d'.migrateOwnerLocked.disabledGestures.get = d'.disabledGestures.get ∧
      d'.migrateOwnerLocked.gestureOwner = d'.gestureOwner

/-- The old runtime dispatched gestures from no button. -/
def GesturesOff (d : Device) : Prop :=
  ∀ button, d.ownerBefore = some button →
    button.isHidppGestureSource = false ∧ ((d.bindings.get button).any Binding.isGesture) = false

/-- The dedicated button holds a wheel binding. -/
def WheelHeld (d : Device) : Prop := ((d.bindings.get .gestureButton).any Binding.isWheelHold) = true

end Device

/-! ## What the migration does to one button -/

/-- What a HID++ owner is bound to in the end. -/
def ownerShape (button : ButtonId) : Option Binding → Option Binding
  | some (.gesture directions) => some (.gesture directions)
  | some _ => some (.gesture defaultGestureMap)
  | none => if (defaultBindingFor button).isGesture then none else some (.gesture defaultGestureMap)

theorem get_materialize (bindings : Map ButtonId Binding) (owner : ButtonId) :
    (materialize owner bindings).get owner = ownerShape owner (bindings.get owner) := by
  unfold materialize
  cases hget : bindings.get owner with
  | some binding =>
    cases binding with
    | gesture directions => exact hget
    | _ => exact (Map.get_put ..).trans (if_pos rfl)
  | none =>
    dsimp only [ownerShape]
    cases (defaultBindingFor owner).isGesture with
    | true => exact hget
    | false => exact (Map.get_put ..).trans (if_pos rfl)

theorem get_materialize_ne (bindings : Map ButtonId Binding) {owner other : ButtonId} (h : owner ≠ other) :
    (materialize owner bindings).get other = bindings.get other := by
  unfold materialize
  split
  · split
    · rw [Map.get_put, if_neg h]
    · rfl
  · split
    · rw [Map.get_put, if_neg h]
    · rfl

theorem get_pinOff (bindings : Map ButtonId Binding) (button : ButtonId) :
    (pinOff bindings).get button = if .gestureButton = button then
      some ((bindings.get button).getD (.single (defaultBinding button))) else bindings.get button := by
  unfold pinOff
  by_cases hbutton : .gestureButton = button
  · subst hbutton
    rw [if_pos rfl]
    cases hget : bindings.get .gestureButton with
    | some binding => exact hget
    | none => exact (Map.get_put ..).trans (if_pos rfl)
  · rw [if_neg hbutton]
    split
    · rfl
    · rw [Map.get_put, if_neg hbutton]

theorem get_demoteDormant (owner : Option ButtonId) (bindings : Map ButtonId Binding) (button : ButtonId) :
    (demoteDormant owner bindings).get button = (bindings.get button).map fun binding =>
      if some button ≠ owner then binding.demoteToSingle (defaultBinding button) else binding :=
  Map.get_mapValues ..

theorem get_stashRow (owner : Option ButtonId) (stashes : Map ButtonId GestureMap) (row : ButtonId × Binding)
    (button : ButtonId) : (stashRow owner stashes row).get button =
      if row.1 = button ∧ some row.1 ≠ owner then row.2.directions?.or (stashes.get button)
      else stashes.get button := by
  unfold stashRow
  by_cases howner : some row.1 ≠ owner
  · rw [if_pos howner]
    cases row with
    | mk id binding =>
      cases binding with
      | gesture directions =>
        dsimp only
        rw [Map.get_put]
        exact if_congr (and_iff_left howner).symm rfl rfl
      | _ => exact (ite_self _).symm
  · rw [if_neg howner, if_neg fun hc => howner hc.2]

/-- A map is stashed when it is not the owner's; everything stashed before is kept otherwise. -/
theorem get_stashDormant (owner : Option ButtonId) (bindings : Map ButtonId Binding)
    (stashes : Map ButtonId GestureMap) (button : ButtonId) :
    (stashDormant owner bindings stashes).get button = if some button = owner then stashes.get button
      else ((bindings.get button).bind Binding.directions?).or (stashes.get button) := by
  have hrows : ∀ (rows : List (ButtonId × Binding)) (stashes : Map ButtonId GestureMap),
      (rows.map Prod.fst).Nodup → (rows.foldl (stashRow owner) stashes).get button =
        if some button = owner then stashes.get button
        else (((rows.find? fun row => row.1 = button).map Prod.snd).bind Binding.directions?).or
          (stashes.get button) := by
    intro rows
    induction rows with
    | nil =>
      intro stashes _
      exact (ite_self _).symm
    | cons row rows ih =>
      intro stashes hnodup
      rw [List.map_cons, List.nodup_cons] at hnodup
      rw [List.foldl_cons, ih _ hnodup.2, get_stashRow, List.find?_cons]
      by_cases howner : some button = owner
      · rw [if_pos howner, if_pos howner, if_neg]
        rintro ⟨rfl, hne⟩
        exact hne howner
      · rw [if_neg howner, if_neg howner]
        by_cases hrow : row.1 = button
        · have hrest : rows.find? (fun row => decide (row.1 = button)) = none := by
            refine List.find?_eq_none.2 fun other hother hc => ?_
            exact hnodup.1 (List.mem_map.2 ⟨other, hother, (of_decide_eq_true hc).trans hrow.symm⟩)
          rw [hrest, if_pos ⟨hrow, hrow ▸ howner⟩, decide_eq_true hrow]
          rfl
        · rw [if_neg fun hc => hrow hc.1, decide_eq_false hrow]
  exact hrows bindings.rows stashes bindings.nodup

namespace Device

variable {d : Device} {button : ButtonId}

theorem wheelHeld_iff : d.WheelHeld ↔ ∃ click, d.bindings.get .gestureButton = some (.wheelHold click) := by
  unfold WheelHeld
  cases d.bindings.get .gestureButton with
  | none => exact iff_of_false Bool.false_ne_true (by rintro ⟨click, h⟩; cases h)
  | some binding =>
    cases binding with
    | wheelHold click => exact iff_of_true rfl ⟨click, rfl⟩
    | _ => exact iff_of_false Bool.false_ne_true (by rintro ⟨click, h⟩; cases h)

theorem get_owner (h : d.resolveOwner = some button) : d.migrateOwnerLocked.bindings.get button =
    if button.isHidppGestureSource then ownerShape button (d.bindings.get button) else d.bindings.get button := by
  have hkept : (demoteDormant d.resolveOwner d.bindings).get button = d.bindings.get button := by
    rw [get_demoteDormant, h]
    simp
  have howner : (materializeOwner d.resolveOwner (demoteDormant d.resolveOwner d.bindings)).get button =
      if button.isHidppGestureSource then ownerShape button (d.bindings.get button) else d.bindings.get button := by
    rw [h, materializeOwner, ← h]
    split
    · rw [get_materialize, hkept]
    · exact hkept
  unfold migrateOwnerLocked
  dsimp only
  split
  · rename_i hne
    rw [get_pinOff, if_neg fun hc => hne (by rw [h, hc])]
    exact howner
  · exact howner

theorem get_other (h : d.resolveOwner ≠ some button) : d.migrateOwnerLocked.bindings.get button =
    ((d.bindings.get button).map (Binding.demoteToSingle (defaultBinding button))).or
      (if .gestureButton = button then some (.single (defaultBinding button)) else none) := by
  have hdemoted : (demoteDormant d.resolveOwner d.bindings).get button =
      (d.bindings.get button).map (Binding.demoteToSingle (defaultBinding button)) := by
    rw [get_demoteDormant]
    congr 1
    funext binding
    exact if_pos fun hc => h hc.symm
  have hother : (materializeOwner d.resolveOwner (demoteDormant d.resolveOwner d.bindings)).get button =
      (d.bindings.get button).map (Binding.demoteToSingle (defaultBinding button)) := by
    rw [← hdemoted]
    unfold materializeOwner
    split
    · rename_i owner howner
      split
      · exact get_materialize_ne _ fun hc => h (by rw [howner, hc])
      · rfl
    · rfl
  unfold migrateOwnerLocked
  dsimp only
  split
  · rw [get_pinOff, hother]
    split
    · cases d.bindings.get button <;> rfl
    · cases d.bindings.get button <;> rfl
  · rename_i howner
    rw [hother, if_neg fun hc => h ((not_not.1 howner).trans (congrArg some hc)), Option.or_none]

/-! ### The owner -/

theorem firstGesture_some {bindings : Map ButtonId Binding} (h : firstGesture bindings = some button) :
    button ≠ .gestureButton ∧ ∃ directions, bindings.get button = some (.gesture directions) := by
  obtain ⟨row, hrow, rfl⟩ := Option.map_eq_some_iff.1 h
  have hmem := List.mem_filter.1 (Lib.mem_of_minByKey hrow)
  have hgesture := Bool.and_eq_true_iff.1 hmem.2
  obtain ⟨directions, hdirections⟩ := Binding.isGesture_iff.1 hgesture.2
  exact ⟨of_decide_eq_true hgesture.1, directions, Map.get_eq_some.2 (hdirections ▸ hmem.1)⟩

variable {directions : GestureMap}

theorem firstGesture_none {bindings : Map ButtonId Binding} (h : firstGesture bindings = none)
    (hget : bindings.get button = some (.gesture directions)) : button = .gestureButton := by
  have hempty := Lib.minByKey_eq_none.1 (Option.map_eq_none_iff.1 h)
  by_contra hne
  have hkept := List.filter_eq_nil_iff.1 hempty _ (Map.get_eq_some.1 hget)
  exact hkept (Bool.and_eq_true_iff.2 ⟨decide_eq_true hne, rfl⟩)

/-- The owner is resolved as the old runtime did, but for a wheel binding of the dedicated button. -/
theorem resolveOwner_eq (h : ¬(d.WheelHeld ∧ d.GesturesOff)) : d.resolveOwner = d.ownerBefore := by
  unfold resolveOwner ownerBefore at *
  cases howner : d.gestureOwner with
  | some owner => cases owner <;> rfl
  | none =>
    dsimp only
    unfold inferGestureOwner
    cases hfirst : firstGesture d.bindings with
    | some id => rfl
    | none =>
      cases hget : d.bindings.get .gestureButton with
      | none => rfl
      | some binding =>
        cases binding with
        | wheelHold click =>
          refine absurd ⟨wheelHeld_iff.2 ⟨click, hget⟩, fun button hbefore => ?_⟩ h
          rw [ownerBefore, howner] at hbefore
          dsimp only at hbefore
          rw [hfirst, hget] at hbefore
          cases hbefore
        | _ => rfl

/-- Nothing but the owner stores a gesture in the end. -/
theorem owner_of_gesture (h : d.migrateOwnerLocked.bindings.get button = some (.gesture directions)) :
    d.resolveOwner = some button := by
  by_contra howner
  rw [get_other howner] at h
  rcases Option.or_eq_some_iff.1 h with h | ⟨-, h⟩
  · obtain ⟨binding, -, hbinding⟩ := Option.map_eq_some_iff.1 h
    have hshape := Binding.isGesture_demoteToSingle (defaultBinding button) binding
    rw [hbinding] at hshape
    cases hshape
  · split at h
    · cases h
    · cases h

theorem owner_of_absent (h : d.migrateOwnerLocked.bindings.get .gestureButton = none) :
    d.resolveOwner = some .gestureButton := by
  by_contra howner
  rw [get_other howner, if_pos rfl] at h
  cases hget : d.bindings.get .gestureButton with
  | none =>
    rw [hget] at h
    cases h
  | some binding =>
    rw [hget] at h
    cases h

/-! ### A second run -/

/-- A device whose one gesture button is the owner has nothing to migrate. -/
theorem settled_of {e : Device} (hgesture : ∀ button directions, e.bindings.get button = some (.gesture directions) →
      e.resolveOwner = some button)
    (howner : ∀ button, e.resolveOwner = some button → button.isHidppGestureSource = true →
      ownerShape button (e.bindings.get button) = e.bindings.get button)
    (habsent : e.bindings.get .gestureButton = none → e.resolveOwner = some .gestureButton) :
    e.migrateOwnerLocked.bindings.get = e.bindings.get ∧
      e.migrateOwnerLocked.disabledGestures.get = e.disabledGestures.get := by
  constructor
  · funext button
    by_cases hbutton : e.resolveOwner = some button
    · rw [get_owner hbutton]
      split
      · exact howner button hbutton ‹_›
      · rfl
    · rw [get_other hbutton]
      cases hget : e.bindings.get button with
      | some binding =>
        cases binding with
        | gesture directions => exact absurd (hgesture button directions hget) hbutton
        | _ => rfl
      | none =>
        rw [Option.map_none, Option.none_or]
        refine if_neg fun hc => hbutton ?_
        subst hc
        exact habsent hget
  · funext button
    refine (get_stashDormant ..).trans ?_
    split
    · rfl
    · rename_i hbutton
      cases hget : e.bindings.get button with
      | some binding =>
        cases binding with
        | gesture directions => exact absurd (hgesture button directions hget).symm hbutton
        | _ => rfl
      | none => rfl

/-- The owner that a second run infers. -/
theorem resolveOwner_again (button : ButtonId)
    (h : d.migrateOwnerLocked.bindings.get button = some (.gesture directions)) :
    d.migrateOwnerLocked.resolveOwner = some button := by
  have howner := owner_of_gesture h
  change inferGestureOwner d.migrateOwnerLocked.bindings = some button
  unfold inferGestureOwner
  cases hfirst : firstGesture d.migrateOwnerLocked.bindings with
  | some id =>
    obtain ⟨-, other, hother⟩ := firstGesture_some hfirst
    have hid := owner_of_gesture hother
    rw [howner] at hid
    exact hid.symm
  | none =>
    obtain rfl := firstGesture_none hfirst h
    dsimp only
    rw [h]

/-- What a second run makes of the owner: a button with a map, or the dedicated one when no other has one. -/
theorem again_cases (h : d.migrateOwnerLocked.resolveOwner = some button) :
    (∃ directions, d.migrateOwnerLocked.bindings.get button = some (.gesture directions)) ∨
      button = .gestureButton ∧ firstGesture d.migrateOwnerLocked.bindings = none ∧
        (d.migrateOwnerLocked.bindings.get .gestureButton = none ∨
          ∃ click, d.migrateOwnerLocked.bindings.get .gestureButton = some (.wheelHold click)) := by
  change inferGestureOwner d.migrateOwnerLocked.bindings = some button at h
  unfold inferGestureOwner at h
  cases hfirst : firstGesture d.migrateOwnerLocked.bindings with
  | some id =>
    rw [hfirst] at h
    cases h
    exact .inl (firstGesture_some hfirst).2
  | none =>
    rw [hfirst] at h
    dsimp only at h
    cases hget : d.migrateOwnerLocked.bindings.get .gestureButton with
    | none =>
      rw [hget] at h
      cases h
      exact .inr ⟨rfl, rfl, .inl rfl⟩
    | some binding =>
      rw [hget] at h
      cases binding with
      | single action => cases h
      | longPress short long => cases h
      | gesture directions =>
        cases h
        exact .inl ⟨directions, hget⟩
      | wheelHold click =>
        cases h
        exact .inr ⟨rfl, rfl, .inr ⟨click, rfl⟩⟩

theorem ownerShape_gesture (stored : Option Binding) (h : button ≠ .gestureButton) :
    ∃ directions, ownerShape button stored = some (.gesture directions) := by
  cases stored with
  | some binding => cases binding <;> exact ⟨_, rfl⟩
  | none =>
    have hdefault : (defaultBindingFor button).isGesture = false := by
      cases button <;> first | rfl | exact absurd rfl h
    exact ⟨_, if_neg (by rw [hdefault]; exact Bool.false_ne_true)⟩

/-- A wheel binding that is left on the dedicated button was there before, and no button dispatched gestures. -/
theorem wheelHeld_of_left {click : Action} (hresolve : d.resolveOwner = d.ownerBefore)
    (hfirst : firstGesture d.migrateOwnerLocked.bindings = none)
    (h : d.migrateOwnerLocked.bindings.get .gestureButton = some (.wheelHold click)) : d.WheelHeld ∧ d.GesturesOff := by
  have hother : d.resolveOwner ≠ some .gestureButton := by
    intro howner
    rw [get_owner howner, if_pos (show ButtonId.gestureButton.isHidppGestureSource = true from rfl)] at h
    cases hget : d.bindings.get .gestureButton with
    | none =>
      rw [hget] at h
      cases h
    | some binding =>
      rw [hget] at h
      cases binding <;> cases h
  constructor
  · rw [get_other hother] at h
    refine wheelHeld_iff.2 ?_
    cases hget : d.bindings.get .gestureButton with
    | none =>
      rw [hget] at h
      cases h
    | some binding =>
      rw [hget] at h
      cases binding <;> cases h
      exact ⟨click, rfl⟩
  · intro button hbutton
    rw [← hresolve] at hbutton
    have hne : button ≠ .gestureButton := fun hc => hother (hc ▸ hbutton)
    have hnone : ∀ directions, d.migrateOwnerLocked.bindings.get button ≠ some (.gesture directions) :=
      fun _ hget => hne (firstGesture_none hfirst hget)
    rw [get_owner hbutton] at hnone
    have hsource : button.isHidppGestureSource = false := by
      by_contra hsource
      rw [if_pos (Bool.eq_true_of_not_eq_false hsource)] at hnone
      obtain ⟨directions, hshape⟩ := ownerShape_gesture (d.bindings.get button) hne
      exact hnone directions hshape
    refine ⟨hsource, ?_⟩
    rw [if_neg (by rw [hsource]; exact Bool.false_ne_true)] at hnone
    cases hget : d.bindings.get button with
    | none => rfl
    | some binding =>
      cases binding with
      | gesture directions => exact absurd hget (hnone directions)
      | _ => rfl

theorem settled_migrated (h : ¬(d.WheelHeld ∧ d.GesturesOff)) :
    d.migrateOwnerLocked.migrateOwnerLocked.bindings.get = d.migrateOwnerLocked.bindings.get ∧
      d.migrateOwnerLocked.migrateOwnerLocked.disabledGestures.get = d.migrateOwnerLocked.disabledGestures.get := by
  refine settled_of (fun button directions hget => resolveOwner_again button hget) (fun button hbutton _ => ?_)
    fun habsent => ?_
  · rcases again_cases hbutton with ⟨directions, hget⟩ | ⟨rfl, hfirst, hnone | ⟨click, hwheel⟩⟩
    · rw [hget]
      rfl
    · rw [hnone]
      rfl
    · exact absurd (wheelHeld_of_left (resolveOwner_eq h) hfirst hwheel) h
  · have howner := owner_of_absent habsent
    change inferGestureOwner d.migrateOwnerLocked.bindings = some .gestureButton
    unfold inferGestureOwner
    cases hfirst : firstGesture d.migrateOwnerLocked.bindings with
    | some id =>
      obtain ⟨hne, directions, hget⟩ := firstGesture_some hfirst
      have hid := owner_of_gesture hget
      rw [howner] at hid
      exact hid.symm
    | none =>
      dsimp only
      rw [habsent]

/-! ### One run -/

theorem ownerShape_getD (button : ButtonId) (stored : Option Binding) :
    (ownerShape button stored).getD (defaultBindingFor button) =
      .gesture ((stored.bind Binding.directions?).getD defaultGestureMap) := by
  cases stored with
  | some binding => cases binding <;> rfl
  | none => cases button <;> rfl

/-- Only the resolved owner is in gesture mode. -/
theorem resolves_of_mode (h : d.migrateOwnerLocked.isGestureMode button = true) : d.resolveOwner = some button := by
  unfold isGestureMode at h
  cases hget : d.migrateOwnerLocked.bindings.get button with
  | some binding =>
    rw [hget] at h
    obtain ⟨directions, rfl⟩ := Binding.isGesture_iff.1 h
    exact owner_of_gesture hget
  | none =>
    rw [hget] at h
    have hdedicated : button = .gestureButton := by
      cases button <;> first | rfl | cases h
    subst hdedicated
    exact owner_of_absent hget

theorem click_other (h : d.resolveOwner ≠ some button) : d.migrateOwnerLocked.click button = d.click button := by
  unfold click
  rw [get_other h]
  cases d.bindings.get button with
  | some binding => cases binding <;> rfl
  | none =>
    rw [Option.map_none, Option.none_or, Option.map_none]
    split <;> rfl

theorem stash_other (h : d.resolveOwner ≠ some button) (hget : d.bindings.get button = some (.gesture directions)) :
    d.migrateOwnerLocked.disabledGestures.get button = some directions := by
  refine (get_stashDormant ..).trans ?_
  rw [if_neg fun hc => h hc.symm, hget]
  rfl

theorem migrates (h : ¬(d.WheelHeld ∧ d.GesturesOff)) : d.Migrates d.migrateOwnerLocked := by
  have hresolve := resolveOwner_eq h
  refine ⟨fun button hmode => hresolve ▸ resolves_of_mode hmode, ?_, fun button directions hget hbutton => ?_,
    fun button hbutton => click_other (hresolve ▸ hbutton), (settled_migrated h).1, (settled_migrated h).2, rfl⟩
  · funext button
    unfold dispatches dispatchedBefore
    rw [← hresolve]
    by_cases hbutton : d.resolveOwner = some button
    · rw [if_pos hbutton, get_owner hbutton]
      dsimp only
      split
      · rw [ownerShape_getD]
        cases (d.bindings.get button).bind Binding.directions? <;> rfl
      · rfl
    · rw [if_neg hbutton, get_other hbutton]
      cases hget : d.bindings.get button with
      | some binding =>
        have hshape : (binding.demoteToSingle (defaultBinding button)).fillGestureDefaults.directions? = none := by
          cases binding <;> rfl
        have hplain : (binding.demoteToSingle (defaultBinding button)).directions? = none := by cases binding <;> rfl
        dsimp only [Option.map_some, Option.some_or, Option.getD_some, Option.bind_some]
        rw [hshape, hplain]
        split
        · rfl
        · exact ite_self _
      | none => cases button <;> rfl
  · have hstash := stash_other (hresolve ▸ hbutton) hget
    exact ⟨hstash, setGestureMode_stashed hstash⟩

/-- **The migration keeps its promises, unless the dedicated button holds a wheel binding while no button dispatched
gestures**: then it takes that button for the owner, at once or when it runs again. -/
theorem migrates_iff (d : Device) : d.Migrates d.migrateOwnerLocked ↔ ¬(d.WheelHeld ∧ d.GesturesOff) := by
  refine ⟨fun h ⟨hwheel, hoff⟩ => ?_, migrates⟩
  obtain ⟨click, hget⟩ := wheelHeld_iff.1 hwheel
  have hgestures : ∀ button directions, d.migrateOwnerLocked.bindings.get button ≠ some (.gesture directions) := by
    intro button directions hgesture
    have hmode : d.migrateOwnerLocked.isGestureMode button = true := by
      rw [isGestureMode, hgesture]
      rfl
    obtain ⟨hsource, hplain⟩ := hoff button (h.owner button hmode)
    rw [get_owner (owner_of_gesture hgesture), hsource] at hgesture
    rw [show d.bindings.get button = some (.gesture directions) from hgesture] at hplain
    cases hplain
  have hleft : d.migrateOwnerLocked.bindings.get .gestureButton = some (.wheelHold click) := by
    by_cases howner : d.resolveOwner = some .gestureButton
    · have hshape := get_owner howner
      rw [hget] at hshape
      exact absurd hshape (hgestures _ _)
    · rw [get_other howner, hget]
      rfl
  have hagain : d.migrateOwnerLocked.resolveOwner = some .gestureButton := by
    change inferGestureOwner d.migrateOwnerLocked.bindings = some .gestureButton
    unfold inferGestureOwner
    cases hfirst : firstGesture d.migrateOwnerLocked.bindings with
    | some id =>
      obtain ⟨-, directions, hgesture⟩ := firstGesture_some hfirst
      exact absurd hgesture (hgestures _ _)
    | none =>
      dsimp only
      rw [hleft]
  have hsettled := congrFun h.settled.1 .gestureButton
  rw [get_owner hagain, hleft] at hsettled
  cases hsettled

/-- A device whose gestures were turned off, with a wheel binding on the dedicated button. -/
def wheelHeldDevice : Device where
  gestureOwner := some .off
  bindings := Map.empty.put .gestureButton (.wheelHold .copy)

/-- A second run takes the wheel binding away. -/
theorem wheel_binding_lost : ¬ ∀ d : Device, d.Migrates d.migrateOwnerLocked := by
  intro h
  have hsettled := congrFun (h wheelHeldDevice).settled.1 .gestureButton
  have hlost := congrArg (Option.any Binding.isGesture) hsettled
  revert hlost
  decide +kernel

end Device

end Bindings
end OpenLogi
