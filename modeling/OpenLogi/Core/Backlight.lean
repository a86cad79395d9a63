import Mathlib.Data.List.Induction
import OpenLogi.Lib.Replay
import OpenLogi.Lib.Sweep
/-!
# Backlight — a keyboard's backlight and the changes made to it

`BacklightState::changed` is what a change makes of a backlight.  Its status depends on the status, the mode and the
power before it, so a list of changes that sets a control twice passes through states it does not end in; made again
over the state it ended in, it ends there again (`changes_replayable`).
-/
namespace OpenLogi
namespace Core

inductive BacklightMode where
  | none | automatic | temporaryManual | permanentManual
  deriving DecidableEq

inductive BacklightStatus where
  | disabledBySoftware | disabledByCriticalBattery | alsAutomatic | alsSaturated | temporaryManual | permanentManual
  deriving DecidableEq

/-! ## The timer -/

def unitSeconds : UInt16 := 5

def maxUnits : UInt16 := 0x05a0

def maxSeconds : UInt16 := maxUnits * unitSeconds

inductive BacklightDurationError where
  | belowOneUnit (seconds : UInt16)
  | betweenSteps (seconds : UInt16)
  | beyondTwoHours (seconds : UInt16)
  deriving DecidableEq

def validateFadeOut (seconds : UInt16) : Except BacklightDurationError Unit :=
  if seconds < unitSeconds then .error (.belowOneUnit seconds)
  else if seconds % unitSeconds ≠ 0 then .error (.betweenSteps seconds)
  else if seconds > maxSeconds then .error (.beyondTwoHours seconds)
  else .ok ()

/-- A fade-out the keyboard can store. -/
structure BacklightDuration where
  seconds : UInt16
  valid : validateFadeOut seconds = .ok ()
  deriving DecidableEq

/-! ## The controls -/

inductive BacklightChange where
  | enabled (on : Bool)
  | automatic (on : Bool)
  | level (level : UInt8)
  | powerSave (on : Bool)
  | duration (seconds : BacklightDuration)
  deriving DecidableEq

/-- A bit for each control beyond power; bits without a name are kept. -/
structure BacklightControls where
  bits : UInt8
  deriving DecidableEq

namespace BacklightControls

def AUTOMATIC : UInt8 := (1 : UInt8) <<< 0

def LEVEL : UInt8 := (1 : UInt8) <<< 1

def POWER_SAVE : UInt8 := (1 : UInt8) <<< 2

def DURATION : UInt8 := (1 : UInt8) <<< 3

def contains (controls : BacklightControls) (flag : UInt8) : Bool := controls.bits &&& flag == flag

def allow (controls : BacklightControls) : BacklightChange → Bool
  | .enabled _ => true
  | .automatic _ => controls.contains AUTOMATIC
  | .level _ => controls.contains LEVEL
  | .powerSave _ => controls.contains POWER_SAVE
  | .duration _ => controls.contains DURATION

end BacklightControls

/-! ## The state -/

structure BacklightState where
  enabled : Bool
  mode : BacklightMode
  status : BacklightStatus
  currentLevel : UInt8
  nbLevels : UInt8
  powerSave : Bool
  controls : BacklightControls
  duration : Option BacklightDuration
  deriving DecidableEq

attribute [ext] BacklightState

namespace BacklightState

/-- Whether a level is in range; every other change is. -/
def inRange (state : BacklightState) : BacklightChange → Bool
  | .level level => decide (level < state.nbLevels)
  | _ => true

def accepts (state : BacklightState) (change : BacklightChange) : Bool :=
  state.controls.allow change && state.inRange change

/-- The control a change sets, before the status follows. -/
def set (state : BacklightState) : BacklightChange → BacklightState
  | .enabled on => { state with enabled := on }
  | .automatic true => { state with mode := .automatic }
  | .automatic false => { state with mode := .permanentManual }
  | .level level => { state with mode := .permanentManual, currentLevel := level }
  | .powerSave on => { state with powerSave := on }
  | .duration seconds => { state with duration := some seconds }

/-- The status of the changed state `next`. -/
def statusOf (state next : BacklightState) : BacklightStatus :=
  if next.enabled = false then .disabledBySoftware
  else if state.status = .disabledByCriticalBattery ∨ (state.enabled = true ∧ next.mode = state.mode) then state.status
  else match next.mode with
    | .automatic => .alsAutomatic
    | .temporaryManual => .temporaryManual
    | .permanentManual => .permanentManual
    | .none => state.status

def changed (state : BacklightState) (change : BacklightChange) : BacklightState :=
  { state.set change with status := state.statusOf (state.set change) }

/-- A list of changes, in the order they are made. -/
def changes (state : BacklightState) (changes : List BacklightChange) : BacklightState :=
  changes.foldl changed state

/-! ## The registers -/

theorem register_enabled : Lib.Register changed enabled fun
    | .enabled on => some on
    | _ => none := by
  rintro s (_ | (_ | _) | _ | _ | _) <;> rfl

/-- The mode a change selects. -/
def modeOf : BacklightChange → Option BacklightMode
  | .automatic true => some .automatic
  | .automatic false => some .permanentManual
  | .level _ => some .permanentManual
  | _ => none

theorem register_mode : Lib.Register changed mode modeOf := by
  rintro s (_ | (_ | _) | _ | _ | _) <;> rfl

theorem register_currentLevel : Lib.Register changed currentLevel fun
    | .level level => some level
    | _ => none := by
  rintro s (_ | (_ | _) | _ | _ | _) <;> rfl

theorem register_powerSave : Lib.Register changed powerSave fun
    | .powerSave on => some on
    | _ => none := by
  rintro s (_ | (_ | _) | _ | _ | _) <;> rfl

theorem register_duration : Lib.Register changed duration fun
    | .duration seconds => some (some seconds)
    | _ => none := by
  rintro s (_ | (_ | _) | _ | _ | _) <;> rfl

theorem register_controls : Lib.Register changed controls fun _ => none := by
  rintro s (_ | (_ | _) | _ | _ | _) <;> rfl

theorem register_nbLevels : Lib.Register changed nbLevels fun _ => none := by
  rintro s (_ | (_ | _) | _ | _ | _) <;> rfl

/-! ## The status -/

/-- The status that enabling a mode gives, from the one that disabling leaves. -/
def settledStatus : BacklightMode → BacklightStatus
  | .none => .disabledBySoftware
  | .automatic => .alsAutomatic
  | .temporaryManual => .temporaryManual
  | .permanentManual => .permanentManual

/-- The status is a function of power and mode. -/
def Settled (state : BacklightState) : Prop :=
  state.status = if state.enabled then settledStatus state.mode else .disabledBySoftware

/-- The status is the firmware's own, and `change` leaves it alone. -/
def Holds (state : BacklightState) (change : BacklightChange) : Prop :=
  change ≠ .enabled false ∧
    (state.status = .disabledByCriticalBattery ∨ modeOf change = none ∨ modeOf change = some state.mode)

theorem status_changed (s : BacklightState) (c : BacklightChange) :
    (s.changed c).status = s.statusOf (s.changed c) := rfl

theorem settledStatus_ne_critical (m : BacklightMode) : settledStatus m ≠ .disabledByCriticalBattery := by
  cases m <;> decide

variable {s : BacklightState}

/-- A mode that differs from the one before is one the change selects, and never `none`. -/
theorem mode_changed_ne_none {c : BacklightChange} (h : (s.changed c).mode ≠ s.mode) :
    (s.changed c).mode ≠ .none := by
  rw [register_mode s c] at h ⊢
  rcases c with _ | (_ | _) | _ | _ | _
  · exact absurd rfl h
  · exact nofun
  · exact nofun
  · exact nofun
  · exact absurd rfl h
  · exact absurd rfl h

theorem Settled.ne_critical (hs : s.Settled) : s.status ≠ .disabledByCriticalBattery := by
  rw [hs]
  split
  · exact settledStatus_ne_critical s.mode
  · decide

theorem settled_changed (hs : s.Settled) (c : BacklightChange) : (s.changed c).Settled := by
  unfold Settled
  rw [status_changed, statusOf]
  by_cases hon : (s.changed c).enabled = false
  · rw [if_pos hon, if_neg (by simp [hon])]
  have hon' : (s.changed c).enabled = true := by simpa using hon
  rw [if_neg hon, if_pos hon']
  by_cases hsame : s.enabled = true ∧ (s.changed c).mode = s.mode
  · rw [if_pos (Or.inr hsame), hs, if_pos hsame.1, hsame.2]
  rw [if_neg (not_or.2 ⟨hs.ne_critical, hsame⟩)]
  cases hm : (s.changed c).mode with
  | none =>
    -- the mode was `none` before too, so the backlight was off
    have hmode : s.mode = .none := by
      by_contra hne
      exact mode_changed_ne_none (by rw [hm]; exact Ne.symm hne) hm
    have hoff : s.enabled = false := by
      by_contra hne
      exact hsame ⟨by simpa using hne, hm.trans hmode.symm⟩
    exact hs.trans (by rw [hoff]; rfl)
  | automatic => rfl
  | temporaryManual => rfl
  | permanentManual => rfl

/-- A status that a change leaves to the firmware stays as it is. -/
theorem status_changed_of_holds {c : BacklightChange} (hon : s.enabled = true) (h : s.Holds c) :
    (s.changed c).status = s.status ∧ (s.changed c).enabled = true := by
  have hstill : (s.changed c).enabled = true := by
    rw [register_enabled s c]
    rcases c with (_ | _) | _ | _ | _ | _
    · exact absurd rfl h.1
    · rfl
    · exact hon
    · exact hon
    · exact hon
    · exact hon
  refine ⟨?_, hstill⟩
  have hkept : s.status = .disabledByCriticalBattery ∨ (s.enabled = true ∧ (s.changed c).mode = s.mode) := by
    refine h.2.imp_right fun hm => ⟨hon, ?_⟩
    rw [register_mode s c]
    rcases hm with hm | hm <;> rw [hm] <;> rfl
  rw [status_changed, statusOf, if_neg (by simp [hstill]), if_pos hkept]

/-- **One change**: the status is settled, or it is the firmware's and the change leaves it alone a second time. -/
theorem settled_or_holds (s : BacklightState) (c : BacklightChange) :
    (s.changed c).Settled ∨
      ((s.changed c).enabled = true ∧ (s.changed c).status = s.status ∧ (s.changed c).Holds c ∧
        (s.enabled = true → s.status = .disabledByCriticalBattery ∨ (s.changed c).mode = s.mode)) := by
  by_cases hon : (s.changed c).enabled = false
  · left
    unfold Settled
    rw [status_changed, statusOf, if_pos hon, if_neg (by simp [hon])]
  have hon' : (s.changed c).enabled = true := by simpa using hon
  have hne : c ≠ .enabled false := by
    rintro rfl
    exact hon rfl
  have hagree : modeOf c = none ∨ modeOf c = some (s.changed c).mode := by
    rw [register_mode s c]
    cases modeOf c with
    | none => exact Or.inl rfl
    | some m => exact Or.inr rfl
  by_cases hkept : s.status = .disabledByCriticalBattery ∨ (s.enabled = true ∧ (s.changed c).mode = s.mode)
  · right
    have hstatus : (s.changed c).status = s.status := by
      rw [status_changed, statusOf, if_neg hon, if_pos hkept]
    exact ⟨hon', hstatus, ⟨hne, Or.inr hagree⟩, fun _ => hkept.imp_right And.right⟩
  · have hstatus : (s.changed c).status = match (s.changed c).mode with
        | .automatic => .alsAutomatic
        | .temporaryManual => .temporaryManual
        | .permanentManual => .permanentManual
        | .none => s.status := by
      rw [status_changed, statusOf, if_neg hon, if_neg hkept]
    cases hm : (s.changed c).mode with
    | none =>
      -- nothing selects `none`: the mode is the one before, and the backlight was off
      right
      have hmode : (s.changed c).mode = s.mode := by
        by_contra hmode
        exact mode_changed_ne_none hmode hm
      rw [hm] at hstatus
      exact ⟨hon', hstatus, ⟨hne, Or.inr hagree⟩, fun hs => absurd (Or.inr ⟨hs, hmode⟩) hkept⟩
    | automatic => left; rw [Settled, hstatus, hm, if_pos hon']; rfl
    | temporaryManual => left; rw [Settled, hstatus, hm, if_pos hon']; rfl
    | permanentManual => left; rw [Settled, hstatus, hm, if_pos hon']; rfl

theorem settled_changes (hs : s.Settled) (cs : List BacklightChange) :
    (s.changes cs).Settled :=
  Lib.foldl_keeps Settled (fun _ c h => settled_changed h c) cs s hs

/-- **A list of changes** ends settled, or in a status of the firmware's that all of them leave alone. -/
theorem settled_or_holds_changes (s : BacklightState) {cs : List BacklightChange} (hne : cs ≠ []) :
    (s.changes cs).Settled ∨ ((s.changes cs).enabled = true ∧ ∀ c ∈ cs, (s.changes cs).Holds c) := by
  induction cs using List.reverseRecOn with
  | nil => exact absurd rfl hne
  | append_singleton cs c ih =>
    have hlast : s.changes (cs ++ [c]) = (s.changes cs).changed c := List.foldl_concat ..
    rw [hlast]
    rcases settled_or_holds (s.changes cs) c with h | ⟨hon, hstatus, hc, hmode⟩
    · exact Or.inl h
    by_cases hcs : cs = []
    · subst hcs
      exact Or.inr ⟨hon, fun d hd => by rw [List.mem_singleton.1 hd]; exact hc⟩
    rcases ih hcs with h | ⟨hon', hall⟩
    · exact Or.inl (settled_changed h c)
    refine Or.inr ⟨hon, fun d hd => ?_⟩
    rcases List.mem_append.1 hd with hd | hd
    · refine ⟨(hall d hd).1, ?_⟩
      rw [hstatus]
      rcases hmode hon' with hcrit | hmode
      · exact Or.inl hcrit
      · rw [hmode]; exact (hall d hd).2
    · rw [List.mem_singleton.1 hd]; exact hc

/-- A status that all of the changes leave alone stays through them. -/
theorem status_changes_of_holds : ∀ (cs : List BacklightChange) (s : BacklightState), s.enabled = true →
    (∀ c ∈ cs, s.Holds c) → (s.changes cs).status = s.status
  | [], _, _, _ => rfl
  | c :: cs, s, hon, h => by
    obtain ⟨hstatus, hon'⟩ := status_changed_of_holds hon (h c List.mem_cons_self)
    have hrest : ∀ d ∈ cs, (s.changed c).Holds d := by
      intro d hd
      have hd' := h d (List.mem_cons_of_mem c hd)
      refine ⟨hd'.1, ?_⟩
      rw [hstatus]
      rcases hd'.2 with hcrit | hmode
      · exact Or.inl hcrit
      · rcases (h c List.mem_cons_self).2 with hcrit | hc
        · exact Or.inl hcrit
        · refine Or.inr ?_
          have hkeep : (s.changed c).mode = s.mode := by
            rw [register_mode s c]
            rcases hc with hc | hc <;> rw [hc] <;> rfl
          rw [hkeep]
          exact hmode
    exact (status_changes_of_holds cs (s.changed c) hon' hrest).trans hstatus

/-- **Changes made twice in a row show what they show once.** -/
theorem changes_replayable (cs : List BacklightChange) : Lib.Replayable changed cs := by
  intro s
  by_cases hne : cs = []
  · subst hne
    rfl
  have hstatus : ((s.changes cs).changes cs).status = (s.changes cs).status := by
    rcases settled_or_holds_changes s hne with h | ⟨hon, hall⟩
    · rw [settled_changes h cs, h]
      have henabled : ((s.changes cs).changes cs).enabled = (s.changes cs).enabled := register_enabled.replay cs s
      have hmode : ((s.changes cs).changes cs).mode = (s.changes cs).mode := register_mode.replay cs s
      rw [henabled, hmode]
    · exact status_changes_of_holds cs (s.changes cs) hon hall
  ext1
  · exact register_enabled.replay cs s
  · exact register_mode.replay cs s
  · exact hstatus
  · exact register_currentLevel.replay cs s
  · exact register_nbLevels.replay cs s
  · exact register_powerSave.replay cs s
  · exact register_controls.replay cs s
  · exact register_duration.replay cs s

/-! ## The changes a keyboard accepts -/

theorem accepts_changes (cs : List BacklightChange) (s : BacklightState) (c : BacklightChange) :
    (s.changes cs).accepts c = s.accepts c := by
  have hcontrols : (s.changes cs).controls = s.controls := register_controls.foldl_of_none cs s
  have hlevels : (s.changes cs).nbLevels = s.nbLevels := register_nbLevels.foldl_of_none cs s
  unfold accepts inRange
  rw [hcontrols, hlevels]

end BacklightState

end Core
end OpenLogi
