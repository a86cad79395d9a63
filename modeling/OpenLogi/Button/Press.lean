import OpenLogi.Core.Binding
import OpenLogi.Lib.Table
/-!
# Press — the active presses of the button runtime

One press and its runtime behavior, and `ButtonState`, the table of active presses by key that the worker alone owns.
Instants are nanoseconds.
-/
namespace OpenLogi
namespace Button

open OpenLogi.Core (Action Binding ButtonId longPressThreshold)

/-! ## Identities -/

structure HidppSessionId where
  deviceKey : String
  epoch : Nat
  deriving DecidableEq

/-- Capture source that owns one physical press: a hook thread or a HID++ session. -/
inductive ButtonSource where
  | osHook (thread : Nat)
  | hidpp (session : HidppSessionId)
  deriving DecidableEq

inductive PressControl where
  | button (button : ButtonId)
  | key (keycode : UInt16)
  deriving DecidableEq

structure PressKey where
  source : ButtonSource
  control : PressControl
  deriving DecidableEq

/-- Unique identity of one accepted press. -/
structure PressToken where
  id : Nat
  key : PressKey
  generation : Nat
  deriving DecidableEq

inductive PointerTarget where
  | window (processId : Int) (windowId : Nat)
  | desktop
  | unavailable
  | unsupported
  deriving DecidableEq

inductive FocusBinding where
  | shared
  | distinct
  deriving DecidableEq

inductive ActionDispatchTarget where
  | safariProcess (pid : Int)
  | keyboard
  | pointer (target : PointerTarget) (focus : FocusBinding) (fallbackSafariPid : Option Int)
  deriving DecidableEq

/-! ## Behavior -/

inductive PressBehavior where
  | lifecycleOnly
  | immediate (action : Action)
  | longPressPending (short long : Action) (deadline : Nat)
  | longPressFired
  | wheelHoldPending (click : Action)
  | wheelHoldScrolled
  deriving DecidableEq

namespace PressBehavior

def new (binding : Option Binding) (pressedAt : Nat) : PressBehavior :=
  match binding with
  | none => .lifecycleOnly
  | some (.single action) => .immediate action
  | some (.gesture directions) => .immediate (Binding.gesture directions).clickAction
  | some (.longPress short long) => .longPressPending short long (pressedAt + longPressThreshold)
  | some (.wheelHold click) => .wheelHoldPending click

def deadline : PressBehavior → Option Nat
  | .longPressPending _ _ deadline => some deadline
  | _ => none

def releaseAction : PressBehavior → Option Action
  | .longPressPending short _ _ => some short
  | .wheelHoldPending click => some click
  | _ => none

/-- A wheel-hold press stops owing its click. -/
def wheelMoved : PressBehavior → PressBehavior
  | .wheelHoldPending _ => .wheelHoldScrolled
  | behavior => behavior

def fireLong (behavior : PressBehavior) (now : Nat) : Option (Action × PressBehavior) :=
  match behavior with
  | .longPressPending _ long deadline => if now < deadline then none else some (long, .longPressFired)
  | _ => none

/-- **The long action fires once**, at the deadline or later. -/
theorem fireLong_eq_some {behavior behavior' : PressBehavior} {now : Nat} {action : Action} :
    behavior.fireLong now = some (action, behavior') ↔
      ∃ short deadline, behavior = .longPressPending short action deadline ∧ deadline ≤ now ∧
        behavior' = .longPressFired := by
  constructor
  · intro h
    unfold fireLong at h
    split at h
    · rename_i short long deadline
      split at h
      · cases h
      · rename_i hlt
        cases h
        exact ⟨short, deadline, rfl, Nat.le_of_not_lt hlt, rfl⟩
    · cases h
  · rintro ⟨short, deadline, rfl, hle, rfl⟩
    simp only [fireLong]
    rw [if_neg (Nat.not_lt.2 hle)]

end PressBehavior

structure ActivePress where
  token : PressToken
  behavior : PressBehavior
  target : ActionDispatchTarget
  deriving DecidableEq

namespace ActivePress

def key (press : ActivePress) : PressKey := press.token.key

def fireLong (press : ActivePress) (now : Nat) : Option (Action × ActivePress) :=
  (press.behavior.fireLong now).map fun (action, behavior) => (action, { press with behavior := behavior })

/-- The press a pointer press becomes once `current` is under the pointer: a lifecycle-only one follows it. -/
def follow (current : PointerTarget) (press : ActivePress) : ActivePress :=
  match press.behavior, press.target with
  | .lifecycleOnly, .pointer _ focus fallback => { press with target := .pointer current focus fallback }
  | _, _ => press

def leaves (current : PointerTarget) (press : ActivePress) : Bool :=
  match press.target with
  | .pointer target _ _ => target ≠ current
  | _ => false

@[simp] theorem follow_token (current : PointerTarget) (press : ActivePress) :
    (press.follow current).token = press.token := by
  unfold follow
  split <;> rfl

@[simp] theorem follow_behavior (current : PointerTarget) (press : ActivePress) :
    (press.follow current).behavior = press.behavior := by
  unfold follow
  split <;> rfl

/-- **What firing the long action does to a press.** -/
theorem fireLong_eq_some {press press' : ActivePress} {now : Nat} {action : Action} :
    press.fireLong now = some (action, press') ↔
      ∃ short deadline, press.behavior = .longPressPending short action deadline ∧ deadline ≤ now ∧
        press' = { press with behavior := .longPressFired } := by
  simp only [fireLong, Option.map_eq_some_iff, Prod.exists, Prod.mk.injEq, PressBehavior.fireLong_eq_some]
  constructor
  · rintro ⟨_, _, ⟨short, deadline, hb, hd, rfl⟩, rfl, rfl⟩
    exact ⟨short, deadline, hb, hd, rfl⟩
  · rintro ⟨short, deadline, hb, hd, rfl⟩
    exact ⟨_, _, ⟨short, deadline, hb, hd, rfl⟩, rfl, rfl⟩

end ActivePress

/-! ## The active presses -/

/-- Sole owner of active press records. -/
structure ButtonState where
  active : Lib.Table ActivePress.key := .empty _

namespace ButtonState

def press (s : ButtonState) (press : ActivePress) : Option ActivePress × ButtonState :=
  (s.active.get? press.key, ⟨s.active.insert press⟩)

def release (s : ButtonState) (key : PressKey) : Option ActivePress × ButtonState :=
  (s.active.get? key, ⟨s.active.erase key⟩)

def activePress (s : ButtonState) (token : PressToken) : Option ActivePress :=
  (s.active.get? token.key).filter fun press => press.token.id = token.id

def cancelPress (s : ButtonState) (token : PressToken) : Option ActivePress × ButtonState :=
  match s.activePress token with
  | none => (none, s)
  | some _ => (s.active.get? token.key, ⟨s.active.erase token.key⟩)

def wheelMoved (s : ButtonState) (token : PressToken) : ButtonState :=
  ⟨s.active.map (fun press =>
      if press.token = token then { press with behavior := press.behavior.wheelMoved } else press)
    (by intro press; split <;> rfl)⟩

/-- The presses that `matches` picks, and the state without them. -/
def cancelWhere (s : ButtonState) (pick : ActivePress → Bool) : List ActivePress × ButtonState :=
  (s.active.rows.filter pick, ⟨s.active.filter fun press => !pick press⟩)

def cancelSource (s : ButtonState) (source : ButtonSource) : List ActivePress × ButtonState :=
  s.cancelWhere fun press => press.key.source = source

def cancelGKeys (s : ButtonState) (source : ButtonSource) : List ActivePress × ButtonState :=
  s.cancelWhere fun press =>
    press.key.source = source && match press.key.control with | .button (.gKey _) => true | _ => false

def cancelHooks (s : ButtonState) : List ActivePress × ButtonState :=
  s.cancelWhere fun press => match press.key.source with | .osHook _ => true | .hidpp _ => false

def cancelAll (s : ButtonState) : List ActivePress × ButtonState :=
  s.cancelWhere fun _ => true

def cancelPointerExcept (s : ButtonState) (current : PointerTarget) : List ActivePress × ButtonState :=
  ButtonState.cancelWhere ⟨s.active.map (·.follow current) (by intro press; simp [ActivePress.key])⟩
    fun press => press.leaves current

def fireSelectedLongPresses (s : ButtonState) (tokens : List PressToken) (now : Nat) :
    List (ActivePress × Action) × ButtonState :=
  match tokens with
  | [] => ([], s)
  | token :: rest =>
    match (s.active.get? token.key).filter (fun press => press.token = token) with
    | none => s.fireSelectedLongPresses rest now
    | some press =>
      match press.fireLong now with
      | none => s.fireSelectedLongPresses rest now
      | some (action, press) =>
        let (fired, s) := ButtonState.fireSelectedLongPresses ⟨s.active.insert press⟩ rest now
        ((press, action) :: fired, s)

/-- The earliest long-press threshold still pending. -/
def nextDeadline (s : ButtonState) : Option Nat := (s.active.rows.filterMap (·.behavior.deadline)).min?

def dueLongPresses (s : ButtonState) (now : Nat) : List PressToken :=
  (s.active.rows.filter fun press => press.behavior.deadline.any (· ≤ now)).map (·.token)

def hasDueLongPress (s : ButtonState) (now : Nat) : Bool := s.nextDeadline.any (· ≤ now)

end ButtonState

end Button
end OpenLogi
