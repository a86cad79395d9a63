import OpenLogi.Lib.Run
import OpenLogi.Pointer.Speed
/-!
# Runs — the pointer-speed operations in any order

The tasks of the agent call the operations in any order, each critical section one event, and the writes they numbered
land in any order, or never: a write that fails or is superseded changes nothing here.  `issued` is the log of the
numbered writes, newest first.
-/
namespace OpenLogi
namespace Pointer

open Hid (DeviceRoute)
open Lib (Table)

/-- What a numbered write sets: a target, the value of the settings app, the DPI of a preset action (`none` before it
has read the mouse), or the DPI that a shift started from. -/
inductive Load where
  | speed (target : SpeedTarget)
  | app (saved : SavedSpeed)
  | preset (target : Option SpeedTarget)
  | shift
  deriving DecidableEq

structure Issue where
  ticket : Ticket
  restore : Option Restore
  led : Option Bool
  load : Load
  deriving DecidableEq

def SpeedWrite.issue (w : SpeedWrite) : Issue := ⟨w.ticket, w.restore, w.led, .speed w.target⟩

def AppWrite.issue (w : AppWrite) (saved : SavedSpeed) : Issue :=
  ⟨w.ticket, w.restore, w.restore.map fun _ => false, .app saved⟩

def SpeedPlace.issue (w : SpeedPlace) (target : Option SpeedTarget) : Issue :=
  ⟨w.ticket, w.restore, w.led, .preset target⟩

def ShiftRestore.issue (w : ShiftRestore) : Issue := ⟨w.ticket, w.restore, w.restore.map fun _ => false, .shift⟩

/-- What a task in `host_mode_write` has read. -/
structure HostRead where
  key : String
  route : DeviceRoute
  saved : SavedSpeed
  deriving DecidableEq

structure Sys where
  speeds : PointerSpeeds
  hosts : Nat → Option HostRead
  issued : List Issue

def Sys.init : Sys := ⟨.default, fun _ => none, []⟩

inductive Ev where
  | publish (selected : Option String) (mice : List SpeedMouse)
  | toggle (key : Option String) (press : PrecisionPress)
  | appWrite (route : DeviceRoute) (saved : SavedSpeed)
  | presetWrite (route : DeviceRoute) (dpi : Dpi)
  | presetPlace (route : DeviceRoute)
  | shiftRestore (key : String) (route : DeviceRoute) (own : Option Restore)
  | hostRead (task : Nat) (key : String)
  | hostReapply (task : Nat)
  | reapply (key : String) (route : DeviceRoute) (saved : SavedSpeed)
  | reload (change : String → ReloadChange) (mice : List SpeedMouse)
  | land (w : Issue)
  | rehash (online : List SpeedMouse) (precision : List String)

namespace Sys

/-- The state after an operation, with the writes it numbered, oldest first. -/
def log (s : Sys) (speeds : PointerSpeeds) (writes : List Issue) : Sys :=
  { s with speeds, issued := writes.reverse ++ s.issued }

def reapply (s : Sys) (key : String) (route : DeviceRoute) (saved : SavedSpeed) : Sys :=
  let (write, speeds) := s.speeds.reapply key route saved
  s.log speeds (write.toList.map (·.issue))

end Sys

def step (s : Sys) : Ev → Option Sys
  | .publish selected mice => some { s with speeds := s.speeds.publish selected mice }
  | .toggle key press =>
    match s.speeds.togglePrecision key press with
    | none => some s
    | some ((_, write), speeds) => some (s.log speeds [write.issue])
  | .appWrite route saved =>
    let (write, speeds) := s.speeds.appWrite route saved
    some (s.log speeds [write.issue saved])
  | .presetWrite route dpi =>
    let (write, speeds) := s.speeds.presetWrite route dpi
    some (s.log speeds [{ write.issue with load := .preset (some write.target) }])
  | .presetPlace route =>
    let (place, speeds) := s.speeds.presetPlace route
    some (s.log speeds [place.issue none])
  | .shiftRestore key route own =>
    match s.speeds.shiftRestore key route own with
    | none => some s
    | some (write, speeds) => some (s.log speeds [write.issue])
  | .hostRead task key =>
    match s.speeds.hostModeRead key with
    | none => some s
    | some (route, saved) => some { s with hosts := Function.update s.hosts task (some ⟨key, route, saved⟩) }
  | .hostReapply task =>
    match s.hosts task with
    | none => none
    | some read => some ({ s with hosts := Function.update s.hosts task none }.reapply read.key read.route read.saved)
  | .reapply key route saved => some (s.reapply key route saved)
  | .reload change mice =>
    let (writes, speeds) := s.speeds.reload change mice
    some (s.log speeds (writes.map (·.issue)))
  | .land w =>
    if w ∈ s.issued then
      match w.restore with
      | none => some s
      | some restore => some { s with speeds := s.speeds.restored restore }
    else none
  | .rehash online precision =>
    if h : online.Perm s.speeds.online.rows ∧ precision.Perm s.speeds.precision.rows then
      some { s with speeds := { s.speeds with
        online := s.speeds.online.rehash online h.1, precision := s.speeds.precision.rehash precision h.2 } }
    else none

/-! ## Places -/

namespace PointerSpeeds

/-- `p'` is `p` after the next number of the queue was taken. -/
structure Placed (p p' : PointerSpeeds) (ticket : Ticket) : Prop where
  order : p'.order = Function.update p.order ticket.queue ((p.order ticket.queue).requestValue ()).2
  number : ticket.number = (p.order ticket.queue).next + 1

variable (p : PointerSpeeds)

theorem placed_request (route : DeviceRoute) : Placed p (p.request route).2 (p.request route).1 :=
  ⟨rfl, rfl⟩

theorem Placed.of_order {p q p' : PointerSpeeds} {ticket : Ticket} (h : Placed q p' ticket) (ho : q.order = p.order) :
    Placed p p' ticket := by
  obtain ⟨h1, h2⟩ := h
  rw [ho] at h1 h2
  exact ⟨h1, h2⟩

/-- No newer write has been numbered on the queue of this one: its turn is not skipped. -/
def newest (p : PointerSpeeds) (w : Issue) : Bool := (p.order w.ticket.queue).isCurrent w.ticket.number

@[simp] theorem request_queue (route : DeviceRoute) :
    (p.request route).1.queue = toString route := rfl

@[simp] theorem request_online (route : DeviceRoute) :
    (p.request route).2.online = p.online := rfl

@[simp] theorem request_precision (route : DeviceRoute) :
    (p.request route).2.precision = p.precision := rfl

@[simp] theorem request_restore (route : DeviceRoute) :
    (p.request route).2.restore = p.restore := rfl

@[simp] theorem request_restoreGeneration (route : DeviceRoute) :
    (p.request route).2.restoreGeneration = p.restoreGeneration := rfl

@[simp] theorem oweRestore_restore (key : String) :
    (p.oweRestore key).2.restore = Function.update p.restore key (some (p.restoreGeneration + 1)) := rfl

@[simp] theorem oweRestore_restoreGeneration (key : String) :
    (p.oweRestore key).2.restoreGeneration = p.restoreGeneration + 1 := rfl

@[simp] theorem oweRestore_precision (key : String) :
    (p.oweRestore key).2.precision = p.precision := rfl

@[simp] theorem oweRestore_online (key : String) : (p.oweRestore key).2.online = p.online := rfl

@[simp] theorem oweRestore_order (key : String) : (p.oweRestore key).2.order = p.order := rfl

theorem isOn_iff (key : String) : p.isOn key = true ↔ key ∈ p.precision := by
  rw [isOn, Table.isSome_get?]
  simp

/-! ## What an operation does -/

/-- A mode is turned off and its restore becomes owed. -/
def endMode (p : PointerSpeeds) (key : String) : Restore × PointerSpeeds :=
  { p with precision := p.precision.erase key }.oweRestore key

/-- A mode is turned on; it sets the speed itself. -/
def startMode (p : PointerSpeeds) (key : String) : PointerSpeeds :=
  { p with restore := Function.update p.restore key none, precision := p.precision.insert key }

theorem togglePrecision_cases {p p' : PointerSpeeds} {key : Option String} {press : PrecisionPress} {on : Bool}
    {w : SpeedWrite} (h : p.togglePrecision key press = some ((on, w), p')) :
    ∃ m ∈ p.online,
      (p.isOn m.key = true ∧ w = ((p.endMode m.key).2.write m.route m.saved.restored (some (p.endMode m.key).1)).1 ∧
        p' = ((p.endMode m.key).2.write m.route m.saved.restored (some (p.endMode m.key).1)).2) ∨
      (p.isOn m.key = false ∧ w = ((p.startMode m.key).precisionWrite m.route m.saved).1 ∧
        p' = ((p.startMode m.key).precisionWrite m.route m.saved).2) := by
  unfold togglePrecision at h
  cases hk : key.or p.selected with
  | none =>
    rw [hk] at h
    cases h
  | some k =>
    cases hm : p.online.get? k with
    | none =>
      simp only [hk, hm] at h
      cases h
    | some m =>
      simp only [hk, hm] at h
      obtain ⟨hmem, rfl⟩ := Table.mem_of_get? hm
      refine ⟨m, hmem, ?_⟩
      split at h
      · cases h
      · split at h
        · rename_i hon
          cases h
          exact Or.inl ⟨hon, rfl, rfl⟩
        · rename_i hon
          cases h
          exact Or.inr ⟨by simpa using hon, rfl, rfl⟩

/-- What a reconnect or host-mode write sets, if it is made. -/
theorem reapply_cases (key : String) (route : DeviceRoute) (saved : SavedSpeed) :
    (p.isOn key = true ∧
        p.reapply key route saved = (some (p.precisionWrite route saved).1, (p.precisionWrite route saved).2)) ∨
      (p.isOn key = false ∧ ∃ target, (p.pendingRestore key ≠ none ∨ saved.value ≠ none) ∧ target = saved.restored ∧
        p.reapply key route saved = (some (p.write route target (p.pendingRestore key)).1,
          (p.write route target (p.pendingRestore key)).2)) ∨
      (p.isOn key = false ∧ p.pendingRestore key = none ∧ saved.value = none ∧
        p.reapply key route saved = (none, p)) := by
  by_cases hon : p.isOn key = true
  · exact Or.inl ⟨hon, by rw [reapply, if_pos hon]⟩
  · have hoff : p.isOn key = false := by simpa using hon
    rw [reapply, if_neg hon]
    cases hr : p.pendingRestore key with
    | none =>
      cases hv : saved.value with
      | none => exact Or.inr (Or.inr ⟨hoff, rfl, rfl, rfl⟩)
      | some target =>
        exact Or.inr (Or.inl ⟨hoff, target, Or.inr (by simp), (SavedSpeed.restored_of_value hv).symm, rfl⟩)
    | some restore => exact Or.inr (Or.inl ⟨hoff, _, Or.inl (by simp), rfl, rfl⟩)

/-- The place of a preset action: it ends the mode of the DPI mouse there, or carries what that mouse is owed. -/
theorem presetPlace_cases (route : DeviceRoute) :
    ((∀ m ∈ p.online, ¬ (m.route = route ∧ m.saved.isDpi = true)) ∧ p.presetPlace route = p.place route none) ∨
      ∃ m ∈ p.online, m.route = route ∧ m.saved.isDpi = true ∧
        ((p.isOn m.key = true ∧ p.presetPlace route = (p.endMode m.key).2.place route (some (p.endMode m.key).1)) ∨
          (p.isOn m.key = false ∧ p.presetPlace route = p.place route (p.pendingRestore m.key))) := by
  unfold presetPlace
  cases hf : p.online.rows.find? fun mouse => mouse.route = route && mouse.saved.isDpi with
  | none =>
    refine Or.inl ⟨fun m hm hc => ?_, rfl⟩
    have := List.find?_eq_none.1 hf m hm
    simp [hc.1, hc.2] at this
  | some m =>
    have hp : m.route = route ∧ m.saved.isDpi = true := by simpa using List.find?_some hf
    refine Or.inr ⟨m, List.mem_of_find?_eq_some hf, hp.1, hp.2, ?_⟩
    cases hon : p.isOn m.key with
    | true => exact Or.inl ⟨rfl, by simp [endMode, hon]⟩
    | false => exact Or.inr ⟨rfl, by simp [hon]⟩

theorem shiftRestore_cases {p p' : PointerSpeeds} {key : String} {route : DeviceRoute} {own : Option Restore}
    {w : ShiftRestore} (h : p.shiftRestore key route own = some (w, p')) :
    p.isOn key = false ∧ w = ⟨(p.request route).1, p.pendingRestore key⟩ ∧ p' = (p.request route).2 := by
  unfold shiftRestore at h
  dsimp only at h
  split at h
  · cases h
  · rename_i hc
    cases h
    have hon : p.isOn key = false := by
      cases hon : p.isOn key with
      | false => rfl
      | true => simp [hon] at hc
    exact ⟨hon, rfl, rfl⟩

theorem restored_cases (r : Restore) :
    (p.restore r.key = some r.generation ∧
        p.restored r = { p with restore := Function.update p.restore r.key none }) ∨
      (p.restore r.key ≠ some r.generation ∧ p.restored r = p) := by
  unfold restored
  split
  · rename_i h
    exact Or.inl ⟨h, rfl⟩
  · rename_i h
    exact Or.inr ⟨h, rfl⟩

theorem restored_same (r : Restore) :
    (p.restored r).order = p.order ∧ (p.restored r).online = p.online ∧ (p.restored r).precision = p.precision := by
  rcases p.restored_cases r with ⟨-, h⟩ | ⟨-, h⟩
  · rw [h]
    exact ⟨rfl, rfl, rfl⟩
  · rw [h]
    exact ⟨rfl, rfl, rfl⟩

/-! ## The log of the numbered writes -/

/-- Every numbered write is below its queue's counter, and the counter's own is the newest. -/
structure Numbered (p : PointerSpeeds) (issued : List Issue) : Prop where
  counter : ∀ queue, (p.order queue).latest = (p.order queue).next
  below : ∀ w ∈ issued, w.ticket.number ≤ (p.order w.ticket.queue).next

end PointerSpeeds
end Pointer
end OpenLogi
