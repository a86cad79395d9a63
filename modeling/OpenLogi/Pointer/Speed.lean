import OpenLogi.Lib.Table
import OpenLogi.WriteOrder.Queue
/-!
# Speed — precision mode and the order of the pointer-speed writes

`PointerSpeeds`, the operations of `pointer_speed.rs`: each is one critical section, except `host_mode_write`, whose
two are `hostModeRead` and `reapply`.  The restore generation is a `u64` that no run exhausts and is a `Nat` here.
-/
namespace OpenLogi
namespace Pointer

open Hid (DeviceRoute)
open Lib (Table)

/-- A `0x2205` factor in 1/256 steps, 0.125× to 3×. -/
structure PointerSpeed where
  raw : Nat
  min_le : 32 ≤ raw
  le_max : raw ≤ 768
  deriving DecidableEq

def PointerSpeed.min : PointerSpeed := ⟨32, by decide, by decide⟩

def PointerSpeed.default : PointerSpeed := ⟨256, by decide, by decide⟩

abbrev Dpi := UInt16

inductive DpiTarget where
  | value (dpi : Dpi)
  | lowest
  | default
  deriving DecidableEq

/-- What one pointer-speed write sets. -/
inductive SpeedTarget where
  | scaled (speed : PointerSpeed)
  | dpi (target : DpiTarget)
  deriving DecidableEq

/-- How a mouse sets its speed, and the value saved for it. -/
inductive SavedSpeed where
  | scaled (saved : Option PointerSpeed)
  | dpi (saved : Option Dpi)
  deriving DecidableEq

namespace SavedSpeed

/-- The slowest speed: what precision mode writes. -/
def precision : SavedSpeed → SpeedTarget
  | .scaled _ => .scaled .min
  | .dpi _ => .dpi .lowest

/-- What the end of precision mode writes. -/
def restored : SavedSpeed → SpeedTarget
  | .scaled saved => .scaled (saved.getD .default)
  | .dpi (some d) => .dpi (.value d)
  | .dpi none => .dpi .default

/-- What a reconnect outside precision mode writes. -/
def value : SavedSpeed → Option SpeedTarget
  | .scaled (some speed) => some (.scaled speed)
  | .dpi (some d) => some (.dpi (.value d))
  | .scaled none | .dpi none => none

def isDpi : SavedSpeed → Bool
  | .scaled _ => false
  | .dpi _ => true

def sameKind (a b : SavedSpeed) : Bool := a.isDpi == b.isDpi

theorem restored_of_value {saved : SavedSpeed} {target : SpeedTarget} (h : saved.value = some target) :
    saved.restored = target := by
  cases saved with
  | scaled saved => cases saved <;> simp_all [value, restored]
  | dpi saved => cases saved <;> simp_all [value, restored]

theorem precision_eq {a b : SavedSpeed} (h : a.sameKind b = true) : a.precision = b.precision := by
  cases a <;> cases b <;> simp_all [sameKind, isDpi, precision]

end SavedSpeed

/-- A pending restore: a config key and the generation of its entry. -/
structure Restore where
  key : String
  generation : Nat
  deriving DecidableEq

/-- A place in a route's order.  The queue is keyed by the route's display. -/
structure Ticket where
  queue : String
  number : Nat
  deriving DecidableEq

structure SpeedWrite where
  route : DeviceRoute
  target : SpeedTarget
  ticket : Ticket
  restore : Option Restore
  led : Option Bool
  deriving DecidableEq

/-- A write before its target is known. -/
structure SpeedPlace where
  route : DeviceRoute
  ticket : Ticket
  restore : Option Restore
  led : Option Bool
  deriving DecidableEq

def SpeedPlace.aimed (place : SpeedPlace) (target : SpeedTarget) : SpeedWrite :=
  ⟨place.route, target, place.ticket, place.restore, place.led⟩

structure AppWrite where
  ticket : Ticket
  restore : Option Restore
  deriving DecidableEq

structure ShiftRestore where
  ticket : Ticket
  restore : Option Restore
  deriving DecidableEq

/-- An online mouse whose speed OpenLogi sets, under its config key. -/
structure SpeedMouse where
  key : String
  route : DeviceRoute
  saved : SavedSpeed
  deriving DecidableEq

inductive PrecisionPress where
  | assigned
  | dpiButton
  deriving DecidableEq

structure ReloadChange where
  speed : Bool
  assignments : Bool

def ReloadChange.endsPrecision (change : ReloadChange) : Bool := change.speed || change.assignments

structure PointerSpeeds where
  order : String → WriteOrder.State Unit
  selected : Option String
  online : Table SpeedMouse.key
  precision : Table (id : String → String)
  restore : String → Option Nat
  restoreGeneration : Nat

namespace PointerSpeeds

def default : PointerSpeeds := ⟨fun _ => {}, none, .empty _, .empty _, fun _ => none, 0⟩

/-! ## Entries and places -/

def oweRestore (p : PointerSpeeds) (key : String) : Restore × PointerSpeeds :=
  let generation := p.restoreGeneration + 1
  (⟨key, generation⟩,
    { p with restoreGeneration := generation, restore := Function.update p.restore key (some generation) })

def pendingRestore (p : PointerSpeeds) (key : String) : Option Restore := (p.restore key).map fun g => ⟨key, g⟩

/-- `WriteOrder::request`. -/
def request (p : PointerSpeeds) (route : DeviceRoute) : Ticket × PointerSpeeds :=
  let queue := toString route
  let (number, state) := (p.order queue).requestValue ()
  (⟨queue, number⟩, { p with order := Function.update p.order queue state })

/-- The next place among a route's writes, for one that settles `restore`. -/
def place (p : PointerSpeeds) (route : DeviceRoute) (restore : Option Restore) : SpeedPlace × PointerSpeeds :=
  let (ticket, p) := p.request route
  (⟨route, ticket, restore, restore.map fun _ => false⟩, p)

def write (p : PointerSpeeds) (route : DeviceRoute) (target : SpeedTarget) (restore : Option Restore) :
    SpeedWrite × PointerSpeeds :=
  let (place, p) := p.place route restore
  (place.aimed target, p)

def precisionWrite (p : PointerSpeeds) (route : DeviceRoute) (saved : SavedSpeed) : SpeedWrite × PointerSpeeds :=
  let (ticket, p) := p.request route
  (⟨route, saved.precision, ticket, none, some true⟩, p)

def isOn (p : PointerSpeeds) (key : String) : Bool := (p.precision.get? key).isSome

/-! ## Operations -/

/-- Replace the online mice and the selected device. -/
def publish (p : PointerSpeeds) (selected : Option String) (mice : List SpeedMouse) : PointerSpeeds :=
  { p with selected, online := mice.foldl Table.insert (.empty _) }

def togglePrecision (p : PointerSpeeds) (key : Option String) (press : PrecisionPress) :
    Option ((Bool × SpeedWrite) × PointerSpeeds) :=
  match key.or p.selected with
  | none => none
  | some key =>
    match p.online.get? key with
    | none => none
    | some mouse =>
      if press = .dpiButton ∧ mouse.saved.isDpi = true then none
      else if p.isOn key then
        -- the mouse stays owed its speed until this write lands
        let (restore, p) := { p with precision := p.precision.erase key }.oweRestore key
        let (write, p) := p.write mouse.route mouse.saved.restored (some restore)
        some ((false, write), p)
      else
        let p := { p with restore := Function.update p.restore key none, precision := p.precision.insert key }
        let (write, p) := p.precisionWrite mouse.route mouse.saved
        some ((true, write), p)

def reapply (p : PointerSpeeds) (key : String) (route : DeviceRoute) (saved : SavedSpeed) :
    Option SpeedWrite × PointerSpeeds :=
  if p.isOn key then
    let (write, p) := p.precisionWrite route saved
    (some write, p)
  else
    match p.pendingRestore key with
    | none =>
      match saved.value with
      | none => (none, p)
      | some target =>
        let (write, p) := p.write route target none
        (some write, p)
    | some restore =>
      let (write, p) := p.write route saved.restored (some restore)
      (some write, p)

/-- A write that carried `restore` landed. -/
def restored (p : PointerSpeeds) (restore : Restore) : PointerSpeeds :=
  if p.restore restore.key = some restore.generation then
    { p with restore := Function.update p.restore restore.key none }
  else p

/-- `online.get_mut(key)`, its saved value replaced. -/
def saveFor (key : String) (saved : SavedSpeed) (mouse : SpeedMouse) : SpeedMouse :=
  if mouse.key = key then { mouse with saved } else mouse

theorem saveFor_key (key : String) (saved : SavedSpeed) (mouse : SpeedMouse) :
    (saveFor key saved mouse).key = mouse.key := by
  unfold saveFor
  split <;> rfl

/-- One mouse of an `app_write`. -/
def appWriteKey (saved : SavedSpeed) (acc : Option Restore × PointerSpeeds) (key : String) :
    Option Restore × PointerSpeeds :=
  let (restore, p) := acc
  let wasOn := p.isOn key
  let p := { p with precision := p.precision.erase key }
  let (restore, p) :=
    if wasOn || (p.restore key).isSome then
      let (owed, p) := p.oweRestore key
      (some owed, p)
    else (restore, p)
  (restore, { p with online := p.online.map (saveFor key saved) (saveFor_key key saved) })

/-- The online mice an `app_write` of `saved` sets. -/
def appKeys (p : PointerSpeeds) (route : DeviceRoute) (saved : SavedSpeed) : List String :=
  (p.online.rows.filter fun mouse => mouse.route = route && mouse.saved.sameKind saved).map (·.key)

def appWrite (p : PointerSpeeds) (route : DeviceRoute) (saved : SavedSpeed) : AppWrite × PointerSpeeds :=
  let (restore, p) := (p.appKeys route saved).foldl (appWriteKey saved) (none, p)
  let (ticket, p) := p.request route
  (⟨ticket, restore⟩, p)

def shiftRestore (p : PointerSpeeds) (key : String) (route : DeviceRoute) (own : Option Restore) :
    Option (ShiftRestore × PointerSpeeds) :=
  let restore := p.pendingRestore key
  if p.isOn key || (restore.isSome && restore ≠ own) then none
  else
    let (ticket, p) := p.request route
    some (⟨ticket, restore⟩, p)

/-- The first critical section of `host_mode_write`; `reapply` is the second. -/
def hostModeRead (p : PointerSpeeds) (key : String) : Option (DeviceRoute × SavedSpeed) :=
  (p.online.get? key).map fun mouse => (mouse.route, mouse.saved)

def presetPlace (p : PointerSpeeds) (route : DeviceRoute) : SpeedPlace × PointerSpeeds :=
  match p.online.rows.find? fun mouse => mouse.route = route && mouse.saved.isDpi with
  | none => p.place route none
  | some mouse =>
    if p.isOn mouse.key then
      let (restore, p) := { p with precision := p.precision.erase mouse.key }.oweRestore mouse.key
      p.place route (some restore)
    else p.place route (p.pendingRestore mouse.key)

def presetWrite (p : PointerSpeeds) (route : DeviceRoute) (dpi : Dpi) : SpeedWrite × PointerSpeeds :=
  let (place, p) := p.presetPlace route
  (place.aimed (.dpi (.value dpi)), p)

/-- One mouse of a `reload`: the writes so far, and the ended modes that no write has been made for. -/
def reloadMouse (change : String → ReloadChange) (acc : List SpeedWrite × List String × PointerSpeeds)
    (mouse : SpeedMouse) : List SpeedWrite × List String × PointerSpeeds :=
  let (writes, ended, p) := acc
  if mouse.key ∈ ended then
    let (restore, p) := p.oweRestore mouse.key
    let (write, p) := p.write mouse.route mouse.saved.restored (some restore)
    (writes ++ [write], ended.erase mouse.key, p)
  else if (change mouse.key).speed then
    match p.pendingRestore mouse.key, mouse.saved with
    | some restore, saved =>
      let (write, p) := p.write mouse.route saved.restored (some restore)
      (writes ++ [write], ended, p)
    | none, .scaled (some speed) =>
      let (write, p) := p.write mouse.route (.scaled speed) none
      (writes ++ [write], ended, p)
    -- a reload never writes a changed DPI that is not owed
    | none, _ => acc
  else acc

def reload (p : PointerSpeeds) (change : String → ReloadChange) (mice : List SpeedMouse) :
    List SpeedWrite × PointerSpeeds :=
  let ended := p.precision.rows.filter fun key => (change key).endsPrecision
  let p := { p with precision := p.precision.filter fun key => !(change key).endsPrecision }
  let (writes, ended, p) := mice.foldl (reloadMouse change) ([], ended, p)
  -- what is left of `ended` is offline
  (writes, ended.foldl (fun p key => (p.oweRestore key).2) p)

end PointerSpeeds
end Pointer
end OpenLogi
