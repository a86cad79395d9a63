import Mathlib.Logic.Function.Basic
import OpenLogi.Flow.Devices
/-!
# Control — software control of the lights, and the leases it is owed back by

A lighting write of a device reads which unit answers and its control flags, claims every cluster, paints, and records
a lease; where it fails it puts the flags back.  The agent that leaves waits for the writes under way, no longer than
its settle budget, and then hands back what its leases say.
-/
namespace OpenLogi
namespace Rgb

/-! ## The flags of a device -/

/-- The software-control and event flags of a device, as one request reads or writes them. -/
structure RgbSwControl where
  control : BitVec 8
  events : BitVec 8
  deriving DecidableEq

namespace RgbSwControl

def ALL_CLUSTERS : BitVec 8 := 1

variable (f : RgbSwControl)

/-- `contains(ALL_CLUSTERS)`. -/
def held : Bool := f.control &&& ALL_CLUSTERS = ALL_CLUSTERS

/-- What a claim sends. -/
def claim : RgbSwControl := { f with control := f.control ||| ALL_CLUSTERS }

/-- What a release sends: `difference(ALL_CLUSTERS)`. -/
def release : RgbSwControl := { f with control := f.control &&& ~~~ALL_CLUSTERS }

@[simp] theorem release_claim : f.claim.release = f.release := by
  have h : ∀ c : BitVec 8, (c ||| ALL_CLUSTERS) &&& ~~~ALL_CLUSTERS = c &&& ~~~ALL_CLUSTERS := by decide +kernel
  exact congrArg (RgbSwControl.mk · f.events) (h f.control)

variable {f}

theorem claim_of_held (h : f.held = true) : f.claim = f := by
  have hall : ∀ c : BitVec 8, c &&& ALL_CLUSTERS = ALL_CLUSTERS → c ||| ALL_CLUSTERS = c := by decide +kernel
  exact congrArg (RgbSwControl.mk · f.events) (hall f.control (of_decide_eq_true h))

@[simp] theorem release_release : f.release.release = f.release := by
  have h : ∀ c : BitVec 8, (c &&& ~~~ALL_CLUSTERS) &&& ~~~ALL_CLUSTERS = c &&& ~~~ALL_CLUSTERS := by decide +kernel
  exact congrArg (RgbSwControl.mk · f.events) (h f.control)

theorem held_release : f.release.held = false := by
  have h : ∀ c : BitVec 8, (c &&& ~~~ALL_CLUSTERS) &&& ALL_CLUSTERS ≠ ALL_CLUSTERS := by decide +kernel
  exact decide_eq_false (h f.control)

/-- A release of flags that the firmware held leaves them. -/
theorem release_of_firmware (h : f.held = false) : f.release = f := by
  have hall : ∀ c : BitVec 8, c &&& ALL_CLUSTERS ≠ ALL_CLUSTERS → c &&& ~~~ALL_CLUSTERS = c := by decide +kernel
  exact congrArg (RgbSwControl.mk · f.events) (hall f.control (of_decide_eq_false h))

end RgbSwControl

/-! ## Routes, connections and devices -/

section
variable (R B D : Type)

/-- What answers on each route and over which connection, and the flags each device has. A device is behind one
route. -/
structure World where
  slots : R → Option (B × D)
  flags : D → RgbSwControl
  apart : ∀ {route other c c' d}, slots route = some (c, d) → slots other = some (c', d) → route = other

end

variable {R B D : Type}

namespace World

variable (w : World R B D)

/-- What answers on a route over a connection, which is current only while it is the route's. -/
def answers [DecidableEq B] (route : R) (connection : B) : Option D :=
  (w.slots route).bind fun slot => if slot.1 = connection then some slot.2 else none

def set [DecidableEq D] (device : D) (flags : RgbSwControl) : World R B D :=
  { w with flags := Function.update w.flags device flags }

/-- What answers once another connection, another device or none is on a route. A device that comes leaves the slot it
was in. -/
def placed [DecidableEq R] [DecidableEq D] (route : R) (next : Option (B × D)) (other : R) : Option (B × D) :=
  if other = route then next else (w.slots other).filter fun slot => next.map Prod.snd ≠ some slot.2

theorem placed_other [DecidableEq R] [DecidableEq D] {route other : R} {next : Option (B × D)} {slot : B × D}
    (hne : other ≠ route) (h : w.placed route next other = some slot) :
    w.slots other = some slot ∧ next.map Prod.snd ≠ some slot.2 := by
  obtain ⟨h, hout⟩ := Option.filter_eq_some_iff.1 ((if_neg hne).symm.trans h)
  exact ⟨h, of_decide_eq_true hout⟩

def place [DecidableEq R] [DecidableEq D] (route : R) (next : Option (B × D)) (flags : RgbSwControl) : World R B D where
  slots := w.placed route next
  flags := match next with
    | some (_, device) => Function.update w.flags device flags
    | none => w.flags
  apart {r o c c' d} hr ho := by
    by_cases hrr : r = route <;> by_cases hor : o = route
    · exact hrr.trans hor.symm
    · exact absurd (congrArg (Option.map Prod.snd) ((if_pos hrr).symm.trans hr)) (w.placed_other hor ho).2
    · exact absurd (congrArg (Option.map Prod.snd) ((if_pos hor).symm.trans ho)) (w.placed_other hrr hr).2
    · exact w.apart (w.placed_other hrr hr).1 (w.placed_other hor ho).1

variable {w} {route : R} {connection : B} {device : D}

/-- The other routes have other devices. -/
theorem other_device {other : R} {c : B} {d : D} (hslot : w.slots route = some (connection, device))
    (hne : other ≠ route) (hother : w.slots other = some (c, d)) : d ≠ device := by
  rintro rfl
  exact hne (w.apart hother hslot)

theorem answers_eq_some [DecidableEq B] :
    w.answers route connection = some device ↔ w.slots route = some (connection, device) := by
  unfold answers
  cases hslot : w.slots route with
  | none => simp
  | some slot =>
    obtain ⟨c, d⟩ := slot
    simp only [Option.bind_some, Option.ite_none_right_eq_some, Option.some.injEq, Prod.mk.injEq]

end World

/-- The unit id a device reports, where it reports one. -/
abbrev UnitId := Option (Flow.Bytes 4)

/-- What a write left asserted: the flags from before its claim, and the unit it reached. -/
structure RgbControlLease extends RgbSwControl where
  device : UnitId
  deriving DecidableEq

/-- Both writes reached the same device. -/
def RgbControlLease.continues (lease earlier : RgbControlLease) : Bool := lease.device = earlier.device

/-- A recorded lease.  `on` is the device its claim reached, which no one records. -/
structure Held (B D : Type) where
  binding : B
  lease : RgbControlLease
  on : D

/-- `WriteTicket::record`: the first lease of a claim is kept. -/
def record [DecidableEq B] (held : Option (Held B D)) (lease : Held B D) : Option (Held B D) :=
  if held.all fun held => held.binding ≠ lease.binding || !lease.lease.continues held.lease then some lease else held

/-! ## A session of lighting writes -/

/-- Where the write of a route is, or the release once the agent leaves.  `took` is whether the claim took the device
out of the firmware's control. -/
inductive Stage (B D : Type) where
  | idle
  | resolved (connection : B)
  | identified (connection : B) (unit : UnitId)
  | snapped (connection : B) (unit : UnitId) (previous : RgbSwControl)
  | painting (connection : B) (unit : UnitId) (previous : RgbSwControl) (on : D) (took : Bool)
  | leased (held : Held B D)
  | failed (connection : B) (previous : RgbSwControl) (took : Bool)
  | returning (held : Held B D)
  | confirmed (held : Held B D)

namespace Stage

def writes : Stage B D → Bool
  | idle | returning _ | confirmed _ => false
  | _ => true

/-- The connection that a read already went through. -/
def through : Stage B D → Option B
  | idle | resolved _ => none
  | identified c _ | snapped c _ _ | painting c _ _ _ _ | failed c _ _ => some c
  | leased held | returning held | confirmed held => some held.binding

/-- A write through the connection has control of the device, or owes it; or a release of its lease is under way. -/
def Takes (c : B) (d : D) : Stage B D → Prop
  | painting b _ _ _ took | failed b _ took => b = c ∧ took = true
  | leased held => held.binding = c
  | returning held | confirmed held => held.binding = c ∧ held.on = d
  | _ => False

end Stage

/-- How a request that changes the flags ends: not sent once the write is cancelled, applied and answered, applied
with its reply lost, or not applied. -/
inductive Sent where
  | withheld
  | answered
  | lost
  | refused

/-- What the write of a route does next, or the release once the agent leaves: it starts, or is given up for want of
the route, of its turn or of time; it reads which unit answers, and sends. -/
inductive Turn where
  | begin
  | identify (read : Bool)
  | snapshot (read : Bool)
  | claim (sent : Sent)
  | paint (painted : Bool)
  | record
  | restore (applied : Bool)
  | handBack (started : Bool)
  | confirm (read : Bool)
  | release (applied : Bool)

inductive Event (R B D : Type) where
  | admitWrite (route : R)
  | giveUp (route : R)
  | turn (route : R) (turn : Turn)
  | close
  | drain
  | place (route : R) (next : Option (B × D)) (flags : RgbSwControl)

/-- The session: the routes of the tickets that live, the write of each route, the leases recorded, and those that the
agent has drained and still owes.  Beside them stands what no one records: the flags each device had before the first
claim on a connection, whether a claim took it out of the firmware's control, whether the device of a route was left so
by a write or a release that failed, and of every release sent the device its lease was taken on and the device it
reached. -/
structure Session (R B D : Type) where
  world : World R B D
  closed : Bool
  inFlight : List R
  stage : R → Stage B D
  held : R → Option (Held B D)
  first : B × D → Option RgbSwControl
  taken : B × D → Bool
  stray : R → Bool
  owed : Option (R → Option (Held B D))
  sent : List (D × D)

namespace Session

def new (world : World R B D) : Session R B D where
  world
  closed := false
  inFlight := []
  stage _ := .idle
  held _ := none
  first _ := none
  taken _ := false
  stray _ := false
  owed := none
  sent := []

variable [DecidableEq R] (s : Session R B D)

/-- What one route has: the stage of its write, its lease, and whether its device is left uncovered. -/
def put (route : R) (stage : Stage B D) (held : Option (Held B D)) (stray : Bool) : Session R B D :=
  { s with
    stage := Function.update s.stage route stage
    held := Function.update s.held route held
    stray := Function.update s.stray route stray }

/-- The write of a route goes on. -/
def proceed (route : R) (stage : Stage B D) : Session R B D := s.put route stage (s.held route) (s.stray route)

/-- The write of a route ends, and drops its ticket. -/
def finish (route : R) (held : Option (Held B D)) (stray : Bool) : Session R B D :=
  { s with inFlight := s.inFlight.erase route }.put route .idle held stray

def drop (route : R) : Session R B D := s.finish route (s.held route) (s.stray route)

/-- The lease that a route still owes. -/
def owes (route : R) : Option (Held B D) := s.owed.bind (· route)

def settle (route : R) : Session R B D := { s with owed := s.owed.map (Function.update · route none) }

/-- A ticket of a route whose write has not begun. -/
def Waiting (route : R) : Prop := (s.stage route).writes.toNat < s.inFlight.count route

instance (route : R) : Decidable (s.Waiting route) := inferInstanceAs (Decidable (_ < _))

variable [DecidableEq B] [DecidableEq D]

/-- A claim that the device applied. -/
def claimed (connection : B) (device : D) (previous : RgbSwControl) : Session R B D :=
  { s with
    world := s.world.set device previous.claim
    first := Function.update s.first (connection, device)
      ((s.first (connection, device)).or (some (s.world.flags device)))
    taken := Function.update s.taken (connection, device)
      (s.taken (connection, device) || !(s.world.flags device).held) }

variable (unitId : D → UnitId)

def advance (route : R) : Stage B D → Turn → Option (Session R B D)
  | .idle, .begin =>
    if route ∈ s.inFlight then
      match s.world.slots route with
      | some (connection, _) => some (s.proceed route (.resolved connection))
      | none => some (s.drop route)
    else none
  | .resolved connection, .identify read =>
    match s.world.answers route connection, read with
    | some device, true => some (s.proceed route (.identified connection (unitId device)))
    | _, _ => some (s.drop route)
  | .identified connection unit, .snapshot read =>
    match s.world.answers route connection, read with
    | some device, true => some (s.proceed route (.snapped connection unit (s.world.flags device)))
    | _, _ => some (s.drop route)
  | .snapped connection unit previous, .claim sent =>
    match s.world.answers route connection, sent with
    | _, .withheld => some (s.drop route)
    | some device, .answered =>
      let took := !(s.world.flags device).held
      some ((s.claimed connection device previous).proceed route (.painting connection unit previous device took))
    | some device, .lost =>
      let took := !(s.world.flags device).held
      some ((s.claimed connection device previous).proceed route (.failed connection previous took))
    | _, _ => some (s.proceed route (.failed connection previous false))
  | .painting connection unit previous on took, .paint painted =>
    -- the last check comes after the last effect
    if painted && (s.world.answers route connection).isSome then
      some (s.proceed route (.leased ⟨connection, ⟨previous, unit⟩, on⟩))
    else some (s.proceed route (.failed connection previous took))
  | .leased lease, .record =>
    some (s.finish route (record (s.held route) lease)
      (s.stray route && (s.world.answers route lease.binding).isNone))
  | .failed connection previous took, .restore applied =>
    match s.world.answers route connection with
    | some device =>
      if applied then some ({ s with world := s.world.set device previous }.drop route)
      else some (s.finish route (s.held route) (s.stray route || took))
    -- never through a replacement
    | none => some (s.drop route)
  | .idle, .handBack started =>
    match s.owes route with
    | some held =>
      let current := (s.world.answers route held.binding).isSome
      some ((s.settle route).put route (if started && current then .returning held else .idle) (s.held route)
        (s.stray route || (!started && current)))
    | none => none
  | .returning held, .confirm read =>
    match s.world.answers route held.binding with
    | some device =>
      let told := read && unitId device = held.lease.device
      some (s.put route (if told then .confirmed held else .idle) (s.held route) (s.stray route || !read))
    | none => some (s.proceed route .idle)
  | .confirmed held, .release applied =>
    match s.world.answers route held.binding with
    | some device =>
      let world := if applied then s.world.set device held.lease.release else s.world
      some ({ s with world, sent := (held.on, device) :: s.sent }.put route .idle (s.held route)
        (s.stray route || !applied))
    | none => some (s.proceed route .idle)
  | _, _ => none

def step : Event R B D → Option (Session R B D)
  | .admitWrite route => if s.closed then none else some { s with inFlight := route :: s.inFlight }
  | .giveUp route => if s.Waiting route then some { s with inFlight := s.inFlight.erase route } else none
  | .turn route turn => s.advance unitId route (s.stage route) turn
  | .close => some { s with closed := true }
  -- at the deadline the agent does not wait for the writes that still run
  | .drain =>
    match s.owed with
    | none => if s.closed then some { s with owed := some s.held, held := fun _ => none } else none
    | some _ => none
  | .place route next flags =>
    some ({ s with world := s.world.place route next flags }.put route (s.stage route) (s.held route) false)

end Session
end Rgb
end OpenLogi
