import OpenLogi.Flow.Edge
/-!
# Detector — from cursor samples to edge crossings

`EdgeDetector`: a fast arrival at an armed edge, or a dwell on it, is a crossing.  After one the detector is latched
until a sample lies far enough from every armed edge, and a cooldown keeps crossings apart.
-/
namespace OpenLogi
namespace Flow

open OpenLogi.Scroll (F64 checkedSub)

variable {F : Type}

/-- `Duration::MAX`, in nanoseconds. -/
def Duration.max : Nat := (UInt64.size - 1) * 1000000000 + 999999999

def Duration.saturatingAdd (a b : Nat) : Nat := min (a + b) Duration.max

/-- A set of display sides. -/
structure ArmedSides where
  bits : UInt8
  deriving DecidableEq

namespace ArmedSides

def none : ArmedSides := ⟨0⟩

def fromSides (sides : List EdgeSide) : ArmedSides :=
  sides.foldl (fun set side => ⟨set.bits ||| (1 <<< UInt8.ofNat side.index)⟩) none

def contains (set : ArmedSides) (side : EdgeSide) : Bool := set.bits &&& (1 <<< UInt8.ofNat side.index) ≠ 0

end ArmedSides

/-- In desktop units per second. -/
structure Velocity (F : Type) where
  x : F
  y : F
  deriving DecidableEq

structure EdgeCrossing (F : Type) where
  side : EdgeSide
  t : F
  velocity : Velocity F
  deriving DecidableEq

structure EdgeDetectorParams (F : Type) where
  edgeTolerance : F
  dwellTime : Nat
  arrivalVelocityThreshold : F
  rearmDistance : F
  cooldown : Nat

structure TimedPosition (F : Type) where
  position : DesktopPoint F
  timestamp : Nat

structure Contact (F : Type) where
  segmentIndex : Nat
  startedAt : Nat
  approachVelocity : Velocity F

structure Candidate (F : Type) where
  segmentIndex : Nat
  side : EdgeSide
  normalDistance : F

structure EdgeDetector (F : Type) where
  edges : ExposedEdges F
  armedSides : ArmedSides
  params : EdgeDetectorParams F
  previous : Option (TimedPosition F)
  contact : Option (Contact F)
  latched : Bool
  lastCrossing : Option Nat

section
variable [F64 F]

def EdgeDetectorParams.default : EdgeDetectorParams F :=
  ⟨F64.lit 1, Scroll.millis 250, F64.lit 900, F64.lit 12, Scroll.millis 500⟩

def EdgeSide.outwardVelocity (velocity : Velocity F) : EdgeSide → F
  | .left => -velocity.x
  | .right => velocity.x
  | .top => -velocity.y
  | .bottom => velocity.y

def velocityBetween (previous : TimedPosition F) (position : DesktopPoint F) (timestamp : Nat) :
    Option (Velocity F) :=
  (checkedSub timestamp previous.timestamp).bind fun elapsed =>
    let seconds : F := F64.secs elapsed
    if F64.lt (F64.lit 0) seconds then
      some ⟨(position.x - previous.position.x) / seconds, (position.y - previous.position.y) / seconds⟩
    else none

end

namespace EdgeSegment

def alongCoordinate (segment : EdgeSegment F) (position : DesktopPoint F) : F :=
  match segment.side with
  | .left | .right => position.y
  | .top | .bottom => position.x

def normalCoordinate (segment : EdgeSegment F) (position : DesktopPoint F) : F :=
  match segment.side with
  | .left | .right => position.x
  | .top | .bottom => position.y

def length [F64 F] (segment : EdgeSegment F) : F := segment.stop - segment.start

/-- Whether the position touches the segment: its stop is left out. -/
def containsWithTolerance [F64 F] (segment : EdgeSegment F) (position : DesktopPoint F) (tolerance : F) : Bool :=
  let along := segment.alongCoordinate position
  F64.le (F64.abs (segment.normalCoordinate position - segment.coordinate)) tolerance &&
    F64.le segment.start along && F64.lt along segment.stop

def distanceTo [DesktopF64 F] (segment : EdgeSegment F) (position : DesktopPoint F) : F :=
  let normal := F64.abs (segment.normalCoordinate position - segment.coordinate)
  let along := segment.alongCoordinate position
  let alongDistance :=
    if F64.lt along segment.start then segment.start - along
    else if F64.lt segment.stop along then along - segment.stop
    else F64.lit 0
  DesktopF64.hypot normal alongDistance

end EdgeSegment

section
variable [DesktopF64 F]

def candidates (edges : ExposedEdges F) (position : DesktopPoint F) (tolerance : F) (armedSides : ArmedSides) :
    List (Candidate F) :=
  (edges.segments.zipIdx.filter fun (segment, _) =>
    armedSides.contains segment.side && segment.containsWithTolerance position tolerance).map fun (segment, index) =>
      ⟨index, segment.side, F64.abs (segment.normalCoordinate position - segment.coordinate)⟩

/-- The order candidates are taken in: the greater outward velocity first, then the side. -/
def Candidate.cmp (velocity : Velocity F) (left right : Candidate F) : Ordering :=
  let leftOutward := F64.max (left.side.outwardVelocity velocity) (F64.lit 0)
  let rightOutward := F64.max (right.side.outwardVelocity velocity) (F64.lit 0)
  (((DesktopF64.totalCmp rightOutward leftOutward).then (compare left.side.index right.side.index)).then
    (DesktopF64.totalCmp left.normalDistance right.normalDistance)).then
      (compare left.segmentIndex right.segmentIndex)

/-- `Iterator::min_by`: the first of the least elements. -/
def minBy {α : Type} (cmp : α → α → Ordering) : List α → Option α
  | [] => none
  | a :: rest => some (rest.foldl (fun best b => if cmp b best = .lt then b else best) a)

def selectCandidate (candidates : List (Candidate F)) (preferredSegment : Option Nat) (velocity : Velocity F) :
    Option (Candidate F) :=
  match preferredSegment.bind fun preferred => candidates.find? fun candidate => candidate.segmentIndex = preferred with
  | some candidate => some candidate
  | none => minBy (Candidate.cmp velocity) candidates

def sum (xs : List F) : F := xs.foldl (· + ·) (F64.lit 0)

/-- Where the position lies along the exposed length of its side, from 0 to 1. -/
def normalizedPosition (edges : ExposedEdges F) (segmentIndex : Nat) (position : DesktopPoint F) : F :=
  match edges.segments[segmentIndex]? with
  | none => F64.lit 0
  | some segment =>
    let totalLength := sum ((edges.forSide segment.side).map EdgeSegment.length)
    let precedingLength := sum (((edges.segments.take segmentIndex).filter fun part =>
      part.side = segment.side).map EdgeSegment.length)
    let along := F64.clamp (segment.alongCoordinate position) segment.start segment.stop - segment.start
    F64.clamp ((precedingLength + along) / totalLength) (F64.lit 0) (F64.lit 1)

def isNearArmedEdge (edges : ExposedEdges F) (position : DesktopPoint F) (distance : F) (armedSides : ArmedSides) :
    Bool :=
  edges.segments.any fun segment =>
    armedSides.contains segment.side && F64.lt (segment.distanceTo position) distance

namespace EdgeDetector

def new (edges : ExposedEdges F) (armedSides : ArmedSides) (params : EdgeDetectorParams F) : EdgeDetector F :=
  ⟨edges, armedSides, params, none, none, false, none⟩

/-- Replace the geometry: a contact in progress is discarded, the latch and the cooldown are kept. -/
def setEdges (d : EdgeDetector F) (edges : ExposedEdges F) : EdgeDetector F :=
  { d with edges := edges, previous := none, contact := none }

def dwellDeadline (d : EdgeDetector F) : Option Nat :=
  if d.latched then none
  else d.contact.map fun contact =>
    let dwell := Duration.saturatingAdd contact.startedAt d.params.dwellTime
    match d.lastCrossing with
    | none => dwell
    | some lastCrossing => max dwell (Duration.saturatingAdd lastCrossing d.params.cooldown)

/-- Whether a position lies away from every armed edge. -/
def away (d : EdgeDetector F) (position : DesktopPoint F) : Bool :=
  !isNearArmedEdge d.edges position d.params.rearmDistance d.armedSides

/-- Whether a crossing at this instant is late enough after the last one. -/
def cooldownFinished (d : EdgeDetector F) (timestamp : Nat) : Bool :=
  match d.lastCrossing with
  | none => true
  | some lastCrossing => (checkedSub timestamp lastCrossing).any fun elapsed => d.params.cooldown ≤ elapsed

/-- Consume one sample of an unlatched detector that moved at `velocity`. -/
def touch (d : EdgeDetector F) (velocity : Velocity F) (position : DesktopPoint F) (timestamp : Nat) :
    Option (EdgeCrossing F) × EdgeDetector F :=
  let found := candidates d.edges position d.params.edgeTolerance d.armedSides
  match selectCandidate found (d.contact.map Contact.segmentIndex) velocity with
  | none => (none, { d with contact := none })
  | some candidate =>
    let kept := d.contact.filter fun contact => contact.segmentIndex = candidate.segmentIndex
    let contact := kept.getD ⟨candidate.segmentIndex, timestamp, velocity⟩
    let dwellReached := (checkedSub timestamp contact.startedAt).any fun elapsed => d.params.dwellTime ≤ elapsed
    let fastArrival := kept.isNone &&
      F64.le d.params.arrivalVelocityThreshold (candidate.side.outwardVelocity contact.approachVelocity)
    if d.cooldownFinished timestamp && (fastArrival || dwellReached) then
      (some ⟨candidate.side, normalizedPosition d.edges candidate.segmentIndex position, contact.approachVelocity⟩,
        { d with contact := none, latched := true, lastCrossing := some timestamp })
    else (none, { d with contact := some contact })

/-- Consume one cursor sample. -/
def update (d : EdgeDetector F) (position : DesktopPoint F) (timestamp : Nat) :
    Option (EdgeCrossing F) × EdgeDetector F :=
  let velocity := (d.previous.bind fun previous => velocityBetween previous position timestamp).getD
    ⟨F64.lit 0, F64.lit 0⟩
  let d := { d with previous := some ⟨position, timestamp⟩ }
  if d.latched then (none, { d with latched := d.latched && !d.away position, contact := none })
  else d.touch velocity position timestamp

/-! ## What one sample does -/

/-- **A sample reports a crossing only while unlatched and after the cooldown**; otherwise it keeps the last crossing,
and unlatches only at a position away from every armed edge. -/
theorem update_cases (d : EdgeDetector F) (position : DesktopPoint F) (timestamp : Nat) :
    (∃ crossing, (d.update position timestamp).1 = some crossing ∧ d.latched = false ∧
      d.cooldownFinished timestamp = true ∧ (d.update position timestamp).2.latched = true ∧
      (d.update position timestamp).2.lastCrossing = some timestamp) ∨
    ((d.update position timestamp).1 = none ∧ (d.update position timestamp).2.lastCrossing = d.lastCrossing ∧
      (d.update position timestamp).2.latched = (d.latched && !d.away position)) := by
  simp only [update]
  split
  · rename_i hl
    have hl : d.latched = true := hl
    right
    refine ⟨rfl, rfl, ?_⟩
    rfl
  · rename_i hl
    have hl : d.latched = false := by simpa using hl
    simp only [touch]
    split
    · exact .inr ⟨rfl, rfl, by rw [hl]; rfl⟩
    · split
      · rename_i hc
        simp only [Bool.and_eq_true] at hc
        exact .inl ⟨_, rfl, hl, hc.1, rfl, rfl⟩
      · exact .inr ⟨rfl, rfl, by rw [hl]; rfl⟩

/-- Nothing a sample does changes what the detector watches. -/
theorem update_frame (d : EdgeDetector F) (position : DesktopPoint F) (timestamp : Nat) :
    (d.update position timestamp).2.params = d.params := by
  simp only [update]
  split
  · rfl
  · simp only [touch]
    split
    · rfl
    · split <;> rfl

end EdgeDetector

end

end Flow
end OpenLogi
