import OpenLogi.Scroll.Number
import Mathlib.Data.List.Sort
/-!
# Edge — the exposed edges of a desktop

Display rectangles in one coordinate space, x to the right and y downward, and the parts of their sides that no other
display covers.  A sort keeps the order of what it holds equal.
-/
namespace OpenLogi
namespace Flow

open OpenLogi.Scroll (F64 exactRationals)

/-- The operations of `f64` that the desktop needs besides. -/
class DesktopF64 (F : Type) extends F64 F where
  totalCmp : F → F → Ordering
  hypot : F → F → F
  midpoint : F → F → F

variable {F : Type}

structure DesktopPoint (F : Type) where
  x : F
  y : F
  deriving DecidableEq

inductive EdgeSide where
  | left
  | right
  | top
  | bottom
  deriving DecidableEq

namespace EdgeSide

def all : List EdgeSide := [.left, .right, .top, .bottom]

def index : EdgeSide → Nat
  | .left => 0
  | .right => 1
  | .top => 2
  | .bottom => 3

end EdgeSide

/-- The bounds of one display, as the window system reports them. -/
structure DisplayBounds (F : Type) where
  x : F
  y : F
  width : F
  height : F

structure DisplayRect (F : Type) where
  x : F
  y : F
  maxX : F
  maxY : F
  deriving DecidableEq

/-- One exposed portion of a display edge, from `start` up to but not including `stop`. -/
structure EdgeSegment (F : Type) where
  side : EdgeSide
  coordinate : F
  start : F
  stop : F
  deriving DecidableEq

section
variable [F64 F]

def DisplayRect.new (x y width height : F) : Option (DisplayRect F) :=
  -- adding zero folds the negative zero into zero
  let x := x + F64.lit 0
  let y := y + F64.lit 0
  let maxX := x + width
  let maxY := y + height
  let finite := [x, y, width, height, maxX, maxY].all F64.isFinite
  if finite && F64.lt x maxX && F64.lt y maxY then some ⟨x, y, maxX, maxY⟩ else none

namespace DisplayRect

/-- `==`. -/
def eq (a b : DisplayRect F) : Bool :=
  F64.eq a.x b.x && F64.eq a.y b.y && F64.eq a.maxX b.maxX && F64.eq a.maxY b.maxY

def sideSpan (r : DisplayRect F) : EdgeSide → F × F × F
  | .left => (r.x, r.y, r.maxY)
  | .right => (r.maxX, r.y, r.maxY)
  | .top => (r.y, r.x, r.maxX)
  | .bottom => (r.maxY, r.x, r.maxX)

def blocksSide (r other : DisplayRect F) : EdgeSide → Bool
  | .left => F64.lt other.x r.x && F64.le r.x other.maxX
  | .right => F64.le other.x r.maxX && F64.lt r.maxX other.maxX
  | .top => F64.lt other.y r.y && F64.le r.y other.maxY
  | .bottom => F64.le other.y r.maxY && F64.lt r.maxY other.maxY

def overlapSpan (other : DisplayRect F) : EdgeSide → F × F
  | .left | .right => (other.y, other.maxY)
  | .top | .bottom => (other.x, other.maxX)

end DisplayRect

def EdgeSegment.eq (a b : EdgeSegment F) : Bool :=
  a.side = b.side && F64.eq a.coordinate b.coordinate && F64.eq a.start b.start && F64.eq a.stop b.stop

end

/-- The exposed segments of a layout, in the order of their sides. -/
structure ExposedEdges (F : Type) where
  segments : List (EdgeSegment F)
  deriving DecidableEq

namespace ExposedEdges

/-- `==`. -/
def eq [F64 F] (a b : ExposedEdges F) : Bool :=
  a.segments.length = b.segments.length && (a.segments.zip b.segments).all fun pair => pair.1.eq pair.2

/-- The segments of one side, in normalization order. -/
def forSide (edges : ExposedEdges F) (side : EdgeSide) : List (EdgeSegment F) :=
  edges.segments.filter fun segment => segment.side = side

end ExposedEdges

section
variable [DesktopF64 F]

/-- What is left of a span from `cursor` on, the covered spans sorted by their start. -/
def exposedFrom (stop : F) : F → List (F × F) → List (F × F)
  | cursor, [] => if F64.lt cursor stop then [(cursor, stop)] else []
  | cursor, (coveredStart, coveredStop) :: rest =>
    if F64.le coveredStop cursor then exposedFrom stop cursor rest
    else
      let gap := if F64.lt cursor coveredStart then [(cursor, coveredStart)] else []
      let cursor := F64.max cursor coveredStop
      if F64.le stop cursor then gap ++ if F64.lt cursor stop then [(cursor, stop)] else []
      else gap ++ exposedFrom stop cursor rest

def exposedIntervals (start stop : F) (covered : List (F × F)) : List (F × F) :=
  let covered := (covered.map fun span => (F64.max span.1 start, F64.min span.2 stop)).filter fun span =>
    F64.lt span.1 span.2
  exposedFrom stop start (covered.insertionSort fun a b => DesktopF64.totalCmp a.1 b.1 ≠ .gt)

def EdgeSegment.byLine (a b : EdgeSegment F) : Ordering :=
  ((compare a.side.index b.side.index).then (DesktopF64.totalCmp a.coordinate b.coordinate)).then
    (DesktopF64.totalCmp a.start b.start)

def EdgeSegment.byStart (a b : EdgeSegment F) : Ordering :=
  (((compare a.side.index b.side.index).then (DesktopF64.totalCmp a.start b.start)).then
    (DesktopF64.totalCmp a.coordinate b.coordinate)).then (DesktopF64.totalCmp a.stop b.stop)

/-- Join what lies on the line of `last` and touches it. -/
def mergeFrom : EdgeSegment F → List (EdgeSegment F) → List (EdgeSegment F)
  | last, [] => [last]
  | last, segment :: rest =>
    if last.side = segment.side && DesktopF64.totalCmp last.coordinate segment.coordinate = .eq &&
        F64.le segment.start last.stop then
      mergeFrom { last with stop := F64.max last.stop segment.stop } rest
    else last :: mergeFrom segment rest

def mergeCollinear (segments : List (EdgeSegment F)) : List (EdgeSegment F) :=
  match segments.insertionSort fun a b => a.byLine b ≠ .gt with
  | [] => []
  | first :: rest => mergeFrom first rest

/-- The displays, each once. -/
def uniqueDisplays : List (DisplayRect F) → List (DisplayRect F) → List (DisplayRect F)
  | unique, [] => unique
  | unique, display :: rest =>
    if unique.any fun other => other.eq display then uniqueDisplays unique rest
    else uniqueDisplays (unique ++ [display]) rest

/-- The parts of one side of a display that none of the others covers. -/
def exposedSide (displays : List (DisplayRect F × Nat)) (display : DisplayRect F × Nat) (side : EdgeSide) :
    List (EdgeSegment F) :=
  let (coordinate, start, stop) := display.1.sideSpan side
  let covered := (displays.filter fun other => other.2 ≠ display.2 && display.1.blocksSide other.1 side).map
    fun other => other.1.overlapSpan side
  (exposedIntervals start stop covered).map fun span => ⟨side, coordinate, span.1, span.2⟩

def ExposedEdges.fromDisplays (displays : List (DisplayRect F)) : ExposedEdges F :=
  let displays := (uniqueDisplays [] displays).zipIdx
  let segments := displays.flatMap fun display => EdgeSide.all.flatMap (exposedSide displays display)
  ⟨(mergeCollinear segments).insertionSort fun a b => a.byStart b ≠ .gt⟩

def exposedEdges (displays : List (DisplayBounds F)) : ExposedEdges F :=
  .fromDisplays (displays.filterMap fun display => DisplayRect.new display.x display.y display.width display.height)

end

/-- Exact rationals, with the functions that have no rational value given. -/
abbrev desktopRationals (hypot : ℚ → ℚ → ℚ) : DesktopF64 ℚ where
  toF64 := exactRationals (fun _ => 1) fun _ _ => 1
  totalCmp a b := if a < b then .lt else if b < a then .gt else .eq
  hypot := hypot
  midpoint a b := (a + b) / 2

/-- Two displays side by side: each keeps its outer side, and they share no exposed line but the top and the bottom. -/
example : letI := desktopRationals fun _ _ => 0
    (exposedEdges ([⟨0, 0, 100, 80⟩, ⟨100, 0, 100, 80⟩] : List (DisplayBounds ℚ))).segments =
      [⟨.left, 0, 0, 80⟩, ⟨.right, 200, 0, 80⟩, ⟨.top, 0, 0, 200⟩, ⟨.bottom, 80, 0, 200⟩] := by decide +kernel

end Flow
end OpenLogi
