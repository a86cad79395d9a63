import OpenLogi.Flow.Detector
import OpenLogi.Flow.Handoff
import OpenLogi.Lib.Run
/-!
# Pointer — the pointer thread's loop

`PointerLoop` between wakes: it is configured, reads the displays and the pointer, and places the cursor.  `Loop` is
the loop with the instants it acts at and a record of the crossings it reported.
-/
namespace OpenLogi
namespace Flow

open OpenLogi.Scroll (F64)
open Handoff (EntryPoint)
open Lib (run Along EveryState everyState_of_along)

variable {F : Type}

/-- How often the display layout is read again. -/
def geometryRefresh : Nat := 2000 * millis

/-- What the pointer thread watches for. -/
structure PointerSettings where
  sides : ArmedSides
  requireModifier : Bool
  deriving DecidableEq

/-- The cursor, and whether Control is held. -/
structure PointerState (F : Type) where
  position : DesktopPoint F
  control : Bool

structure PointerLoop (F : Type) where
  params : EdgeDetectorParams F
  settings : PointerSettings
  edges : ExposedEdges F
  detector : EdgeDetector F
  gateOpen : Bool
  nextRefresh : Nat

section
variable [DesktopF64 F]

/-- How far inside the display an arriving cursor lands. -/
def entryInset : F := F64.lit 2

/-- The segment a way `remaining` along a side ends in, and how far along it. -/
def chooseSegment : List (EdgeSegment F) → F → Option (EdgeSegment F × F)
  | [], _ => none
  | segment :: rest, remaining =>
    if F64.le remaining segment.length then some (segment, remaining)
    else
      match rest with
      | [] => some (segment, segment.length)
      | next :: rest => chooseSegment (next :: rest) (remaining - segment.length)

/-- Where an entry point lands on this host's exposed edges. -/
def entryPosition (edges : ExposedEdges F) (entry : EntryPoint F) : Option (DesktopPoint F) :=
  let side :=
    match entry.side with
    | .known .left => some EdgeSide.left
    | .known .right => some .right
    | .known .top => some .top
    | .known .bottom => some .bottom
    | .known .unspecified | .unknown _ => none
  side.bind fun side =>
    if !F64.isFinite entry.t then none
    else
      let segments := edges.forSide side
      let total := sum (segments.map EdgeSegment.length)
      if F64.le total (F64.lit 0) then none
      else
        (chooseSegment segments (F64.clamp entry.t (F64.lit 0) (F64.lit 1) * total)).map fun (chosen, offset) =>
          let along :=
            if F64.lt (F64.lit 2 * entryInset) chosen.length then
              F64.clamp (chosen.start + offset) (chosen.start + entryInset) (chosen.stop - entryInset)
            else DesktopF64.midpoint chosen.start chosen.stop
          let across :=
            match side with
            | .left | .top => chosen.coordinate + entryInset
            | .right | .bottom => chosen.coordinate - entryInset
          match side with
          | .left | .right => ⟨across, along⟩
          | .top | .bottom => ⟨along, across⟩

namespace PointerLoop

def new (displays : List (DisplayBounds F)) (now : Nat) : PointerLoop F :=
  let edges := exposedEdges displays
  ⟨.default, ⟨.none, false⟩, edges, .new edges .none .default, true, now + geometryRefresh⟩

def configure (l : PointerLoop F) (settings : PointerSettings) : PointerLoop F :=
  let detector := if settings.sides ≠ l.settings.sides then .new l.edges settings.sides l.params else l.detector
  { l with detector := detector, settings := settings }

/-- Read the display layout again when the refresh is due. -/
def refresh (l : PointerLoop F) (displays : List (DisplayBounds F)) (now : Nat) : PointerLoop F :=
  if now < l.nextRefresh then l
  else
    let l := { l with nextRefresh := now + geometryRefresh }
    let edges := exposedEdges displays
    -- no displays means that the window system did not answer
    if edges.segments.isEmpty || edges.eq l.edges then l
    else { l with edges := edges, detector := l.detector.setEdges edges }

/-- The position a sample feeds the detector. -/
def feeds (l : PointerLoop F) (state : Option (PointerState F)) : Option (DesktopPoint F) :=
  if l.settings.sides = .none then none
  else (state.filter fun state => !l.settings.requireModifier || state.control).map PointerState.position

/-- Read the pointer once and feed the detector. -/
def sample (l : PointerLoop F) (state : Option (PointerState F)) (now : Nat) :
    Option (EdgeCrossing F) × PointerLoop F :=
  if l.settings.sides = .none then (none, l)
  else
    match state with
    | none => (none, { l with detector := l.detector.setEdges l.edges })
    | some state =>
      let isOpen := !l.settings.requireModifier || state.control
      let wasOpen := l.gateOpen
      let l := { l with gateOpen := isOpen }
      if !isOpen then
        -- an approach made with Control held is forgotten
        (none, if wasOpen then { l with detector := l.detector.setEdges l.edges } else l)
      else
        let (crossing, detector) := l.detector.update state.position now
        (crossing, { l with detector := detector })

/-- Move the cursor to an entry point; `warped` is whether the window system did. -/
def place (l : PointerLoop F) (entry : EntryPoint F) (warped : Bool) : PointerLoop F :=
  match entryPosition l.edges entry with
  | none => l
  | some _ => if warped then { l with detector := l.detector.setEdges l.edges } else l

end PointerLoop

/-! ## The loop over time -/

/-- The loop, the instant it acted at last, and a record no operation reads. -/
structure Loop (F : Type) where
  inner : PointerLoop F
  clock : Nat
  /-- Whether a sample since the last crossing showed the detector the pointer away from every armed edge. -/
  seenAway : Bool
  /-- When each crossing was reported, and whether the pointer was seen away since the one before; newest first. -/
  crossings : List (Nat × Bool)

inductive LoopEvent (F : Type) where
  | configure (settings : PointerSettings)
  | refresh (displays : List (DisplayBounds F))
  | sample (state : Option (PointerState F))
  | place (entry : EntryPoint F) (warped : Bool)

namespace Loop

def start (displays : List (DisplayBounds F)) (now : Nat) : Loop F := ⟨.new displays now, now, false, []⟩

/-- One event, at an instant no earlier than the last. -/
def step (l : Loop F) (event : Nat × LoopEvent F) : Option (Loop F) :=
  if event.1 < l.clock then none
  else
    let now := event.1
    match event.2 with
    | .configure settings => some { l with clock := now, inner := l.inner.configure settings }
    | .refresh displays => some { l with clock := now, inner := l.inner.refresh displays now }
    | .sample state =>
      let (crossing, inner) := l.inner.sample state now
      let away := l.seenAway || (l.inner.feeds state).any l.inner.detector.away
      match crossing with
      | none => some { l with clock := now, inner := inner, seenAway := away }
      | some _ => some ⟨inner, now, false, (now, l.seenAway) :: l.crossings⟩
    | .place entry warped => some { l with clock := now, inner := l.inner.place entry warped }

/-- Every crossing comes the cooldown after the one before it, the pointer seen away in between. -/
def Limited (l : Loop F) : Prop :=
  l.crossings.IsChain fun newer older =>
    older.1 + (EdgeDetectorParams.default (F := F)).cooldown ≤ newer.1 ∧ newer.2 = true

/-- A configuration that changes the sides finds the detector unlatched, and its cooldown over. -/
def Settled (l : Loop F) (event : Nat × LoopEvent F) : Prop :=
  match event.2 with
  | .configure settings =>
    settings.sides ≠ l.inner.settings.sides → l.inner.detector.latched = false ∧
      ∀ t ∈ l.inner.detector.lastCrossing, t + l.inner.detector.params.cooldown ≤ event.1
  | _ => True

instance decidableSettled (l : Loop F) : ∀ event, Decidable (l.Settled event)
  | (_, .configure _) => inferInstanceAs (Decidable (_ → _ ∧ _))
  | (_, .refresh _) | (_, .sample _) | (_, .place _ _) => isTrue trivial

end Loop

/-! ## The invariant -/

namespace PointerLoop

/-- Two loops whose detectors have the same latch and the same last crossing. -/
structure Keeps (l l' : PointerLoop F) : Prop where
  latched : l'.detector.latched = l.detector.latched
  lastCrossing : l'.detector.lastCrossing = l.detector.lastCrossing
  detectorParams : l'.detector.params = l.detector.params
  params : l'.params = l.params

theorem keeps_refresh (l : PointerLoop F) (displays : List (DisplayBounds F)) (now : Nat) :
    Keeps l (l.refresh displays now) := by
  unfold refresh
  split
  · exact ⟨rfl, rfl, rfl, rfl⟩
  · dsimp only
    split <;> exact ⟨rfl, rfl, rfl, rfl⟩

theorem keeps_place (l : PointerLoop F) (entry : EntryPoint F) (warped : Bool) : Keeps l (l.place entry warped) := by
  unfold place
  split
  · exact ⟨rfl, rfl, rfl, rfl⟩
  · split <;> exact ⟨rfl, rfl, rfl, rfl⟩

/-- **What one sample does**: it feeds the detector a position, or keeps the latch and the last crossing. -/
theorem sample_cases (l : PointerLoop F) (state : Option (PointerState F)) (now : Nat) :
    (∃ position, l.feeds state = some position ∧ (l.sample state now).1 = (l.detector.update position now).1 ∧
      (l.sample state now).2.detector = (l.detector.update position now).2 ∧ (l.sample state now).2.params = l.params) ∨
    (l.feeds state = none ∧ (l.sample state now).1 = none ∧ Keeps l (l.sample state now).2) := by
  unfold sample feeds
  by_cases hs : l.settings.sides = .none
  · rw [if_pos hs, if_pos hs]
    exact .inr ⟨rfl, rfl, rfl, rfl, rfl, rfl⟩
  · rw [if_neg hs, if_neg hs]
    cases state with
    | none => exact .inr ⟨rfl, rfl, rfl, rfl, rfl, rfl⟩
    | some state =>
      dsimp only
      cases hopen : !l.settings.requireModifier || state.control with
      | true => exact .inl ⟨state.position, by rw [Option.filter_some, if_pos hopen]; rfl, rfl, rfl, rfl⟩
      | false =>
        refine .inr ⟨by rw [Option.filter_some, hopen]; rfl, rfl, ?_⟩
        simp only [Bool.not_false, if_true]
        split <;> exact ⟨rfl, rfl, rfl, rfl⟩

end PointerLoop

namespace Loop

/-- While the detector is unlatched the pointer was seen away since the last crossing, and the cooldown of that crossing
is over or the detector knows it. -/
structure Inv (l : Loop F) : Prop where
  detectorParams : l.inner.detector.params = .default
  params : l.inner.params = .default
  seen : l.crossings ≠ [] → l.inner.detector.latched = false → l.seenAway = true
  cooling : ∀ c ∈ l.crossings.head?, l.inner.detector.lastCrossing = some c.1 ∨
    c.1 + (EdgeDetectorParams.default (F := F)).cooldown ≤ l.clock
  limited : l.Limited

variable {l : Loop F} {now : Nat}

theorem inv_start (displays : List (DisplayBounds F)) (now : Nat) : Inv (start displays now) where
  detectorParams := rfl
  params := rfl
  seen := fun h => absurd rfl h
  cooling := fun _ h => by cases h
  limited := .nil

theorem Inv.keeps (h : Inv l) (hnow : l.clock ≤ now) {inner : PointerLoop F} (hk : PointerLoop.Keeps l.inner inner) :
    Inv { l with clock := now, inner := inner } where
  detectorParams := hk.detectorParams.trans h.detectorParams
  params := hk.params.trans h.params
  seen := fun hc hl => h.seen hc (hk.latched.symm.trans hl)
  cooling := fun c hc => (h.cooling c hc).imp hk.lastCrossing.trans fun hle => hle.trans hnow
  limited := h.limited

/-- A configuration that settled keeps the crossings apart. -/
theorem Inv.configure (h : Inv l) (hnow : l.clock ≤ now) (settings : PointerSettings)
    (hsettled : l.Settled (now, .configure settings)) :
    Inv { l with clock := now, inner := l.inner.configure settings } := by
  by_cases hs : settings.sides ≠ l.inner.settings.sides
  · obtain ⟨hlatched, hcool⟩ := hsettled hs
    have hdetector : (l.inner.configure settings).detector = .new l.inner.edges settings.sides l.inner.params :=
      if_pos hs
    refine ⟨?_, h.params, fun hc _ => h.seen hc hlatched, fun c hc => .inr ?_, h.limited⟩
    · show (l.inner.configure settings).detector.params = _
      rw [hdetector]
      exact h.params
    · rcases h.cooling c hc with hlast | hover
      · have hle := hcool c.1 hlast
        rw [h.detectorParams] at hle
        exact hle
      · exact hover.trans hnow
  · refine h.keeps hnow ⟨?_, ?_, ?_, rfl⟩
    · simp only [PointerLoop.configure, if_neg hs]
    · simp only [PointerLoop.configure, if_neg hs]
    · simp only [PointerLoop.configure, if_neg hs]

theorem Inv.sample (h : Inv l) (hnow : l.clock ≤ now) (state : Option (PointerState F)) {l' : Loop F}
    (hs : l.step (now, .sample state) = some l') : Inv l' := by
  have hstep : l.step (now, .sample state) = match (l.inner.sample state now).1 with
      | none => some { l with
          clock := now, inner := (l.inner.sample state now).2,
          seenAway := l.seenAway || (l.inner.feeds state).any l.inner.detector.away }
      | some _ => some ⟨(l.inner.sample state now).2, now, false, (now, l.seenAway) :: l.crossings⟩ := by
    unfold step
    rw [if_neg (by simpa using hnow)]
  rw [hstep] at hs
  rcases l.inner.sample_cases state now with ⟨position, hfeeds, hout, hdetector, hparams⟩ | ⟨hfeeds, hout, hk⟩
  · have hframe := EdgeDetector.update_frame l.inner.detector position now
    rcases EdgeDetector.update_cases l.inner.detector position now with
      ⟨crossing, hc, hlatched, hcool, hlatched', hlast⟩ | ⟨hc, hlast, hlatched'⟩
    · -- a crossing: the detector was unlatched and its cooldown over
      rw [hout, hc] at hs
      cases hs
      refine ⟨?_, hparams.trans h.params, fun _ hl => ?_, fun c hm => .inl ?_, ?_⟩
      · show (l.inner.sample state now).2.detector.params = _
        rw [hdetector, hframe]
        exact h.detectorParams
      · change (l.inner.sample state now).2.detector.latched = false at hl
        rw [hdetector, hlatched'] at hl
        cases hl
      · cases hm
        show (l.inner.sample state now).2.detector.lastCrossing = _
        rw [hdetector, hlast]
      · have hlim := h.limited
        have hcooling := h.cooling
        have hseen := h.seen
        unfold Limited at hlim ⊢
        cases hcs : l.crossings with
        | nil => exact .singleton _
        | cons older rest =>
          rw [hcs] at hlim hcooling hseen
          refine hlim.cons_cons ⟨?_, hseen (List.cons_ne_nil _ _) hlatched⟩
          rcases hcooling older rfl with hl | hover
          · have hfin := hcool
            simp only [EdgeDetector.cooldownFinished, hl, Scroll.checkedSub, h.detectorParams] at hfin
            split at hfin
            · rename_i hle
              have hdiff := of_decide_eq_true hfin
              show older.1 + _ ≤ now
              omega
            · cases hfin
          · exact hover.trans hnow
    · rw [hout, hc] at hs
      cases hs
      refine ⟨?_, hparams.trans h.params, fun hne hl => ?_, fun c hm => ?_, h.limited⟩
      · show (l.inner.sample state now).2.detector.params = _
        rw [hdetector, hframe]
        exact h.detectorParams
      · change (l.inner.sample state now).2.detector.latched = false at hl
        rw [hdetector, hlatched'] at hl
        rw [hfeeds, Option.any_some]
        cases hlat : l.inner.detector.latched with
        | false => simp [h.seen hne hlat]
        | true =>
          rw [hlat] at hl
          simp only [Bool.true_and, Bool.not_eq_false'] at hl
          simp [hl]
      · show (l.inner.sample state now).2.detector.lastCrossing = _ ∨ _
        rw [hdetector, hlast]
        exact (h.cooling c hm).imp_right fun hle => hle.trans hnow
  · rw [hout] at hs
    cases hs
    rw [hfeeds, Option.any_none, Bool.or_false]
    exact h.keeps hnow hk

/-- **Every step but an unsettled configuration keeps the crossings apart.** -/
theorem Inv.step (h : Inv l) {event : Nat × LoopEvent F} (hsettled : l.Settled event) {l' : Loop F}
    (hs : l.step event = some l') : Inv l' := by
  obtain ⟨now, event⟩ := event
  have hnow : l.clock ≤ now := by
    unfold Loop.step at hs
    split at hs
    · cases hs
    · rename_i hle
      simpa using hle
  cases event with
  | sample state => exact h.sample hnow state hs
  | configure settings =>
    simp only [Loop.step, if_neg (Nat.not_lt.2 hnow)] at hs
    cases hs
    exact h.configure hnow settings hsettled
  | refresh displays =>
    simp only [Loop.step, if_neg (Nat.not_lt.2 hnow)] at hs
    cases hs
    exact h.keeps hnow (PointerLoop.keeps_refresh l.inner displays now)
  | place entry warped =>
    simp only [Loop.step, if_neg (Nat.not_lt.2 hnow)] at hs
    cases hs
    exact h.keeps hnow (PointerLoop.keeps_place l.inner entry warped)

/-- **Crossings are rate limited** in every run whose changes of sides come while the detector is unlatched and its
cooldown is over. -/
theorem crossings_limited (displays : List (DisplayBounds F)) (now : Nat) (events : List (Nat × LoopEvent F))
    (h : Along step Settled (start displays now) events) : EveryState step Limited (start displays now) events :=
  (everyState_of_along (fun _ _ _ hl hg hs => Inv.step hl hg hs) (inv_start displays now) h).imp fun _ hl => hl.limited

end Loop

end

/-! ## A second peer connects -/

/-- Right where one of the two is zero. -/
def axisHypot (a b : ℚ) : ℚ := if a < b then b else a

abbrev axisRationals : DesktopF64 ℚ := desktopRationals axisHypot

attribute [local instance] axisRationals

def sampleDisplays : List (DisplayBounds ℚ) := [⟨0, 0, 100, 80⟩]

def sampleAt (x : ℚ) : LoopEvent ℚ := .sample (some ⟨⟨x, 40⟩, false⟩)

def sampleSides (sides : List EdgeSide) : LoopEvent ℚ := .configure ⟨.fromSides sides, false⟩

/-- A fast arrival at the right edge, the only one armed. -/
def sampleArrival : List (Nat × LoopEvent ℚ) :=
  [(0, sampleSides [.right]), (0, sampleAt 50), (10 * millis, sampleAt (199 / 2))]

/-- The pointer leaves, the left edge is armed too once the cooldown is over, and the pointer dwells on the right. -/
def sampleReturn : List (Nat × LoopEvent ℚ) :=
  [(100 * millis, sampleAt 50), (600 * millis, sampleSides [.right, .left]), (610 * millis, sampleAt (199 / 2)),
    (860 * millis, sampleAt (199 / 2))]

theorem crossings_limited_returned : ∃ l, run Loop.step (Loop.start sampleDisplays 0) (sampleArrival ++ sampleReturn) =
    some l ∧ l.crossings.map Prod.fst = [860 * millis, 10 * millis] ∧ l.Limited := by
  have h : Along Loop.step Loop.Settled (Loop.start sampleDisplays 0) (sampleArrival ++ sampleReturn) := by
    decide +kernel
  obtain ⟨l, hl⟩ : ∃ l, run Loop.step (Loop.start sampleDisplays 0) (sampleArrival ++ sampleReturn) = some l :=
    Option.isSome_iff_exists.1 (by decide +kernel)
  refine ⟨l, hl, ?_, Loop.crossings_limited sampleDisplays 0 _ h _ l List.prefix_rfl hl⟩
  have hlog : (run Loop.step (Loop.start sampleDisplays 0) (sampleArrival ++ sampleReturn)).map
      (fun l => l.crossings.map Prod.fst) = some [860 * millis, 10 * millis] := by decide +kernel
  rw [hl] at hlog
  exact Option.some.inj hlog

/-- The left edge is armed too right after the crossing, and the pointer has not moved. -/
def samplePinned : List (Nat × LoopEvent ℚ) :=
  [(20 * millis, sampleSides [.right, .left]), (30 * millis, sampleAt (199 / 2)), (280 * millis, sampleAt (199 / 2))]

/-- **A change of the sides forgets the latch and the cooldown**: the pinned pointer crosses again after 270 ms. -/
theorem crossing_repeats : ¬ EveryState Loop.step Loop.Limited (Loop.start sampleDisplays 0)
    (sampleArrival ++ samplePinned) := by
  intro h
  obtain ⟨l, hl⟩ : ∃ l, run Loop.step (Loop.start sampleDisplays 0) (sampleArrival ++ samplePinned) = some l :=
    Option.isSome_iff_exists.1 (by decide +kernel)
  have hlog : (run Loop.step (Loop.start sampleDisplays 0) (sampleArrival ++ samplePinned)).map Loop.crossings =
      some [(280 * millis, false), (10 * millis, true)] := by decide +kernel
  rw [hl] at hlog
  have hlim : l.Limited := h _ l List.prefix_rfl hl
  have hcrossings : l.crossings = [(280 * millis, false), (10 * millis, true)] := Option.some.inj hlog
  rw [Loop.Limited, hcrossings] at hlim
  exact absurd (List.isChain_cons_cons.1 hlim).1.2 Bool.false_ne_true

end Flow
end OpenLogi
