import Mathlib.Algebra.Order.BigOperators.Group.List
import Mathlib.Tactic.Linarith
import OpenLogi.Flow.Exposed
import OpenLogi.Flow.Pointer
/-!
# Landing — where an entry point lands on the edges it was measured on

The sender measures a position along the exposed length of a side, and the receiver walks the same length back.  Over
exact arithmetic the two agree on one layout except where one segment ends and the next one begins.
-/
namespace OpenLogi
namespace Flow

open OpenLogi.Scroll (F64)
open Handoff (Side)

/-- The side on the wire. -/
def EdgeSide.wire : EdgeSide → Side
  | .left => .left
  | .right => .right
  | .top => .top
  | .bottom => .bottom

theorem side_of_mem_forSide {F : Type} {edges : ExposedEdges F} {side : EdgeSide} {segment : EdgeSegment F}
    (h : segment ∈ edges.forSide side) : segment.side = side :=
  of_decide_eq_true (List.mem_filter.1 h).2

/-- The segments of a side that come before one. -/
abbrev before {F : Type} (edges : ExposedEdges F) (index : Nat) (side : EdgeSide) :
    List (EdgeSegment F) :=
  (edges.segments.take index).filter fun part => part.side = side

theorem forSide_split {F : Type} {edges : ExposedEdges F} {index : Nat} {segment : EdgeSegment F}
    (h : edges.segments[index]? = some segment) :
    ∃ after, edges.forSide segment.side = before edges index segment.side ++ segment :: after := by
  obtain ⟨hlt, hget⟩ := List.getElem?_eq_some_iff.1 h
  refine ⟨(edges.segments.drop (index + 1)).filter fun part => part.side = segment.side, ?_⟩
  have hsplit : edges.segments = edges.segments.take index ++ segment :: edges.segments.drop (index + 1) := by
    rw [← hget, List.getElem_cons_drop, List.take_append_drop]
  have hfilter := congrArg (List.filter fun part => decide (part.side = segment.side)) hsplit
  rw [List.filter_append, List.filter_cons_of_pos (by simp)] at hfilter
  exact hfilter

section
variable {K : Type} [Field K] [LinearOrder K] [Transcendental K]

attribute [local instance] exactField

namespace EdgeSegment

/-- The coordinate across the segment, an inset inside the display. -/
def inside (segment : EdgeSegment K) : K :=
  match segment.side with
  | .left | .top => segment.coordinate + entryInset
  | .right | .bottom => segment.coordinate - entryInset

/-- Where an offset along the segment lands. -/
def landsAt (segment : EdgeSegment K) (offset : K) : K :=
  if F64.lt (F64.lit 2 * entryInset) segment.length then
    F64.clamp (segment.start + offset) (segment.start + entryInset) (segment.stop - entryInset)
  else DesktopF64.midpoint segment.start segment.stop

/-- The point inside the display at a coordinate along the segment. -/
def spot (segment : EdgeSegment K) (along : K) : DesktopPoint K :=
  match segment.side with
  | .left | .right => ⟨segment.inside, along⟩
  | .top | .bottom => ⟨along, segment.inside⟩

end EdgeSegment

theorem exact_sum (xs : List K) : sum xs = xs.sum := by
  rw [List.sum_eq_foldl]
  unfold sum
  rw [show (F64.lit 0 : K) = 0 from Rat.cast_zero]

theorem exact_clamp {a low high : K} (hlow : low ≤ a) (hhigh : a ≤ high) : F64.clamp a low high = a := by
  change (if a < low then low else if high < a then high else a) = a
  rw [if_neg hlow.not_gt, if_neg hhigh.not_gt]

theorem exact_clamp_unit {a : K} (hlow : 0 ≤ a) (hhigh : a ≤ 1) : F64.clamp a (F64.lit 0) (F64.lit 1) = a := by
  refine exact_clamp ?_ ?_
  · exact Rat.cast_zero.trans_le hlow
  · exact hhigh.trans_eq Rat.cast_one.symm

theorem entryInset_eq : (entryInset : K) = 2 := Rat.cast_ofNat 2

variable {segment : EdgeSegment K}

theorem chooseSegment_stays {rest : List (EdgeSegment K)} {way : K} (h : way ≤ segment.length) :
    chooseSegment (segment :: rest) way = some (segment, way) := by
  unfold chooseSegment
  exact if_pos (exact_le.2 h)

theorem chooseSegment_passes {rest : List (EdgeSegment K)} {way : K} (h : segment.length < way) (hrest : rest ≠ []) :
    chooseSegment (segment :: rest) way = chooseSegment rest (way - segment.length) := by
  cases rest with
  | nil => exact absurd rfl hrest
  | cons next rest =>
    rw [chooseSegment.eq_def]
    exact if_neg fun hle => (exact_le.1 hle).not_gt h

theorem mem_of_chooseSegment {segments : List (EdgeSegment K)} {way : K} {chosen : EdgeSegment K × K}
    (h : chooseSegment segments way = some chosen) : chosen.1 ∈ segments := by
  induction segments generalizing way with
  | nil => cases h
  | cons segment rest ih =>
    unfold chooseSegment at h
    split at h
    · cases h
      exact List.mem_cons_self
    · cases rest with
      | nil =>
        cases h
        exact List.mem_cons_self
      | cons next rest => exact List.mem_cons_of_mem _ (ih h)

/-- The length of a side. -/
abbrev total (segments : List (EdgeSegment K)) : K := (segments.map EdgeSegment.length).sum

/-- The entry point in terms of the segment chosen and the way left along it. -/
theorem entryPosition_eq (edges : ExposedEdges K) (side : EdgeSide) (t : K) (velocity : Option (Handoff.Vec2 K)) :
    entryPosition edges ⟨.known side.wire, t, velocity⟩ = if total (edges.forSide side) ≤ 0 then none
      else (chooseSegment (edges.forSide side) (F64.clamp t (F64.lit 0) (F64.lit 1) * total (edges.forSide side))).map
        fun chosen => chosen.1.spot (chosen.1.landsAt chosen.2) := by
  have hzero : F64.le (total (edges.forSide side)) (F64.lit 0) = true ↔ total (edges.forSide side) ≤ 0 := by
    rw [exact_le, show (F64.lit 0 : K) = 0 from Rat.cast_zero]
  have hspot : ∀ chosen : EdgeSegment K × K, chosen.1 ∈ edges.forSide side → chosen.1.side = side :=
    fun chosen hchosen => side_of_mem_forSide hchosen
  unfold entryPosition
  cases side <;> dsimp only [EdgeSide.wire, Option.bind_some]
  all_goals
    rw [if_neg (show ¬(!F64.isFinite t) = true from Bool.false_ne_true), exact_sum]
    refine if_congr hzero rfl (Option.map_congr fun chosen hchosen => ?_)
    have hside := hspot chosen (mem_of_chooseSegment hchosen)
    unfold EdgeSegment.spot EdgeSegment.inside EdgeSegment.landsAt
    rw [hside]

/-! ## Where a segment is landed on -/

variable [IsStrictOrderedRing K]

theorem length_pos (h : segment.start < segment.stop) : 0 < segment.length := by
  unfold EdgeSegment.length
  linarith

theorem total_nonneg {segments : List (EdgeSegment K)} (h : ∀ segment ∈ segments, segment.start < segment.stop) :
    0 ≤ total segments :=
  List.sum_nonneg (List.forall_mem_map.2 fun segment hsegment => (length_pos (h segment hsegment)).le)

namespace EdgeSegment

/-- The coordinates along a segment that entry points land at: an inset from its ends, or else its middle. -/
def Lands (segment : EdgeSegment K) (along : K) : Prop :=
  if F64.lit 2 * entryInset < segment.length then
    segment.start + entryInset ≤ along ∧ along ≤ segment.stop - entryInset
  else along = DesktopF64.midpoint segment.start segment.stop

variable {segment : EdgeSegment K} {offset : K}

omit [IsStrictOrderedRing K] in
theorem twoInsets_eq : (F64.lit 2 * entryInset : K) = 4 := by
  rw [entryInset_eq, show (F64.lit 2 : K) = 2 from Rat.cast_ofNat 2]
  norm_num

omit [IsStrictOrderedRing K] in
theorem lands_iff {along : K} : segment.Lands along ↔
    if 4 < segment.length then segment.start + 2 ≤ along ∧ along ≤ segment.stop - 2
    else along = (segment.start + segment.stop) / 2 := by
  unfold Lands
  rw [twoInsets_eq, entryInset_eq]
  exact Iff.rfl

theorem landsAt_long (h : 4 < segment.length) : segment.landsAt offset =
    max (segment.start + 2) (min (segment.start + offset) (segment.stop - 2)) := by
  have hlong : F64.lt (F64.lit 2 * entryInset) segment.length = true := by
    rw [exact_lt, twoInsets_eq]
    exact h
  have horder : segment.start + 2 ≤ segment.stop - 2 := by
    unfold length at h
    linarith
  rw [landsAt, if_pos hlong, entryInset_eq]
  change (if segment.start + offset < segment.start + 2 then segment.start + 2
    else if segment.stop - 2 < segment.start + offset then segment.stop - 2 else segment.start + offset) = _
  split
  · rename_i hlt
    rw [min_eq_left (hlt.le.trans horder), max_eq_left hlt.le]
  · rename_i hge
    split
    · rename_i hgt
      rw [min_eq_right hgt.le, max_eq_right horder]
    · rename_i hle
      rw [min_eq_left (not_lt.1 hle), max_eq_right (not_lt.1 hge)]

omit [IsStrictOrderedRing K] in
theorem landsAt_short (h : ¬4 < segment.length) : segment.landsAt offset = (segment.start + segment.stop) / 2 := by
  have hshort : ¬F64.lt (F64.lit 2 * entryInset) segment.length = true := by
    rw [exact_lt, twoInsets_eq]
    exact h
  rw [landsAt, if_neg hshort]
  rfl

theorem lands_landsAt (segment : EdgeSegment K) (offset : K) : segment.Lands (segment.landsAt offset) := by
  rw [lands_iff]
  split
  · rename_i hlong
    rw [landsAt_long hlong]
    unfold length at hlong
    exact ⟨le_max_left _ _, max_le (by linarith) (min_le_right _ _)⟩
  · rename_i hshort
    exact landsAt_short hshort

/-- Where an entry point may land, one does. -/
theorem landsAt_of_lands {along : K} (h : segment.Lands along) (hpos : segment.start < segment.stop) :
    0 < along - segment.start ∧ along - segment.start ≤ segment.length ∧
      segment.landsAt (along - segment.start) = along := by
  rw [lands_iff] at h
  split at h
  · rename_i hlong
    rw [landsAt_long hlong, add_sub_cancel, min_eq_left h.2, max_eq_right h.1]
    unfold length
    exact ⟨by linarith, by linarith, rfl⟩
  · rename_i hshort
    rw [landsAt_short hshort]
    unfold length
    exact ⟨by linarith, by linarith, h.symm⟩

/-- What lands lies on the segment, short of its ends. -/
theorem Lands.within {along : K} (h : segment.Lands along) (hpos : segment.start < segment.stop) :
    segment.start < along ∧ along < segment.stop := by
  obtain ⟨hfrom, hto, -⟩ := landsAt_of_lands h hpos
  rw [lands_iff] at h
  unfold length at *
  split at h <;> constructor <;> linarith

end EdgeSegment

/-! ## Walking along a side -/

/-- The walk ends in the segment that the way left over ends in, its end included. -/
theorem chooseSegment_append {before after : List (EdgeSegment K)} {offset : K}
    (hbefore : ∀ other ∈ before, other.start < other.stop) (hpos : 0 < offset) (hle : offset ≤ segment.length) :
    chooseSegment (before ++ segment :: after) (total before + offset) = some (segment, offset) := by
  induction before with
  | nil =>
    rw [total, List.map_nil, List.sum_nil, zero_add]
    exact chooseSegment_stays hle
  | cons first rest ih =>
    obtain ⟨-, hrest⟩ := List.forall_mem_cons.1 hbefore
    have hway : total (first :: rest) + offset = first.length + (total rest + offset) := by
      rw [total, List.map_cons, List.sum_cons, add_assoc]
    have hpast : first.length < first.length + (total rest + offset) := by
      have hnonneg := total_nonneg hrest
      linarith
    rw [hway, List.cons_append, chooseSegment_passes hpast (by simp), add_sub_cancel_left]
    exact ih hrest

variable {edges : ExposedEdges K} {index : Nat} {segment : EdgeSegment K} {position : DesktopPoint K}

/-- The normalized position is the way along the side to the position. -/
theorem way_of_normalizedPosition (hpos : ∀ segment ∈ edges.segments, segment.start < segment.stop)
    (h : edges.segments[index]? = some segment) (hstart : segment.start ≤ segment.alongCoordinate position)
    (hstop : segment.alongCoordinate position < segment.stop) :
    0 < total (edges.forSide segment.side) ∧
      F64.clamp (normalizedPosition edges index position) (F64.lit 0) (F64.lit 1) * total (edges.forSide segment.side) =
        total (before edges index segment.side) + (segment.alongCoordinate position - segment.start) := by
  obtain ⟨after, hsplit⟩ := forSide_split h
  have hside : ∀ other ∈ edges.forSide segment.side, other.start < other.stop := fun other hother =>
    hpos other (List.mem_filter.1 hother).1
  rw [hsplit] at hside
  obtain ⟨hbefore, hrest⟩ := List.forall_mem_append.1 hside
  have hbeforeLength := total_nonneg hbefore
  have hafterLength := total_nonneg (List.forall_mem_cons.1 hrest).2
  have htotal : total (edges.forSide segment.side) =
      total (before edges index segment.side) + (segment.length + total after) := by
    rw [hsplit, total, List.map_append, List.sum_append, List.map_cons, List.sum_cons]
  have hlength : segment.length = segment.stop - segment.start := rfl
  have hall : 0 < total (edges.forSide segment.side) := by linarith
  have hunit : 0 ≤ (total (before edges index segment.side) + (segment.alongCoordinate position - segment.start)) /
      total (edges.forSide segment.side) ∧ (total (before edges index segment.side) +
        (segment.alongCoordinate position - segment.start)) / total (edges.forSide segment.side) ≤ 1 :=
    ⟨div_nonneg (by linarith) hall.le, (div_le_one hall).2 (by linarith)⟩
  have hposition : normalizedPosition edges index position = (total (before edges index segment.side) +
      (segment.alongCoordinate position - segment.start)) / total (edges.forSide segment.side) := by
    unfold normalizedPosition
    rw [h]
    dsimp only
    rw [exact_sum, exact_sum, exact_clamp hstart hstop.le]
    exact exact_clamp_unit hunit.1 hunit.2
  rw [hposition, exact_clamp_unit hunit.1 hunit.2]
  exact ⟨hall, div_mul_cancel₀ _ hall.ne'⟩

/-! ## There and back -/

/-- A point on the segment, inside the display, at the coordinate of another along it up to the inset, and at the very
coordinate unless that is within the inset of an end. -/
structure LandsOn (segment : EdgeSegment K) (position target : DesktopPoint K) : Prop where
  across : segment.normalCoordinate target = segment.inside
  on : segment.start ≤ segment.alongCoordinate target ∧ segment.alongCoordinate target < segment.stop
  near : |segment.alongCoordinate target - segment.alongCoordinate position| ≤ entryInset
  same : segment.start + entryInset ≤ segment.alongCoordinate position →
    segment.alongCoordinate position ≤ segment.stop - entryInset →
      segment.alongCoordinate target = segment.alongCoordinate position

/-- The entry point at the normalized position of a point of a segment lands on that segment. -/
def RoundTrips (edges : ExposedEdges K) (index : Nat) (segment : EdgeSegment K) (position : DesktopPoint K) : Prop :=
  ∃ target, entryPosition edges ⟨.known segment.side.wire, normalizedPosition edges index position, none⟩ = some target ∧
    LandsOn segment position target

omit [IsStrictOrderedRing K] in
theorem spot_coordinates {other : EdgeSegment K} (h : other.side = segment.side) (along : K) :
    segment.normalCoordinate (other.spot along) = other.inside ∧
      segment.alongCoordinate (other.spot along) = along := by
  unfold EdgeSegment.normalCoordinate EdgeSegment.alongCoordinate EdgeSegment.spot
  rw [h]
  cases segment.side <;> exact ⟨rfl, rfl⟩

theorem coordinate_of_inside {other : EdgeSegment K} (h : other.side = segment.side)
    (hinside : other.inside = segment.inside) : other.coordinate = segment.coordinate := by
  unfold EdgeSegment.inside at hinside
  rw [h] at hinside
  cases hside : segment.side <;> rw [hside] at hinside <;> dsimp only at hinside <;> linarith

theorem landsAt_near {offset : K} (hfrom : 0 ≤ offset) (hto : offset ≤ segment.length) :
    |segment.landsAt offset - (segment.start + offset)| ≤ 2 ∧ (segment.start + 2 ≤ segment.start + offset →
      segment.start + offset ≤ segment.stop - 2 → segment.landsAt offset = segment.start + offset) := by
  have hlength : segment.length = segment.stop - segment.start := rfl
  by_cases hlong : 4 < segment.length
  · rw [EdgeSegment.landsAt_long hlong]
    refine ⟨abs_le.2 ?_, fun hstart hstop => by rw [min_eq_left hstop, max_eq_right hstart]⟩
    rcases max_cases (segment.start + 2) (min (segment.start + offset) (segment.stop - 2)) with
      ⟨hmax, hle⟩ | ⟨hmax, hlt⟩ <;>
      rcases min_cases (segment.start + offset) (segment.stop - 2) with ⟨hmin, hmle⟩ | ⟨hmin, hmlt⟩ <;>
        rw [hmax] <;> constructor <;> linarith
  · rw [EdgeSegment.landsAt_short hlong]
    refine ⟨abs_le.2 ⟨by linarith, by linarith⟩, fun hstart hstop => by linarith⟩

theorem landsOn_spot (hpos : segment.start < segment.stop) (hstart : segment.start ≤ segment.alongCoordinate position)
    (hstop : segment.alongCoordinate position < segment.stop) : LandsOn segment position
      (segment.spot (segment.landsAt (segment.alongCoordinate position - segment.start))) := by
  obtain ⟨hacross, halong⟩ := spot_coordinates (Eq.refl segment.side)
    (segment.landsAt (segment.alongCoordinate position - segment.start))
  have hlength : segment.length = segment.stop - segment.start := rfl
  obtain ⟨hnear, hsame⟩ := landsAt_near (show 0 ≤ segment.alongCoordinate position - segment.start by linarith)
    (by linarith)
  rw [add_sub_cancel] at hnear hsame
  have hon := (EdgeSegment.lands_landsAt segment (segment.alongCoordinate position - segment.start)).within hpos
  refine ⟨hacross, ?_, ?_, ?_⟩
  · rw [halong]
    exact ⟨hon.1.le, hon.2⟩
  · rw [halong, entryInset_eq]
    exact hnear
  · rw [halong, entryInset_eq]
    exact hsame

/-- **The round trip holds except at the start of a segment that has another before it on its side**: the walk ends in
that one. -/
theorem round_trips_iff (displays : List (DisplayRect K))
    (h : (ExposedEdges.fromDisplays displays).segments[index]? = some segment)
    (hstart : segment.start ≤ segment.alongCoordinate position)
    (hstop : segment.alongCoordinate position < segment.stop) :
    RoundTrips (.fromDisplays displays) index segment position ↔
      ¬(segment.alongCoordinate position = segment.start ∧
        ∃ other ∈ (ExposedEdges.fromDisplays displays).segments.take index, other.side = segment.side) := by
  have hexposed := exposed_edges_partition displays
  generalize ExposedEdges.fromDisplays displays = edges at h hexposed
  obtain ⟨hall, hway⟩ := way_of_normalizedPosition hexposed.positive h hstart hstop
  obtain ⟨after, hsplit⟩ := forSide_split h
  have hbefore : ∀ other ∈ before edges index segment.side, other.start < other.stop := fun other hother =>
    hexposed.positive other (List.mem_of_mem_take (List.mem_filter.1 hother).1)
  have hpos : segment.start < segment.stop := hstart.trans_lt hstop
  have hlength : segment.length = segment.stop - segment.start := rfl
  have hentry : entryPosition edges ⟨.known segment.side.wire, normalizedPosition edges index position, none⟩ =
      (chooseSegment (before edges index segment.side ++ segment :: after) (total (before edges index segment.side) +
        (segment.alongCoordinate position - segment.start))).map fun chosen =>
          chosen.1.spot (chosen.1.landsAt chosen.2) := by
    rw [entryPosition_eq, if_neg hall.not_ge, hway, hsplit]
  constructor
  · rintro ⟨target, htarget, hlands⟩ ⟨hat, other, hother, hside⟩
    have hne : before edges index segment.side ≠ [] :=
      List.ne_nil_of_mem (List.mem_filter.2 ⟨hother, decide_eq_true hside⟩)
    obtain ⟨init, previous, hlast⟩ : ∃ init previous, before edges index segment.side = init ++ [previous] :=
      ⟨_, _, (List.dropLast_append_getLast hne).symm⟩
    have hprevious : previous ∈ before edges index segment.side := hlast ▸ List.mem_append_right _ List.mem_cons_self
    have hpside : previous.side = segment.side := of_decide_eq_true (List.mem_filter.1 hprevious).2
    have hppos := hbefore previous hprevious
    -- the way ends where the segment before stops
    have hway : total (before edges index segment.side) + (segment.alongCoordinate position - segment.start) =
        total init + previous.length := by
      rw [hat, sub_self, add_zero, hlast, total, List.map_append, List.sum_append, List.map_singleton,
        List.sum_singleton]
    rw [hentry, hway, hlast, List.append_assoc, List.singleton_append, chooseSegment_append
      (fun other hother => hbefore other (hlast ▸ List.mem_append_left _ hother)) (length_pos hppos) le_rfl] at htarget
    cases htarget
    obtain ⟨hacross, halong⟩ := spot_coordinates hpside (previous.landsAt previous.length)
    have hline := coordinate_of_inside hpside (hacross.symm.trans hlands.across)
    have hin := ((EdgeSegment.lands_landsAt previous previous.length).within hppos).2
    have hgap : previous.stop < segment.start := by
      obtain ⟨hlt, hget⟩ := List.getElem?_eq_some_iff.1 h
      have hsegments : edges.segments = edges.segments.take index ++ segment :: edges.segments.drop (index + 1) := by
        rw [← hget, List.getElem_cons_drop, List.take_append_drop]
      have hapart := hexposed.apart
      rw [hsegments] at hapart
      exact (List.pairwise_append.1 hapart).2.2 previous (List.mem_filter.1 hprevious).1 segment List.mem_cons_self
        hpside hline
    have hon := hlands.on.1
    rw [halong] at hon
    exact absurd (hin.trans hgap) hon.not_gt
  · intro hnot
    refine ⟨_, ?_, landsOn_spot hpos hstart hstop⟩
    rw [hentry]
    rcases hstart.lt_or_eq with hlt | heq
    · rw [chooseSegment_append hbefore (by linarith) (by linarith)]
      rfl
    · have hnone : before edges index segment.side = [] := List.filter_eq_nil_iff.2 fun other hother hside =>
        hnot ⟨heq.symm, other, hother, of_decide_eq_true hside⟩
      rw [hnone, total, List.map_nil, List.sum_nil, zero_add, List.nil_append, chooseSegment_stays (by linarith)]
      rfl

end

/-! ## Two displays offset from each other -/

/-- The rationals reach none of the functions they have no value for. -/
abbrev plainTranscendental : Transcendental ℚ := ⟨fun _ => 1, fun _ _ => 1, fun _ => 0, fun _ _ => 1⟩

attribute [local instance] plainTranscendental exactField

/-- The second display begins where the first one ends. -/
def offsetDisplays : List (DisplayRect ℚ) := [⟨0, 0, 100, 80⟩, ⟨100, 80, 200, 160⟩]

theorem round_trips_inner : RoundTrips (.fromDisplays offsetDisplays) 1 ⟨.left, 100, 80, 160⟩ ⟨100, 120⟩ := by
  refine (round_trips_iff offsetDisplays (by decide +kernel) (by decide +kernel) (by decide +kernel)).2 ?_
  rintro ⟨hat, -⟩
  revert hat
  decide +kernel

/-- The corner of the second display comes back at the end of the first one's side. -/
theorem segment_start_moves : ¬ ∀ (displays : List (DisplayRect ℚ)) (index : Nat) (segment : EdgeSegment ℚ)
    (position : DesktopPoint ℚ), (ExposedEdges.fromDisplays displays).segments[index]? = some segment →
      segment.start ≤ segment.alongCoordinate position → segment.alongCoordinate position < segment.stop →
        RoundTrips (.fromDisplays displays) index segment position := by
  intro h
  obtain ⟨target, htarget, hlands⟩ := h offsetDisplays 1 ⟨.left, 100, 80, 160⟩ ⟨100, 80⟩ (by decide +kernel)
    (by decide +kernel) (by decide +kernel)
  have hmoved : entryPosition (.fromDisplays offsetDisplays) ⟨.known .left,
      normalizedPosition (.fromDisplays offsetDisplays) 1 ⟨100, 80⟩, none⟩ = some ⟨2, 78⟩ := by decide +kernel
  cases hmoved.symm.trans htarget
  have hacross := hlands.across
  revert hacross
  decide +kernel

end Flow
end OpenLogi
