import OpenLogi.Flow.Landing
/-!
# Contact — whether an entry point touches an edge

An exposed edge is where the displays of a row or a column start or stop.  So a point touches none exactly when the
displays cover a tolerance around it, along its row and along its column.
-/
namespace OpenLogi
namespace Flow

open OpenLogi.Scroll (F64)
open Lib (Within Covered StartsAt StopsAt no_ends_iff)

/-- How far a display reaches across a side. -/
def DisplayRect.depthSpan {F : Type} (r : DisplayRect F) : EdgeSide → F × F
  | .left | .right => (r.x, r.maxX)
  | .top | .bottom => (r.y, r.maxY)

/-- Where a span across a side has that side. -/
def EdgeSide.edgeOf {F : Type} (span : F × F) : EdgeSide → F
  | .left | .top => span.1
  | .right | .bottom => span.2

theorem edgeOf_depthSpan {F : Type} (display : DisplayRect F) (side : EdgeSide) :
    side.edgeOf (display.depthSpan side) = (display.sideSpan side).1 := by
  cases side <;> rfl

theorem overlapSpan_eq {F : Type} (display : DisplayRect F) (side : EdgeSide) :
    display.overlapSpan side = (display.sideSpan side).2 := by
  cases side <;> rfl

/-- The coordinate of a point across a side. -/
def EdgeSide.across {F : Type} (point : DesktopPoint F) : EdgeSide → F
  | .left | .right => point.x
  | .top | .bottom => point.y

/-- The coordinate of a point along a side. -/
def EdgeSide.along {F : Type} (point : DesktopPoint F) : EdgeSide → F
  | .left | .right => point.y
  | .top | .bottom => point.x

section
variable {K : Type} [LinearOrder K]

/-- Whether a span across a side goes on at a coordinate. -/
def EdgeSide.Hides (span : K × K) (coordinate : K) : EdgeSide → Prop
  | .left | .top => span.1 < coordinate ∧ coordinate ≤ span.2
  | .right | .bottom => Within span coordinate

/-- What the displays cover of a row, for the left or the right side, or of a column. -/
def crossSpans (displays : List (DisplayRect K)) (side : EdgeSide) (along : K) : List (K × K) :=
  (displays.filter fun display => Within (display.overlapSpan side) along).map fun display => display.depthSpan side

/-- Whether a point lies in a display. -/
def Inside (displays : List (DisplayRect K)) (point : DesktopPoint K) : Prop :=
  ∃ display ∈ displays, Within (display.x, display.maxX) point.x ∧ Within (display.y, display.maxY) point.y

variable {displays : List (DisplayRect K)} {side : EdgeSide} {along x y : K} {span : K × K}

theorem mem_crossSpans : span ∈ crossSpans displays side along ↔
    ∃ display ∈ displays, Within (display.overlapSpan side) along ∧ display.depthSpan side = span := by
  simp only [crossSpans, List.mem_map, List.mem_filter, decide_eq_true_eq, and_assoc]

theorem covered_row : Covered (crossSpans displays .left y) x ↔ Inside displays ⟨x, y⟩ := by
  constructor
  · rintro ⟨span, hspan, hx⟩
    obtain ⟨display, hdisplay, hy, rfl⟩ := mem_crossSpans.1 hspan
    exact ⟨display, hdisplay, hx, hy⟩
  · rintro ⟨display, hdisplay, hx, hy⟩
    exact ⟨_, mem_crossSpans.2 ⟨display, hdisplay, hy, rfl⟩, hx⟩

theorem covered_column : Covered (crossSpans displays .top x) y ↔ Inside displays ⟨x, y⟩ := by
  constructor
  · rintro ⟨span, hspan, hy⟩
    obtain ⟨display, hdisplay, hx, rfl⟩ := mem_crossSpans.1 hspan
    exact ⟨display, hdisplay, hx, hy⟩
  · rintro ⟨display, hdisplay, hx, hy⟩
    exact ⟨_, mem_crossSpans.2 ⟨display, hdisplay, hx, rfl⟩, hy⟩

/-- The displays cover a tolerance around a point along its row and along its column, and a bit before. -/
def Clear (displays : List (DisplayRect K)) [Add K] [Sub K] (point : DesktopPoint K) (tolerance : K) : Prop :=
  (∃ a, a < point.x - tolerance ∧ ∀ x, a ≤ x → x ≤ point.x + tolerance → Inside displays ⟨x, point.y⟩) ∧
    ∃ a, a < point.y - tolerance ∧ ∀ y, a ≤ y → y ≤ point.y + tolerance → Inside displays ⟨point.x, y⟩

end

section
variable {K : Type} [Field K] [LinearOrder K] [Transcendental K]

attribute [local instance] exactField

variable {displays : List (DisplayRect K)}

theorem blocksSide_iff (display other : DisplayRect K) (side : EdgeSide) :
    display.blocksSide other side = true ↔ side.Hides (other.depthSpan side) (display.sideSpan side).1 := by
  cases side <;> rw [DisplayRect.blocksSide, Bool.and_eq_true] <;> exact and_congr decide_eq_true_iff decide_eq_true_iff

/-- **A side is open exactly where the displays across it end**: one has its edge there and none goes on. -/
theorem onOpenSide_iff (displays : List (DisplayRect K)) (side : EdgeSide) (coordinate along : K) :
    OnOpenSide displays side coordinate along ↔
      (∃ span ∈ crossSpans displays side along, side.edgeOf span = coordinate) ∧
        ∀ span ∈ crossSpans displays side along, ¬side.Hides span coordinate := by
  constructor
  · rintro ⟨display, hdisplay, rfl, hwithin, hopen⟩
    rw [← overlapSpan_eq] at hwithin
    refine ⟨⟨_, mem_crossSpans.2 ⟨display, hdisplay, hwithin, rfl⟩, edgeOf_depthSpan display side⟩, ?_⟩
    rintro span hspan hhides
    obtain ⟨other, hother, hin, rfl⟩ := mem_crossSpans.1 hspan
    have hblocks := (blocksSide_iff display other side).2 hhides
    refine hopen other hother (fun hsame => ?_) hblocks hin
    rw [hsame, blocksSide_self] at hblocks
    cases hblocks
  · rintro ⟨⟨span, hspan, rfl⟩, hopen⟩
    obtain ⟨display, hdisplay, hwithin, rfl⟩ := mem_crossSpans.1 hspan
    rw [overlapSpan_eq] at hwithin
    rw [edgeOf_depthSpan] at hopen ⊢
    exact ⟨display, hdisplay, rfl, hwithin, fun other hother _ hblocks hin =>
      hopen _ (mem_crossSpans.2 ⟨other, hother, hin, rfl⟩) ((blocksSide_iff display other side).1 hblocks)⟩

/-- **The exposed edges are exactly the points of display sides that no other display blocks, each once**, which is
where the displays end; and joining what lies on one line keeps the points of whatever it joins. -/
theorem exposed_edges_exact (displays : List (DisplayRect K)) :
    Partitions (OnOpenSide displays) (ExposedEdges.fromDisplays displays).segments ∧
      (∀ segments : List (EdgeSegment K), (∀ segment ∈ segments, segment.start < segment.stop) →
        Partitions (fun side coordinate along => ∃ segment ∈ segments, segment.Covers side coordinate along)
          (mergeCollinear segments)) ∧
      ∀ side coordinate along, OnOpenSide displays side coordinate along ↔
        (∃ span ∈ crossSpans displays side along, side.edgeOf span = coordinate) ∧
          ∀ span ∈ crossSpans displays side along, ¬side.Hides span coordinate :=
  ⟨exposed_edges_partition displays, mergeCollinear_partitions, onOpenSide_iff displays⟩

/-! ## What touches nothing -/

variable [IsStrictOrderedRing K]

theorem exact_abs (a : K) : F64.abs a = |a| := by
  change (if a < 0 then -a else a) = |a|
  split
  · rename_i hneg
    exact (abs_of_neg hneg).symm
  · rename_i hnonneg
    exact (abs_of_nonneg (not_lt.1 hnonneg)).symm

/-- Whether a point touches an exposed edge of a layout. -/
def Touches (displays : List (DisplayRect K)) (point : DesktopPoint K) (tolerance : K) : Prop :=
  ∃ segment ∈ (ExposedEdges.fromDisplays displays).segments, segment.containsWithTolerance point tolerance = true

theorem touches_iff (displays : List (DisplayRect K)) (point : DesktopPoint K) (tolerance : K) :
    Touches displays point tolerance ↔ ∃ side : EdgeSide, ∃ coordinate, side.across point - tolerance ≤ coordinate ∧
      coordinate ≤ side.across point + tolerance ∧ OnOpenSide displays side coordinate (side.along point) := by
  have hpoints := (exposed_edges_partition displays).points
  have hcontains : ∀ segment : EdgeSegment K, segment.containsWithTolerance point tolerance = true ↔
      (segment.side.across point - tolerance ≤ segment.coordinate ∧
        segment.coordinate ≤ segment.side.across point + tolerance) ∧
        segment.Covers segment.side segment.coordinate (segment.side.along point) := by
    intro segment
    have hacross : segment.normalCoordinate point = segment.side.across point := by
      unfold EdgeSegment.normalCoordinate
      cases segment.side <;> rfl
    have halong : segment.alongCoordinate point = segment.side.along point := by
      unfold EdgeSegment.alongCoordinate
      cases segment.side <;> rfl
    unfold EdgeSegment.containsWithTolerance
    dsimp only
    rw [hacross, halong, Bool.and_eq_true, Bool.and_eq_true, exact_le, exact_le, exact_lt, exact_abs, abs_le, and_assoc]
    refine and_congr ⟨fun h => ⟨by linarith, by linarith⟩, fun h => ⟨by linarith, by linarith⟩⟩ ?_
    exact ⟨fun h => ⟨rfl, rfl, h⟩, fun h => h.2.2⟩
  constructor
  · rintro ⟨segment, hsegment, htouch⟩
    obtain ⟨⟨hlow, hhigh⟩, hcovers⟩ := (hcontains segment).1 htouch
    exact ⟨segment.side, segment.coordinate, hlow, hhigh, (hpoints ..).1 ⟨segment, hsegment, hcovers⟩⟩
  · rintro ⟨side, coordinate, hlow, hhigh, hopen⟩
    obtain ⟨segment, hsegment, rfl, rfl, hwithin⟩ := (hpoints ..).2 hopen
    exact ⟨segment, hsegment, (hcontains segment).2 ⟨⟨hlow, hhigh⟩, rfl, rfl, hwithin⟩⟩

/-- **A point lies in a display and touches no exposed edge exactly when it is clear.** -/
theorem clear_iff {point : DesktopPoint K} {tolerance : K} (h : 0 ≤ tolerance) :
    Inside displays point ∧ ¬Touches displays point tolerance ↔ Clear displays point tolerance := by
  have hends : ¬Touches displays point tolerance ↔
      (∀ c, point.x - tolerance ≤ c → c ≤ point.x + tolerance →
        ¬StartsAt (crossSpans displays .left point.y) c ∧ ¬StopsAt (crossSpans displays .left point.y) c) ∧
      ∀ c, point.y - tolerance ≤ c → c ≤ point.y + tolerance →
        ¬StartsAt (crossSpans displays .top point.x) c ∧ ¬StopsAt (crossSpans displays .top point.x) c := by
    rw [touches_iff]
    constructor
    · intro hnone
      refine ⟨fun c hlow hhigh => ⟨fun hends => ?_, fun hends => ?_⟩,
        fun c hlow hhigh => ⟨fun hends => ?_, fun hends => ?_⟩⟩
      · exact hnone ⟨.left, c, hlow, hhigh, (onOpenSide_iff ..).2 hends⟩
      · exact hnone ⟨.right, c, hlow, hhigh, (onOpenSide_iff ..).2 hends⟩
      · exact hnone ⟨.top, c, hlow, hhigh, (onOpenSide_iff ..).2 hends⟩
      · exact hnone ⟨.bottom, c, hlow, hhigh, (onOpenSide_iff ..).2 hends⟩
    · rintro ⟨hrow, hcolumn⟩ ⟨side, c, hlow, hhigh, hopen⟩
      have hends := (onOpenSide_iff ..).1 hopen
      cases side with
      | left => exact (hrow c hlow hhigh).1 hends
      | right => exact (hrow c hlow hhigh).2 hends
      | top => exact (hcolumn c hlow hhigh).1 hends
      | bottom => exact (hcolumn c hlow hhigh).2 hends
  have hrow : ∀ x, Covered (crossSpans displays .left point.y) x ↔ Inside displays ⟨x, point.y⟩ := fun x => covered_row
  have hcolumn : ∀ y, Covered (crossSpans displays .top point.x) y ↔ Inside displays ⟨point.x, y⟩ := fun y =>
    covered_column
  constructor
  · rintro ⟨hin, hnone⟩
    obtain ⟨hrows, hcolumns⟩ := hends.1 hnone
    have harm := (no_ends_iff (by linarith) (by linarith) ((hrow point.x).2 hin)).1 hrows
    have hpole := (no_ends_iff (by linarith) (by linarith) ((hcolumn point.y).2 hin)).1 hcolumns
    simp only [hrow] at harm
    simp only [hcolumn] at hpole
    exact ⟨harm, hpole⟩
  · rintro ⟨harm, hpole⟩
    have hin : Inside displays point := by
      obtain ⟨a, ha, hcovered⟩ := harm
      exact hcovered point.x (by linarith) (by linarith)
    simp only [← hrow] at harm
    simp only [← hcolumn] at hpole
    exact ⟨hin, hends.2 ⟨(no_ends_iff (by linarith) (by linarith) ((hrow point.x).2 hin)).2 harm,
      (no_ends_iff (by linarith) (by linarith) ((hcolumn point.y).2 hin)).2 hpole⟩⟩

/-! ## Entry points -/

/-- The detector's tolerance. -/
abbrev contactTolerance : K := (EdgeDetectorParams.default : EdgeDetectorParams K).edgeTolerance

/-- **Every entry point of a side lies in a display and touches no exposed edge.** -/
def EntersClear (displays : List (DisplayRect K)) (side : EdgeSide) : Prop :=
  ∀ t velocity target, entryPosition (.fromDisplays displays) ⟨.known side.wire, t, velocity⟩ = some target →
    Inside displays target ∧ ¬Touches displays target contactTolerance

/-- Around every spot that the side's exposed edges leave to land on, the displays cover the tolerance. -/
def SpotsClear (displays : List (DisplayRect K)) (side : EdgeSide) : Prop :=
  ∀ segment ∈ (ExposedEdges.fromDisplays displays).forSide side, ∀ along, segment.Lands along →
    Clear displays (segment.spot along) contactTolerance

omit [IsStrictOrderedRing K] in
theorem contactTolerance_eq : (contactTolerance : K) = 1 := Rat.cast_one

theorem clear_entry {point : DesktopPoint K} : Inside displays point ∧ ¬Touches displays point contactTolerance ↔
    Clear displays point contactTolerance :=
  clear_iff (zero_le_one.trans_eq contactTolerance_eq.symm)

variable {side : EdgeSide}

theorem SpotsClear.enters (h : SpotsClear displays side) : EntersClear displays side := by
  intro t velocity target htarget
  rw [entryPosition_eq] at htarget
  split at htarget
  · cases htarget
  · obtain ⟨chosen, hchosen, rfl⟩ := Option.map_eq_some_iff.1 htarget
    exact clear_entry.2 (h chosen.1 (mem_of_chooseSegment hchosen) _ (EdgeSegment.lands_landsAt ..))

/-- Every spot of a side is the entry point of some normalized position. -/
theorem exists_entry {segment : EdgeSegment K} {along : K}
    (hsegment : segment ∈ (ExposedEdges.fromDisplays displays).forSide side) (hlands : segment.Lands along) :
    ∃ t, entryPosition (.fromDisplays displays) ⟨.known side.wire, t, none⟩ = some (segment.spot along) := by
  have hpositive := (exposed_edges_partition displays).positive
  obtain ⟨before, after, hsplit⟩ := List.append_of_mem hsegment
  have hpos : ∀ other ∈ before ++ segment :: after, other.start < other.stop := fun other hother =>
    hpositive other (List.mem_filter.1 (hsplit ▸ hother)).1
  obtain ⟨hbefore, hrest⟩ := List.forall_mem_append.1 hpos
  obtain ⟨hfrom, hto, hat⟩ := EdgeSegment.landsAt_of_lands hlands (List.forall_mem_cons.1 hrest).1
  have htotal : total ((ExposedEdges.fromDisplays displays).forSide side) =
      total before + (segment.length + total after) := by
    rw [hsplit, total, List.map_append, List.sum_append, List.map_cons, List.sum_cons]
  have hbeforeLength := total_nonneg hbefore
  have hafterLength := total_nonneg (List.forall_mem_cons.1 hrest).2
  have hall : 0 < total ((ExposedEdges.fromDisplays displays).forSide side) := by linarith
  refine ⟨(total before + (along - segment.start)) / total ((ExposedEdges.fromDisplays displays).forSide side), ?_⟩
  rw [entryPosition_eq, if_neg hall.not_ge, exact_clamp_unit (div_nonneg (by linarith) hall.le)
    ((div_le_one hall).2 (by linarith)), div_mul_cancel₀ _ hall.ne', hsplit, chooseSegment_append hbefore hfrom hto,
    Option.map_some, hat]

/-- **Entry points touch nothing exactly when every spot of the side is clear.** -/
theorem enters_clear_iff (displays : List (DisplayRect K)) (side : EdgeSide) :
    EntersClear displays side ↔ SpotsClear displays side := by
  refine ⟨fun h segment hsegment along hlands => ?_, SpotsClear.enters⟩
  obtain ⟨t, ht⟩ := exists_entry hsegment hlands
  exact clear_entry.1 (h t none _ ht)

/-! ## Layouts without slivers -/

/-- The point at a coordinate across a side and one along it. -/
def EdgeSide.point {F : Type} (across along : F) : EdgeSide → DesktopPoint F
  | .left | .right => ⟨across, along⟩
  | .top | .bottom => ⟨along, across⟩

omit [IsStrictOrderedRing K] in
theorem spot_eq (segment : EdgeSegment K) (along : K) :
    segment.spot along = segment.side.point segment.inside along := by
  unfold EdgeSegment.spot
  cases segment.side <;> rfl

omit [IsStrictOrderedRing K] in
theorem clear_point {across along tolerance : K}
    (hacross : ∃ low, low < across - tolerance ∧ ∀ z, low ≤ z → z ≤ across + tolerance →
      Inside displays (side.point z along))
    (halong : ∃ low, low < along - tolerance ∧ ∀ z, low ≤ z → z ≤ along + tolerance →
      Inside displays (side.point across z)) : Clear displays (side.point across along) tolerance := by
  cases side with
  | left => exact ⟨hacross, halong⟩
  | right => exact ⟨hacross, halong⟩
  | top => exact ⟨halong, hacross⟩
  | bottom => exact ⟨halong, hacross⟩

/-- Two units from either side of a span of more than three, one more unit stays inside. -/
theorem spot_reach {a b c : K} (h : a + 3 < b) (hc : c = a + 2 ∨ c = b - 2) :
    a < c - 1 ∧ ∀ z, z ≤ c + 1 → z < b := by
  rcases hc with rfl | rfl <;> exact ⟨by linarith, fun z hz => by linarith⟩

/-- Inside an exposed segment the displays reach three units deep. -/
theorem deep_of_roomy (hroomy : ∀ display ∈ displays, display.x + 3 < display.maxX ∧ display.y + 3 < display.maxY)
    {segment : EdgeSegment K} (h : segment ∈ (ExposedEdges.fromDisplays displays).segments) {along : K}
    (hwithin : Within (segment.start, segment.stop) along) : ∃ low, low < segment.inside - 1 ∧
      ∀ z, low ≤ z → z ≤ segment.inside + 1 → Inside displays (segment.side.point z along) := by
  obtain ⟨display, hdisplay, hline, hin, -⟩ :=
    ((exposed_edges_partition displays).points ..).1 ⟨segment, h, rfl, rfl, hwithin⟩
  obtain ⟨hwide, htall⟩ := hroomy display hdisplay
  unfold EdgeSegment.inside
  rw [entryInset_eq, ← hline]
  cases hside : segment.side <;> rw [hside] at hin
  case left =>
    obtain ⟨hreach, hdeep⟩ := spot_reach hwide (.inl rfl)
    exact ⟨display.x, hreach, fun z hlow hhigh => ⟨display, hdisplay, ⟨hlow, hdeep z hhigh⟩, hin⟩⟩
  case right =>
    obtain ⟨hreach, hdeep⟩ := spot_reach hwide (.inr rfl)
    exact ⟨display.x, hreach, fun z hlow hhigh => ⟨display, hdisplay, ⟨hlow, hdeep z hhigh⟩, hin⟩⟩
  case top =>
    obtain ⟨hreach, hdeep⟩ := spot_reach htall (.inl rfl)
    exact ⟨display.y, hreach, fun z hlow hhigh => ⟨display, hdisplay, hin, ⟨hlow, hdeep z hhigh⟩⟩⟩
  case bottom =>
    obtain ⟨hreach, hdeep⟩ := spot_reach htall (.inr rfl)
    exact ⟨display.y, hreach, fun z hlow hhigh => ⟨display, hdisplay, hin, ⟨hlow, hdeep z hhigh⟩⟩⟩

/-- **On displays of more than three units in both directions, a side without slivers of two units or less is
clear.** -/
theorem spotsClear_of_roomy (hroomy : ∀ display ∈ displays, display.x + 3 < display.maxX ∧ display.y + 3 < display.maxY)
    (hslivers : ∀ segment ∈ (ExposedEdges.fromDisplays displays).forSide side, 2 < segment.length) :
    SpotsClear displays side := by
  intro segment hsegment along hlands
  have hmem := (List.mem_filter.1 hsegment).1
  have hpos := (exposed_edges_partition displays).positive segment hmem
  have hends : segment.start < along - 1 ∧ along + 1 < segment.stop := by
    have hlong := hslivers segment hsegment
    rw [EdgeSegment.lands_iff] at hlands
    unfold EdgeSegment.length at hlong hlands
    split at hlands <;> constructor <;> linarith
  have hdeep : ∀ z, segment.start ≤ z → z < segment.stop → ∃ low, low < segment.inside - 1 ∧
      ∀ x, low ≤ x → x ≤ segment.inside + 1 → Inside displays (segment.side.point x z) := fun z hfrom hto =>
    deep_of_roomy hroomy hmem ⟨hfrom, hto⟩
  rw [spot_eq, contactTolerance_eq]
  refine clear_point (hdeep along (by linarith) (by linarith)) ⟨segment.start, hends.1, fun z hlow hhigh => ?_⟩
  obtain ⟨low, hreach, hin⟩ := hdeep z hlow (by linarith)
  exact hin _ (by linarith) (by linarith)

end

/-! ## A display one unit lower -/

attribute [local instance] plainTranscendental exactField

/-- The second display is one unit lower than the first: a sliver of the first one's right side is exposed. -/
def steppedDisplays : List (DisplayRect ℚ) := [⟨0, 0, 100, 80⟩, ⟨100, 1, 200, 81⟩]

/-- Two such displays side by side. -/
def levelDisplays : List (DisplayRect ℚ) := [⟨0, 0, 100, 80⟩, ⟨100, 0, 200, 80⟩]

theorem enters_clear_level : EntersClear levelDisplays .top := by
  refine (enters_clear_iff levelDisplays .top).2 (spotsClear_of_roomy ?_ ?_)
  · decide +kernel
  · decide +kernel

theorem sliver_entry_touches : ¬ ∀ (displays : List (DisplayRect ℚ)) (side : EdgeSide), EntersClear displays side := by
  intro h
  have hentry : entryPosition (.fromDisplays steppedDisplays) ⟨.known .right, 0, none⟩ = some ⟨98, 1 / 2⟩ := by
    decide +kernel
  refine (h steppedDisplays .right 0 none _ hentry).2 ⟨⟨.top, 0, 0, 100⟩, ?_, ?_⟩ <;> decide +kernel

end Flow
end OpenLogi
